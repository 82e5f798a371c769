import GroupRunner.Options.Basic
import GroupRunner.Text.Printable

set_option autoImplicit false

namespace GroupRunner

def programName : String := "run-tests"

def versionText : String := programName ++ " 0.1.0\n"

def argumentsShown : String := "BINARY [EXTRA_ARGS]"

def usageLine : String :=
  "Usage: " ++ programName ++ " [OPTIONS] [" ++ argumentsShown ++ "]..."

def helpText : String :=
  String.intercalate "\n" [
    "Regression test orchestrator for the JCUT unit-testing binary",
    "",
    usageLine,
    "",
    "Arguments:",
    "  [BINARY [EXTRA_ARGS]]...  测试程序路径，其后的参数原样传给测试程序",
    "",
    "Options:",
    "      --ignore <FRAGMENT>        跳过名称包含该片段的测试组（可重复，替换默认列表 groupH, groupJ）",
    "      --expect-stderr <GROUP>    该组的 stderr 属于预期输出，不报告为异常（可重复，替换默认列表 groupH）",
    "      --prune-threshold <BYTES>  捕获文件不超过该字节数时删除",
    "      --list                     只列出将要运行的测试组",
    "      --summary                  报告前打印逐组汇总表",
    "      --json-report <PATH>       额外写出 JSON 报告",
    "      --no-color                 ",
    "  -h, --help                     Print help",
    "  -V, --version                  Print version",
    ""]

namespace OptionStop

def anyArgument : String :=
  "<" ++ String.intercalate "|"
    ((OptionName.all.filter fun name => name != .flag .help && name != .flag .version).map
      OptionName.shown ++ [argumentsShown]) ++ ">"

def flagUsage (flag : Flag) (others : Bool) : String :=
  let shown := (OptionName.flag flag).shown
  let tail := if others then anyArgument else "[" ++ argumentsShown ++ "]..."
  match flag, others with
  | .help, _ | .version, _ | _, false => shown ++ " " ++ tail
  | _, true => tail

def errorText (wrong : String) (usage : Option String) : String :=
  "error: " ++ wrong ++ "\n\n" ++
    (match usage with
      | none => ""
      | some usage => usage ++ "\n\n") ++
    "For more information, try '--help'.\n"

def message : OptionStop → String
  | .help => helpText
  | .version => versionText
  | .missingValue option =>
    errorText ("a value is required for '" ++ (OptionName.valued option).shown ++
      "' but none was supplied") none
  | .invalidNumber option text error =>
    errorText ("invalid value '" ++ Text.printable text ++ "' for '" ++
      (OptionName.valued option).shown ++ "': " ++ error.message) none
  | .repeated option =>
    errorText ("the argument '" ++ option.shown ++ "' cannot be used multiple times")
      (some usageLine)
  | .unexpectedValue flag value others =>
    errorText ("unexpected value '" ++ Text.printable value ++ "' for '" ++
      (OptionName.flag flag).shown ++ "' found; no more were expected")
      (some ("Usage: " ++ programName ++ " " ++ flagUsage flag others))

def isError : OptionStop → Bool
  | .help | .version => false
  | _ => true

def exitCode (stop : OptionStop) : Nat :=
  if stop.isError then 2 else 0

end OptionStop

def missingBinaryText : String :=
  "You need to supply the path to the unit-testing binary.\nUsage: " ++ programName ++
    " /path/to/binary [extra-args...]"

end GroupRunner
