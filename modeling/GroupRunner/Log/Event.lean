set_option autoImplicit false

namespace GroupRunner.Log

inductive Level
  | error
  | warn
  | info
  | debug
  | trace
  deriving DecidableEq, Repr

namespace Level

def rank : Level → Nat
  | .error => 1
  | .warn => 2
  | .info => 3
  | .debug => 4
  | .trace => 5

def label : Level → String
  | .error => "ERROR"
  | .warn => "WARN"
  | .info => "INFO"
  | .debug => "DEBUG"
  | .trace => "TRACE"

end Level

inductive Source
  | setup
  | suite
  | discovery
  | execution
  | captures
  | record
  deriving DecidableEq, Repr

def Source.target : Source → String
  | .setup => "jcut_regress::logger"
  | .suite => "jcut_regress::runner"
  | .discovery => "jcut_regress::runner::discovery"
  | .execution => "jcut_regress::runner::executor"
  | .captures => "jcut_regress::runner::artifacts"
  | .record => "jcut_regress::runner::json"

structure Event where
  level : Level
  source : Source
  message : String
  fields : List (String × String) := []
  deriving DecidableEq, Repr

def Event.line (event : Event) : String :=
  event.level.label ++ " " ++ event.source.target ++ ": " ++ event.message ++
    String.join (event.fields.map fun (name, value) => " " ++ name ++ "=" ++ value)

end GroupRunner.Log
