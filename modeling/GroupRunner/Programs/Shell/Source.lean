import GroupRunner.Programs.Shell.Reader

set_option autoImplicit false

namespace GroupRunner.Programs.Shell

def Letter.source : Letter → Bytes
  | .byte b => if b = code '\'' then Utf8.encode "'\\''" else [b]
  | .parameter p => Utf8.encode ("'\"$" ++ p.text ++ "\"'")

def Word.source (word : Word) : Bytes :=
  code '\'' :: word.flatMap Letter.source ++ [code '\'']

def Destination.source : Destination → Bytes
  | .stdout => []
  | .stderr => Utf8.encode " >&2"
  | .file name => Utf8.encode " > " ++ name.source

def Command.source (command : Command) : Bytes :=
  ((command.words.map Word.source).intersperse [code ' ']).flatten ++ command.destination.source

def Script.source (script : Script) : Bytes :=
  script.flatMap fun command => command.source ++ [code '\n']

end GroupRunner.Programs.Shell
