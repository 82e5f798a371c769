import GroupRunner.FileSystem.Operations
import GroupRunner.IgnoreSet
import GroupRunner.Log.Event
import GroupRunner.Result
import GroupRunner.RunError

set_option autoImplicit false

namespace GroupRunner

def groupMarker : String := "group"

def testsDirectoryName : String := "tests"

def notTestsDirectory (dir : Path) : RunError :=
  .precondition ("run-tests has to be executed under the '" ++ testsDirectoryName ++
    "' folder (current directory: " ++ dir.display ++ ")")

def ensureTestsDirectory (dir : Path) : Except RunError Unit :=
  if dir.fileName = some (Utf8.encode testsDirectoryName) then .ok ()
  else .error (notTestsDirectory dir)

abbrev GroupPredicate := String → Bool

def IgnoreSet.accepts (ignore : IgnoreSet) : GroupPredicate := fun name =>
  Text.contains name groupMarker && !ignore.covers name

namespace Discovery

inductive Finding
  | notDirectory
  | unreadableName (path : Path)
  | notSelected (name : String)
  | selected (group : TestGroup)
  deriving DecidableEq

def inspect (root : Path) (accepts : GroupPredicate) : Name × Entry → Finding
  | (name, .directory) =>
    let path := root.join ⟨name⟩
    match Utf8.decode? name with
    | none => .unreadableName path
    | some text => if accepts text then .selected ⟨text, path⟩ else .notSelected text
  | _ => .notDirectory

def Finding.group? : Finding → Option TestGroup
  | .selected group => some group
  | _ => none

def Finding.event? : Finding → Option Log.Event
  | .unreadableName path => some
    { level := .warn, source := .discovery, message := "Skipping non UTF-8 directory name"
      fields := [("path", path.display)] }
  | .notSelected name => some
    { level := .debug, source := .discovery, message := "Directory not selected"
      fields := [("group", name)] }
  | _ => none

def bytesLe : Bytes → Bytes → Bool
  | [], _ => true
  | _ :: _, [] => false
  | a :: as, b :: bs => a < b || (a == b && bytesLe as bs)

def groupLe (a b : TestGroup) : Bool :=
  bytesLe (Utf8.encode a.name) (Utf8.encode b.name)

def groups (root : Path) (accepts : GroupPredicate) (entries : List (Name × Entry)) :
    List TestGroup :=
  (entries.filterMap fun entry => (inspect root accepts entry).group?).mergeSort groupLe

def events (root : Path) (accepts : GroupPredicate) (entries : List (Name × Entry)) :
    List Log.Event :=
  entries.filterMap fun entry => (inspect root accepts entry).event?

-- What a listing shows up to the first entry that cannot be read, and why that one cannot.
def scan : List (Except IoError FileSystem.DirEntry) → List (Name × Entry) × Option IoError
  | [] => ([], none)
  | .error e :: _ => ([], some e)
  | .ok item :: rest =>
    match item.kind with
    | .error e => ([], some e)
    | .ok entry =>
      let (entries, broken) := scan rest
      ((item.name, entry) :: entries, broken)

-- What there is to note about entries that are no groups, also where the listing breaks off.
def noted (root : Path) (accepts : GroupPredicate) (fs : FileSystem) : List Log.Event :=
  match fs.readDir root with
  | .error _ => []
  | .ok items => events root accepts (scan items).1

end Discovery

def discover (root : Path) (accepts : GroupPredicate) (fs : FileSystem) :
    Except RunError (List TestGroup × List Log.Event) :=
  match fs.readDir root with
  | .error e => .error (.io e)
  | .ok items =>
    match Discovery.scan items with
    | (_, some e) => .error (.io e)
    | (entries, none) =>
      .ok (Discovery.groups root accepts entries, Discovery.events root accepts entries)

end GroupRunner
