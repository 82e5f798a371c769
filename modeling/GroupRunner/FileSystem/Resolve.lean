import GroupRunner.FileSystem.Basic

set_option autoImplicit false

namespace GroupRunner

inductive Target
  | found (place : Location) (entry : Entry)
  | vacant (parent : Location) (name : Name)
  deriving DecidableEq, Repr

def Target.entry : Target → Except IoError (Location × Entry)
  | .vacant .. => .error .noEntry
  | .found place entry => .ok (place, entry)

inductive Ending
  | itself
  | followed
  -- What a link leads to, as a file to be opened for writing. No slash may follow the name, not
  -- even in the link.
  | opened
  deriving DecidableEq, Repr

def maxName : Nat := 255

namespace FileSystem

-- A walk that hands over to `again` when it comes to a link.
def walkWith (again : Location → List Name → Except IoError Target) (fs : FileSystem)
    (ending : Ending) : Location → List Name → Except IoError Target
  | place, [] => .ok (.found place .directory)
  | place, name :: rest =>
    if name = Path.stay || name = Path.dot then walkWith again fs ending place rest
    else if name = Path.dots then walkWith again fs ending place.tail rest
    else if ending = .opened && rest = [Path.stay] then .error .isDirectory
    else if maxName < name.length then .error .nameTooLong
    else match fs.get? (name :: place) with
      | none => if rest.isEmpty then .ok (.vacant place name) else .error .noEntry
      | some .directory => walkWith again fs ending (name :: place) rest
      | some (.link target) =>
        if rest.isEmpty && ending = .itself then .ok (.found (name :: place) (.link target))
        else again (if target.isAbsolute then [] else place) (target.steps ++ rest)
      | some entry =>
        if rest.isEmpty then .ok (.found (name :: place) entry) else .error .notDirectory

def walk (fs : FileSystem) (ending : Ending) : Nat → Location → List Name → Except IoError Target
  | 0 => walkWith (fun _ _ => .error .tooManyLinks) fs ending
  | links + 1 => walkWith (walk fs ending links) fs ending

def maxLinks : Nat := 40

def maxPath : Nat := 4096

def origin (fs : FileSystem) (path : Path) : Except IoError Location :=
  if path.bytes.contains 0 then .error .nulInPath
  else if path.bytes.isEmpty then .error .noEntry
  else if maxPath ≤ path.bytes.length then .error .nameTooLong
  else if path.isAbsolute then .ok []
  else if fs.isDirectory fs.cwd then .ok fs.cwd
  else .error .noEntry

def resolveSteps (fs : FileSystem) (ending : Ending) (path : Path) (steps : List Name) :
    Except IoError Target :=
  match fs.origin path with
  | .error e => .error e
  | .ok start => fs.walk ending maxLinks start steps

def resolve (fs : FileSystem) (ending : Ending) (path : Path) : Except IoError Target :=
  fs.resolveSteps ending path path.steps

def find (fs : FileSystem) (path : Path) : Except IoError (Location × Entry) :=
  match fs.resolve .followed path with
  | .error e => .error e
  | .ok target => target.entry

def findItself (fs : FileSystem) (path : Path) : Except IoError (Location × Entry) :=
  match fs.resolve .itself path with
  | .error e => .error e
  | .ok target => target.entry

def resolveName (fs : FileSystem) (path : Path) : Except IoError Target :=
  fs.resolveSteps .itself path path.pieces

end FileSystem

end GroupRunner
