import GroupRunner.FileSystem.Resolve

set_option autoImplicit false

namespace GroupRunner

def Medium.size (medium : Medium) (place : Location) : Entry → Nat
  | .file content _ => content.length
  | .link target => target.bytes.length
  | .directory => medium.directorySize place
  | .device _ => 0

namespace FileSystem

def size (fs : FileSystem) (path : Path) : Except IoError Nat :=
  match fs.find path with
  | .error e => .error e
  | .ok (place, entry) => .ok (fs.medium.size place entry)

def create (fs : FileSystem) (path : Path) : Except IoError (Location × FileSystem) :=
  match fs.resolve .opened path with
  | .error e => .error e
  | .ok (.vacant parent name) => .ok (name :: parent, fs.put (name :: parent) (.file [] false))
  | .ok (.found place (.file _ executable)) => .ok (place, fs.put place (.file [] executable))
  | .ok (.found place (.device _)) => .ok (place, fs)
  | .ok (.found _ .directory) => .error .isDirectory
  | .ok (.found _ (.link _)) => .error .tooManyLinks

def overwrite (content : Bytes) (offset : Nat) (bytes : Bytes) : Bytes :=
  content.take offset ++ List.replicate (offset - content.length) 0 ++ bytes ++
    content.drop (offset + bytes.length)

-- What is written to a file that is no longer there is lost.
def writeAt (fs : FileSystem) (place : Location) (offset : Nat) (bytes : Bytes) :
    Except IoError FileSystem :=
  if bytes.isEmpty then .ok fs
  else match fs.get? place with
    | some (.file content executable) =>
      .ok (fs.put place (.file (overwrite content offset bytes) executable))
    | some (.device .full) => .error .noSpace
    | _ => .ok fs

def writeFile (fs : FileSystem) (path : Path) (bytes : Bytes) : Except IoError FileSystem :=
  match fs.create path with
  | .error e => .error e
  | .ok (place, fs) => fs.writeAt place 0 bytes

def readFile (fs : FileSystem) (path : Path) : Except IoError Bytes :=
  match fs.find path with
  | .error e => .error e
  | .ok (_, .file content _) => .ok content
  | .ok (_, .device _) => .ok []
  | .ok (_, .directory) => .error .isDirectory
  | .ok (_, .link _) => .error .tooManyLinks

def removeFile (fs : FileSystem) (path : Path) : Except IoError FileSystem :=
  match fs.resolveName path with
  | .error e => .error e
  | .ok (.vacant ..) => .error .noEntry
  | .ok (.found _ .directory) => .error .isDirectory
  | .ok (.found place _) =>
    if path.endsInSlash then .error .notDirectory
    else fs.medium.permit .remove place (fs.erase place)

def removeDir (fs : FileSystem) (path : Path) : Except IoError FileSystem :=
  match fs.resolveName path with
  | .error e => .error e
  | .ok (.vacant ..) => .error .noEntry
  | .ok (.found place .directory) =>
    if !path.endsInName then .error .invalidArgument
    else if !(fs.children place).isEmpty then .error .notEmpty
    else fs.medium.permit .remove place (fs.erase place)
  | .ok (.found ..) => .error .notDirectory

def removeEach (fs : FileSystem) : List Location → Except IoError Unit × FileSystem
  | [] => (.ok (), fs)
  | place :: rest =>
    match fs.medium.permit .remove place (fs.erase place) with
    | .error e => (.error e, fs)
    | .ok fs => fs.removeEach rest

-- What was made last is listed first, so that no directory comes before what it holds.
def below (fs : FileSystem) (top : Location) : List Location :=
  ((fs.entries.map Prod.fst).filter fun place => within place top && place != top).reverse

def removeAll (fs : FileSystem) (path : Path) : Except IoError Unit × FileSystem :=
  match fs.findItself path with
  | .error e => (.error e, fs)
  | .ok (place, .directory) =>
    match fs.removeEach (fs.below place) with
    | (.error e, fs) => (.error e, fs)
    | (.ok (), emptied) =>
      match emptied.removeDir path with
      | .error e => (.error e, emptied)
      | .ok fs => (.ok (), fs)
  | .ok _ =>
    match fs.removeFile path with
    | .error e => (.error e, fs)
    | .ok fs => (.ok (), fs)

-- What a listing shows of an entry; its kind is asked for one entry at a time.
structure DirEntry where
  name : Name
  kind : Except IoError Entry

def showEntry (fs : FileSystem) (dir : Location) (child : Name × Entry) :
    Except IoError DirEntry :=
  fs.medium.permit .next (child.1 :: dir)
    { name := child.1, kind := fs.medium.permit .kind (child.1 :: dir) child.2 }

def readDir (fs : FileSystem) (path : Path) :
    Except IoError (List (Except IoError DirEntry)) :=
  match fs.find path with
  | .error e => .error e
  | .ok (dir, .directory) => fs.medium.permit .list dir ((fs.children dir).map (fs.showEntry dir))
  | .ok _ => .error .notDirectory

def makeNewDir (fs : FileSystem) (path : Path) : Except IoError FileSystem :=
  match fs.resolveName path with
  | .error e => .error e
  | .ok (.found ..) => .error .fileExists
  | .ok (.vacant parent name) => .ok (fs.put (name :: parent) .directory)

def makeDir (fs : FileSystem) (path : Path) (steps : List Name) : Except IoError FileSystem :=
  match fs.resolveSteps .itself path steps, fs.resolveSteps .followed path steps with
  | .error e, _ => .error e
  | .ok (.vacant parent name), _ => .ok (fs.put (name :: parent) .directory)
  | .ok _, .ok (.found _ .directory) => .ok fs
  | .ok _, _ => .error .fileExists

def skipDots (steps : List Name) : List Name :=
  steps.dropWhile (· == Path.dot)

theorem length_skipDots_le (steps : List Name) : (skipDots steps).length ≤ steps.length :=
  (List.dropWhile_sublist _).length_le

def stepsAbove (steps : List Name) : List Name :=
  skipDots (skipDots steps).tail

theorem length_stepsAbove_lt (name : Name) (rest : List Name) :
    (stepsAbove (name :: rest)).length < (name :: rest).length := by
  have outer := length_skipDots_le (skipDots (name :: rest)).tail
  have inner := length_skipDots_le (name :: rest)
  simp only [stepsAbove, List.length_tail, List.length_cons] at outer inner ⊢
  omega

-- The last step comes first. Where it has nothing to stand in, the steps before it are made.
def makeDirsUpTo (fs : FileSystem) (path : Path) :
    List Name → Except IoError Unit × FileSystem
  | [] => (.ok (), fs)
  | name :: rest =>
    match fs.makeDir path (name :: rest).reverse with
    | .ok fs => (.ok (), fs)
    | .error e =>
      if e != .noEntry then (.error e, fs)
      else match makeDirsUpTo fs path (stepsAbove (name :: rest)) with
        | (.error e, fs) => (.error e, fs)
        | (.ok (), fs) =>
          match fs.makeDir path (name :: rest).reverse with
          | .error e => (.error e, fs)
          | .ok fs => (.ok (), fs)
termination_by steps => steps.length
decreasing_by exact length_stepsAbove_lt name rest

def makeDirs (fs : FileSystem) (path : Path) : Except IoError Unit × FileSystem :=
  match fs.origin path with
  | .error e => (.error e, fs)
  | .ok _ => fs.makeDirsUpTo path path.pieces.reverse

def changeDir (fs : FileSystem) (path : Path) : Except IoError FileSystem :=
  match fs.find path with
  | .error e => .error e
  | .ok (place, .directory) => .ok { fs with cwd := place }
  | .ok _ => .error .notDirectory

def pathTo (place : Location) : Path :=
  if place.isEmpty then ⟨[Path.slash]⟩ else ⟨place.reverse.flatMap (Path.slash :: ·)⟩

end FileSystem

end GroupRunner
