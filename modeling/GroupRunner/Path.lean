import GroupRunner.Text.Utf8

set_option autoImplicit false

namespace GroupRunner

abbrev Name := Bytes

structure Path where
  bytes : Bytes
  deriving DecidableEq, Repr

namespace Path

def slash : UInt8 := 0x2F
def dot : Name := [0x2E]
def dots : Name := [0x2E, 0x2E]

def ofString (text : String) : Path := ⟨Utf8.encode text⟩

def isAbsolute (path : Path) : Bool :=
  path.bytes.head? == some slash

def endsInSlash (path : Path) : Bool :=
  path.bytes.getLast? == some slash

def join (path next : Path) : Path :=
  if next.isAbsolute then next
  else if path.bytes.isEmpty || path.endsInSlash then ⟨path.bytes ++ next.bytes⟩
  else ⟨path.bytes ++ slash :: next.bytes⟩

def pieces (path : Path) : List Name :=
  (path.bytes.splitOn slash).filter fun name => !name.isEmpty

def counts (piece : Name) : Bool :=
  !piece.isEmpty && piece != dot

def lastPiece? : Name → Bytes → Option Name
  | piece, [] => if counts piece then some piece else none
  | piece, b :: before =>
    if b = slash then
      if counts piece then some piece else lastPiece? [] before
    else lastPiece? (b :: piece) before

def fileName (path : Path) : Option Name :=
  match lastPiece? [] path.bytes.reverse with
  | some name => if name = dots then none else some name
  | none => none

def endsInName (path : Path) : Bool :=
  match path.pieces.getLast? with
  | none => false
  | some name => name != dot && name != dots

-- The step that a slash at the end asks for: what stands before it has to be a directory.
def stay : Name := []

def steps (path : Path) : List Name :=
  path.pieces ++ if path.endsInSlash then [stay] else []

def display (path : Path) : String := Utf8.lossy path.bytes

def text? (path : Path) : Option String := Utf8.decode? path.bytes

end Path

end GroupRunner
