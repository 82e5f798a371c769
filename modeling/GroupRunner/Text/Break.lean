import GroupRunner.Text.Cluster

set_option autoImplicit false

namespace GroupRunner.Text

structure Piece where
  cluster : List Char
  own : Nat
  -- The columns of the word from this cluster on.
  onward : Nat

-- A word in its clusters. It is measured once, for a text is measured from its end.
def pieces (word : List Char) : List Piece :=
  ((clusters word).foldr (fun cluster (measure, done) =>
    let measure := Measure.ofChars cluster measure
    let own := (Measure.ofChars cluster).columns.toNat
    (measure, { cluster, own, onward := measure.columns.toNat } :: done))
    (({} : Measure), ([] : List Piece))).2

def onward : List Piece → Nat
  | [] => 0
  | piece :: _ => piece.onward

-- The pieces that take no more than the given columns, the last one first, and the others.
def takeColumns (columns : Nat) (taken : List Piece) : List Piece → List Piece × List Piece
  | [] => (taken, [])
  | piece :: rest =>
    if piece.own ≤ columns then takeColumns (columns - piece.own) (piece :: taken) rest
    else (taken, piece :: rest)

structure Broken where
  lines : List String := []
  -- The line to go on with, its last character first.
  line : List Char := []
  columns : Nat := 0

-- A line with no more columns than these left is full.
def minFree : Nat := 2

namespace Broken

def close (broken : Broken) : Broken :=
  { lines := String.ofList broken.line.reverse :: broken.lines }

def closeIfFull (limit : Nat) (broken : Broken) : Broken :=
  if limit - minFree < broken.columns then broken.close else broken

def gap (broken : Broken) : Nat :=
  if broken.line.isEmpty then 0 else 1

def append (broken : Broken) (reversed : List Char) (columns : Nat) : Broken :=
  { broken with
    line := if broken.line.isEmpty then reversed else reversed ++ ' ' :: broken.line
    columns := broken.columns + broken.gap + columns }

def reversed (pieces : List Piece) : List Char :=
  pieces.flatMap fun piece => piece.cluster.reverse

-- Puts what is left of a word behind the line, or on lines of its own. Each step but one in two
-- takes a character of the word, for a line is closed at most once before that.
def add (limit : Nat) : Nat → Broken → List Piece → Broken
  | 0, broken, _ => broken
  | steps + 1, broken, word =>
    let free := limit - broken.columns - broken.gap
    if broken.columns + broken.gap + onward word ≤ limit then
      (broken.append (reversed word.reverse) (onward word)).closeIfFull limit
    else if !broken.line.isEmpty && limit - broken.columns - 1 ≤ minFree then
      add limit steps broken.close word
    else if onward word ≤ limit then
      (broken.close.append (reversed word.reverse) (onward word)).closeIfFull limit
    else match takeColumns free [] word with
      | ([], { cluster := c :: others, .. } :: rest) =>
        -- On a line of its own even a cluster that is too wide gives up a character.
        if broken.line.isEmpty then
          add limit steps (broken.append [c] 0).close
            (pieces (others ++ rest.flatMap fun piece => piece.cluster))
        else add limit steps (broken.append [] 0).close word
      | (taken, rest) => add limit steps (broken.append (reversed taken) 0).close rest

end Broken

def breakLine (limit : Nat) (line : String) : List String :=
  let broken := (line.toList.splitOn ' ').foldl (fun broken word =>
    broken.add limit (2 * word.length + 2) (pieces word))
    ({} : Broken)
  (if broken.line.isEmpty then broken.lines else broken.close.lines).reverse

end GroupRunner.Text
