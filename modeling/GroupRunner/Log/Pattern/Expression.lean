import GroupRunner.Log.Pattern.CharClass
import GroupRunner.Text.Alphanumeric

set_option autoImplicit false

namespace GroupRunner.Log.Pattern

structure Part where
  depth : Nat := 0
  repeatable : Bool := true
  deriving DecidableEq, Repr

structure OpenGroup where
  alternatives : List Nat := []
  parts : List Part := []
  deriving DecidableEq, Repr

namespace OpenGroup

def add (opened : OpenGroup) (part : Part) : OpenGroup :=
  { opened with parts := part :: opened.parts }

def alternate (opened : OpenGroup) : OpenGroup :=
  { alternatives := nesting (opened.parts.map (·.depth)) :: opened.alternatives }

def depth (opened : OpenGroup) : Nat :=
  nesting opened.alternate.alternatives

end OpenGroup

structure State where
  flags : Flags := {}
  opened : OpenGroup := {}
  outer : List (Flags × OpenGroup) := []
  names : List (List Char) := []
  deriving DecidableEq, Repr

def groupName? (chars : List Char) : Option (List Char × List Char) :=
  let name := chars.takeWhile (· != '>')
  match name, chars.drop name.length with
  | first :: others, _ :: rest =>
    if (first = '_' || Text.isAlphabetic first) &&
        others.all (fun c => c == '_' || c == '.' || c == '[' || c == ']' || Text.isAlphanumeric c)
      then some (name, rest)
    else none
  | _, _ => none

namespace State

def add (state : State) (part : Part) : State :=
  { state with opened := state.opened.add part }

def beginGroup (state : State) (flags : Flags) : State :=
  { state with flags, opened := {}, outer := (state.flags, state.opened) :: state.outer }

def beginNamed (state : State) (chars : List Char) : Option (State × List Char) :=
  match groupName? chars with
  | none => none
  | some (name, rest) =>
    if state.names.contains name then none
    else some ({ state with names := name :: state.names }.beginGroup state.flags, rest)

def beginAny (state : State) (chars : List Char) : Option (State × List Char) :=
  match state.flags.skip chars with
  | '?' :: 'P' :: '<' :: rest => state.beginNamed rest
  | '?' :: '<' :: rest => state.beginNamed rest
  | '?' :: rest =>
    let letters := rest.takeWhile fun c => c != ':' && c != ')'
    if !isFlagList letters then none
    else
      let flags := state.flags.change letters
      match rest.drop letters.length with
      | ':' :: rest => some (state.beginGroup flags, rest)
      | ')' :: rest =>
        if letters.isEmpty then none
        else some ({ state with flags }.add { repeatable := false }, rest)
      | _ => none
  | rest => some (state.beginGroup state.flags, rest)

def endGroup (state : State) : Option State :=
  match state.outer with
  | [] => none
  | (flags, enclosing) :: outer =>
    some { state with flags, opened := enclosing.add { depth := state.opened.depth + 1 }, outer }

def repeatLast (state : State) : Option State :=
  match state.opened.parts with
  | part :: parts =>
    if part.repeatable then
      some { state with opened.parts := { depth := part.depth + 1 } :: parts }
    else none
  | [] => none

def step (state : State) (c : Char) (rest : List Char) : Option (State × List Char) :=
  match c with
  | '(' => state.beginAny rest
  | ')' => state.endGroup.map (·, rest)
  | '|' => some ({ state with opened := state.opened.alternate }, rest)
  | '[' => (charClass? state.flags rest).map fun (depth, rest) => (state.add { depth }, rest)
  | '?' | '*' | '+' =>
    -- A question mark right after it asks for as little as possible.
    state.repeatLast.map (·, if rest.head? = some '?' then rest.tail else rest)
  | '\x7b' => none
  | '\\' =>
    match Escaped.read? state.flags rest with
    | none => none
    | some (escaped, rest) => if state.flags.allows escaped then some (state.add {}, rest) else none
  | '.' => if state.flags.unicode then some (state.add {}, rest) else none
  | '^' | '$' => some (state.add {}, rest)
  | _ => if state.flags.allowsLetters then some (state.add {}, rest) else none

def read : Nat → State → List Char → Option State
  | 0, _, _ => none
  | steps + 1, state, chars =>
    match state.flags.skip chars with
    | [] => some state
    | c :: rest =>
      match state.step c rest with
      | none => none
      | some (state, rest) => read steps state rest

end State

def maxDepth : Nat := 250

def isExpression (text : List Char) : Bool :=
  match State.read (text.length + 1) {} text with
  | none => false
  | some state => state.outer.isEmpty && state.opened.depth ≤ maxDepth

end GroupRunner.Log.Pattern
