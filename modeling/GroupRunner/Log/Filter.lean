import GroupRunner.Log.Event
import GroupRunner.Log.Pattern
import GroupRunner.Text.Blank
import GroupRunner.Text.Search

set_option autoImplicit false

namespace GroupRunner.Log

abbrev Verbosity := Nat

structure Directive where
  target : Option String
  spanned : Bool := false
  field : Option String := none
  verbosity : Verbosity
  deriving DecidableEq, Repr

structure Filter where
  directives : List Directive
  deriving DecidableEq, Repr

def lower (text : String) : String :=
  String.ofList (text.toList.map Char.toLower)

def rank? (text : List Char) : Option Verbosity :=
  let digits := match text with
    | '+' :: rest => rest
    | text => text
  if digits.isEmpty || !digits.all Char.isDigit then none
  else
    let n := digits.foldl (fun n c => 10 * n + (c.toNat - '0'.toNat)) 0
    if n ≤ Level.trace.rank then some n else none

def verbosity? (text : String) : Option Verbosity :=
  match lower text with
  | "off" => some 0
  | "error" | "" => some 1
  | "warn" => some 2
  | "info" => some 3
  | "debug" => some 4
  | "trace" => some 5
  | text => rank? text.toList

namespace Directive

def levelPart (text : List Char) : Option Verbosity :=
  if text.isEmpty then some Level.trace.rank else verbosity? (String.ofList text)

inductive Reading
  | start
  | word
  | span (start : Nat)
  | field (start : Nat)
  | afterField
  | afterSpan
  | level (start : Nat)
  deriving DecidableEq, Repr

def isWordStart (c : Char) : Bool :=
  c == '-' || c == ':' || c == '_' || Text.isAlphanumeric c

def cut (whole : List Char) (start stop : Nat) : String :=
  String.ofList ((whole.take stop).drop start)

def withField (directive : Directive) (text : String) : Option Directive :=
  match text.toList.splitOn '=' with
  | [] | [[]] => none
  | [_] => some { directive with field := some text }
  | name :: value :: _ =>
    if Pattern.isValuePattern (String.ofList value) then
      some { directive with spanned := true, field := some (String.ofList name) }
    else none

def step (whole : List Char) (c : Char) (place : Nat) (directive : Directive) :
    Reading → Option (Directive × Reading)
  | .start =>
    if c = '[' then some (directive, .span (place + 1))
    else if isWordStart c then some (directive, .word)
    else none
  | .word =>
    if c = '=' then some ({ directive with target := some (cut whole 0 place) }, .level (place + 1))
    else if c = '[' then
      some ({ directive with target := some (cut whole 0 place) }, .span (place + 1))
    else some (directive, .word)
  | .span start =>
    if c = ']' then some ({ directive with spanned := true }, .afterSpan)
    else if c = '\x7b' then
      some ({ directive with spanned := start < place }, .field (place + 1))
    else some (directive, .span start)
  | .field start =>
    if c = '\x7d' then (directive.withField (cut whole start place)).map (·, .afterField)
    else some (directive, .field start)
  | .afterField => if c = ']' then some (directive, .afterSpan) else none
  | .afterSpan => if c = '=' then some (directive, .level (place + 1)) else none
  | .level start => some (directive, .level start)

def finish (whole : List Char) (directive : Directive) : Reading → Option Directive
  | .word =>
    match verbosity? (String.ofList whole) with
    | some verbosity => some { directive with verbosity }
    | none => some { directive with target := some (String.ofList whole) }
  | .level start =>
    (levelPart (whole.drop start)).map fun verbosity => { directive with verbosity }
  | .afterSpan => some directive
  | _ => none

def trim (chars : List Char) : List Char :=
  ((chars.dropWhile Text.isBlank).reverse.dropWhile Text.isBlank).reverse

-- The text is read without the blanks at its ends, but the parts are cut out of it as it is, so
-- that blanks in front move all of them.
def parse (text : String) : Option Directive :=
  let whole := text.toList
  let start : Directive × Reading := ({ target := none, verbosity := Level.trace.rank }, .start)
  match (trim whole).zipIdx.foldlM (fun (directive, reading) (c, place) =>
      step whole c place directive reading) start with
  | none => none
  | some (directive, reading) => finish whole directive reading

def hasField (event : Event) (field : String) : Bool :=
  field == "message" || event.fields.any fun pair => pair.1 == field

def concerns (directive : Directive) (event : Event) : Bool :=
  !directive.spanned && directive.target.all (fun target =>
      target.toList.isPrefixOf event.source.target.toList) &&
    directive.field.all (hasField event)

def targetLength (directive : Directive) : Nat :=
  match directive.target with
  | none => 0
  | some target => target.length

def isLessThan (directive other : Directive) : Bool :=
  directive.targetLength < other.targetLength ||
    (directive.targetLength == other.targetLength &&
      match directive.field, other.field with
      | none, none | some _, none => false
      | none, some _ => true
      | some field, some name => field < name)

end Directive

namespace Filter

def standard : Filter := ⟨[{ target := none, verbosity := 2 }]⟩

def parse? (text : String) : Option Filter :=
  let parts := (text.toList.splitOn ',').filter fun part => !part.isEmpty
  match parts with
  | [] => some ⟨[{ target := none, verbosity := 1 }]⟩
  | parts => (parts.mapM fun part => Directive.parse (String.ofList part)).map Filter.mk

def ofSetting : Option String → Filter
  | none => standard
  | some text => (parse? text).getD standard

def deciding (filter : Filter) (event : Event) : Option Directive :=
  (filter.directives.filter fun d => d.concerns event).foldl
    (fun best d => match best with
      | none => some d
      | some b => if d.isLessThan b then some b else some d)
    none

def writes (filter : Filter) (event : Event) : Bool :=
  match filter.deciding event with
  | none => false
  | some directive => event.level.rank ≤ directive.verbosity

def lines (filter : Filter) (events : List Event) : List String :=
  (events.filter filter.writes).map Event.line

end Filter

end GroupRunner.Log
