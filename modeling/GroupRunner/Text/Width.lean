import GroupRunner.Text.Width.Ranges

set_option autoImplicit false

namespace GroupRunner.Text

inductive Tail
  | alef
  | lamed
  | stacked
  | ya
  | vowelYa
  | consonant
  | boundConsonant
  | lowTone
  | orkhonI
  deriving DecidableEq, Repr

inductive Indicators
  | one
  | even
  | odd
  deriving DecidableEq, Repr

inductive Tag
  | letters (count : Nat)
  | digits (count : Nat)
  deriving DecidableEq, Repr

inductive After
  | nothing
  | lineFeed
  | tone
  | picture
  | joined
  -- The frame of a key, and a joined picture after it.
  | joinedKey
  | joinedTag (tag : Tag)
  | joinedIndicators (indicators : Indicators)
  | indicators (several : Bool)
  | vowelE
  | vowelAi
  -- With a joiner in front of it or not.
  | tail (tail : Tail) (joiner : Bool)
  deriving DecidableEq, Repr

inductive Selector
  | text
  | picture
  | wide
  deriving DecidableEq, Repr

def Selector.ofChar? (c : Char) : Option Selector :=
  if c = '\uFE0E' then some .text
  else if c = '\uFE0F' then some .picture
  else if c = '\uFE01' then some .wide
  else none

structure Context where
  after : After := .nothing
  text : Bool := false
  picture : Bool := false
  wide : Bool := false
  deriving DecidableEq, Repr

def joiner : Char := '\u200D'

def isTone (c : Char) : Bool :=
  0x1F3FB ≤ c.toNat && c.toNat ≤ 0x1F3FF

def isIndicator (c : Char) : Bool :=
  0x1F1E6 ≤ c.toNat && c.toNat ≤ 0x1F1FF

def isTagLetter (c : Char) : Bool :=
  0xE0061 ≤ c.toNat && c.toNat ≤ 0xE007A

def isTagDigit (c : Char) : Bool :=
  0xE0030 ≤ c.toNat && c.toNat ≤ 0xE0039

def isBlackFlag (c : Char) : Bool :=
  c.toNat = 0x1F3F4

def isCurlyQuote (c : Char) : Bool :=
  c = '‘' || c = '’' || c = '“' || c = '”'

def takesPictureSelector (c : Char) : Bool :=
  drawable.has c || flattened.has c || c.toNat = 0x1F21A || c.toNat = 0x1F22F

def charWidth (c : Char) : Nat :=
  if zeroWidth.has c then 0
  else if wide.has c then 2
  else if c.toNat = 0x17D8 then 3
  else 1

def tailOf? (c : Char) : Option Tail :=
  if alefs.has c then some .alef
  else if stacked.has c then some .stacked
  else if consonants.has c then some .consonant
  else match c.toNat with
    | 0x5DC => some .lamed
    | 0x1A10 => some .ya
    | 0xA4FC | 0xA4FD => some .lowTone
    | 0x10C03 => some .orkhonI
    | _ => none

def afterAlone (c : Char) : After :=
  if isTone c then .tone
  else if isIndicator c then .indicators false
  else if pictures.has c then .picture
  else if c.toNat = 0x16D67 then .vowelE
  else if c.toNat = 0x16D68 then .vowelAi
  else match tailOf? c with
    | some tail => .tail tail false
    | none => .nothing

def alone (c : Char) : Int × After :=
  (charWidth c, afterAlone c)

def drawnWith (c : Char) (joiner : Bool) : Tail → Option (Int × After)
  | .alef =>
    if lams.has c then some (0, .nothing)
    else if zeroWidth.has c && !barriers.has c then some (0, .tail .alef joiner)
    else none
  | .lamed => if joiner && c.toNat = 0x5D0 then some (0, .nothing) else none
  | .stacked => if c.toNat = 0x17D2 then some (-1, .nothing) else none
  | .ya => if joiner && c.toNat = 0x1A17 then some (0, .tail .vowelYa false) else none
  | .vowelYa => if c.toNat = 0x1A15 then some (0, .nothing) else none
  | .consonant =>
    if c.toNat = 0x2D7F then some (1, .tail .boundConsonant false)
    else if joiner && consonants.has c then some (0, .nothing)
    else none
  | .boundConsonant => if consonants.has c then some (-1, .nothing) else none
  | .lowTone => if 0xA4F8 ≤ c.toNat ∧ c.toNat ≤ 0xA4FB then some (0, .nothing) else none
  | .orkhonI => if joiner && c.toNat = 0x10C32 then some (0, .nothing) else none

-- A flag's tag is three to six letters, or three digits and at most four letters after them.
def Tag.extend (c : Char) : Tag → Option After
  | .letters count =>
    if isTagLetter c && count < 6 then some (.joinedTag (.letters (count + 1)))
    else if isTagDigit c && count ≤ 4 then some (.joinedTag (.digits 1))
    else if isBlackFlag c && 3 ≤ count then some .picture
    else none
  | .digits count =>
    if isTagDigit c && count < 3 then some (.joinedTag (.digits (count + 1)))
    else if isBlackFlag c && count = 3 then some .picture
    else none

def drawnJoined (c : Char) : Option (Int × After) :=
  if isTone c then some (0, .tone)
  else if isIndicator c then some (1, .joinedIndicators .one)
  else if pictures.has c then some (0, .picture)
  else if c.toNat = 0x20E3 then some (0, .joinedKey)
  else if c.toNat = 0xE007F then some (0, .joinedTag (.letters 0))
  else none

-- The first indicators pair up to flags: of an even number the last flag is joined to the picture,
-- of an odd number the last indicator stands alone.
def Indicators.extend : Indicators → Int × After
  | .one | .odd => (-1, .joinedIndicators .even)
  | .even => (3, .joinedIndicators .odd)

def drawnWithE (c : Char) : Option (Int × After) :=
  match c.toNat with
  | 0x16D63 | 0x16D69 => some (0, .nothing)
  | 0x16D67 => some (0, .vowelAi)
  | 0x16D68 => some (1, .vowelE)
  | _ => none

def addBefore (c : Char) : After → Int × After
  | .nothing | .joinedKey => alone c
  | .lineFeed => if c = '\r' then (0, .nothing) else alone c
  | .tone =>
    if toned.has c then (0, .picture)
    else if c = joiner then (0, .joined)
    else alone c
  | .picture => if c = joiner then (0, .joined) else alone c
  | .joined => (drawnJoined c).getD (alone c)
  | .joinedTag tag => ((tag.extend c).map ((0 : Int), ·)).getD (alone c)
  | .joinedIndicators indicators =>
    if isIndicator c then indicators.extend
    else if c = joiner && indicators != .one then (0, .joined)
    else alone c
  | .indicators several =>
    if isIndicator c then (1, .indicators true)
    else if c = joiner && several then (0, .joined)
    else alone c
  | .vowelE => (drawnWithE c).getD (alone c)
  | .vowelAi => if c.toNat = 0x16D63 then (0, .nothing) else alone c
  | .tail .alef joined => (drawnWith c joined .alef).getD (alone c)
  | .tail tail joined =>
    if c = joiner then (0, .tail tail true)
    else if selectors.has c then (0, .tail tail joined)
    else (drawnWith c joined tail).getD (alone c)

def After.unselected (after : After) : After :=
  match after with
  | .tail .. => after
  | _ => .nothing

namespace Context

-- The end of a sign is seen through any number of selectors, a joined picture through a picture
-- selector; all else is hidden.
def select (context : Context) (selector : Selector) : Context :=
  let seen : Context :=
    match context.after, selector with
    | .tail .., _ => context
    | .joined, .picture | .joinedKey, .picture => { after := context.after }
    | _, _ => {}
  match selector with
  | .text => { seen with text := true }
  | .picture => { seen with picture := true }
  | .wide => { seen with wide := true }

def withoutPicture (context : Context) : Context :=
  if context.picture then { context with after := context.after.unselected, picture := false }
  else context

def behindSelectors (context : Context) : After :=
  if context.text || context.wide then context.after.unselected else context.after

end Context

def add (c : Char) (context : Context) : Int × Context :=
  if context.picture && takesPictureSelector c then
    (if context.after = .joined ∨ context.after = .joinedKey then 0 else 2, { after := .picture })
  else
    let context := context.withoutPicture
    if c = '\n' then (1, { after := .lineFeed })
    else match Selector.ofChar? c with
      | some selector => (0, context.select selector)
      | none =>
        if context.text && flattened.has c then (1, {})
        else if context.wide && isCurlyQuote c then (2, {})
        else
          let (columns, after) := addBefore c context.behindSelectors
          (columns, { after })

-- A text as far as it has been measured, from its end on.
structure Measure where
  columns : Int := 0
  context : Context := {}

def Measure.add (c : Char) (measure : Measure) : Measure :=
  let (columns, context) := Text.add c measure.context
  { columns := measure.columns + columns, context }

def Measure.ofChars (text : List Char) (behind : Measure := {}) : Measure :=
  text.foldr Measure.add behind

def width (text : String) : Nat :=
  (Measure.ofChars text.toList).columns.toNat

end GroupRunner.Text
