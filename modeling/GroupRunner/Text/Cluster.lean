import GroupRunner.Text.Cluster.Ranges
import GroupRunner.Text.Width

set_option autoImplicit false

namespace GroupRunner.Text

namespace Cluster

inductive Part
  | carriageReturn
  | lineFeed
  | control
  | extender
  -- An extender that binds two consonants.
  | linker
  | nonJoiner
  | joiner
  | spacingMark
  -- A sign that belongs to the next character.
  | leader
  | consonant
  | lead
  | vowel
  | trail
  | openSyllable
  | closedSyllable
  | indicator
  | sign
  | other
  deriving DecidableEq, Repr

def isSyllable (c : Char) : Bool :=
  0xAC00 ≤ c.toNat && c.toNat ≤ 0xD7A3

-- For each first letter and vowel, the syllables go through 27 last letters after none.
def isOpenSyllable (c : Char) : Bool :=
  isSyllable c && (c.toNat - 0xAC00) % 28 = 0

def Part.ofChar (c : Char) : Part :=
  if c = '\r' then .carriageReturn
  else if c = '\n' then .lineFeed
  else if controls.has c then .control
  else if c = Text.joiner then .joiner
  else if c = '\u200C' then .nonJoiner
  else if isOpenSyllable c then .openSyllable
  else if isSyllable c then .closedSyllable
  else if isIndicator c then .indicator
  else if leads.has c then .lead
  else if vowels.has c then .vowel
  else if trails.has c then .trail
  else if linkers.has c then .linker
  else if leaders.has c then .leader
  else if consonants.has c then .consonant
  else if spacingMarks.has c then .spacingMark
  else if signs.has c then .sign
  else if extenders.has c then .extender
  else .other

inductive Ending
  | carriageReturn
  | control
  | leader
  | lead
  | vowel
  | trail
  | indicator
  | sign
  | joinedSign
  | consonant
  -- The same with a linker among the extenders.
  | linkedConsonant
  | other
  deriving DecidableEq, Repr

def Ending.joins : Ending → Part → Bool
  | .carriageReturn, .lineFeed => true
  | .carriageReturn, _ | .control, _ => false
  | _, .carriageReturn | _, .lineFeed | _, .control => false
  | .leader, _ => true
  | _, .extender | _, .linker | _, .nonJoiner | _, .joiner | _, .spacingMark => true
  | .lead, .lead | .lead, .vowel | .lead, .openSyllable | .lead, .closedSyllable => true
  | .vowel, .vowel | .vowel, .trail | .trail, .trail => true
  | .indicator, .indicator | .joinedSign, .sign | .linkedConsonant, .consonant => true
  | _, _ => false

def Ending.add : Ending → Part → Ending
  | _, .carriageReturn => .carriageReturn
  | _, .lineFeed | _, .control => .control
  | _, .leader => .leader
  | _, .lead => .lead
  | _, .vowel | _, .openSyllable => .vowel
  | _, .trail | _, .closedSyllable => .trail
  | .indicator, .indicator => .other
  | _, .indicator => .indicator
  | _, .sign => .sign
  | _, .consonant => .consonant
  | .sign, .extender | .sign, .linker | .sign, .nonJoiner => .sign
  | .sign, .joiner => .joinedSign
  | .consonant, .extender | .consonant, .joiner => .consonant
  | .consonant, .linker | .linkedConsonant, .linker => .linkedConsonant
  | .linkedConsonant, .extender | .linkedConsonant, .joiner => .linkedConsonant
  | _, _ => .other

structure Progress where
  closed : List (List Char) := []
  cluster : List Char := []
  ending : Ending := .other
  deriving DecidableEq, Repr

namespace Progress

def close (progress : Progress) : List (List Char) :=
  if progress.cluster.isEmpty then progress.closed
  else progress.cluster.reverse :: progress.closed

def add (progress : Progress) (c : Char) : Progress :=
  let part := Part.ofChar c
  let ending := progress.ending.add part
  if progress.ending.joins part then { progress with cluster := c :: progress.cluster, ending }
  else { closed := progress.close, cluster := [c], ending }

end Progress

end Cluster

def clusters (text : List Char) : List (List Char) :=
  (text.foldl Cluster.Progress.add {}).close.reverse

end GroupRunner.Text
