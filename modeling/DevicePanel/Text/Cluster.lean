import DevicePanel.Text.Classes

/-!
# Clusters of characters, and the columns they fill

A cluster is what a reader takes for one character: a character with all marks that belong to
it.  A cell of a screen holds one cluster.
-/

namespace DevicePanel.Text

/-! ## Where a text may be parted -/

/-- The parts that a syllable of the Korean script is written with. -/
inductive Jamo where
  | leading
  | vowel
  | trailing
  | open
  | closed
deriving Repr, DecidableEq

def jamo? (c : Char) : Option Jamo :=
  let n := c.toNat
  if n < 0x1100 then none
  else if n ≤ 0x115F then some .leading
  else if n ≤ 0x11A7 then some .vowel
  else if n ≤ 0x11FF then some .trailing
  else if n < 0xA960 then none
  else if n ≤ 0xA97C then some .leading
  else if n < 0xAC00 then none
  else if n ≤ 0xD7A3 then if (n - 0xAC00) % 28 = 0 then some .open else some .closed
  else if 0xD7B0 ≤ n ∧ n ≤ 0xD7C6 then some .vowel
  else if 0xD7CB ≤ n ∧ n ≤ 0xD7FB then some .trailing
  else none

/-- Whether two parts of a syllable stay together. -/
def Jamo.joins : Jamo → Jamo → Bool
  | .leading, .trailing => false
  | .leading, _ => true
  | .open, .vowel | .open, .trailing | .vowel, .vowel | .vowel, .trailing => true
  | .closed, .trailing | .trailing, .trailing => true
  | _, _ => false

def isFlagLetter (c : Char) : Bool := 0x1F1E6 ≤ c.toNat && c.toNat ≤ 0x1F1FF

/-- A character that is never shown. -/
def isControl (c : Char) : Bool := c.toNat < 0x20 || (0x7F ≤ c.toNat && c.toNat < 0xA0)

/-- The characters beyond the first 160 that stand alone. -/
def aloneRanges : List (Nat × Nat) :=
  [(0xAD, 0xAD), (0x61C, 0x61C), (0x180E, 0x180E), (0x200B, 0x200B), (0x200E, 0x200F),
    (0x2028, 0x202E), (0x2060, 0x206F), (0xFEFF, 0xFEFF), (0xFFF0, 0xFFFB), (0x13430, 0x1343F),
    (0x1BCA0, 0x1BCA3), (0x1D173, 0x1D17A), (0xE0000, 0xE001F), (0xE0080, 0xE00FF),
    (0xE01F0, 0xE0FFF)]

def standsAlone (c : Char) : Bool :=
  isControl c || aloneRanges.any fun (first, last) => first ≤ c.toNat && c.toNat ≤ last

/-- What of a cluster decides whether the next character belongs to it. -/
structure Cluster.State where
  last : Char
  /-- The number of letters of a flag at its end. -/
  flagLetters : Nat
  picture : Bool
deriving Repr, DecidableEq

namespace Cluster.State

def start (c : Char) : Cluster.State :=
  ⟨c, if isFlagLetter c then 1 else 0, isPicture c⟩

/-- The joiner between two pictures. -/
def joiner : Char := Char.ofNat 0x200D

/-- Whether a character belongs to the cluster before it. -/
def joins (state : Cluster.State) (c : Char) : Bool :=
  if state.last == '\r' && c == '\n' then true
  else if standsAlone state.last || standsAlone c then false
  else if isExtending c || isSpacing c then true
  else if state.last == joiner && state.picture && isPicture c then true
  else if isFlagLetter c && state.flagLetters % 2 == 1 then true
  else
    match jamo? state.last, jamo? c with
    | some before, some after => before.joins after
    | _, _ => false

def extend (state : Cluster.State) (c : Char) : Cluster.State :=
  ⟨c, if isFlagLetter c then state.flagLetters + 1 else 0, state.picture⟩

end Cluster.State

/-- The clusters of a text that goes on after `current`, which is held in reverse order. -/
def clustersAfter (current : List Char) (state : Cluster.State) : List Char → List (List Char)
  | [] => [current.reverse]
  | c :: rest =>
      if state.joins c then clustersAfter (c :: current) (state.extend c) rest
      else current.reverse :: clustersAfter [c] (.start c) rest

def clusters : List Char → List (List Char)
  | [] => []
  | c :: rest => clustersAfter [c] (.start c) rest

/-! ## Columns -/

/-- How many columns a character fills. -/
def charWidth (c : Char) : Nat :=
  if c.toNat < 0x7F then 1
  else if isWidthless c then 0
  else if isWide c then 2
  else 1

/-- The mark that makes a picture of a character, and the one that makes a letter of it. -/
def pictureMark : Char := Char.ofNat 0xFE0F

def letterMark : Char := Char.ofNat 0xFE0E

def isKeySign (c : Char) : Bool := c.isDigit || c == '#' || c == '*'

/-- A character inside a box, which no mark makes narrower. -/
def isBoxed (c : Char) : Bool := 0x1F200 ≤ c.toNat && c.toNat ≤ 0x1F2FF

/-- How many columns a cluster fills; a picture that was changed by a mark fills two. -/
def clusterWidth (cluster : List Char) : Nat :=
  match cluster with
  | [] => 0
  | ['\r', '\n'] => 1
  | [c] => charWidth c
  | first :: second :: marks =>
      let changing (c : Char) : Bool :=
        c == Cluster.State.joiner || c == pictureMark || (0x1F3FB ≤ c.toNat && c.toNat ≤ 0x1F3FF)
      if isPicture first && second == letterMark && !isBoxed first then 1
      else if isPicture first && (second :: marks).any changing then 2
      else if isKeySign first && second == pictureMark then 2
      else (cluster.map charWidth).foldr (· + ·) 0

/-- How many columns a text fills. -/
def width (text : List Char) : Nat := ((clusters text).map clusterWidth).foldr (· + ·) 0

end DevicePanel.Text
