/-!
# Punycode

Characters beyond ASCII as letters and digits: after the ASCII characters and a hyphen come
the differences between code points and places, as numbers of variable length.
-/

namespace DevicePanel.Url.Punycode

/-- How many more characters the next difference is expected to pass. -/
def adapt (difference points : Nat) (isFirst : Bool) : Nat :=
  let scaled := if isFirst then difference / 700 else difference / 2
  reduce 0 (scaled + scaled / points)
where
  /-- Divide until the rest is small; `k` counts the divisions. -/
  reduce (k value : Nat) : Nat :=
    if 455 < value then reduce (k + 36) (value / 35) else k + 36 * value / (value + 38)
  termination_by value
  decreasing_by omega

/-- The least value of a digit at place `k` that another digit follows. -/
def threshold (k bias : Nat) : Nat :=
  if k ≤ bias then 1 else if bias + 26 ≤ k then 26 else k - bias

def digitChar (n : Nat) : Char :=
  if n < 26 then Char.ofNat ('a'.toNat + n) else Char.ofNat ('0'.toNat + (n - 26))

def digitValue? (c : Char) : Option Nat :=
  if 'a' ≤ c ∧ c ≤ 'z' then some (c.toNat - 'a'.toNat)
  else if 'A' ≤ c ∧ c ≤ 'Z' then some (c.toNat - 'A'.toNat)
  else if '0' ≤ c ∧ c ≤ '9' then some (c.toNat - '0'.toNat + 26)
  else none

/-- A number of variable length, from place `k` on. -/
def encodeNumber (bias k value : Nat) : List Char :=
  let t := threshold k bias
  if value < t then [digitChar value]
  else if 1 ≤ t ∧ t < 36 then
    digitChar (t + (value - t) % (36 - t)) :: encodeNumber bias (k + 36) ((value - t) / (36 - t))
  else []
termination_by value
decreasing_by
  rename_i small sized
  have : (value - threshold k bias) / (36 - threshold k bias) ≤ value - threshold k bias :=
    Nat.div_le_self ..
  omega

/-- What the encoder holds between two code points. -/
structure State where
  difference : Nat
  bias : Nat
  handled : Nat
  output : List Char

def encodePoint (basic point : Nat) : List Nat → State → State
  | [], state => state
  | c :: rest, state =>
      if c < point then encodePoint basic point rest { state with difference := state.difference + 1 }
      else if c = point then
        encodePoint basic point rest
          ⟨0, adapt state.difference (state.handled + 1) (state.handled == basic),
            state.handled + 1, state.output ++ encodeNumber state.bias 36 state.difference⟩
      else encodePoint basic point rest state

/-- Write the code points of a sorted list that lie above `last`. -/
def encodePoints (basic : Nat) (label : List Nat) : (last : Nat) → List Nat → State → State
  | _, [], state => state
  | last, point :: points, state =>
      let state := { state with difference := state.difference + (point - last) * (state.handled + 1) }
      let state := encodePoint basic point label state
      encodePoints basic label (point + 1) points { state with difference := state.difference + 1 }

/-- A label in letters, digits and hyphens, without its mark. -/
def encode (label : List Char) : List Char :=
  let basic := label.filter fun c => c.toNat < 0x80
  let points := ((label.map Char.toNat).filter (0x80 ≤ ·)).eraseDups.mergeSort
  let start := if basic.isEmpty then [] else basic ++ ['-']
  start ++ (encodePoints basic.length (label.map Char.toNat) 0x80 points
    ⟨0, 72, basic.length, []⟩).output

/-- Read a number of variable length; answers it with the characters after it. -/
def decodeNumber (bias : Nat) : (k weight value : Nat) → List Char → Option (Nat × List Char)
  | _, _, _, [] => none
  | k, weight, value, c :: rest =>
      match digitValue? c with
      | none => none
      | some digit =>
          let value := value + digit * weight
          let t := threshold k bias
          if 0xFFFFFFFF < value then none
          else if digit < t then some (value, rest)
          else decodeNumber bias (k + 36) (weight * (36 - t)) value rest

/-- Insert the characters that numbers tell of, at most `fuel` of them. -/
def insertPoints : (fuel : Nat) → (index bias point : Nat) → (output : List Char) → List Char →
    Option (List Char)
  | _, _, _, _, output, [] => some output
  | 0, _, _, _, _, _ :: _ => none
  | fuel + 1, index, bias, point, output, input =>
      match decodeNumber bias 36 1 0 input with
      | none => none
      | some (difference, rest) =>
          let count := output.length + 1
          let index' := index + difference
          let point' := point + index' / count
          let place := index' % count
          if (0xD800 ≤ point' ∧ point' < 0xE000) ∨ 0x110000 ≤ point' then none
          else
            insertPoints fuel (place + 1) (adapt difference count (index == 0 && point == 0x80))
              point' (output.take place ++ Char.ofNat point' :: output.drop place) rest

/-- The label of letters, digits and hyphens without a mark. -/
def decode? (text : List Char) : Option (List Char) :=
  let reversed := text.reverse
  let extended := (reversed.takeWhile (· != '-')).reverse
  let basic :=
    if extended.length = text.length then [] else text.take (text.length - extended.length - 1)
  insertPoints extended.length 0 72 0x80 basic extended

end DevicePanel.Url.Punycode
