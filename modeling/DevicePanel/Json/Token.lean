import DevicePanel.Json.Cause
import DevicePanel.Json.Value

/-!
# The tokens of a JSON text

A text is cut into tokens, each with the number of bytes before it and up to its end.  Where
the text stops making sense stands a token that tells why, and it is the last one.

A number or a text may be well formed and still have no value: `1e999` is too large and
`"\ud800"` is half a character.  Such a token carries the fault in place of its value, because
a reader that only passes over it is not stopped by it.
-/

namespace DevicePanel.Json

open DevicePanel.Number (Binary64)

/-- Where a text stops making sense.  Three readers may arrive there: one that wants a value,
one that passes over a value, and one that only wants the closing bracket of a list. -/
structure Break where
  /-- The number of bytes before the place. -/
  index : Nat
  reading : Fault
  skipping : Fault
  closing : Fault
deriving Repr, DecidableEq

namespace Break

/-- A break that is told with one cause when a value is wanted and with another one when the
value is passed over; `told` is the offset that is told. -/
def ofCauses (index told : Nat) (reading skipping : Cause) : Break :=
  ⟨index, ⟨reading, some told⟩, ⟨skipping, some told⟩, ⟨.trailingCharacters, some told⟩⟩

def uniform (index told : Nat) (cause : Cause) : Break :=
  ⟨index, ⟨cause, some told⟩, ⟨cause, some told⟩, ⟨cause, some told⟩⟩

end Break

inductive Mark where
  | openList
  | closeList
  | openObject
  | closeObject
  | comma
  | colon
deriving Repr, DecidableEq

inductive TokenKind where
  | mark (mark : Mark)
  | null
  | bool (value : Bool)
  | number (value : Except Fault Numeral)
  | text (value : Except Fault String)
  /-- A character that begins no token. -/
  | stray
  /-- A token that begins as a text if `quoted`, and breaks off. -/
  | damaged (quoted : Bool) (place : Break)
deriving Repr

structure Token where
  start : Nat
  stop : Nat
  kind : TokenKind
deriving Repr

def isBlank (c : Char) : Bool := c = ' ' ∨ c = '\n' ∨ c = '\t' ∨ c = '\r'

/-- The number of bytes of a run of characters. -/
def byteCount (cs : List Char) : Nat := cs.foldl (fun n c => n + c.utf8Size) 0

/-! ## Numbers -/

/-- A number as it is written. -/
structure NumberText where
  negative : Bool
  whole : List Char
  fraction : Option (List Char)
  /-- Whether the exponent is negative, and its digits. -/
  exponent : Option (Bool × List Char)
deriving Repr, DecidableEq

def digitValue (c : Char) : Nat := c.toNat - '0'.toNat

/-- Take digits into a significand as long as it stays below `2 ^ 64`; answer it with the
digits that are left over. -/
def absorb (significand : Nat) : List Char → Nat × List Char
  | [] => (significand, [])
  | c :: cs =>
      if greatestNatural < significand * 10 + digitValue c then (significand, c :: cs)
      else absorb (significand * 10 + digitValue c) cs

/-- Multiply a number by a power of ten, rounding after each step; `none` when it becomes too
large. -/
def scale (number : Binary64) (power : Int) : Option Binary64 :=
  if power.natAbs ≤ 308 then
    let scaled :=
      if 0 ≤ power then number.scaleUp power.natAbs else number.scaleDown power.natAbs
    if scaled.isInfinite then none else some scaled
  else if number.isZero then some number
  else if 0 ≤ power then none
  else scale (number.scaleDown 308) (power + 308)
termination_by power.natAbs
decreasing_by omega

/-- The floating-point number `significand * 10 ^ power`. -/
def realOf (negative : Bool) (significand : Nat) (power : Int) : Except Cause Numeral :=
  match scale (.ofNat negative significand) power with
  | some number => .ok (.real number)
  | none => .error .numberOutOfRange

/-- The number of digits after which an exponent no longer fits 32 bits, if that comes. -/
def exponentOverflow (value : Nat) (count : Nat) : List Char → Option Nat
  | [] => none
  | c :: cs =>
      if 0x7FFFFFFF < value * 10 + digitValue c then some (count + 1)
      else exponentOverflow (value * 10 + digitValue c) (count + 1) cs

/-- The value of digits in base ten. -/
def digitsValue (digits : List Char) : Nat :=
  digits.foldl (fun value c => value * 10 + digitValue c) 0

namespace NumberText

/-- The significand and the power of ten of the digits before the exponent. -/
def significand (number : NumberText) : Nat × Int :=
  let (whole, dropped) := absorb 0 number.whole
  match number.fraction with
  | none => (whole, dropped.length)
  | some fraction =>
      let (all, ignored) := absorb whole fraction
      (all, (dropped.length : Int) - (fraction.length - ignored.length : Nat))

/-- A whole number is kept if it fits 64 bits, and minus zero is not whole. -/
def isWhole (number : NumberText) : Bool :=
  number.fraction.isNone && number.exponent.isNone &&
    (let (value, dropped) := absorb 0 number.whole
     dropped.isEmpty && (!number.negative || (0 < value && value ≤ greatestNegative)))

/-- The value of a number of which the exponent's digits begin at byte `exponentStart` and
which ends at byte `stop`. -/
def value (number : NumberText) (exponentStart stop : Nat) : Except Fault Numeral :=
  let placed (offset : Nat) : Except Cause Numeral → Except Fault Numeral
    | .ok numeral => .ok numeral
    | .error cause => .error ⟨cause, some offset⟩
  if number.isWhole then
    let value := (absorb 0 number.whole).1
    .ok (.whole (if number.negative then -value else value))
  else
    let (significand, power) := number.significand
    match number.exponent with
    | none => placed stop (realOf number.negative significand power)
    | some (below, digits) =>
        match exponentOverflow 0 0 digits with
        | some count =>
            if significand ≠ 0 ∧ ¬ below then
              .error ⟨.numberOutOfRange, some (exponentStart + count)⟩
            else .ok (.real (.finite number.negative 0 0))
        | none =>
            let exponent : Int := digitsValue digits
            placed stop (realOf number.negative significand
              (if below then power - exponent else power + exponent))

end NumberText

/-- What a scanner answers: the kind of token, its end, and the characters after it. -/
structure Scanned where
  kind : TokenKind
  stop : Nat
  rest : List Char
deriving Repr

/-- A token breaks off; nothing after it is read. -/
def Scanned.broken (quoted : Bool) (place : Break) : Scanned :=
  ⟨.damaged quoted place, place.index, []⟩

/-- The end of a number that stops too early is told differently by a reader that passes over
the number. -/
def numberUnfinished (index : Nat) : Scanned :=
  .broken false (.ofCauses index index .valueUnfinished .badNumber)

def numberBroken (told : Nat) : Scanned :=
  .broken false (.ofCauses told told .badNumber .badNumber)

def scannedNumber (number : NumberText) (exponentStart stop : Nat) (rest : List Char) : Scanned :=
  ⟨.number (number.value exponentStart stop), stop, rest⟩

/-- Read the digits of an exponent; `index` bytes were read. -/
def scanExponentDigits (negative : Bool) (whole : List Char) (fraction : Option (List Char))
    (below : Bool) (index : Nat) (rest : List Char) : Scanned :=
  let digits := rest.takeWhile Char.isDigit
  if rest.isEmpty then numberUnfinished index
  else if digits.isEmpty then numberBroken (index + 1)
  else
    scannedNumber ⟨negative, whole, fraction, some (below, digits)⟩ index (index + digits.length)
      (rest.dropWhile Char.isDigit)

/-- Finish a number after its fraction; `index` bytes were read. -/
def scanExponent (negative : Bool) (whole : List Char) (fraction : Option (List Char))
    (index : Nat) (rest : List Char) : Scanned :=
  if rest.head? = some 'e' ∨ rest.head? = some 'E' then
    match rest.tail with
    | '+' :: more => scanExponentDigits negative whole fraction false (index + 2) more
    | '-' :: more => scanExponentDigits negative whole fraction true (index + 2) more
    | more => scanExponentDigits negative whole fraction false (index + 1) more
  else scannedNumber ⟨negative, whole, fraction, none⟩ index index rest

/-- Finish a number after its whole digits. -/
def scanFraction (negative : Bool) (whole : List Char) (index : Nat) (rest : List Char) :
    Scanned :=
  match rest with
  | '.' :: after =>
      let digits := after.takeWhile Char.isDigit
      let more := after.dropWhile Char.isDigit
      if digits.isEmpty then
        if more.isEmpty then numberUnfinished (index + 1) else numberBroken (index + 2)
      else scanExponent negative whole (some digits) (index + 1 + digits.length) more
  | _ => scanExponent negative whole none index rest

/-- Read a number after its sign. -/
def scanNumber (negative : Bool) (index : Nat) : List Char → Scanned
  | [] => numberUnfinished index
  | c :: cs =>
      if c = '0' then
        if (cs.head?.map Char.isDigit).getD false then numberBroken (index + 2)
        else scanFraction negative ['0'] (index + 1) cs
      else if c.isDigit then
        let digits := (c :: cs).takeWhile Char.isDigit
        scanFraction negative digits (index + digits.length) ((c :: cs).dropWhile Char.isDigit)
      else numberBroken (index + 1)

/-! ## Words -/

/-- Read the letters of a word; `index` bytes were read. -/
def scanWord (kind : TokenKind) (index : Nat) : (letters text : List Char) → Scanned
  | [], rest => ⟨kind, index, rest⟩
  | _ :: _, [] => .broken false (.ofCauses index index .valueUnfinished .valueUnfinished)
  | letter :: letters, c :: cs =>
      if letter = c then scanWord kind (index + 1) letters cs
      else .broken false (.ofCauses (index + 1) (index + 1) .wordExpected .wordExpected)

/-! ## Texts -/

/-- The value of a digit of base sixteen. -/
def hexValue (c : Char) : Option Nat :=
  if c.isDigit then some (c.toNat - '0'.toNat)
  else if 'a' ≤ c ∧ c ≤ 'f' then some (c.toNat - 'a'.toNat + 10)
  else if 'A' ≤ c ∧ c ≤ 'F' then some (c.toNat - 'A'.toNat + 10)
  else none

/-- The value of four digits of base sixteen. -/
def hexUnit (a b c d : Char) : Option Nat := do
  let a ← hexValue a
  let b ← hexValue b
  let c ← hexValue c
  let d ← hexValue d
  pure (((a * 16 + b) * 16 + c) * 16 + d)

def isHighSurrogate (unit : Nat) : Bool := 0xD800 ≤ unit ∧ unit ≤ 0xDBFF

def isLowSurrogate (unit : Nat) : Bool := 0xDC00 ≤ unit ∧ unit ≤ 0xDFFF

def joinSurrogates (high low : Nat) : Char :=
  Char.ofNat ((high - 0xD800) * 1024 + (low - 0xDC00) + 0x10000)

def simpleEscape (c : Char) : Option Char :=
  if c = '"' then some '"'
  else if c = '\\' then some '\\'
  else if c = '/' then some '/'
  else if c = 'b' then some '\x08'
  else if c = 'f' then some '\x0c'
  else if c = 'n' then some '\n'
  else if c = 'r' then some '\r'
  else if c = 't' then some '\t'
  else none

/-- What was read of a text: its characters in reverse, or why it has no value; and, where a
high surrogate came last, its unit. -/
structure TextSoFar where
  characters : Except Fault (List Char)
  pending : Option Nat

namespace TextSoFar

/-- Keep the first fault. -/
def fail (cause : Cause) (offset : Nat) (soFar : TextSoFar) : TextSoFar :=
  match soFar.characters with
  | .error fault => ⟨.error fault, none⟩
  | .ok _ => ⟨.error ⟨cause, some offset⟩, none⟩

/-- A high surrogate must be followed by an escape; `offset` is the end of the byte that comes
instead. -/
def settle (offset : Nat) (soFar : TextSoFar) : TextSoFar :=
  match soFar.pending with
  | some _ => soFar.fail .hexEscapeUnfinished offset
  | none => soFar

def push (c : Char) (soFar : TextSoFar) : TextSoFar :=
  ⟨soFar.characters.map (c :: ·), soFar.pending⟩

/-- Take a unit of sixteen bits whose escape ends at `offset`. -/
def pushUnit (unit : Nat) (offset : Nat) (soFar : TextSoFar) : TextSoFar :=
  match soFar.pending with
  | some high =>
      if isLowSurrogate unit then
        ⟨soFar.characters.map (joinSurrogates high unit :: ·), none⟩
      else soFar.fail .loneSurrogate offset
  | none =>
      if isLowSurrogate unit then soFar.fail .loneSurrogate offset
      else if isHighSurrogate unit then { soFar with pending := some unit }
      else soFar.push (Char.ofNat unit)

def value (soFar : TextSoFar) : Except Fault String :=
  soFar.characters.map fun characters => String.ofList characters.reverse

end TextSoFar

/-- A text breaks off; a reader that wants its value may have been stopped before. -/
def textBroken (soFar : TextSoFar) (index : Nat) (cause : Cause) : Scanned :=
  let place := Break.ofCauses index index cause cause
  match soFar.characters with
  | .ok _ => .broken true place
  | .error fault => .broken true { place with reading := fault }

/-- Read a text after its opening quote; `index` bytes were read. -/
def scanText (soFar : TextSoFar) (index : Nat) : List Char → Scanned
  | [] => textBroken soFar index .textUnfinished
  | '"' :: rest => ⟨.text (soFar.settle (index + 1)).value, index + 1, rest⟩
  | '\\' :: [] => textBroken soFar (index + 1) .textUnfinished
  | '\\' :: 'u' :: a :: b :: c :: d :: rest =>
      match hexUnit a b c d with
      | some unit => scanText (soFar.pushUnit unit (index + 6)) (index + 6) rest
      | none =>
          if byteCount (a :: b :: c :: d :: rest) < 4 then
            textBroken soFar (index + 2 + byteCount (a :: b :: c :: d :: rest)) .textUnfinished
          else textBroken soFar (index + 6) .badEscape
  | '\\' :: 'u' :: rest =>
      if byteCount rest < 4 then
        textBroken soFar (index + 2 + byteCount rest) .textUnfinished
      else textBroken soFar (index + 6) .badEscape
  | '\\' :: c :: rest =>
      let settled := soFar.settle (index + 2)
      match simpleEscape c with
      | some character => scanText (settled.push character) (index + 2) rest
      | none => textBroken settled (index + 2) .badEscape
  | c :: rest =>
      let settled := soFar.settle (index + 1)
      if c.toNat < 32 then textBroken settled (index + 1) .controlCharacter
      else scanText (settled.push c) (index + c.utf8Size) rest

/-! ## Tokens -/

def markOf (c : Char) : Option Mark :=
  if c = '[' then some .openList
  else if c = ']' then some .closeList
  else if c = '\x7b' then some .openObject
  else if c = '\x7d' then some .closeObject
  else if c = ',' then some .comma
  else if c = ':' then some .colon
  else none

/-- The word that a character begins, and its other letters. -/
def wordOf (c : Char) : Option (TokenKind × List Char) :=
  if c = 'n' then some (.null, ['u', 'l', 'l'])
  else if c = 't' then some (.bool true, ['r', 'u', 'e'])
  else if c = 'f' then some (.bool false, ['a', 'l', 's', 'e'])
  else none

/-- The token that begins with a given character that is no blank; `index` bytes were read
before it. -/
def scanToken (index : Nat) (c : Char) (rest : List Char) : Scanned :=
  match markOf c with
  | some mark => ⟨.mark mark, index + 1, rest⟩
  | none =>
      if c = '"' then scanText ⟨.ok [], none⟩ (index + 1) rest
      else if c = '-' then scanNumber true (index + 1) rest
      else if c.isDigit then scanNumber false index (c :: rest)
      else
        match wordOf c with
        | some (kind, letters) => scanWord kind (index + 1) letters rest
        | none => ⟨.stray, index + 1, []⟩

/-! ## A token takes at least one character -/

theorem scanExponentDigits_rest_length (negative : Bool) (whole : List Char)
    (fraction : Option (List Char)) (below : Bool) (index : Nat) (rest : List Char) :
    (scanExponentDigits negative whole fraction below index rest).rest.length ≤ rest.length := by
  have dropped : (rest.dropWhile Char.isDigit).length ≤ rest.length :=
    (List.dropWhile_sublist _).length_le
  unfold scanExponentDigits
  simp only
  split
  · simp [numberUnfinished, Scanned.broken]
  · split
    · simp [numberBroken, Scanned.broken]
    · exact dropped

theorem scanExponent_rest_length (negative : Bool) (whole : List Char)
    (fraction : Option (List Char)) (index : Nat) (rest : List Char) :
    (scanExponent negative whole fraction index rest).rest.length ≤ rest.length := by
  unfold scanExponent
  split
  · have shorter : rest.tail.length ≤ rest.length := by simp
    split
    · rename_i more same
      rw [same] at shorter
      exact Nat.le_trans (scanExponentDigits_rest_length ..)
        (Nat.le_trans (Nat.le_succ _) shorter)
    · rename_i more same
      rw [same] at shorter
      exact Nat.le_trans (scanExponentDigits_rest_length ..)
        (Nat.le_trans (Nat.le_succ _) shorter)
    · exact Nat.le_trans (scanExponentDigits_rest_length ..) shorter
  · exact Nat.le_refl _

theorem scanFraction_rest_length (negative : Bool) (whole : List Char) (index : Nat)
    (rest : List Char) : (scanFraction negative whole index rest).rest.length ≤ rest.length := by
  unfold scanFraction
  split
  · rename_i after
    have dropped : (after.dropWhile Char.isDigit).length ≤ after.length :=
      (List.dropWhile_sublist _).length_le
    simp only
    split
    · split <;> simp [numberUnfinished, numberBroken, Scanned.broken]
    · exact Nat.le_trans (scanExponent_rest_length ..) (Nat.le_trans dropped (by simp))
  · exact scanExponent_rest_length ..

theorem scanNumber_rest_length (negative : Bool) (index : Nat) (cs : List Char) :
    (scanNumber negative index cs).rest.length ≤ cs.length - 1 := by
  unfold scanNumber
  split
  · simp [numberUnfinished, Scanned.broken]
  · rename_i c cs
    split
    · split
      · simp [numberBroken, Scanned.broken]
      · exact scanFraction_rest_length ..
    · split
      · rename_i isDigit
        refine Nat.le_trans (scanFraction_rest_length ..) ?_
        rw [List.dropWhile_cons_of_pos isDigit]
        exact (List.dropWhile_sublist _).length_le
      · simp [numberBroken, Scanned.broken]

theorem scanWord_rest_length (kind : TokenKind) (index : Nat) (letters text : List Char) :
    (scanWord kind index letters text).rest.length ≤ text.length := by
  fun_induction scanWord kind index letters text with
  | case1 => simp
  | case2 => simp [Scanned.broken]
  | case3 index letter letters cs ih => exact Nat.le_trans ih (by simp)
  | case4 => simp [Scanned.broken]

theorem textBroken_rest (soFar : TextSoFar) (index : Nat) (cause : Cause) :
    (textBroken soFar index cause).rest = [] := by
  unfold textBroken
  split <;> rfl

theorem scanText_rest_length (soFar : TextSoFar) (index : Nat) (text : List Char) :
    (scanText soFar index text).rest.length ≤ text.length := by
  fun_induction scanText soFar index text <;>
    first
      | (simp only [textBroken_rest, List.length_nil]; omega)
      | (simp only [List.length_cons]; omega)

theorem scanToken_rest_length (index : Nat) (c : Char) (rest : List Char) :
    (scanToken index c rest).rest.length ≤ rest.length := by
  unfold scanToken
  split
  · exact Nat.le_refl _
  · split
    · exact scanText_rest_length ..
    · split
      · exact Nat.le_trans (scanNumber_rest_length ..) (Nat.sub_le ..)
      · split
        · exact scanNumber_rest_length ..
        · split
          · exact scanWord_rest_length ..
          · simp

/-- The tokens of a text of which `index` bytes were read before, and the size of the text. -/
def tokens (index : Nat) : List Char → List Token × Nat
  | [] => ([], index)
  | c :: rest =>
      if isBlank c then tokens (index + 1) rest
      else
        let scanned := scanToken index c rest
        let (others, size) := tokens scanned.stop scanned.rest
        (⟨index, scanned.stop, scanned.kind⟩ :: others, size)
termination_by cs => cs.length
decreasing_by
  · simp
  · exact Nat.lt_succ_of_le (scanToken_rest_length index c rest)

end DevicePanel.Json
