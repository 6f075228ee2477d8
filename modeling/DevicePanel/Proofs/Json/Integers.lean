import DevicePanel.Proofs.Json.Pieces
import DevicePanel.Proofs.Json.Places

/-!
# Integers and what they are read as

An integer is written with its digits.  Where it stands in a text, it is read as itself if it fits
64 bits; minus zero and what does not fit are read as floating-point numbers, if at all.
-/

namespace DevicePanel.Json

/-- An integer as it is written: its digits without a zero in front, and perhaps a minus sign. -/
structure IntegerLiteral where
  negative : Bool
  magnitude : Nat
deriving Repr, DecidableEq

namespace IntegerLiteral

def toChars (literal : IntegerLiteral) : List Char :=
  if literal.negative then '-' :: Nat.toDigits 10 literal.magnitude
  else Nat.toDigits 10 literal.magnitude

def toText (literal : IntegerLiteral) : String := String.ofList literal.toChars

def value (literal : IntegerLiteral) : Int :=
  if literal.negative then -literal.magnitude else literal.magnitude

/-- Minus zero is a literal of its own, with the value of zero. -/
def minusZero : IntegerLiteral := ⟨true, 0⟩

/-- The literal stands at this byte of the document, and no number goes on after it. -/
def StandsAt (literal : IntegerLiteral) (place : Nat) (document : String) : Prop :=
  ∃ before after, document.toList = before ++ (literal.toChars ++ after) ∧
    byteCount before = place ∧ Delimited after

/-- The literal as the scanner takes it. -/
def numberText (literal : IntegerLiteral) : NumberText :=
  ⟨literal.negative, Nat.toDigits 10 literal.magnitude, none, none⟩

/-! ## The text of an integer -/

theorem toChars_eq_wholeText {literal : IntegerLiteral} (signed : literal ≠ minusZero) :
    literal.toChars = wholeText literal.value := by
  obtain ⟨negative, magnitude⟩ := literal
  cases negative with
  | false =>
      have positive : ¬ (magnitude : Int) < 0 := by omega
      simp [toChars, value, wholeText, positive]
  | true =>
      have notZero : magnitude ≠ 0 := by
        rintro rfl
        exact signed rfl
      have below : 0 < magnitude := by omega
      simp [toChars, value, wholeText, below]

theorem toDigits_injective : Function.Injective (Nat.toDigits 10) :=
  Function.LeftInverse.injective Number.ofDigits_toDigits

theorem minus_cons_ne_toDigits (digits : List Char) (n : Nat) :
    '-' :: digits ≠ Nat.toDigits 10 n := by
  intro same
  have member : '-' ∈ Nat.toDigits 10 n := same ▸ List.mem_cons_self
  cases Number.isDigit_of_mem_digits member

/-- Different literals are written differently. -/
theorem toText_injective : Function.Injective toText := by
  rintro ⟨negative, magnitude⟩ ⟨otherNegative, other⟩ same
  have chars := String.ofList_injective same
  cases negative <;> cases otherNegative <;>
    simp only [toChars, Bool.false_eq_true, if_true, if_false, List.cons.injEq, true_and] at chars
  · rw [toDigits_injective chars]
  · exact absurd chars.symm (minus_cons_ne_toDigits _ _)
  · exact absurd chars (minus_cons_ne_toDigits _ _)
  · rw [toDigits_injective chars]

/-! ## What an integer is read as -/

/-- The literal is kept digit by digit. -/
def IsKept (literal : IntegerLiteral) : Prop := Json.IsKept literal.value ∧ literal ≠ minusZero

theorem ne_whole_of_realOf {negative : Bool} {significand : Nat} {power : Int} {numeral : Numeral}
    (found : realOf negative significand power = .ok numeral) (n : Int) : numeral ≠ .whole n := by
  unfold realOf at found
  split at found
  · obtain rfl := Except.ok.inj found
    simp
  · cases found

theorem isWhole_of_value {number : NumberText} {exponentStart stop : Nat} {n : Int}
    (read : number.value exponentStart stop = .ok (.whole n)) : number.isWhole = true := by
  by_contra real
  simp only [NumberText.value, real, if_false] at read
  split at read
  · split at read
    · next numeral found => exact absurd (Except.ok.inj read) (ne_whole_of_realOf found n)
    · cases read
  · split at read
    · split at read <;> cases read
    · split at read
      · next numeral found => exact absurd (Except.ok.inj read) (ne_whole_of_realOf found n)
      · cases read

theorem absorb_snd_ne_nil {significand : Nat} {digits : List Char}
    (start : significand ≤ greatestNatural)
    (great : greatestNatural < Nat.ofDigitChars 10 digits significand) :
    (absorb significand digits).2 ≠ [] := by
  induction digits generalizing significand with
  | nil => exact absurd start (Nat.not_le.mpr great)
  | cons c digits ih =>
      rw [absorb]
      split_ifs with tooGreat
      · simp
      · rw [Nat.ofDigitChars_cons, Nat.mul_comm] at great
        exact ih (Nat.not_lt.mp tooGreat) great

theorem isWhole_numberText_iff {literal : IntegerLiteral} :
    literal.numberText.isWhole = true ↔ literal.IsKept := by
  obtain ⟨negative, magnitude⟩ := literal
  rcases Nat.lt_or_ge greatestNatural magnitude with great | small
  · have left : (absorb 0 (Nat.toDigits 10 magnitude)).2 ≠ [] :=
      absorb_snd_ne_nil (Nat.zero_le _) (by rwa [Nat.ofDigitChars_ten_toDigits])
    have beyond : ¬ Json.IsKept (value ⟨negative, magnitude⟩) := by
      have order : greatestNegative ≤ greatestNatural := by decide
      rintro ⟨least, most⟩
      cases negative <;>
        simp only [value, Bool.false_eq_true, if_true, if_false] at least most <;> omega
    simp [numberText, NumberText.isWhole, IsKept, left, beyond]
  · have digits : absorb 0 (Nat.toDigits 10 magnitude) = (magnitude, []) := by
      rw [absorb_eq] <;> rw [Nat.ofDigitChars_ten_toDigits]
      exact small
    cases negative with
    | false =>
        simpa [numberText, NumberText.isWhole, IsKept, digits, Json.IsKept, value, minusZero]
          using small
    | true =>
        have order : 0 < magnitude ∧ magnitude ≤ greatestNegative ↔
            magnitude ≤ greatestNegative ∧ ¬ magnitude = 0 := by omega
        simpa [numberText, NumberText.isWhole, IsKept, digits, Json.IsKept, value, minusZero]
          using order

theorem numberText_eq {literal : IntegerLiteral} (signed : literal ≠ minusZero) :
    literal.numberText =
      ⟨decide (literal.value < 0), Nat.toDigits 10 literal.value.natAbs, none, none⟩ := by
  obtain ⟨negative, magnitude⟩ := literal
  cases negative with
  | false => simp [numberText, value]
  | true =>
      have below : 0 < magnitude := Nat.pos_of_ne_zero fun zero => signed (zero ▸ rfl)
      simp [numberText, value, below]

/-- An integer is read as a whole number exactly if it is kept digit by digit, and then as
itself. -/
theorem value_eq_whole_iff {literal : IntegerLiteral} {exponentStart stop : Nat} {n : Int} :
    literal.numberText.value exponentStart stop = .ok (.whole n) ↔
      literal.IsKept ∧ n = literal.value := by
  constructor
  · intro read
    have kept := isWhole_numberText_iff.mp (isWhole_of_value read)
    refine ⟨kept, ?_⟩
    rw [numberText_eq kept.2, value_toDigits kept.1] at read
    simpa using read.symm
  · rintro ⟨kept, rfl⟩
    rw [numberText_eq kept.2]
    exact value_toDigits kept.1 _ _

/-! ## Where an integer stands -/

/-- The scanner takes a literal as a whole. -/
theorem exists_scanToken {literal : IntegerLiteral} {c : Char} {rest after : List Char}
    (written : c :: rest = literal.toChars ++ after) (delimited : Delimited after) (index : Nat) :
    ∃ stop, scanToken index c rest = scannedNumber literal.numberText stop stop after := by
  obtain ⟨negative, magnitude⟩ := literal
  cases negative with
  | false =>
      obtain ⟨digit, digits, front⟩ := List.exists_cons_of_ne_nil
        (Nat.toDigits_ne_nil (n := magnitude) (b := 10))
      have isDigit : c.isDigit = true := by
        refine Number.isDigit_of_mem_digits (n := magnitude) ?_
        have same := written
        simp only [toChars, Bool.false_eq_true, if_false, front, List.cons_append,
          List.cons.injEq] at same
        rw [front, same.1]
        exact List.mem_cons_self
      obtain ⟨stop, scanned⟩ := scanNumber_toDigits delimited false index magnitude
      refine ⟨stop, ?_⟩
      rw [scanToken_of_isDigit isDigit, written]
      exact scanned
  | true =>
      obtain ⟨rfl, rfl⟩ := List.cons.inj written
      exact scanNumber_toDigits delimited true (index + 1) magnitude

/-- What is read of a token where a literal stands. -/
theorem value_of_standsAt {literal : IntegerLiteral} {place stop : Nat} {document : String}
    {read : Except Fault Numeral} (written : literal.StandsAt place document)
    (stands : Token.StandsIn 0 document.toList ⟨place, stop, .number read⟩) (n : Int) :
    read = .ok (.whole n) ↔ literal.IsKept ∧ n = literal.value := by
  obtain ⟨before, after, whole, size, delimited⟩ := written
  obtain ⟨front, c, rest, parted, start, kind⟩ := stands
  have place : byteCount front = byteCount before := by
    rw [size]
    simpa using start.symm
  obtain ⟨-, same⟩ := eq_of_byteCount_eq (parted.symm.trans whole) place
  obtain ⟨last, scanned⟩ := exists_scanToken same delimited _
  rw [scanned] at kind
  obtain rfl := TokenKind.number.inj kind
  exact value_eq_whole_iff

end IntegerLiteral

end DevicePanel.Json
