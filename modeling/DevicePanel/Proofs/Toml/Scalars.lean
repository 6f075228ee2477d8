import DevicePanel.Proofs.Number.Digits
import DevicePanel.Proofs.Toml.Texts

/-!
# Single values of a document are read back

A reader tries the kinds of values one after the other.  At the digits of a natural number none of
the kinds before whole numbers succeeds, as a line with digits alone has no mark of theirs.
-/

namespace DevicePanel.Toml

open DevicePanel.Number (ofDigits)

/-! ## Lines of digits -/

/-- The text is digits up to the end of its first line. -/
def IsDigitLine (text : List Char) : Prop :=
  ∃ digits rest, text = digits ++ '\n' :: rest ∧ ∀ c ∈ digits, c.isDigit = true

namespace IsDigitLine

variable {text rest : List Char}

theorem head (digitLine : IsDigitLine text) : ∀ c ∈ text.head?, c.isDigit = true ∨ c = '\n' := by
  obtain ⟨digits, rest, rfl, isDigit⟩ := digitLine
  intro c here
  cases digits with
  | nil => exact Or.inr (by simpa using here.symm)
  | cons d digits =>
      obtain rfl : d = c := by simpa using here
      exact Or.inl (isDigit d List.mem_cons_self)

theorem tail {c : Char} (digitLine : IsDigitLine (c :: text)) (isDigit : c.isDigit = true) :
    IsDigitLine text := by
  obtain ⟨digits, rest, written, digitsOnly⟩ := digitLine
  cases digits with
  | nil =>
      obtain ⟨rfl, -⟩ := List.cons.inj written
      cases isDigit
  | cons d digits =>
      obtain ⟨rfl, rfl⟩ := List.cons.inj written
      exact ⟨digits, rest, rfl, fun c member => digitsOnly c (List.mem_cons_of_mem _ member)⟩

theorem one {c : Char} (digitLine : IsDigitLine text)
    (read : Scan.one Char.isDigit text = some (c, rest)) : IsDigitLine rest := by
  cases text with
  | nil => cases read
  | cons d text =>
      simp only [Scan.one] at read
      split_ifs at read with isDigit
      simp only [Option.some.injEq, Prod.mk.injEq] at read
      exact read.2 ▸ digitLine.tail isDigit

/-- No mark of another kind of value stands in a line of digits. -/
theorem mark {c : Char} (digitLine : IsDigitLine text) (noDigit : c.isDigit = false)
    (noLine : c ≠ '\n') : Scan.mark c text = none := by
  refine Scan.mark_of_head? fun here => ?_
  rcases digitLine.head c here with isDigit | rfl
  · simp [noDigit] at isDigit
  · exact noLine rfl

/-- A word in which a character is no digit does not stand there either. -/
theorem word (expected : String) (c : Char) (digitLine : IsDigitLine text)
    (member : c ∈ expected.toList) (noDigit : c.isDigit = false)
    (noLine : '\n' ∉ expected.toList) : Scan.word expected text = none := by
  obtain ⟨digits, rest, rfl, isDigit⟩ := digitLine
  refine Scan.word_of_not_prefix ?_
  rintro ⟨after, same⟩
  rcases List.append_eq_append_iff.mp same with ⟨others, split, -⟩ | ⟨others, split, ends⟩
  · have inDigits := isDigit c (split ▸ List.mem_append_left _ member)
    simp [noDigit] at inDigits
  · cases others with
    | nil =>
        have inDigits := isDigit c (by simpa [split] using member)
        simp [noDigit] at inDigits
    | cons d others =>
        obtain rfl : '\n' = d := (List.cons.inj ends).1
        exact noLine (by simp [split])

theorem pair {least greatest : Nat} {found : List Char × Nat} (digitLine : IsDigitLine text)
    (read : Toml.pair least greatest text = some (found, rest)) : IsDigitLine rest := by
  obtain ⟨tens, afterTens, readTens, read⟩ := Scan.exists_of_bind read
  obtain ⟨ones, afterOnes, readOnes, read⟩ := Scan.exists_of_bind read
  obtain ⟨_, afterCheck, check, last⟩ := Scan.exists_of_bind read
  obtain rfl := Scan.eq_of_require check
  rw [Scan.pure_apply] at last
  cases last
  exact (digitLine.one readTens).one readOnes

theorem date (digitLine : IsDigitLine text) : Toml.date text = none := by
  cases read : Toml.date text with
  | none => rfl
  | some found =>
      obtain ⟨_, _, century, read⟩ := Scan.exists_of_bind read
      obtain ⟨_, _, years, read⟩ := Scan.exists_of_bind read
      obtain ⟨_, _, dash, -⟩ := Scan.exists_of_bind read
      rw [((digitLine.pair century).pair years).mark (by decide) (by decide)] at dash
      cases dash

theorem time (digitLine : IsDigitLine text) : Toml.time text = none := by
  cases read : Toml.time text with
  | none => rfl
  | some found =>
      obtain ⟨_, _, hour, read⟩ := Scan.exists_of_bind read
      obtain ⟨_, _, colon, -⟩ := Scan.exists_of_bind read
      rw [(digitLine.pair hour).mark (by decide) (by decide)] at colon
      cases colon

theorem moment (digitLine : IsDigitLine text) : Toml.moment text = none := by
  refine Scan.bind_of_none ?_ _
  rw [Scan.orElse_of_none (Scan.bind_of_none digitLine.date _)]
  exact digitLine.time

end IsDigitLine

/-! ## Natural numbers -/

section

variable (n : Nat) (rest : List Char)

theorem isDigitLine_toDigits : IsDigitLine (Nat.toDigits 10 n ++ '\n' :: rest) :=
  ⟨_, rest, rfl, fun _ => Number.isDigit_of_mem_digits⟩

theorem sign_toDigits : Number.Decimal.sign (Nat.toDigits 10 n ++ '\n' :: rest) =
    some (false, Nat.toDigits 10 n ++ '\n' :: rest) := by
  have noSign : Scan.one (fun c => c == '+' || c == '-')
      (Nat.toDigits 10 n ++ '\n' :: rest) = none := by
    refine Scan.one_of_head? fun c here => ?_
    rcases (isDigitLine_toDigits n rest).head c here with isDigit | rfl
    · cases plus : c == '+' || c == '-' with
      | false => rfl
      | true =>
          simp only [Bool.or_eq_true, beq_iff_eq] at plus
          rcases plus with rfl | rfl <;> cases isDigit
    · rfl
  rw [Number.Decimal.sign, Scan.bind_of_some (Scan.option_of_none noSign)]
  rfl

theorem digits_toDigits : digits Char.isDigit (Nat.toDigits 10 n ++ '\n' :: rest) =
    some (Nat.toDigits 10 n, '\n' :: rest) := by
  have group : Scan.someRun Char.isDigit (Nat.toDigits 10 n ++ '\n' :: rest) =
      some (Nat.toDigits 10 n, '\n' :: rest) :=
    Scan.someRun_append Nat.toDigits_ne_nil (fun _ => Number.isDigit_of_mem_digits) (by simp)
  have groups : Scan.separated (Scan.someRun Char.isDigit) (Scan.mark '_')
      (Nat.toDigits 10 n ++ '\n' :: rest) = some ([Nat.toDigits 10 n], '\n' :: rest) :=
    Scan.separated_of_repeats group (.stop (Scan.bind_of_none rfl _))
  rw [digits, Scan.bind_of_some groups]
  simp [Scan.pure_apply]

theorem signedDigits_toDigits : signedDigits (Nat.toDigits 10 n ++ '\n' :: rest) =
    some ((false, Nat.toDigits 10 n), '\n' :: rest) := by
  have noNeedlessZero : ((Nat.toDigits 10 n).head? != some '0' ||
      decide ((Nat.toDigits 10 n).length = 1)) = true := by
    by_cases zero : n = 0
    · subst zero
      rfl
    · simp [Number.head?_toDigits_ne_zero zero]
  rw [signedDigits, Scan.bind_of_some (sign_toDigits n rest),
    Scan.bind_of_some (digits_toDigits n rest), Scan.bind_of_some (Scan.require_of_true
      noNeedlessZero _)]
  rfl

theorem decimalReal_toDigits : decimalReal (Nat.toDigits 10 n ++ '\n' :: rest) = none := by
  rw [decimalReal, Scan.bind_of_some (signedDigits_toDigits n rest)]
  rfl

theorem namedReal_toDigits : namedReal (Nat.toDigits 10 n ++ '\n' :: rest) = none := by
  have digitLine := isDigitLine_toDigits n rest
  have noInf := digitLine.word "inf" 'i' (by decide) (by decide) (by decide)
  have noNan := digitLine.word "nan" 'n' (by decide) (by decide) (by decide)
  rw [namedReal, Scan.bind_of_some (sign_toDigits n rest),
    Scan.orElse_of_none (Scan.bind_of_none noInf _)]
  exact Scan.bind_of_none noNan _

theorem basedWhole_toDigits : basedWhole (Nat.toDigits 10 n ++ '\n' :: rest) = none := by
  have digitLine := isDigitLine_toDigits n rest
  have noSixteen := digitLine.word "0x" 'x' (by decide) (by decide) (by decide)
  have noEight := digitLine.word "0o" 'o' (by decide) (by decide) (by decide)
  have noTwo := digitLine.word "0b" 'b' (by decide) (by decide) (by decide)
  rw [basedWhole, Scan.orElse_of_none (Scan.bind_of_none noSixteen _),
    Scan.orElse_of_none (Scan.bind_of_none noEight _)]
  exact Scan.bind_of_none noTwo _

theorem decimalWhole_toDigits (small : n < 0x8000000000000000) :
    decimalWhole (Nat.toDigits 10 n ++ '\n' :: rest) = some ((n : Int), '\n' :: rest) := by
  rw [decimalWhole, Scan.bind_of_some (signedDigits_toDigits n rest)]
  simp only [Bool.false_eq_true, if_false, Number.ofDigits_toDigits, within64]
  rw [Scan.bind_of_some (Scan.require_of_true (by simp; omega) _)]
  rfl

theorem text_toDigits : text (Nat.toDigits 10 n ++ '\n' :: rest) = none := by
  have digitLine := isDigitLine_toDigits n rest
  have noLines : basicLines (Nat.toDigits 10 n ++ '\n' :: rest) = none :=
    Scan.bind_of_none (digitLine.word "\"\"\"" '"' (by decide) (by decide) (by decide)) _
  have noLiteralLines : literalLines (Nat.toDigits 10 n ++ '\n' :: rest) = none :=
    Scan.bind_of_none (digitLine.word "'''" '\'' (by decide) (by decide) (by decide)) _
  have noBasic : basicText (Nat.toDigits 10 n ++ '\n' :: rest) = none :=
    Scan.bind_of_none (digitLine.mark (by decide) (by decide)) _
  have noLiteral : literalText (Nat.toDigits 10 n ++ '\n' :: rest) = none :=
    Scan.bind_of_none (digitLine.mark (by decide) (by decide)) _
  refine Scan.bind_of_none ?_ _
  rw [Scan.orElse_of_none noLines, Scan.orElse_of_none noLiteralLines,
    Scan.orElse_of_none noBasic, noLiteral]

theorem scalar_toDigits (small : n < 0x8000000000000000) :
    scalar (Nat.toDigits 10 n ++ '\n' :: rest) = some (.whole n, '\n' :: rest) := by
  have digitLine := isDigitLine_toDigits n rest
  have noTrue := digitLine.word "true" 't' (by decide) (by decide) (by decide)
  have noFalse := digitLine.word "false" 'f' (by decide) (by decide) (by decide)
  rw [scalar, Scan.orElse_of_none (Scan.bind_of_none (text_toDigits n rest) _),
    Scan.orElse_of_none (Scan.bind_of_none noTrue _),
    Scan.orElse_of_none (Scan.bind_of_none noFalse _),
    Scan.orElse_of_none (Scan.bind_of_none digitLine.moment _),
    Scan.orElse_of_none (Scan.bind_of_none (decimalReal_toDigits n rest) _),
    Scan.orElse_of_none (Scan.bind_of_none (namedReal_toDigits n rest) _),
    Scan.orElse_of_none (Scan.bind_of_none (basedWhole_toDigits n rest) _),
    Scan.bind_of_some (decimalWhole_toDigits n rest small)]
  rfl

end

/-! ## All scalars -/

/-- The value that a scalar is read as. -/
def Scalar.value : Scalar → Value
  | .text value => .text value
  | .natural n => .whole n
  | .bool value => .bool value

/-- The scalar is no number that is too large for a document. -/
def Scalar.Fits : Scalar → Prop
  | .natural n => n < 0x8000000000000000
  | _ => True

/-- A scalar at the end of a line is read back. -/
theorem scalar_write (given : Scalar) (fits : given.Fits) (rest : List Char) :
    scalar (given.write ++ '\n' :: rest) = some (given.value, '\n' :: rest) := by
  cases given with
  | text value =>
      have read : text (writeText value ++ '\n' :: rest) = some (value, '\n' :: rest) :=
        text_writeText value (by simp) (by simp)
      rw [scalar]
      refine Scan.orElse_of_some ?_ _
      rw [Scalar.write, Scan.bind_of_some read]
      rfl
  | natural n => exact scalar_toDigits n rest fits
  | bool value => cases value <;> rfl

/-- What a scalar begins with. -/
theorem head?_write (given : Scalar) (rest : List Char) :
    ∃ c, (given.write ++ '\n' :: rest).head? = some c ∧
      (c = '"' ∨ c = '\'' ∨ c.isDigit = true ∨ c = 't' ∨ c = 'f') := by
  cases given with
  | text value =>
      rcases head?_spell (spellingOf value.toList) value.toList ('\n' :: rest) with double | single
      · exact ⟨'"', double, Or.inl rfl⟩
      · exact ⟨'\'', single, Or.inr (Or.inl rfl)⟩
  | natural n =>
      obtain ⟨c, digits, written⟩ := List.exists_cons_of_ne_nil
        (Nat.toDigits_ne_nil (n := n) (b := 10))
      have isDigit : c.isDigit = true := Number.isDigit_of_mem_digits (n := n) (by simp [written])
      exact ⟨c, by simp [Scalar.write, written], Or.inr (Or.inr (Or.inl isDigit))⟩
  | bool value =>
      cases value
      · exact ⟨'f', rfl, by simp⟩
      · exact ⟨'t', rfl, by simp⟩

/-- A scalar begins with nothing that has another meaning. -/
theorem head?_write_ne (given : Scalar) (rest : List Char) {mark : Char}
    (other : mark ∈ [' ', '\t', '[', '\x7b']) :
    (given.write ++ '\n' :: rest).head? ≠ some mark := by
  obtain ⟨c, first, kind⟩ := head?_write given rest
  rw [first]
  rintro ⟨rfl⟩
  simp only [List.mem_cons, List.not_mem_nil, or_false] at other
  rcases other with rfl | rfl | rfl | rfl <;> simp [Char.isDigit] at kind

end DevicePanel.Toml
