import DevicePanel.Proofs.Text.Scanning
import DevicePanel.Toml.Printer
import DevicePanel.Toml.Scalar

/-!
# Texts on one line are read back

Between double quotes every text can be written, as what cannot stand for itself has an escape.
Between single quotes everything stands for itself.
-/

namespace DevicePanel.Toml

/-! ## Characters between double quotes -/

theorem isPlain_of_not_needsEscape {c : Char} (clear : needsEscape c = false)
    (noLine : c ≠ '\n') : isPlain c = true := by
  simp only [needsEscape, Bool.or_eq_false_iff, Bool.and_eq_false_iff, decide_eq_false_iff_not,
    bne_eq_false_iff_eq, beq_eq_false_iff_ne] at clear
  obtain ⟨visible, noDelete⟩ := clear
  by_cases tab : c = '\t'
  · simp [isPlain, tab]
  · have atLeast : 32 ≤ c.toNat := by
      rcases visible with (low | tabbed) | line
      · omega
      · exact absurd tabbed tab
      · exact absurd line noLine
    have blankLe : ' ' ≤ c := Char.le_def.mpr (UInt32.le_iff_toNat_le.mpr atLeast)
    simp [isPlain, blankLe, noDelete]

theorem toNat_lt_of_needsEscape {c : Char} (hidden : needsEscape c = true) : c.toNat < 128 := by
  simp only [needsEscape, Bool.or_eq_true, Bool.and_eq_true, decide_eq_true_eq,
    beq_iff_eq] at hidden
  rcases hidden with ⟨⟨low, -⟩, -⟩ | rfl
  · omega
  · decide

theorem numbered_digits : ∀ n < 128,
    let digits := ['0', '0', (Json.hexDigit (n / 16)).toUpper, (Json.hexDigit n).toUpper]
    Number.ofDigits 16 digits = n ∧ digits.all isHexDigit = true := by
  decide

theorem escape_numbered {c : Char} (small : c.toNat < 128) (rest : List Char) :
    escape ('\\' :: 'u' :: '0' :: '0' :: (Json.hexDigit (c.toNat / 16)).toUpper ::
      (Json.hexDigit c.toNat).toUpper :: rest) = some (c, rest) := by
  obtain ⟨number, digits⟩ := numbered_digits c.toNat small
  have valid : c.toNat.isValidChar := c.valid
  have read : numbered 4 ('0' :: '0' :: (Json.hexDigit (c.toNat / 16)).toUpper ::
      (Json.hexDigit c.toNat).toUpper :: rest) = some (c, rest) := by
    simp [numbered, number, digits, valid]
  exact read

/-- A character between double quotes stands for itself, ends the line, or is an escape of which
the second character is neither a blank nor the end of a line. -/
theorem escaped_cases {c : Char} (inLines : Bool) (noQuote : c ≠ '"') :
    (escaped inLines c = [c] ∧ isBasic c = true) ∨
      (escaped inLines c = ['\n'] ∧ c = '\n' ∧ inLines = true) ∨
      ∃ mark tail, escaped inLines c = '\\' :: mark :: tail ∧ isBlank mark = false ∧
        mark ≠ '\n' ∧ mark ≠ '\r' ∧
        ∀ rest, escape ('\\' :: mark :: (tail ++ rest)) = some (c, rest) := by
  unfold escaped
  split_ifs with backspace tab line lines formFeed return_ backslash hidden
  · subst backspace
    exact Or.inr (Or.inr ⟨'b', [], rfl, rfl, by decide, by decide, fun _ => rfl⟩)
  · subst tab
    exact Or.inr (Or.inr ⟨'t', [], rfl, rfl, by decide, by decide, fun _ => rfl⟩)
  · exact Or.inr (Or.inl ⟨rfl, line, lines⟩)
  · subst line
    exact Or.inr (Or.inr ⟨'n', [], rfl, rfl, by decide, by decide, fun _ => rfl⟩)
  · subst formFeed
    exact Or.inr (Or.inr ⟨'f', [], rfl, rfl, by decide, by decide, fun _ => rfl⟩)
  · subst return_
    exact Or.inr (Or.inr ⟨'r', [], rfl, rfl, by decide, by decide, fun _ => rfl⟩)
  · subst backslash
    exact Or.inr (Or.inr ⟨'\\', [], rfl, rfl, by decide, by decide, fun _ => rfl⟩)
  · exact Or.inr (Or.inr ⟨'u', _, rfl, rfl, by decide, by decide,
      fun rest => escape_numbered (toNat_lt_of_needsEscape hidden) rest⟩)
  · have plain := isPlain_of_not_needsEscape (Bool.eq_false_iff.mpr hidden) line
    exact Or.inl ⟨rfl, by simp [isBasic, plain, noQuote, backslash]⟩

theorem escape_quote (rest : List Char) : escape ('\\' :: '"' :: rest) = some ('"', rest) := rfl

/-! ## Texts on one line -/

theorem repeats_basicBody (text rest : List Char) :
    Scan.Repeats (Scan.one isBasic <|> escape) (basicBody false 0 text 0 ++ '"' :: rest) text
      ('"' :: rest) := by
  induction text with
  | nil => exact .stop rfl
  | cons c text ih =>
      by_cases quote : c = '"'
      · subst quote
        exact .step rfl (by simp +arith [basicBody]) ih
      · rw [basicBody, if_neg quote, List.append_assoc]
        rcases escaped_cases false quote with ⟨itself, basic⟩ | ⟨-, -, lines⟩ |
          ⟨mark, tail, written, -, -, -, read⟩
        · rw [itself]
          exact .step (Scan.orElse_of_some (Scan.one_cons basic _) _) (by simp) ih
        · cases lines
        · rw [written]
          refine .step ?_ (by simp; omega) ih
          rw [List.cons_append, List.cons_append]
          rw [Scan.orElse_of_none]
          exact read _
          rfl

theorem basicText_spell (text rest : List Char) :
    basicText (spell .basic text ++ rest) = some (text, rest) := by
  have written : spell .basic text ++ rest = '"' :: (basicBody false 0 text 0 ++ '"' :: rest) := by
    simp [spell]
  rw [written, basicText, Scan.bind_of_some (Scan.mark_cons _ _),
    Scan.bind_of_some (Scan.many_of_repeats (repeats_basicBody text rest)),
    Scan.bind_of_some (Scan.mark_cons _ _)]
  rfl

theorem literalText_spell {text : List Char} (literal : ∀ c ∈ text, isLiteral c = true)
    (rest : List Char) : literalText (spell .literal text ++ rest) = some (text, rest) := by
  have written : spell .literal text ++ rest = '\'' :: (text ++ '\'' :: rest) := by
    simp [spell]
  have inside : Scan.run isLiteral (text ++ '\'' :: rest) = some (text, '\'' :: rest) :=
    Scan.run_append literal (by simp [isLiteral])
  rw [written, literalText, Scan.bind_of_some (Scan.mark_cons _ _), Scan.bind_of_some inside,
    Scan.bind_of_some (Scan.mark_cons _ _)]
  rfl

end DevicePanel.Toml
