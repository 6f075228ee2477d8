import DevicePanel.Json.Printer
import DevicePanel.Json.Token
import DevicePanel.Proofs.Number.Digits
import Mathlib.Tactic.SplitIfs

/-!
# Pieces of a text are cut into tokens

What a mark, a word, a text or a whole number is written as is cut into just this token, wherever
it stands; only after a number nothing may follow that goes on with it.
-/

namespace DevicePanel.Json

/-- No number goes on here: a number that ends before this text ends where it should. -/
def Delimited (rest : List Char) : Prop :=
  ∀ c ∈ rest.head?, c.isDigit = false ∧ c ≠ '.' ∧ c ≠ 'e' ∧ c ≠ 'E'

/-- A piece of a text is cut into tokens of these kinds, wherever it stands. -/
def CutInto (piece : List Char) (kinds : List TokenKind) : Prop :=
  ∀ index rest, Delimited rest → ∃ stop read,
    read.map Token.kind = kinds ∧
      tokens index (piece ++ rest) = (read ++ (tokens stop rest).1, (tokens stop rest).2)

theorem CutInto.append {first second : List Char} {kinds more : List TokenKind}
    (cutFirst : CutInto first kinds) (cutSecond : CutInto second more)
    (apart : ∀ rest, Delimited rest → Delimited (second ++ rest)) :
    CutInto (first ++ second) (kinds ++ more) := by
  intro index rest delimited
  obtain ⟨middle, read, told, cut⟩ := cutFirst index (second ++ rest) (apart rest delimited)
  obtain ⟨stop, later, laterTold, laterCut⟩ := cutSecond middle rest delimited
  refine ⟨stop, read ++ later, by rw [List.map_append, told, laterTold], ?_⟩
  rw [List.append_assoc, cut, laterCut, List.append_assoc]

/-- A piece that the scanner takes as one token. -/
theorem cutInto_of_scanToken {c : Char} {piece : List Char} {kind : TokenKind}
    (visible : isBlank c = false)
    (scanned : ∀ index rest, Delimited rest → ∃ stop,
      scanToken index c (piece ++ rest) = ⟨kind, stop, rest⟩) :
    CutInto (c :: piece) [kind] := by
  intro index rest delimited
  obtain ⟨stop, found⟩ := scanned index rest delimited
  refine ⟨stop, [⟨index, stop, kind⟩], rfl, ?_⟩
  rw [List.cons_append, tokens]
  simp only [visible, found, Bool.false_eq_true, if_false, List.singleton_append]

/-! ## Marks and words -/

theorem cutInto_mark {c : Char} {mark : Mark} (visible : isBlank c = false)
    (isMark : markOf c = some mark) : CutInto [c] [.mark mark] :=
  cutInto_of_scanToken visible fun index rest _ =>
    ⟨index + 1, by rw [scanToken, isMark]; rfl⟩

theorem scanWord_self (kind : TokenKind) (index : Nat) (letters rest : List Char) :
    ∃ stop, scanWord kind index letters (letters ++ rest) = ⟨kind, stop, rest⟩ := by
  induction letters generalizing index with
  | nil => exact ⟨index, by rw [scanWord.eq_def]; rfl⟩
  | cons letter letters ih => simpa [scanWord] using ih (index + 1)

theorem cutInto_null : CutInto "null".toList [.null] :=
  cutInto_of_scanToken (c := 'n') rfl fun index rest _ =>
    scanWord_self .null (index + 1) ['u', 'l', 'l'] rest

theorem cutInto_true : CutInto "true".toList [.bool true] :=
  cutInto_of_scanToken (c := 't') rfl fun index rest _ =>
    scanWord_self (.bool true) (index + 1) ['r', 'u', 'e'] rest

theorem cutInto_false : CutInto "false".toList [.bool false] :=
  cutInto_of_scanToken (c := 'f') rfl fun index rest _ =>
    scanWord_self (.bool false) (index + 1) ['a', 'l', 's', 'e'] rest

/-! ## Texts -/

theorem hexValue_digitChar : ∀ n < 16, hexValue (Nat.digitChar n) = some n := by decide

theorem hexUnit_small {n : Nat} (small : n < 32) :
    hexUnit '0' '0' (hexDigit (n / 16)) (hexDigit n) = some n := by
  have high := hexValue_digitChar (n / 16 % 16) (Nat.mod_lt _ (by decide))
  have low := hexValue_digitChar (n % 16) (Nat.mod_lt _ (by decide))
  have zero : hexValue '0' = some 0 := rfl
  simp only [hexUnit, hexDigit, zero, high, low, Option.bind_eq_bind, Option.bind_some,
    Option.pure_def, Option.some.injEq]
  omega

/-- What stands for a character between quotes is read as this character. -/
theorem scanText_escapeChar (c : Char) (seen : List Char) (index : Nat) (rest : List Char) :
    ∃ stop, scanText ⟨.ok seen, none⟩ index (escapeChar c ++ rest) =
      scanText ⟨.ok (c :: seen), none⟩ stop rest := by
  unfold escapeChar
  split_ifs with quote backslash lineFeed carriageReturn tab backspace formFeed control
  · subst quote; exact ⟨index + 2, rfl⟩
  · subst backslash; exact ⟨index + 2, rfl⟩
  · subst lineFeed; exact ⟨index + 2, rfl⟩
  · subst carriageReturn; exact ⟨index + 2, rfl⟩
  · subst tab; exact ⟨index + 2, rfl⟩
  · subst backspace; exact ⟨index + 2, rfl⟩
  · subst formFeed; exact ⟨index + 2, rfl⟩
  · refine ⟨index + 6, ?_⟩
    have single : (TextSoFar.mk (.ok seen) none).pushUnit c.toNat (index + 6) =
        ⟨.ok (c :: seen), none⟩ := by
      have notLow : isLowSurrogate c.toNat = false := by
        simp [isLowSurrogate]; omega
      have notHigh : isHighSurrogate c.toNat = false := by
        simp [isHighSurrogate]; omega
      simp [TextSoFar.pushUnit, TextSoFar.push, notLow, notHigh, Except.map]
    simp only [List.cons_append, List.nil_append]
    rw [scanText, hexUnit_small control]
    simp only [single]
  · refine ⟨index + c.utf8Size, ?_⟩
    simp only [List.cons_append, List.nil_append]
    rw [scanText]
    · simp [control, TextSoFar.settle, TextSoFar.push, Except.map]
    · exact quote
    · simp [backslash]
    · simp [backslash]
    · simp [backslash]
    · simp [backslash]

theorem scanText_flatMap_escapeChar (text seen : List Char) (index : Nat) (rest : List Char) :
    ∃ stop, scanText ⟨.ok seen, none⟩ index (text.flatMap escapeChar ++ '"' :: rest) =
      ⟨.text (.ok (String.ofList (seen.reverse ++ text))), stop, rest⟩ := by
  induction text generalizing seen index with
  | nil =>
      refine ⟨index + 1, ?_⟩
      simp [scanText, TextSoFar.settle, TextSoFar.value, Except.map]
  | cons c text ih =>
      obtain ⟨middle, read⟩ := scanText_escapeChar c seen index
        (text.flatMap escapeChar ++ '"' :: rest)
      obtain ⟨stop, all⟩ := ih (c :: seen) middle
      refine ⟨stop, ?_⟩
      rw [List.flatMap_cons, List.append_assoc, read, all]
      simp

theorem cutInto_quote (text : String) : CutInto (quote text.toList) [.text (.ok text)] := by
  refine cutInto_of_scanToken rfl fun index rest _ => ?_
  obtain ⟨stop, scanned⟩ := scanText_flatMap_escapeChar text.toList [] (index + 1) rest
  refine ⟨stop, ?_⟩
  rw [scanToken]
  simpa [markOf] using scanned

/-! ## Numbers -/

theorem le_ofDigitChars (number : Nat) (digits : List Char) :
    number ≤ Nat.ofDigitChars 10 digits number := by
  induction digits generalizing number with
  | nil => simp
  | cons c digits ih =>
      rw [Nat.ofDigitChars_cons]
      exact Nat.le_trans (by omega) (ih _)

theorem absorb_eq {significand : Nat} {digits : List Char}
    (fits : Nat.ofDigitChars 10 digits significand ≤ greatestNatural) :
    absorb significand digits = (Nat.ofDigitChars 10 digits significand, []) := by
  induction digits generalizing significand with
  | nil => rfl
  | cons c digits ih =>
      rw [Nat.ofDigitChars_cons, Nat.mul_comm] at fits ⊢
      have small : significand * 10 + digitValue c ≤ greatestNatural :=
        Nat.le_trans (le_ofDigitChars _ digits) fits
      rw [absorb, if_neg (Nat.not_lt.mpr small)]
      exact ih fits

/-- A whole number that is kept digit by digit. -/
def IsKept (n : Int) : Prop := -greatestNegative ≤ n ∧ n ≤ greatestNatural

theorem value_toDigits {n : Int} (kept : IsKept n) (exponentStart stop : Nat) :
    NumberText.value ⟨decide (n < 0), Nat.toDigits 10 n.natAbs, none, none⟩ exponentStart stop =
      .ok (.whole n) := by
  obtain ⟨least, greatest⟩ := kept
  have digits : absorb 0 (Nat.toDigits 10 n.natAbs) = (n.natAbs, []) := by
    rw [absorb_eq] <;> rw [Nat.ofDigitChars_ten_toDigits]
    have : (greatestNegative : Int) ≤ greatestNatural := by decide
    omega
  by_cases negative : n < 0
  · have positive : 0 < n.natAbs := by omega
    have bound : n.natAbs ≤ greatestNegative := by omega
    have magnitude : -(n.natAbs : Int) = n := by omega
    simpa [NumberText.value, NumberText.isWhole, digits, negative, positive, bound] using magnitude
  · have magnitude : (n.natAbs : Int) = n := by omega
    simpa [NumberText.value, NumberText.isWhole, digits, negative] using magnitude

theorem scanFraction_of_delimited {rest : List Char} (delimited : Delimited rest)
    (negative : Bool) (whole : List Char) (index : Nat) :
    scanFraction negative whole index rest =
      scannedNumber ⟨negative, whole, none, none⟩ index index rest := by
  cases rest with
  | nil => rfl
  | cons c rest =>
      obtain ⟨-, noPoint, noSmall, noGreat⟩ := delimited c rfl
      rw [scanFraction]
      · simp [scanExponent, noSmall, noGreat]
      · simp [noPoint]

theorem scanNumber_toDigits {rest : List Char} (delimited : Delimited rest) (negative : Bool)
    (index n : Nat) : ∃ stop, scanNumber negative index (Nat.toDigits 10 n ++ rest) =
      scannedNumber ⟨negative, Nat.toDigits 10 n, none, none⟩ stop stop rest := by
  have noDigit : rest.takeWhile Char.isDigit = [] ∧ rest.dropWhile Char.isDigit = rest := by
    cases rest with
    | nil => exact ⟨rfl, rfl⟩
    | cons c rest => simp [(delimited c rfl).1]
  have all : ∀ c ∈ Nat.toDigits 10 n, c.isDigit = true := fun c => Number.isDigit_of_mem_digits
  by_cases zero : n = 0
  · subst zero
    have noneFollows : (rest.head?.map Char.isDigit).getD false = false := by
      cases rest with
      | nil => rfl
      | cons c rest => exact (delimited c rfl).1
    refine ⟨index + 1, ?_⟩
    simp [scanNumber, noneFollows, scanFraction_of_delimited delimited]
  · obtain ⟨c, digits, written⟩ := List.exists_cons_of_ne_nil
      (Nat.toDigits_ne_nil (n := n) (b := 10))
    have first := Number.head?_toDigits_ne_zero zero
    rw [written] at all first ⊢
    have notZero : c ≠ '0' := by simpa using first
    have isDigit : c.isDigit = true := all c (by simp)
    refine ⟨index + (c :: digits).length, ?_⟩
    rw [List.cons_append, scanNumber]
    simp only [notZero, isDigit, if_true, if_false]
    rw [← List.cons_append, List.takeWhile_append_of_pos all, List.dropWhile_append_of_pos all,
      noDigit.1, noDigit.2, List.append_nil, scanFraction_of_delimited delimited]

theorem ne_of_isDigit {c other : Char} (isDigit : c.isDigit = true)
    (different : other.isDigit = false) : c ≠ other := by
  rintro rfl
  exact Bool.false_ne_true (different.symm.trans isDigit)

theorem isBlank_of_isDigit {c : Char} (isDigit : c.isDigit = true) : isBlank c = false := by
  simp [isBlank, ne_of_isDigit isDigit]

theorem scanToken_of_isDigit {c : Char} (isDigit : c.isDigit = true) (index : Nat)
    (rest : List Char) : scanToken index c rest = scanNumber false index (c :: rest) := by
  simp [scanToken, markOf, ne_of_isDigit isDigit, isDigit]

theorem cutInto_wholeText {n : Int} (kept : IsKept n) :
    CutInto (wholeText n) [.number (.ok (.whole n))] := by
  have value := value_toDigits kept
  unfold wholeText
  split
  · next negative =>
      refine cutInto_of_scanToken rfl fun index rest delimited => ?_
      obtain ⟨stop, scanned⟩ := scanNumber_toDigits delimited true (index + 1) n.natAbs
      refine ⟨stop, ?_⟩
      simp only [negative, decide_true] at value
      simpa [scanToken, markOf, scannedNumber, value] using scanned
  · next positive =>
      obtain ⟨c, digits, written⟩ := List.exists_cons_of_ne_nil
        (Nat.toDigits_ne_nil (n := n.natAbs) (b := 10))
      have isDigit : c.isDigit = true := Number.isDigit_of_mem_digits (written ▸ List.mem_cons_self)
      rw [written]
      refine cutInto_of_scanToken (isBlank_of_isDigit isDigit) fun index rest delimited => ?_
      obtain ⟨stop, scanned⟩ := scanNumber_toDigits delimited false index n.natAbs
      refine ⟨stop, ?_⟩
      rw [scanToken_of_isDigit isDigit, ← List.cons_append, ← written, scanned]
      simp only [positive, decide_false] at value
      simp only [scannedNumber, value]

end DevicePanel.Json
