import DevicePanel.Json.Token
import Mathlib.Data.List.TakeWhile
import Mathlib.Tactic.SplitIfs

/-!
# Where the tokens of a text stand

The scanner counts bytes while it walks over characters.  Whatever it reads, it takes a prefix of
the text and counts the bytes of just this prefix, or it stops for good.  So the place of a token
is the number of bytes before its first character, and the token is what the scanner makes of the
text from there.
-/

namespace DevicePanel.Json

/-! ## Counting bytes -/

theorem byteCount_cons (c : Char) (cs : List Char) :
    byteCount (c :: cs) = c.utf8Size + byteCount cs := by
  have shift (start : Nat) : cs.foldl (fun n c => n + c.utf8Size) start =
      start + cs.foldl (fun n c => n + c.utf8Size) 0 := by
    induction cs generalizing start with
    | nil => rfl
    | cons d cs ih => rw [List.foldl_cons, ih, List.foldl_cons, ih (0 + d.utf8Size)]; omega
  rw [byteCount, List.foldl_cons, shift, byteCount, Nat.zero_add]

theorem byteCount_append (first second : List Char) :
    byteCount (first ++ second) = byteCount first + byteCount second := by
  induction first with
  | nil => simp [byteCount]
  | cons c first ih => rw [List.cons_append, byteCount_cons, byteCount_cons, ih, Nat.add_assoc]

theorem byteCount_nil_ne_cons (c : Char) (cs : List Char) : byteCount [] ≠ byteCount (c :: cs) := by
  have positive := c.utf8Size_pos
  rw [byteCount_cons, byteCount, List.foldl_nil]
  omega

/-- Two ways to part a text at the same byte are the same. -/
theorem eq_of_byteCount_eq {first second before after : List Char}
    (same : first ++ second = before ++ after) (place : byteCount first = byteCount before) :
    first = before ∧ second = after := by
  induction first generalizing before with
  | nil =>
      cases before with
      | nil => exact ⟨rfl, same⟩
      | cons c before => exact absurd place (byteCount_nil_ne_cons c before)
  | cons c first ih =>
      cases before with
      | nil => exact absurd place.symm (byteCount_nil_ne_cons c first)
      | cons d before =>
          obtain ⟨rfl, rest⟩ := List.cons.inj same
          rw [byteCount_cons, byteCount_cons] at place
          obtain ⟨rfl, after⟩ := ih rest (by omega)
          exact ⟨rfl, after⟩

theorem utf8Size_of_toNat_lt {c : Char} (ascii : c.toNat < 128) : c.utf8Size = 1 := by
  have small : c.val ≤ 127 := by
    rw [UInt32.le_iff_toNat_le]
    exact Nat.le_of_lt_succ ascii
  simp [Char.utf8Size, small]

theorem utf8Size_of_isDigit {c : Char} (isDigit : c.isDigit = true) : c.utf8Size = 1 := by
  simp only [Char.isDigit, Bool.and_eq_true, decide_eq_true_eq] at isDigit
  exact utf8Size_of_toNat_lt (Nat.lt_of_le_of_lt (UInt32.le_iff_toNat_le.mp isDigit.2) (by decide))

theorem byteCount_digits {digits : List Char} (all : ∀ c ∈ digits, c.isDigit = true) :
    byteCount digits = digits.length := by
  induction digits with
  | nil => rfl
  | cons c digits ih =>
      obtain ⟨first, others⟩ := List.forall_mem_cons.mp all
      rw [byteCount_cons, utf8Size_of_isDigit first, ih others, List.length_cons, Nat.add_comm]

theorem utf8Size_of_hexValue {c : Char} {value : Nat} (found : hexValue c = some value) :
    c.utf8Size = 1 := by
  unfold hexValue at found
  split_ifs at found with digit small great
  · exact utf8Size_of_isDigit digit
  · exact utf8Size_of_toNat_lt (Nat.lt_of_le_of_lt small.2 (by decide))
  · exact utf8Size_of_toNat_lt (Nat.lt_of_le_of_lt great.2 (by decide))

theorem utf8Size_of_simpleEscape {c character : Char} (found : simpleEscape c = some character) :
    c.utf8Size = 1 := by
  unfold simpleEscape at found
  split_ifs at found with h₁ h₂ h₃ h₄ h₅ h₆ h₇ h₈ <;> subst c <;> rfl

theorem utf8Size_of_markOf {c : Char} {mark : Mark} (found : markOf c = some mark) :
    c.utf8Size = 1 := by
  unfold markOf at found
  split_ifs at found with h₁ h₂ h₃ h₄ h₅ h₆ <;> subst c <;> rfl

theorem utf8Size_of_isBlank {c : Char} (blank : isBlank c = true) : c.utf8Size = 1 := by
  have known : c = ' ' ∨ c = '\n' ∨ c = '\t' ∨ c = '\r' := by simpa [isBlank] using blank
  rcases known with rfl | rfl | rfl | rfl <;> rfl

/-! ## The scanner -/

/-- A scanner that began after `index` bytes leaves no text, or it took a part of the text from its
front and counted its bytes. -/
def Scanned.Counts (index : Nat) (text : List Char) (scanned : Scanned) : Prop :=
  scanned.rest = [] ∨
    ∃ taken, text = taken ++ scanned.rest ∧ scanned.stop = index + byteCount taken

namespace Scanned.Counts

variable {index : Nat} {text : List Char} {scanned : Scanned}

theorem of_rest_eq_nil (nothing : scanned.rest = []) : scanned.Counts index text :=
  Or.inl nothing

theorem here (kind : TokenKind) (index : Nat) (text : List Char) :
    (⟨kind, index, text⟩ : Scanned).Counts index text := Or.inr ⟨[], rfl, rfl⟩

/-- What was taken before is counted as well. -/
theorem after (front : List Char) {n : Nat} (size : byteCount front = n)
    (counts : scanned.Counts (index + n) text) : scanned.Counts index (front ++ text) := by
  rcases counts with nothing | ⟨taken, rfl, stop⟩
  · exact Or.inl nothing
  · refine Or.inr ⟨front ++ taken, (List.append_assoc ..).symm, ?_⟩
    rw [stop, byteCount_append, size, Nat.add_assoc]

theorem after_cons {c : Char} {n : Nat} (size : c.utf8Size = n)
    (counts : scanned.Counts (index + n) text) : scanned.Counts index (c :: text) :=
  counts.after [c] (by rw [byteCount_cons, size]; rfl)

/-- A run of digits is one byte for each. -/
theorem after_digits
    (counts : scanned.Counts (index + (text.takeWhile Char.isDigit).length)
      (text.dropWhile Char.isDigit)) : scanned.Counts index text := by
  have all : ∀ c ∈ text.takeWhile Char.isDigit, c.isDigit = true :=
    fun _ => List.mem_takeWhile_imp
  have whole := counts.after _ (byteCount_digits all)
  rwa [List.takeWhile_append_dropWhile] at whole

end Scanned.Counts

open Scanned.Counts

theorem counts_scanExponentDigits (negative : Bool) (whole : List Char)
    (fraction : Option (List Char)) (below : Bool) (index : Nat) (text : List Char) :
    (scanExponentDigits negative whole fraction below index text).Counts index text := by
  unfold scanExponentDigits
  simp only
  split_ifs
  · exact of_rest_eq_nil rfl
  · exact of_rest_eq_nil rfl
  · exact after_digits (here _ _ _)

theorem counts_scanExponent (negative : Bool) (whole : List Char)
    (fraction : Option (List Char)) (index : Nat) (text : List Char) :
    (scanExponent negative whole fraction index text).Counts index text := by
  unfold scanExponent
  split_ifs with isExponent
  · cases text with
    | nil => simp at isExponent
    | cons c text =>
        have single : c.utf8Size = 1 := by
          rcases isExponent with small | great
          · obtain rfl := Option.some.inj small
            rfl
          · obtain rfl := Option.some.inj great
            rfl
        simp only [List.tail_cons]
        split
        · exact after_cons single (after_cons (n := 1) rfl (counts_scanExponentDigits ..))
        · exact after_cons single (after_cons (n := 1) rfl (counts_scanExponentDigits ..))
        · exact after_cons single (counts_scanExponentDigits ..)
  · exact here _ _ _

theorem counts_scanFraction (negative : Bool) (whole : List Char) (index : Nat)
    (text : List Char) : (scanFraction negative whole index text).Counts index text := by
  unfold scanFraction
  split
  · next digits =>
      simp only
      split_ifs
      · exact of_rest_eq_nil rfl
      · exact of_rest_eq_nil rfl
      · exact after_cons (n := 1) rfl (after_digits (counts_scanExponent ..))
  · exact counts_scanExponent ..

theorem counts_scanNumber (negative : Bool) (index : Nat) (text : List Char) :
    (scanNumber negative index text).Counts index text := by
  unfold scanNumber
  split
  · exact of_rest_eq_nil rfl
  · next c text =>
      simp only
      split_ifs with zero another digit
      · exact of_rest_eq_nil rfl
      · subst zero
        exact after_cons (n := 1) rfl (counts_scanFraction ..)
      · exact after_digits (counts_scanFraction ..)
      · exact of_rest_eq_nil rfl

theorem counts_scanWord (kind : TokenKind) (index : Nat) {letters : List Char}
    (ascii : ∀ c ∈ letters, c.utf8Size = 1) (text : List Char) :
    (scanWord kind index letters text).Counts index text := by
  fun_induction scanWord kind index letters text with
  | case1 => exact here _ _ _
  | case2 => exact of_rest_eq_nil rfl
  | case3 index letter letters cs ih =>
      obtain ⟨first, others⟩ := List.forall_mem_cons.mp ascii
      exact after_cons first (ih others)
  | case4 => exact of_rest_eq_nil rfl

theorem counts_scanText (soFar : TextSoFar) (index : Nat) (text : List Char) :
    (scanText soFar index text).Counts index text := by
  fun_induction scanText soFar index text with
  | case2 soFar index rest => exact after_cons (n := 1) rfl (here _ _ _)
  | case4 soFar index a b c d rest unit found ih =>
      have size : byteCount ['\\', 'u', a, b, c, d] = 6 := by
        simp only [hexUnit, Option.bind_eq_bind, Option.bind_eq_some_iff] at found
        obtain ⟨_, first, _, second, _, third, _, fourth, -⟩ := found
        simp only [byteCount_cons, utf8Size_of_hexValue first, utf8Size_of_hexValue second,
          utf8Size_of_hexValue third, utf8Size_of_hexValue fourth]
        rfl
      exact ih.after _ size
  | case9 soFar index c rest _ _ settled character found ih =>
      have size : byteCount ['\\', c] = 2 := by
        rw [byteCount_cons, byteCount_cons, utf8Size_of_simpleEscape found]
        rfl
      exact ih.after _ size
  | case12 soFar index c rest _ _ _ _ _ settled visible ih => exact after_cons rfl ih
  | case1 | case3 | case5 | case6 | case7 | case8 | case10 | case11 =>
      exact of_rest_eq_nil (textBroken_rest ..)

theorem ascii_of_wordOf {c : Char} {kind : TokenKind} {letters : List Char}
    (found : wordOf c = some (kind, letters)) :
    c.utf8Size = 1 ∧ ∀ letter ∈ letters, letter.utf8Size = 1 := by
  unfold wordOf at found
  split_ifs at found with null true false <;> subst c <;> cases found <;> refine ⟨rfl, ?_⟩ <;>
    simp only [List.forall_mem_cons, List.not_mem_nil, false_implies, implies_true, and_true] <;>
    decide

/-- A token is a part of the text from its front, and its end is counted right. -/
theorem counts_scanToken (index : Nat) (c : Char) (rest : List Char) :
    (scanToken index c rest).Counts index (c :: rest) := by
  unfold scanToken
  split
  · next mark isMark => exact after_cons (utf8Size_of_markOf isMark) (here _ _ _)
  · split_ifs with quote minus digit
    · subst quote
      exact after_cons (n := 1) rfl (counts_scanText ..)
    · subst minus
      exact after_cons (n := 1) rfl (counts_scanNumber ..)
    · exact counts_scanNumber ..
    · split
      · next kind letters isWord =>
          obtain ⟨single, ascii⟩ := ascii_of_wordOf isWord
          exact after_cons single (counts_scanWord _ _ ascii _)
      · exact of_rest_eq_nil rfl

/-! ## Tokens -/

/-- The token stands in a text of which `index` bytes were read before: its place is a character of
the text, and from there the scanner reads this token. -/
def Token.StandsIn (index : Nat) (text : List Char) (token : Token) : Prop :=
  ∃ before c rest, text = before ++ c :: rest ∧ token.start = index + byteCount before ∧
    token.kind = (scanToken token.start c rest).kind

theorem Token.StandsIn.after {index n : Nat} {front text : List Char} {token : Token}
    (size : byteCount front = n) (stands : token.StandsIn (index + n) text) :
    token.StandsIn index (front ++ text) := by
  obtain ⟨before, c, rest, rfl, place, kind⟩ := stands
  refine ⟨front ++ before, c, rest, (List.append_assoc ..).symm, ?_, kind⟩
  rw [place, byteCount_append, size, Nat.add_assoc]

theorem tokens_nil (index : Nat) : tokens index [] = ([], index) := by
  rw [tokens]

/-- Every token of a text stands in the text. -/
theorem standsIn_of_mem_tokens {index : Nat} {text : List Char} {token : Token}
    (member : token ∈ (tokens index text).1) : token.StandsIn index text := by
  -- The induction follows the cutting; what one token took is the front of the text for the others.
  fun_induction tokens index text with
  | case1 => simp at member
  | case2 index c rest blank ih =>
      have size : byteCount [c] = 1 := by
        rw [byteCount_cons, utf8Size_of_isBlank blank]
        rfl
      exact (ih member).after size
  | case3 index c rest visible scanned others size cut ih =>
      rw [cut] at ih
      rcases List.mem_cons.mp member with rfl | later
      · exact ⟨[], c, rest, rfl, rfl, rfl⟩
      · have counts : scanned.Counts index (c :: rest) := counts_scanToken index c rest
        rcases counts with nothing | ⟨taken, whole, stop⟩
        · rw [nothing, tokens_nil, Prod.mk.injEq] at cut
          rw [← cut.1] at later
          cases later
        · rw [whole]
          exact (stop ▸ ih later).after rfl

end DevicePanel.Json
