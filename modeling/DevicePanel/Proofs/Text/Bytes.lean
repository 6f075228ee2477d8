import DevicePanel.Text.Utf8
import Mathlib.Data.List.Basic

/-!
# Texts and their bytes

The bytes of a text are read as the text again.  The first byte of a character tells how many
follow and within which bounds the next one stands; for the bytes of a character these are kept,
because the shorter forms and the surrogates are left out on both sides.
-/

namespace DevicePanel.Text.Utf8

theorem toNat_lt (c : Char) : c.toNat < 0x110000 := by
  rcases c.valid with low | high
  · exact Nat.lt_trans low (by decide)
  · exact high.2

theorem not_surrogate (c : Char) : c.toNat < 0xD800 ∨ 0xDFFF < c.toNat :=
  c.valid.imp id And.left

theorem lt_of_mem_encodeChar {c : Char} {byte : Nat} (member : byte ∈ encodeChar c) :
    byte < 256 := by
  have bound := toNat_lt c
  simp only [encodeChar] at member
  split at member
  · rw [List.mem_singleton] at member
    omega
  split at member
  · simp only [List.mem_cons, List.not_mem_nil, or_false] at member
    omega
  split at member
  · simp only [List.mem_cons, List.not_mem_nil, or_false] at member
    omega
  · simp only [List.mem_cons, List.not_mem_nil, or_false] at member
    omega

/-! ## First bytes -/

theorem opening_two : ∀ n < 32, 2 ≤ n → opening (0xC0 + n) = some (.inr ⟨n, 1, 0x80, 0xBF⟩) := by
  decide

theorem opening_three : ∀ n < 16, opening (0xE0 + n) =
    some (.inr ⟨n, 2, if n = 0 then 0xA0 else 0x80, if n = 0xD then 0x9F else 0xBF⟩) := by
  decide

theorem opening_four : ∀ n < 5, opening (0xF0 + n) =
    some (.inr ⟨n, 3, if n = 0 then 0x90 else 0x80, if n = 4 then 0x8F else 0xBF⟩) := by
  decide

/-! ## Further bytes -/

theorem parts_opening {byte : Nat} {start : Open} (opens : opening byte = some (.inr start))
    (bytes : List Nat) : parts none (byte :: bytes) = parts (some start) bytes := by
  simp [parts, opens]

theorem parts_more {start : Open} {byte : Nat} (least : start.low ≤ byte)
    (most : byte ≤ start.high) (missing : start.missing ≠ 1) (bytes : List Nat) :
    parts (some start) (byte :: bytes) =
      parts (some ⟨start.value * 64 + (byte - 0x80), start.missing - 1, 0x80, 0xBF⟩) bytes := by
  simp [parts, least, most, missing]

theorem parts_last {start : Open} {byte : Nat} (least : start.low ≤ byte)
    (most : byte ≤ start.high) (missing : start.missing = 1) (bytes : List Nat) :
    parts (some start) (byte :: bytes) =
      some (Char.ofNat (start.value * 64 + (byte - 0x80))) :: parts none bytes := by
  simp [parts, least, most, missing]

/-- The bytes of a character are read as the character. -/
theorem parts_encodeChar (c : Char) (bytes : List Nat) :
    parts none (encodeChar c ++ bytes) = some c :: parts none bytes := by
  have bound := toNat_lt c
  have notSurrogate := not_surrogate c
  have again {n : Nat} (same : n = c.toNat) : Char.ofNat n = c := by rw [same, Char.ofNat_toNat]
  simp only [encodeChar]
  split
  · rename_i small
    simp [parts, opening, small]
  split
  · rw [List.cons_append, parts_opening (opening_two _ (by omega) (by omega)), List.cons_append,
      parts_last (by simp) (by dsimp only; omega) rfl, List.nil_append, again (by dsimp only; omega)]
  split
  · rw [List.cons_append, parts_opening (opening_three _ (by omega)), List.cons_append,
      parts_more (by dsimp only; split <;> omega) (by dsimp only; split <;> omega) (by simp),
      List.cons_append, parts_last (by simp) (by dsimp only; omega) rfl, List.nil_append,
      again (by dsimp only; omega)]
  · rw [List.cons_append, parts_opening (opening_four _ (by omega)), List.cons_append,
      parts_more (by dsimp only; split <;> omega) (by dsimp only; split <;> omega) (by simp),
      List.cons_append, parts_more (by simp) (by dsimp only; omega) (by simp),
      List.cons_append, parts_last (by simp) (by dsimp only; omega) rfl, List.nil_append,
      again (by dsimp only; omega)]

theorem parts_encode (text : List Char) : parts none (encode text) = text.map some := by
  induction text with
  | nil => rfl
  | cons c text ih =>
      have split : encode (c :: text) = encodeChar c ++ encode text := List.flatMap_cons
      rw [split, parts_encodeChar, ih, List.map_cons]

theorem decode?_encode (text : List Char) : decode? (encode text) = some text := by
  rw [decode?, parts_encode]
  induction text with
  | nil => rfl
  | cons c text ih => simp [List.mapM_cons, ih]

end DevicePanel.Text.Utf8
