import DevicePanel.Proofs.Text.Bytes
import DevicePanel.Url.Percent

/-!
# Percent-encoded texts

Whichever characters of a text are encoded, decoding gives the text back, as long as the percent
sign is one of them.
-/

namespace DevicePanel.Url.Percent

open DevicePanel.Text

theorem hexValue?_hexDigit (n : Nat) : hexValue? (hexDigit n) = some (n % 16) := by
  have digits : ∀ n < 16, hexValue? n.digitChar.toUpper = some n := by decide
  exact digits (n % 16) (Nat.mod_lt n (by decide))

theorem decodeBytes_cons_of_ne {c : Char} (other : c ≠ '%') (rest : List Char) :
    decodeBytes (c :: rest) = Utf8.encodeChar c ++ decodeBytes rest := by
  rw [decodeBytes]
  simp [other]

theorem decodeBytes_encodeByte {byte : Nat} (small : byte < 256) (rest : List Char) :
    decodeBytes (encodeByte byte ++ rest) = byte :: decodeBytes rest := by
  have value : byte / 16 % 16 * 16 + byte % 16 = byte := by omega
  simp [encodeByte, decodeBytes, hexValue?_hexDigit, value]

theorem decodeBytes_encodeBytes {bytes : List Nat} (small : ∀ byte ∈ bytes, byte < 256)
    (rest : List Char) :
    decodeBytes (bytes.flatMap encodeByte ++ rest) = bytes ++ decodeBytes rest := by
  induction bytes with
  | nil => rfl
  | cons byte bytes ih =>
      obtain ⟨first, others⟩ := List.forall_mem_cons.mp small
      rw [List.flatMap_cons, List.append_assoc, decodeBytes_encodeByte first, ih others,
        List.cons_append]

variable {isEncoded : Char → Bool}

theorem decodeBytes_encode (percent : isEncoded '%' = true) (text : List Char) :
    decodeBytes (encode isEncoded text) = Utf8.encode text := by
  induction text with
  | nil => rfl
  | cons c text ih =>
      have written : encode isEncoded (c :: text) =
          (if isEncoded c then (Utf8.encodeChar c).flatMap encodeByte else [c]) ++
            encode isEncoded text := List.flatMap_cons
      have read : Utf8.encode (c :: text) = Utf8.encodeChar c ++ Utf8.encode text :=
        List.flatMap_cons
      rw [written, read, ← ih]
      by_cases encoded : isEncoded c = true
      · rw [if_pos encoded,
          decodeBytes_encodeBytes fun byte member => Utf8.lt_of_mem_encodeChar member]
      · have other : c ≠ '%' := by
          rintro rfl
          exact encoded percent
        rw [if_neg encoded, List.singleton_append, decodeBytes_cons_of_ne other]

theorem decode?_encode (percent : isEncoded '%' = true) (text : List Char) :
    decode? (encode isEncoded text) = some text := by
  rw [decode?, decodeBytes_encode percent, Utf8.decode?_encode]

end DevicePanel.Url.Percent
