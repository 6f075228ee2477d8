import DevicePanel.Proofs.Url.Percent
import DevicePanel.Url.Form

/-!
# Form-encoded pairs

Decoding gives back the pairs that were encoded.  No ampersand and no equals sign is left in an
encoded text, so that the signs between the texts are found again; and a plus sign is itself
encoded, so that each plus sign that is left stands for a blank.
-/

namespace DevicePanel.Text.Utf8

theorem decodeLossy_encode (text : List Char) : decodeLossy (encode text) = text := by
  have kept : (fun part : Option Char => part.getD replacement) ∘ some = id := rfl
  rw [decodeLossy, parts_encode, List.map_map, kept, List.map_id]

end DevicePanel.Text.Utf8

namespace DevicePanel.Url

/-! ## Splitting at a sign -/

theorem splitAt_of_notMem {separator : Char} {piece : List Char} (free : separator ∉ piece) :
    splitAt separator piece = [piece] := by
  induction piece with
  | nil => rfl
  | cons c piece ih =>
      obtain ⟨first, others⟩ := List.ne_and_not_mem_of_not_mem_cons free
      simp [splitAt, Ne.symm first, ih others]

theorem splitAt_append_cons {separator : Char} {piece : List Char} (free : separator ∉ piece)
    (rest : List Char) :
    splitAt separator (piece ++ separator :: rest) = piece :: splitAt separator rest := by
  induction piece with
  | nil => simp [splitAt]
  | cons c piece ih =>
      obtain ⟨first, others⟩ := List.ne_and_not_mem_of_not_mem_cons free
      simp [splitAt, Ne.symm first, ih others]

/-- Pieces with a sign between them are found again, if there is one at least. -/
theorem splitAt_flatten_intersperse {separator : Char} {pieces : List (List Char)}
    (free : ∀ piece ∈ pieces, separator ∉ piece) (some : pieces ≠ []) :
    splitAt separator (pieces.intersperse [separator]).flatten = pieces := by
  induction pieces with
  | nil => exact absurd rfl some
  | cons piece pieces ih =>
      obtain ⟨first, others⟩ := List.forall_mem_cons.mp free
      cases pieces with
      | nil => simpa using splitAt_of_notMem first
      | cons next pieces =>
          simpa [splitAt_append_cons first] using ih others (List.cons_ne_nil _ _)

namespace Form

open DevicePanel.Text

/-! ## Single texts -/

theorem mem_encodeByte {c : Char} {byte : Nat} (member : c ∈ Percent.encodeByte byte) :
    c = '%' ∨ c.isAlphanum = true := by
  have digits : ∀ n < 16, (Nat.digitChar n).toUpper.isAlphanum = true := by decide
  simp only [Percent.encodeByte, Percent.hexDigit, List.mem_cons, List.not_mem_nil, or_false]
    at member
  rcases member with rfl | rfl | rfl
  · exact Or.inl rfl
  · exact Or.inr (digits _ (Nat.mod_lt _ (by decide)))
  · exact Or.inr (digits _ (Nat.mod_lt _ (by decide)))

/-- The characters that may stand in an encoded text. -/
theorem mem_encode {c : Char} {text : List Char} (member : c ∈ encode text) :
    isPlain c = true ∨ c = '+' ∨ c = '%' := by
  obtain ⟨d, -, member⟩ := List.mem_flatMap.mp member
  split at member
  · rename_i plain
    exact Or.inl (List.mem_singleton.mp member ▸ plain)
  · split at member
    · exact Or.inr (Or.inl (List.mem_singleton.mp member))
    · obtain ⟨byte, -, member⟩ := List.mem_flatMap.mp member
      rcases mem_encodeByte member with percent | digit
      · exact Or.inr (Or.inr percent)
      · exact Or.inl (by simp [isPlain, digit])

theorem ampersand_notMem_encode (text : List Char) : '&' ∉ encode text := fun member =>
  absurd (mem_encode member) (by decide)

theorem equals_notMem_encode (text : List Char) : '=' ∉ encode text := fun member =>
  absurd (mem_encode member) (by decide)

/-- A character that is percent-encoded in a form. -/
def isEscaped (c : Char) : Bool := !isPlain c && c != ' '

/-- With its plus signs read as blanks, an encoded text is percent-encoded. -/
theorem map_encode (text : List Char) :
    (encode text).map (fun c => if c = '+' then ' ' else c) = Percent.encode isEscaped text := by
  rw [encode, Percent.encode, List.map_flatMap]
  refine List.flatMap_congr fun c _ => ?_
  by_cases plain : isPlain c = true
  · have noPlus : c ≠ '+' := by
      rintro rfl
      exact absurd plain (by decide)
    simp [isEscaped, plain, noPlus]
  · by_cases blank : c = ' '
    · subst blank
      decide
    · have unchanged : ∀ d ∈ (Utf8.encodeChar c).flatMap Percent.encodeByte,
          (if d = '+' then ' ' else d) = d := by
        intro d member
        obtain ⟨byte, -, member⟩ := List.mem_flatMap.mp member
        refine if_neg ?_
        rintro rfl
        exact absurd (mem_encodeByte member) (by decide)
      have escaped : isEscaped c = true := by simp [isEscaped, plain, blank]
      rw [if_neg plain, if_neg blank, if_pos escaped, List.map_congr_left unchanged, List.map_id']

theorem decode_encode (text : List Char) : decode (encode text) = text := by
  rw [decode, map_encode, Percent.decodeBytes_encode (by decide), Utf8.decodeLossy_encode]

/-! ## Pairs -/

/-- A pair as it is written. -/
def encodePair (pair : List Char × List Char) : List Char :=
  encode pair.1 ++ '=' :: encode pair.2

theorem ampersand_notMem_encodePair (pair : List Char × List Char) : '&' ∉ encodePair pair := by
  simp [encodePair, ampersand_notMem_encode]

theorem decode_encodePair (pair : List Char × List Char) :
    decode ((encodePair pair).takeWhile (· != '=')) = pair.1 ∧
      decode (((encodePair pair).dropWhile (· != '=')).drop 1) = pair.2 := by
  have name : ∀ c ∈ encode pair.1, (c != '=') = true := fun c member => bne_iff_ne.mpr fun same =>
    equals_notMem_encode pair.1 (same ▸ member)
  rw [encodePair, List.takeWhile_append_of_pos name, List.dropWhile_append_of_pos name]
  simp [decode_encode]

/-- Pairs are decoded as they were encoded. -/
theorem decodePairs_encodePairs (pairs : List (List Char × List Char)) :
    decodePairs (encodePairs pairs) = pairs := by
  by_cases none : pairs = []
  · subst none
    rfl
  · have written : encodePairs pairs = ((pairs.map encodePair).intersperse ['&']).flatten := rfl
    have free : ∀ piece ∈ pairs.map encodePair, '&' ∉ piece := by
      rw [List.forall_mem_map]
      exact fun pair _ => ampersand_notMem_encodePair pair
    have kept : (pairs.map encodePair).filter (fun piece => !piece.isEmpty) =
        pairs.map encodePair := by
      rw [List.filter_eq_self, List.forall_mem_map]
      exact fun pair _ => by simp [encodePair]
    rw [written, decodePairs, splitAt_flatten_intersperse free (by simpa using none), kept,
      List.map_map]
    refine (List.map_congr_left fun pair _ => ?_).trans (List.map_id _)
    exact Prod.ext (decode_encodePair pair).1 (decode_encodePair pair).2

end Form

end DevicePanel.Url
