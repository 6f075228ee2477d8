import DevicePanel.Proofs.Toml.ManyLines

/-!
# Texts of a document are read back

A text is written in one of four spellings and a key in three, and what is written is read as the
text.  The spelling is chosen so that what stands between the quotes can be written in it.
-/

namespace DevicePanel.Toml

/-! ## The spelling of a text -/

theorem spellingOf_literal {text : List Char} (literal : spellingOf text = .literal) :
    ∀ c ∈ text, isLiteral c = true := by
  simp only [spellingOf] at literal
  split_ifs at literal with basic single
  simp only [Bool.and_eq_true, Bool.not_eq_true', List.any_eq_false, decide_eq_true_eq,
    List.contains_eq_mem, decide_eq_false_iff_not] at single
  obtain ⟨⟨clear, noQuote⟩, noLine⟩ := single
  intro c member
  rcases isLiteral_or (Bool.eq_false_iff.mpr (clear c member)) with rfl | rfl | literal
  · exact absurd member noLine
  · exact absurd member (not_mem_of_longestRun noQuote)
  · exact literal

theorem spellingOf_literalLines {text : List Char} (literal : spellingOf text = .literalLines) :
    (∀ c ∈ text, needsEscape c = false) ∧ longestRun '\'' text ≤ 2 := by
  simp only [spellingOf] at literal
  split_ifs at literal with basic single double lines
  simpa using lines

theorem keySpellingOf_literal {key : List Char} (literal : keySpellingOf key = .literal) :
    ∀ c ∈ key, isLiteral c = true := by
  simp only [keySpellingOf] at literal
  split_ifs at literal with basic single
  simp only [Bool.and_eq_true, Bool.not_eq_true', Bool.or_eq_false_iff, List.any_eq_false,
    List.contains_eq_mem, decide_eq_false_iff_not] at single
  obtain ⟨⟨clear, noLine⟩, noQuote⟩ := single
  intro c member
  rcases isLiteral_or (Bool.eq_false_iff.mpr (clear c member)) with rfl | rfl | literal
  · exact absurd member noLine
  · exact absurd member noQuote
  · exact literal

theorem keySpellingOf_cases (key : List Char) :
    keySpellingOf key = .basic ∨ keySpellingOf key = .literal := by
  simp only [keySpellingOf]
  split_ifs <;> simp

/-! ## Texts and keys -/

theorem not_prefix_spell_basic (text : List Char) {rest : List Char}
    (stops : rest.head? ≠ some '"') :
    ¬ "\"\"\"".toList <+: spell .basic text ++ rest := by
  simp only [toList_threeDouble, spell, List.cons_append, List.append_assoc, List.nil_append,
    List.cons_prefix_cons, true_and]
  rintro ⟨after, here⟩
  cases text with
  | nil =>
      have front : rest = '"' :: after := by simpa [basicBody] using here.symm
      simp [front] at stops
  | cons c text =>
      rw [basicBody] at here
      by_cases quote : c = '"'
      · simp [quote] at here
      · rw [if_neg quote] at here
        rcases escaped_cases false quote with ⟨itself, -⟩ | ⟨-, -, lines⟩ |
          ⟨mark, tail, written, -, -, -, -⟩
        · simp [itself, Ne.symm quote] at here
        · cases lines
        · simp [written] at here

theorem not_prefix_spell_literal {text : List Char} (literal : ∀ c ∈ text, isLiteral c = true)
    {rest : List Char} (stops : rest.head? ≠ some '\'') :
    ¬ "'''".toList <+: spell .literal text ++ rest := by
  simp only [toList_threeSingle, spell, List.cons_append, List.append_assoc, List.nil_append,
    List.cons_prefix_cons, true_and]
  rintro ⟨after, here⟩
  cases text with
  | nil =>
      have front : rest = '\'' :: after := by simpa using here.symm
      simp [front] at stops
  | cons c text =>
      have same : c = '\'' := by
        have fronts := congrArg List.head? here
        simpa using fronts.symm
      subst same
      exact absurd (literal _ List.mem_cons_self) (by decide)

/-- A text is read back from what it is written as, unless a quote follows. -/
theorem text_writeText (value : String) {rest : List Char} (noDouble : rest.head? ≠ some '"')
    (noSingle : rest.head? ≠ some '\'') :
    text (writeText value ++ rest) = some (value, rest) := by
  have found : (basicLines <|> literalLines <|> basicText <|> literalText)
      (writeText value ++ rest) = some (value.toList, rest) := by
    unfold writeText
    cases spelling : spellingOf value.toList with
    | basicLines => exact Scan.orElse_of_some (basicLines_spell _ noDouble) _
    | literalLines =>
        obtain ⟨clear, few⟩ := spellingOf_literalLines spelling
        rw [Scan.orElse_of_none rfl]
        exact Scan.orElse_of_some (literalLines_spell noSingle clear few) _
    | basic =>
        have noLines : basicLines (spell .basic value.toList ++ rest) = none :=
          Scan.bind_of_none (Scan.word_of_not_prefix (not_prefix_spell_basic _ noDouble)) _
        rw [Scan.orElse_of_none noLines, Scan.orElse_of_none rfl]
        exact Scan.orElse_of_some (basicText_spell _ _) _
    | literal =>
        have literal := spellingOf_literal spelling
        have noLines : literalLines (spell .literal value.toList ++ rest) = none :=
          Scan.bind_of_none (Scan.word_of_not_prefix (not_prefix_spell_literal literal noSingle)) _
        rw [Scan.orElse_of_none rfl, Scan.orElse_of_none noLines, Scan.orElse_of_none rfl]
        exact literalText_spell literal rest
  rw [text, Scan.bind_of_some found, String.ofList_toList]
  rfl

/-- A text begins with a quote. -/
theorem head?_spell (spelling : Spelling) (text rest : List Char) :
    (spell spelling text ++ rest).head? = some '"' ∨
      (spell spelling text ++ rest).head? = some '\'' := by
  cases spelling <;> simp [spell]

theorem writeKey_eq (name : String) :
    writeKey name = if !name.isEmpty && name.toList.all isBare then name.toList
      else spell (keySpellingOf name.toList) name.toList := rfl

/-- A key without quotes. -/
def IsBareKey (name : String) : Prop := name.toList ≠ [] ∧ ∀ c ∈ name.toList, isBare c = true

theorem writeKey_cases (name : String) :
    (writeKey name = name.toList ∧ IsBareKey name) ∨
      writeKey name = spell (keySpellingOf name.toList) name.toList := by
  rw [writeKey_eq]
  split_ifs with bare
  · simp only [Bool.and_eq_true, Bool.not_eq_true', List.all_eq_true] at bare
    refine Or.inl ⟨rfl, fun empty => ?_, bare.2⟩
    obtain rfl := String.toList_eq_nil_iff.mp empty
    simp at bare
  · exact Or.inr rfl

theorem IsBareKey.head? {name : String} (bare : IsBareKey name) (rest : List Char) :
    ∃ c, (name.toList ++ rest).head? = some c ∧ isBare c = true := by
  obtain ⟨nonempty, all⟩ := bare
  refine ⟨name.toList.head nonempty, ?_, all _ (List.head_mem nonempty)⟩
  rw [List.head?_append, List.head?_eq_some_head nonempty]
  rfl

/-- A key begins with a quote or with a character of a key. -/
theorem head?_writeKey (name : String) (rest : List Char) :
    ∃ c, (writeKey name ++ rest).head? = some c ∧ (c = '"' ∨ c = '\'' ∨ isBare c = true) := by
  rcases writeKey_cases name with ⟨written, bare⟩ | written
  · obtain ⟨c, first, isBare⟩ := bare.head? rest
    exact ⟨c, written ▸ first, Or.inr (Or.inr isBare)⟩
  · rcases head?_spell (keySpellingOf name.toList) name.toList rest with double | single
    · exact ⟨'"', written ▸ double, Or.inl rfl⟩
    · exact ⟨'\'', written ▸ single, Or.inr (Or.inl rfl)⟩

theorem head?_writeKey_ne (name : String) (rest : List Char) {mark : Char}
    (other : mark ≠ '"' ∧ mark ≠ '\'' ∧ isBare mark = false) :
    (writeKey name ++ rest).head? ≠ some mark := by
  obtain ⟨c, first, kind⟩ := head?_writeKey name rest
  rw [first]
  rintro ⟨rfl⟩
  rcases kind with double | single | isKey
  · exact other.1 double
  · exact other.2.1 single
  · simp [other.2.2] at isKey

/-- A key is read back from what it is written as, unless a character of a key follows. -/
theorem key_writeKey (name : String) {rest : List Char}
    (stops : ∀ c ∈ rest.head?, isBare c = false) :
    key (writeKey name ++ rest) = some (name, rest) := by
  have found : (basicText <|> literalText <|> Scan.someRun isBare) (writeKey name ++ rest) =
      some (name.toList, rest) := by
    rcases writeKey_cases name with ⟨written, bare⟩ | written
    · obtain ⟨c, first, isKey⟩ := bare.head? rest
      have noQuote (quote : Char) (noKey : isBare quote = false) :
          (name.toList ++ rest).head? ≠ some quote := by
        rw [first]
        rintro ⟨rfl⟩
        simp [noKey] at isKey
      have noDouble : basicText (name.toList ++ rest) = none :=
        Scan.bind_of_none (Scan.mark_of_head? (noQuote '"' rfl)) _
      have noSingle : literalText (name.toList ++ rest) = none :=
        Scan.bind_of_none (Scan.mark_of_head? (noQuote '\'' rfl)) _
      rw [written, Scan.orElse_of_none noDouble, Scan.orElse_of_none noSingle]
      exact Scan.someRun_append bare.1 bare.2 stops
    · rw [written]
      rcases keySpellingOf_cases name.toList with basic | literal
      · rw [basic]
        exact Scan.orElse_of_some (basicText_spell _ _) _
      · rw [literal, Scan.orElse_of_none rfl]
        exact Scan.orElse_of_some (literalText_spell (keySpellingOf_literal literal) rest) _
  rw [key, Scan.bind_of_some found, String.ofList_toList]
  rfl

end DevicePanel.Toml
