import DevicePanel.Proofs.Text.Scanning
import DevicePanel.Settings.Variable

/-!
# What the text of a variable is read as

The text of a variable is a number, a truth value, a list or a table if it looks like one.  A text
that has no blanks at its ends, begins with no bracket and no quote, is neither `true` nor `false`,
and has a character that no number has, stays as it is.
-/

namespace DevicePanel

/-! ## The characters of numbers -/

namespace Number.Decimal

/-- A character that a number may have. -/
def isNumberChar (c : Char) : Bool :=
  c.isDigit || c == '+' || c == '-' || c == '.' || c == 'e' || c == 'E'

theorem isNumberChar_of_isDigit (c : Char) (isDigit : c.isDigit = true) :
    isNumberChar c = true := by
  simp [isNumberChar, isDigit]

theorem takes_sign : Scan.Takes isNumberChar sign := by
  refine (Scan.takes_one ?_).option.bind fun found => ?_
  · intro c isSign
    rcases (Bool.or_eq_true _ _).mp isSign with plus | minus
    · simp [isNumberChar, plus]
    · simp [isNumberChar, minus]
  · cases found <;> exact Scan.takes_pure _

theorem takes_power : Scan.Takes isNumberChar power := by
  refine (Scan.takes_one ?_).bind fun _ => takes_sign.bind fun _ =>
    (Scan.takes_someRun isNumberChar_of_isDigit).bind fun _ => Scan.takes_pure _
  intro c isLetter
  rcases (Bool.or_eq_true _ _).mp isLetter with small | great
  · simp [isNumberChar, small]
  · simp [isNumberChar, great]

theorem takes_real : Scan.Takes isNumberChar real :=
  takes_sign.bind fun _ => (Scan.takes_run isNumberChar_of_isDigit).bind fun _ =>
    ((Scan.takes_mark (by decide)).bind fun _ =>
      Scan.takes_run isNumberChar_of_isDigit).option.bind fun _ =>
        (Scan.takes_require _).bind fun _ => takes_power.option.bind fun _ => Scan.takes_pure _

section

variable {text : String} (strange : ∃ c ∈ text.toList, isNumberChar c = false)

include strange

theorem whole?_eq_none {α : Type} {scan : Scan α} (takes : Scan.Takes isNumberChar scan) :
    Scan.whole? scan text = none := by
  obtain ⟨c, member, noNumber⟩ := strange
  refine Option.eq_none_iff_forall_ne_some.mpr fun value read => ?_
  simp [takes.of_whole? read c member] at noNumber

theorem real?_of_strange : real? text = none := whole?_eq_none strange takes_real

theorem natural?_of_strange : natural? text = none :=
  whole?_eq_none strange ((Scan.takes_mark (by decide)).option.bind fun _ =>
    (Scan.takes_someRun isNumberChar_of_isDigit).bind fun _ => Scan.takes_pure _)

theorem whole?_of_strange : whole? text = none :=
  whole?_eq_none strange (takes_sign.bind fun _ =>
    (Scan.takes_someRun isNumberChar_of_isDigit).bind fun _ => Scan.takes_pure _)

end

end Number.Decimal

/-! ## Blanks at the ends -/

theorem Text.trim_of_ends {text : List Char} (first : ∀ c ∈ text.head?, Text.isBlank c = false)
    (last : ∀ c ∈ text.getLast?, Text.isBlank c = false) : Text.trim text = text := by
  have stays {text : List Char} (first : ∀ c ∈ text.head?, Text.isBlank c = false) :
      text.dropWhile Text.isBlank = text := by
    cases text with
    | nil => rfl
    | cons c text => exact List.dropWhile_cons_of_neg (by simp [first c rfl])
  have back : text.reverse.dropWhile Text.isBlank = text.reverse :=
    stays (by rwa [List.head?_reverse])
  rw [Text.trim, stays first, Text.trimEnd, back, List.reverse_reverse]

namespace Settings.Variable

/-! ## The layer of what is read -/

theorem layer_plainDatum (text : String) : (plainDatum text).layer = .environment := by
  unfold plainDatum
  dsimp only
  split
  · rfl
  · split
    · split_ifs <;> rfl
    · split
      · split_ifs <;> rfl
      · rfl

theorem gives_datum (depth : Nat) :
    Scan.Gives (datum depth) fun value => value.layer = .environment := by
  cases depth with
  | zero => exact Scan.gives_failure _
  | succ depth =>
      unfold datum
      refine Scan.gives_bind _ fun _ => Scan.Gives.bind ?_ fun value isOurs =>
        Scan.gives_bind _ fun _ => Scan.gives_pure isOurs
      refine .orElse (Scan.gives_bind _ fun _ => Scan.gives_pure rfl) ?_
      refine .orElse (Scan.gives_bind _ fun _ => Scan.gives_pure rfl) ?_
      refine Scan.gives_bind _ fun next => ?_
      split
      · exact Scan.gives_bind _ fun _ => Scan.gives_pure rfl
      · exact Scan.gives_bind _ fun _ => Scan.gives_pure rfl
      · exact Scan.gives_bind _ fun _ => Scan.gives_pure rfl
      · exact Scan.gives_bind _ fun _ => Scan.gives_bind _ fun _ => Scan.gives_bind _ fun _ =>
          Scan.gives_pure rfl
      · exact Scan.gives_bind _ fun _ => Scan.gives_pure (layer_plainDatum _)

theorem layer_datumOf (text : String) : (datumOf text).layer = .environment := by
  unfold datumOf
  cases read : Scan.whole? (datum (text.length + 1)) text with
  | none => rfl
  | some value => exact (gives_datum _).of_whole? read

/-! ## Texts that stay as they are -/

/-- The text has no blanks at its ends, begins with no bracket and no quote, is not a truth value,
and has a character that no number has. -/
structure StaysText (text : String) : Prop where
  first : ∀ c ∈ text.toList.head?, Text.isBlank c = false ∧ c ∉ ['\x7b', '[', '"', '\'']
  last : ∀ c ∈ text.toList.getLast?, Text.isBlank c = false
  noTruth : text ≠ "true" ∧ text ≠ "false"
  noNumber : ∃ c ∈ text.toList, Number.Decimal.isNumberChar c = false

theorem plainDatum_of_strange {text : String}
    (strange : ∃ c ∈ text.toList, Number.Decimal.isNumberChar c = false) :
    plainDatum text = .text .environment text := by
  simp [plainDatum, Number.Decimal.real?_of_strange strange,
    Number.Decimal.natural?_of_strange strange, Number.Decimal.whole?_of_strange strange]

theorem isAsciiBlank_eq_false {c : Char} (noBlank : Text.isBlank c = false) :
    Text.isAsciiBlank c = false := by
  rw [Bool.eq_false_iff] at noBlank ⊢
  intro blank
  refine noBlank ?_
  simp only [Text.isAsciiBlank, Bool.or_eq_true, beq_iff_eq] at blank
  rcases blank with (((rfl | rfl) | rfl) | rfl) | rfl <;> decide

theorem blanks_apply (text : List Char) :
    blanks text = some ((), text.dropWhile Text.isAsciiBlank) := rfl

theorem plain_apply (text : List Char) :
    plain text =
      some (plainDatum (String.ofList (Text.trim (text.takeWhile fun c => !isBracket c))),
        text.dropWhile fun c => !isBracket c) := rfl

section

variable {text : String} (stays : StaysText text)

include stays

theorem StaysText.dropWhile_eq : text.toList.dropWhile Text.isAsciiBlank = text.toList := by
  obtain ⟨c, member, -⟩ := stays.noNumber
  obtain ⟨first, rest, isText⟩ := List.exists_cons_of_ne_nil (List.ne_nil_of_mem member)
  have noBlank := isAsciiBlank_eq_false (stays.first first (by rw [isText]; rfl)).1
  rw [isText]
  exact List.dropWhile_cons_of_neg (by simp [noBlank])

/-- Whatever stands at the end of the text is not all blank. -/
theorem StaysText.left_ne_nil {front rest : List Char} (isText : text.toList = front ++ rest)
    (left : rest ≠ []) : rest.dropWhile Text.isAsciiBlank ≠ [] := by
  intro allBlank
  have isLast : text.toList.getLast? = some (rest.getLast left) := by
    rw [isText, List.getLast?_append, List.getLast?_eq_some_getLast left, Option.some_or]
  have noBlank := isAsciiBlank_eq_false (stays.last _ isLast)
  have blank := List.dropWhile_eq_nil_iff.mp allBlank _ (List.getLast_mem left)
  simp [noBlank] at blank

/-- A value that is followed by more is no value. -/
theorem StaysText.datumOf_of_rest {value : Datum} {front rest : List Char}
    (isText : text.toList = front ++ rest) (left : rest ≠ [])
    (read : datum (text.length + 1) text.toList =
      some (value, rest.dropWhile Text.isAsciiBlank)) :
    datumOf text = .text .environment text := by
  rw [datumOf, Scan.whole?_of_rest read (stays.left_ne_nil isText left), Option.getD_none]

theorem StaysText.datum_of_true {rest : List Char} (isText : text.toList = "true".toList ++ rest) :
    datum (text.length + 1) text.toList =
      some (.bool .environment true, rest.dropWhile Text.isAsciiBlank) := by
  rw [datum, Scan.bind_of_some (blanks_apply _), stays.dropWhile_eq, isText,
    Scan.bind_of_some (Scan.orElse_of_some
      (Scan.bind_of_some (Scan.word_append "true" rest) _) _)]
  rfl

theorem StaysText.datum_of_false {rest : List Char}
    (isText : text.toList = "false".toList ++ rest) :
    datum (text.length + 1) text.toList =
      some (.bool .environment false, rest.dropWhile Text.isAsciiBlank) := by
  have noTrue : ¬ "true".toList <+: "false".toList ++ rest := by simp
  rw [datum, Scan.bind_of_some (blanks_apply _), stays.dropWhile_eq, isText,
    Scan.bind_of_some ((Scan.orElse_of_none
      (Scan.bind_of_none (Scan.word_of_not_prefix noTrue) _) _).trans (Scan.orElse_of_some
        (Scan.bind_of_some (Scan.word_append "false" rest) _) _))]
  rfl

theorem StaysText.datum_of_plain (noTrue : ¬ "true".toList <+: text.toList)
    (noFalse : ¬ "false".toList <+: text.toList) :
    datum (text.length + 1) text.toList =
      some (plainDatum (String.ofList (Text.trim (text.toList.takeWhile fun c => !isBracket c))),
        (text.toList.dropWhile fun c => !isBracket c).dropWhile Text.isAsciiBlank) := by
  have here : Scan.ahead text.toList = some (text.toList.head?, text.toList) := rfl
  rw [datum, Scan.bind_of_some (blanks_apply _), stays.dropWhile_eq]
  refine (Scan.bind_of_some ?_ _).trans rfl
  rw [Scan.orElse_of_none (Scan.bind_of_none (Scan.word_of_not_prefix noTrue) _),
    Scan.orElse_of_none (Scan.bind_of_none (Scan.word_of_not_prefix noFalse) _),
    Scan.bind_of_some here]
  -- The text begins with none of the characters that open another kind of value.
  have unopened {c : Char} (opened : text.toList.head? = some c) :=
    (stays.first c opened).2
  refine (congrFun (?_ : _ = plain) _).trans (plain_apply _)
  split
  · rename_i opened
    exact absurd (by simp) (unopened opened)
  · rename_i opened
    exact absurd (by simp) (unopened opened)
  · rename_i opened
    exact absurd (by simp) (unopened opened)
  · rename_i opened
    exact absurd (by simp) (unopened opened)
  · rfl

theorem datumOf_of_staysText : datumOf text = .text .environment text := by
  have left {word : String} {rest : List Char} (isText : text.toList = word.toList ++ rest)
      (differs : text ≠ word) : rest ≠ [] := by
    rintro rfl
    exact differs (String.toList_inj.mp (by simpa using isText))
  by_cases isTrue : "true".toList <+: text.toList
  · obtain ⟨rest, isText⟩ := isTrue
    exact stays.datumOf_of_rest isText.symm (left isText.symm stays.noTruth.1)
      (stays.datum_of_true isText.symm)
  · by_cases isFalse : "false".toList <+: text.toList
    · obtain ⟨rest, isText⟩ := isFalse
      exact stays.datumOf_of_rest isText.symm (left isText.symm stays.noTruth.2)
        (stays.datum_of_false isText.symm)
    · have read := stays.datum_of_plain isTrue isFalse
      by_cases ended : (text.toList.dropWhile fun c => !isBracket c) = []
      · have noBracket := List.dropWhile_eq_nil_iff.mp ended
        have whole : (text.toList.takeWhile fun c => !isBracket c) = text.toList :=
          List.takeWhile_eq_self_iff.mpr noBracket
        have trimmed := Text.trim_of_ends (fun c isFirst => (stays.first c isFirst).1) stays.last
        rw [ended, whole, trimmed, String.ofList_toList,
          plainDatum_of_strange stays.noNumber] at read
        rw [datumOf, Scan.whole?_of_some read, Option.getD_some]
      · exact stays.datumOf_of_rest List.takeWhile_append_dropWhile.symm ended read

end

end Settings.Variable

end DevicePanel
