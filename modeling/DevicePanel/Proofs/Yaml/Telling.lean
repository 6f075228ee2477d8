import DevicePanel.Yaml.Printer
import Mathlib.Algebra.Group.Nat.Defs
import Mathlib.Data.List.TakeWhile

/-!
# What a YAML document tells

No two texts are written alike, whichever forms they are written in: the first character tells the
form, and in each form the text can be told from what follows its line.  So a document of texts
under known keys tells these texts.
-/

namespace DevicePanel.Yaml

open DevicePanel.Json (Value hexDigit)

/-! ## Characters between quotes -/

section

variable {code : Char → List Char}

/-- Characters that are told apart one by one are told apart in a row. -/
theorem eq_of_flatMap_eq
    (cancel : ∀ {c d : Char} {rest rest' : List Char}, code c ++ rest = code d ++ rest' →
      c = d ∧ rest = rest')
    (written : ∀ c, code c ≠ []) {text other : List Char}
    (same : text.flatMap code = other.flatMap code) : text = other := by
  induction text generalizing other with
  | nil =>
      cases other with
      | nil => rfl
      | cons d other =>
          simp only [List.flatMap_nil, List.flatMap_cons] at same
          exact absurd (List.append_eq_nil_iff.mp same.symm).1 (written d)
  | cons c text ih =>
      cases other with
      | nil =>
          simp only [List.flatMap_nil, List.flatMap_cons] at same
          exact absurd (List.append_eq_nil_iff.mp same).1 (written c)
      | cons d other =>
          rw [List.flatMap_cons, List.flatMap_cons] at same
          obtain ⟨rfl, rest⟩ := cancel same
          rw [ih rest]

end

theorem length_hexDigits (count n : Nat) : (hexDigits count n).length = count := by
  induction count generalizing n with
  | zero => rfl
  | succ count ih => simp [hexDigits, ih]

theorem eq_of_hexDigit_eq {n m : Nat} (same : (hexDigit n).toUpper = (hexDigit m).toUpper) :
    n % 16 = m % 16 := by
  have all : ∀ a b : Fin 16, (Nat.digitChar a).toUpper = (Nat.digitChar b).toUpper → a = b := by
    decide
  exact congrArg Fin.val (all ⟨n % 16, Nat.mod_lt n (by decide)⟩ ⟨m % 16, Nat.mod_lt m (by decide)⟩
    same)

theorem eq_of_hexDigits_eq {count n m : Nat} (small : n < 16 ^ count) (small' : m < 16 ^ count)
    (same : hexDigits count n = hexDigits count m) : n = m := by
  induction count generalizing n m with
  | zero => omega
  | succ count ih =>
      rw [Nat.pow_succ] at small small'
      obtain ⟨high, low⟩ := List.append_inj' same rfl
      have high := ih (by omega) (by omega) high
      have low := eq_of_hexDigit_eq (List.singleton_inj.mp low)
      omega

theorem newline_notMem_hexDigits (count n : Nat) : '\n' ∉ hexDigits count n := by
  have digit : ∀ a : Fin 16, '\n' ≠ (Nat.digitChar a).toUpper := by decide
  induction count generalizing n with
  | zero => exact List.not_mem_nil
  | succ count ih =>
      rw [hexDigits, List.mem_append, List.mem_singleton]
      exact not_or.mpr ⟨ih (n / 16), digit ⟨n % 16, Nat.mod_lt n (by decide)⟩⟩

/-- How a character may be written between double quotes. -/
inductive Escaped (c : Char) : List Char → Prop where
  | itself : c ≠ '\\' → c ≠ '\n' → Escaped c [c]
  | letter {letter : Char} : (c.toNat, letter) ∈ escapeLetters → Escaped c ['\\', letter]
  | number {sign : Char} {count : Nat} : (sign, count) ∈ [('x', 2), ('u', 4), ('U', 8)] →
      c.toNat < 16 ^ count → Escaped c ('\\' :: sign :: hexDigits count c.toNat)

theorem escaped_cases (c : Char) : Escaped c (escaped c) := by
  unfold escaped
  dsimp only
  split
  · next letter found =>
      obtain ⟨before, after, split, -⟩ := List.lookup_eq_some_iff.mp found
      exact .letter (by simp [split])
  · next unlettered =>
      split
      · refine .itself ?_ ?_
        · rintro rfl
          cases unlettered
        · rintro rfl
          cases unlettered
      split
      · exact .number (by simp) (by omega)
      split
      · exact .number (by simp) (by omega)
      · exact .number (by simp) (by simpa using c.val.toNat_lt)

theorem newline_notMem_escaped (c : Char) : '\n' ∉ escaped c := by
  have written := escaped_cases c
  generalize escaped c = piece at written
  cases written with
  | itself _ other => simpa using other.symm
  | letter member =>
      have letters : ∀ pair ∈ escapeLetters, '\n' ≠ pair.2 := by decide
      simpa using letters _ member
  | @number sign count member =>
      have signs : ∀ pair ∈ [('x', 2), ('u', 4), ('U', 8)], '\n' ≠ pair.1 := by decide
      simpa [newline_notMem_hexDigits] using signs _ member

theorem escaped_cancel {c d : Char} {rest rest' : List Char}
    (same : escaped c ++ rest = escaped d ++ rest') : c = d ∧ rest = rest' := by
  have first := escaped_cases c
  have second := escaped_cases d
  generalize escaped c = piece, escaped d = piece' at *
  have letters : ∀ pair ∈ escapeLetters, ∀ other ∈ escapeLetters,
      pair.2 = other.2 → pair.1 = other.1 := by decide
  have apart : ∀ pair ∈ escapeLetters,
      ∀ other ∈ [('x', 2), ('u', 4), ('U', 8)], pair.2 ≠ other.1 := by decide
  have signs : ∀ pair ∈ [('x', 2), ('u', 4), ('U', 8)],
      ∀ other ∈ [('x', 2), ('u', 4), ('U', 8)], pair.1 = other.1 → pair.2 = other.2 := by decide
  cases first with
  | itself plain =>
      cases second with
      | itself => simpa using same
      | letter => exact absurd (List.cons.inj same).1 plain
      | number => exact absurd (List.cons.inj same).1 plain
  | letter member =>
      cases second with
      | itself plain => exact absurd (List.cons.inj same).1.symm plain
      | letter member' =>
          simp only [List.cons_append, List.nil_append, List.cons.injEq, true_and] at same
          exact ⟨Char.toNat_inj.mp (letters _ member _ member' same.1), same.2⟩
      | number member' =>
          simp only [List.cons_append, List.nil_append, List.cons.injEq, true_and] at same
          exact absurd same.1 (apart _ member _ member')
  | number member small =>
      cases second with
      | itself plain => exact absurd (List.cons.inj same).1.symm plain
      | letter member' =>
          simp only [List.cons_append, List.nil_append, List.cons.injEq, true_and] at same
          exact absurd same.1.symm (apart _ member' _ member)
      | number member' small' =>
          simp only [List.cons_append, List.cons.injEq, true_and] at same
          obtain rfl := signs _ member _ member' same.1
          obtain ⟨digits, rest⟩ := List.append_inj same.2 (by simp [length_hexDigits])
          exact ⟨Char.toNat_inj.mp (eq_of_hexDigits_eq small small' digits), rest⟩

theorem escaped_ne_nil (c : Char) : escaped c ≠ [] := by
  have written := escaped_cases c
  generalize escaped c = piece at written
  cases written <;> exact List.cons_ne_nil _ _

theorem doubled_ne_nil (c : Char) : doubled c ≠ [] := by
  unfold doubled
  split <;> exact List.cons_ne_nil _ _

theorem doubled_cancel {c d : Char} {rest rest' : List Char}
    (same : doubled c ++ rest = doubled d ++ rest') : c = d ∧ rest = rest' := by
  have first : c = d := by
    have heads := congrArg List.head? same
    grind [doubled]
  obtain rfl := first
  exact ⟨rfl, List.append_cancel_left same⟩

/-! ## Lines -/

/-- What follows a line does not belong to an indented text. -/
def Begins (rest : List Char) : Prop := ∀ c, rest.head? = some c → c ≠ ' ' ∧ isBreak c = false

/-- A text ends its last line, where a line has begun or not. -/
def Whole : (atStart : Bool) → List Char → Prop
  | atStart, [] => atStart = true
  | _, c :: rest => Whole (isBreak c) rest

theorem whole_of_getLast? {text : List Char} (ends : text.getLast?.any isBreak = true)
    (atStart : Bool) : Whole atStart text := by
  induction text generalizing atStart with
  | nil => cases ends
  | cons c rest ih =>
      cases rest with
      | nil => exact ends
      | cons d rest => exact ih (by simpa using ends) (isBreak c)

theorem whole_append_newline (atStart : Bool) (text : List Char) :
    Whole atStart (text ++ ['\n']) := whole_of_getLast? (by simp; rfl) atStart

theorem whole_endLine (atStart : Bool) (text : List Char) : Whole atStart (endLine text) := by
  unfold endLine
  split
  · next ends => exact whole_of_getLast? ends atStart
  · exact whole_append_newline atStart text

theorem indentLines_cons (indent : Nat) (atStart : Bool) (c : Char) (rest : List Char) :
    indentLines indent atStart (c :: rest) =
      (if atStart && !isBreak c then blanks indent else []) ++
        c :: indentLines indent (isBreak c) rest := by
  rw [indentLines]
  cases atStart <;> cases isBreak c <;> rfl

theorem not_begins_indentLines (indent : Nat) (c : Char) (text rest : List Char) :
    ¬ Begins (indentLines (indent + 1) true (c :: text) ++ rest) := by
  rw [indentLines_cons]
  intro begins
  cases breaks : isBreak c with
  | true =>
      rw [breaks] at begins
      exact absurd ((begins c rfl).2.symm.trans breaks) Bool.false_ne_true
  | false =>
      rw [breaks] at begins
      exact (begins ' ' rfl).1 rfl

/-- Where an indented text ends can be told from what follows it. -/
theorem indentLines_cancel {indent : Nat} {atStart : Bool} {text other rest rest' : List Char}
    (whole : Whole atStart text) (whole' : Whole atStart other) (begins : Begins rest)
    (begins' : Begins rest')
    (same : indentLines (indent + 1) atStart text ++ rest =
      indentLines (indent + 1) atStart other ++ rest') : text = other ∧ rest = rest' := by
  induction text generalizing atStart other with
  | nil =>
      obtain rfl : atStart = true := whole
      cases other with
      | nil => exact ⟨rfl, same⟩
      | cons d other =>
          rw [indentLines, List.nil_append] at same
          exact absurd (same ▸ begins) (not_begins_indentLines indent d other rest')
  | cons c text ih =>
      cases other with
      | nil =>
          obtain rfl : atStart = true := whole'
          rw [indentLines, List.nil_append] at same
          exact absurd (same ▸ begins') (not_begins_indentLines indent c text rest)
      | cons d other =>
          have pads : (atStart && !isBreak c) = (atStart && !isBreak d) := by
            have heads := congrArg List.head? same
            rw [indentLines_cons, indentLines_cons] at heads
            cases atStart with
            | false => rfl
            | true =>
                -- One of them would begin with a break and the other one with a blank.
                cases breaks : isBreak c <;> cases breaks' : isBreak d <;>
                  simp [breaks, breaks', blanks, List.replicate_succ] at heads ⊢
                · subst heads
                  cases breaks'
                · subst heads
                  cases breaks
          rw [indentLines_cons, indentLines_cons, pads, List.append_assoc, List.append_assoc]
            at same
          obtain ⟨rfl, later⟩ := List.cons.inj (List.append_cancel_left same)
          obtain ⟨rfl, rfl⟩ := ih whole whole' later
          exact ⟨rfl, rfl⟩

theorem indentLines_append_newline (indent : Nat) (atStart : Bool) (text : List Char) :
    indentLines indent atStart (text ++ ['\n']) = indentLines indent atStart text ++ ['\n'] := by
  induction text generalizing atStart with
  | nil => rfl
  | cons c text ih =>
      rw [List.cons_append, indentLines_cons, indentLines_cons, ih, List.append_assoc]
      rfl

theorem getLast?_indentLines (indent : Nat) (atStart : Bool) (text : List Char) :
    (indentLines indent atStart text).getLast? = text.getLast? := by
  induction text generalizing atStart with
  | nil => rfl
  | cons c text ih =>
      rw [indentLines_cons, List.getLast?_append, List.getLast?_cons, List.getLast?_cons, ih]
      rfl

theorem endLine_concat {c : Char} (plain : isBreak c = false) (text : List Char) :
    endLine (text ++ [c]) = text ++ [c, '\n'] := by
  have unended : ¬ (some c).any isBreak = true := by simp [plain]
  rw [endLine, List.getLast?_concat, if_neg unended, List.append_assoc]
  rfl

theorem endLine_append_indentLines (lead : List Char) (indent : Nat) (atStart : Bool)
    {text : List Char} (written : text ≠ []) :
    endLine (lead ++ indentLines indent atStart text) =
      lead ++ indentLines indent atStart (endLine text) := by
  have last : (lead ++ indentLines indent atStart text).getLast? = text.getLast? := by
    rw [List.getLast?_append, getLast?_indentLines, List.getLast?_eq_some_getLast written]
    rfl
  unfold endLine
  rw [last]
  split
  · rfl
  · rw [indentLines_append_newline, List.append_assoc]

/-! ## The forms -/

/-- What a text is like that is written in a form. -/
def Form.Fits (asKey : Bool) (text : List Char) : Form → Prop
  | .plain => '\n' ∉ text ∧ text.getLast?.any isBreak = false ∧ ∃ first rest,
      text = first :: rest ∧ first ≠ ' ' ∧ isBreak first = false ∧ startsSyntax first = false
  | .lines => asKey = false ∧ text ≠ []
  | _ => True

theorem formOf_fits (asKey : Bool) (text : List Char) : (formOf asKey text).Fits asKey text := by
  unfold formOf
  dsimp only
  split
  · next several =>
      have written : text ≠ [] := by
        rintro rfl
        cases several
      split
      · trivial
      · next allowed => simp_all [Form.Fits]
  · next single =>
      split
      · split <;> trivial
      split
      · split <;> trivial
      · next clear marked =>
          simp only [Bool.or_eq_true, not_or, Bool.not_eq_true] at marked
          obtain ⟨⟨⟨⟨-, -⟩, head⟩, last⟩, unmarked⟩ := marked
          refine ⟨by simpa using single, ?_, ?_⟩
          · cases ending : text.getLast? with
            | none => rfl
            | some c =>
                rw [ending] at last
                exact (Bool.or_eq_false_iff.mp last).2
          · cases text with
            | nil => exact absurd rfl clear
            | cons first rest =>
                obtain ⟨blank, breaks⟩ := Bool.or_eq_false_iff.mp head
                have syntaxless : startsSyntax first = false := by
                  simp only [hasMarks, Bool.or_eq_false_iff] at unmarked
                  exact unmarked.1.1.1
                exact ⟨first, rest, rfl, by simpa using blank, breaks, syntaxless⟩

/-- The form of the text that a line begins with. -/
def openingForm : List Char → Form
  | '\'' :: _ => .single
  | '"' :: _ => .double
  | '|' :: _ => .lines
  | _ => .plain

theorem endLine_scalarText (indent : Nat) (text : List Char) :
    endLine (scalarText false indent text) =
      match formOf false text with
      | .plain => text ++ ['\n']
      | .single => '\'' :: indentLines indent false (text.flatMap doubled ++ ['\'', '\n'])
      | .double => '"' :: text.flatMap escaped ++ ['"', '\n']
      | .lines => linesSign text ++ '\n' :: indentLines indent true (endLine text) := by
  have fits := formOf_fits false text
  unfold scalarText
  cases form : formOf false text with
  | plain =>
      rw [form] at fits
      simp [endLine, fits.2.1]
  | single =>
      have line := endLine_append_indentLines ['\''] indent false
        (List.append_ne_nil_of_right_ne_nil (text.flatMap doubled) (List.cons_ne_nil '\'' []))
      rw [endLine_concat (by decide)] at line
      exact line
  | double => exact endLine_concat (by decide) ('"' :: text.flatMap escaped)
  | lines =>
      rw [form] at fits
      have line := endLine_append_indentLines (linesSign text ++ ['\n']) indent true fits.2
      simpa using line

theorem openingForm_endLine (indent : Nat) (text rest : List Char) :
    openingForm (endLine (scalarText false indent text) ++ rest) = formOf false text := by
  rw [endLine_scalarText]
  have fits := formOf_fits false text
  cases form : formOf false text with
  | plain =>
      rw [form] at fits
      obtain ⟨-, -, first, others, rfl, -, -, unmarked⟩ := fits
      have opens (mark : Char) (marks : startsSyntax mark = true) : first ≠ mark := by
        rintro rfl
        exact Bool.false_ne_true (unmarked.symm.trans marks)
      have single := opens '\'' (by decide)
      have double := opens '"' (by decide)
      have lines := opens '|' (by decide)
      simp only [List.cons_append]
      unfold openingForm
      split <;> simp_all
  | single => rfl
  | double => rfl
  | lines =>
      unfold linesSign
      rfl

theorem newline_notMem_linesSign (text : List Char) : '\n' ∉ linesSign text := by
  unfold linesSign
  dsimp only
  split <;> split <;> simp
  all_goals split <;> simp

/-- The sign tells whether the text ends its last line. -/
theorem mem_linesSign_iff (text : List Char) :
    '-' ∈ linesSign text ↔ text.getLast?.any isBreak = false := by
  unfold linesSign
  rw [List.getLast?_eq_head?_reverse]
  dsimp only
  cases text.reverse with
  | nil => simp
  | cons last before =>
      cases breaks : isBreak last with
      | false => simp [breaks]
      | true => cases before.head?.all isBreak <;> simp [breaks]

/-- What stands before the first line end is told apart from what stands after it. -/
theorem append_newline_inj {line line' rest rest' : List Char} (whole : '\n' ∉ line)
    (whole' : '\n' ∉ line') (same : line ++ '\n' :: rest = line' ++ '\n' :: rest') :
    line = line' ∧ rest = rest' := by
  have before {line : List Char} (whole : '\n' ∉ line) (rest : List Char) :
      (line ++ '\n' :: rest).takeWhile (· != '\n') = line := by
    rw [List.takeWhile_append_of_pos, List.takeWhile_cons_of_neg (by simp), List.append_nil]
    intro c member
    simpa using ne_of_mem_of_not_mem member whole
  obtain rfl : line = line' := by rw [← before whole rest, same, before whole']
  exact ⟨rfl, (List.cons.inj (List.append_cancel_left same)).2⟩

theorem eq_of_endLine_eq {text other : List Char}
    (alike : text.getLast?.any isBreak = other.getLast?.any isBreak)
    (same : endLine text = endLine other) : text = other := by
  unfold endLine at same
  rw [alike] at same
  split at same
  · exact same
  · exact List.append_cancel_right same

/-- Texts that are written alike are the same text, whatever follows them. -/
theorem line_cancel {indent : Nat} {text other rest rest' : List Char} (begins : Begins rest)
    (begins' : Begins rest')
    (same : endLine (scalarText false (indent + 1) text) ++ rest =
      endLine (scalarText false (indent + 1) other) ++ rest') : text = other ∧ rest = rest' := by
  have form : formOf false text = formOf false other := by
    rw [← openingForm_endLine (indent + 1) text rest, same, openingForm_endLine]
  have fits := formOf_fits false text
  have fits' := formOf_fits false other
  rw [endLine_scalarText, endLine_scalarText, ← form] at same
  rw [← form] at fits'
  cases shape : formOf false text with
  | plain =>
      rw [shape] at same fits fits'
      simp only [List.append_assoc] at same
      exact append_newline_inj fits.1 fits'.1 same
  | single =>
      rw [shape] at same
      have body := indentLines_cancel (whole_of_getLast? (by simp; rfl) false)
        (whole_of_getLast? (by simp; rfl) false) begins begins' (List.cons.inj same).2
      exact ⟨eq_of_flatMap_eq doubled_cancel doubled_ne_nil (List.append_cancel_right body.1),
        body.2⟩
  | double =>
      rw [shape] at same
      have quoted (text : List Char) : '\n' ∉ text.flatMap escaped ++ ['"'] := by
        simp [newline_notMem_escaped]
      have written : text.flatMap escaped ++ ['"'] ++ '\n' :: rest =
          other.flatMap escaped ++ ['"'] ++ '\n' :: rest' := by simpa using same
      obtain ⟨body, later⟩ := append_newline_inj (quoted text) (quoted other) written
      exact ⟨eq_of_flatMap_eq escaped_cancel escaped_ne_nil (List.append_cancel_right body), later⟩
  | lines =>
      rw [shape] at same
      simp only [List.append_assoc, List.cons_append] at same
      obtain ⟨sign, body⟩ := append_newline_inj (newline_notMem_linesSign text)
        (newline_notMem_linesSign other) same
      obtain ⟨ended, later⟩ := indentLines_cancel (whole_endLine true text)
        (whole_endLine true other) begins begins' body
      refine ⟨eq_of_endLine_eq ?_ ended, later⟩
      have alike := mem_linesSign_iff text
      rw [sign, mem_linesSign_iff] at alike
      exact Bool.eq_iff_iff.mpr (by simpa using alike.symm)

/-! ## Documents of texts -/

/-- An object whose members are texts. -/
def texts (members : List (String × String)) : Value :=
  .object (members.map fun member => (member.1, .text member.2))

/-- The lines of a member. -/
def memberLines (member : String × String) : List Char :=
  keyText 0 member.1.toList ++ (if isSimpleKey member.1.toList then [' '] else []) ++
    endLine (scalarText false 2 member.2.toList)

theorem endLine_cons {c : Char} (plain : isBreak c = false) (text : List Char) :
    endLine (c :: text) = c :: endLine text := by
  cases text with
  | nil => exact endLine_concat plain []
  | cons d text =>
      unfold endLine
      rw [List.getLast?_cons_cons]
      split <;> rfl

theorem begins_memberLines (member : String × String) (rest : List Char) :
    Begins (memberLines member ++ rest) := by
  unfold memberLines keyText
  simp only [List.append_assoc]
  split
  · have fits := formOf_fits true member.1.toList
    unfold scalarText
    cases form : formOf true member.1.toList with
    | plain =>
        rw [form] at fits
        obtain ⟨-, -, first, others, written, blank, breaks, -⟩ := fits
        rw [written]
        rintro _ ⟨⟩
        exact ⟨blank, breaks⟩
    | lines =>
        rw [form] at fits
        exact absurd fits.1.symm Bool.false_ne_true
    | single | double =>
        rintro _ ⟨⟩
        exact ⟨by decide, by decide⟩
  · rw [endLine_cons (by decide)]
    rintro _ ⟨⟩
    exact ⟨by decide, by decide⟩

theorem node_text (key text : String) :
    node (isSimpleKey key.toList) (if isSimpleKey key.toList then 0 else 2) (.text text) =
      (if isSimpleKey key.toList then [' '] else []) ++ endLine (scalarText false 2 text.toList) := by
  cases isSimpleKey key.toList with
  | true => exact endLine_cons (by decide) _
  | false => rfl

theorem otherMembers_texts (members : List (String × String)) :
    otherMembers 0 (members.map fun member => (member.1, .text member.2)) =
      members.flatMap memberLines := by
  induction members with
  | nil => rw [List.map_nil, otherMembers, List.flatMap_nil]
  | cons member members ih =>
      rw [List.map_cons, otherMembers, ih, List.flatMap_cons, node_text]
      simp [memberLines, blanks]

theorem node_texts {members : List (String × String)} (written : members ≠ []) :
    node false 0 (texts members) = members.flatMap memberLines := by
  cases members with
  | nil => exact absurd rfl written
  | cons member members =>
      rw [texts, List.map_cons, node]
      simp only [Bool.false_eq_true, if_false, Nat.zero_add]
      rw [node_text, otherMembers_texts]
      simp [memberLines]

theorem eq_of_flatMap_memberLines_eq {members others : List (String × String)}
    (keys : members.map Prod.fst = others.map Prod.fst)
    (same : members.flatMap memberLines = others.flatMap memberLines) : members = others := by
  have begins (members : List (String × String)) : Begins (members.flatMap memberLines) := by
    cases members with
    | nil => exact nofun
    | cons member members => exact begins_memberLines member (members.flatMap memberLines)
  induction members generalizing others with
  | nil => exact (List.map_eq_nil_iff.mp keys.symm).symm
  | cons member members ih =>
      cases others with
      | nil => cases keys
      | cons other others =>
          obtain ⟨key, text⟩ := member
          obtain ⟨key', text'⟩ := other
          obtain ⟨rfl, otherKeys⟩ := List.cons.inj keys
          simp only [List.flatMap_cons, memberLines, List.append_assoc] at same
          obtain ⟨alike, later⟩ := line_cancel (begins members) (begins others)
            (List.append_cancel_left (List.append_cancel_left same))
          rw [String.toList_inj.mp alike, ih otherKeys later]

/-- A document of texts tells each of them, whatever characters it has. -/
theorem eq_of_document_texts_eq {members others : List (String × String)}
    (keys : members.map Prod.fst = others.map Prod.fst)
    (same : document (texts members) = document (texts others)) : members = others := by
  by_cases empty : members = []
  · subst empty
    exact (List.map_eq_nil_iff.mp keys.symm).symm
  · have written : others ≠ [] := by
      rintro rfl
      exact empty (List.map_eq_nil_iff.mp keys)
    have lines : node false 0 (texts members) = node false 0 (texts others) :=
      String.ofList_inj.mp same
    rw [node_texts empty, node_texts written] at lines
    exact eq_of_flatMap_memberLines_eq keys lines

end DevicePanel.Yaml
