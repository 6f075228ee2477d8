import DevicePanel.Proofs.Toml.Scalars
import DevicePanel.Toml.Reader

/-!
# The lines of a document of sections are read back

A section is written as the header of its table and a line for each pair, and an empty line stands
between two sections.  `IsReadAs` tells of a part of a document which lines it is read as, whatever
stands after it, so that parts can be put together.
-/

namespace DevicePanel.Toml

/-! ## Paths of keys -/

theorem blanks_append {gap rest : List Char} (isGap : ∀ c ∈ gap, isBlank c = true)
    (stops : ∀ c ∈ rest.head?, isBlank c = false) : blanks (gap ++ rest) = some ((), rest) := by
  rw [blanks, Scan.bind_of_some (Scan.run_append isGap stops)]
  rfl

theorem blanks_of_head? {text : List Char} (stops : ∀ c ∈ text.head?, isBlank c = false) :
    blanks text = some ((), text) :=
  blanks_append (List.forall_mem_nil _) stops

/-- A key of a path, with blanks around it. -/
def step : Scan String := do
  blanks
  let k ← key
  blanks
  return k

theorem path_eq : path = (do
    let keys ← Scan.separated step (Scan.mark '.')
    Scan.require (keys.length < deepest)
    return keys) := rfl

/-- A text after which no key goes on: it is no character of a key, and its first character that
is no blank is none of a path. -/
structure EndsPath (gap rest : List Char) : Prop where
  isGap : ∀ c ∈ gap, isBlank c = true
  noBlank : ∀ c ∈ rest.head?, isBlank c = false
  noKey : ∀ c ∈ (gap ++ rest).head?, isBare c = false

theorem isBlank_of_isBare {c : Char} (isKey : isBare c = true) : isBlank c = false := by
  cases blank : isBlank c with
  | false => rfl
  | true =>
      simp only [isBlank, Bool.or_eq_true, beq_iff_eq] at blank
      rcases blank with rfl | rfl <;> cases isKey

theorem isBlank_of_head?_writeKey (name : String) (rest : List Char) :
    ∀ c ∈ (writeKey name ++ rest).head?, isBlank c = false := by
  obtain ⟨d, first, kind⟩ := head?_writeKey name rest
  intro c here
  obtain rfl : d = c := by simpa [first] using here
  rcases kind with rfl | rfl | isKey
  · rfl
  · rfl
  · exact isBlank_of_isBare isKey

theorem step_writeKey {gap rest : List Char} (name : String) (ends : EndsPath gap rest) :
    step (writeKey name ++ (gap ++ rest)) = some (name, rest) := by
  rw [step, Scan.bind_of_some (blanks_of_head? (isBlank_of_head?_writeKey name _)),
    Scan.bind_of_some (key_writeKey name ends.noKey),
    Scan.bind_of_some (blanks_append ends.isGap ends.noBlank)]
  rfl

theorem step_writeKey_point (name : String) (rest : List Char) :
    step (writeKey name ++ '.' :: rest) = some (name, '.' :: rest) := by
  have ends : EndsPath [] ('.' :: rest) := ⟨by simp, by simp [isBlank], by simp [isBare]⟩
  have read := step_writeKey name ends
  rwa [List.nil_append] at read

/-- The keys of a path after the first one, each after a point. -/
def laterKeys (keys : List String) : List Char := keys.flatMap fun key => '.' :: writeKey key

theorem flatten_intersperse (first : String) (others : List String) :
    (((first :: others).map writeKey).intersperse ['.']).flatten =
      writeKey first ++ laterKeys others := by
  induction others generalizing first with
  | nil => simp [laterKeys]
  | cons second others ih =>
    have later := ih second
    simp only [List.map_cons, List.intersperse_cons_cons, List.flatten_cons] at later ⊢
    rw [later]
    simp [laterKeys]

section

variable {gap rest : List Char}

theorem repeats_laterKeys (first : String) (others : List String) (ends : EndsPath gap rest)
    (noPoint : rest.head? ≠ some '.') :
    ∃ after, step (writeKey first ++ (laterKeys others ++ (gap ++ rest))) = some (first, after) ∧
      after.length ≤ (laterKeys others ++ (gap ++ rest)).length ∧
      Scan.Repeats (do Scan.mark '.'; step) after others rest := by
  induction others generalizing first with
  | nil =>
      exact ⟨rest, step_writeKey first ends, by simp [laterKeys],
        .stop (Scan.bind_of_none (Scan.mark_of_head? noPoint) _)⟩
  | cons second others ih =>
      obtain ⟨after, read, shorter, repeats⟩ := ih second
      have written : laterKeys (second :: others) ++ (gap ++ rest) =
          '.' :: (writeKey second ++ (laterKeys others ++ (gap ++ rest))) := by
        simp [laterKeys]
      rw [written]
      have next : (do Scan.mark '.'; step)
          ('.' :: (writeKey second ++ (laterKeys others ++ (gap ++ rest)))) =
            some (second, after) := by
        rw [Scan.bind_of_some (Scan.mark_cons _ _)]
        exact read
      refine ⟨_, step_writeKey_point first _, Nat.le_refl _, .step next ?_ repeats⟩
      simp only [List.length_cons, List.length_append] at shorter ⊢
      omega

/-- A path of keys is read back. -/
theorem path_write (first : String) (others : List String) (ends : EndsPath gap rest)
    (noPoint : rest.head? ≠ some '.') (shallow : others.length + 1 < deepest) :
    path ((((first :: others).map writeKey).intersperse ['.']).flatten ++ (gap ++ rest)) =
      some (first :: others, rest) := by
  obtain ⟨after, read, -, repeats⟩ := repeats_laterKeys first others ends noPoint
  have keys := Scan.separated_of_repeats read repeats
  rw [flatten_intersperse, List.append_assoc, path_eq, Scan.bind_of_some keys,
    Scan.bind_of_some (Scan.require_of_true (by simpa using shallow) _)]
  rfl

end

/-! ## Pairs and headers -/

theorem value_scalar {given : Scalar} (fits : given.Fits) (rest : List Char) :
    value deepest (given.write ++ '\n' :: rest) = some (given.value, '\n' :: rest) := by
  have noList : list (value 79) (given.write ++ '\n' :: rest) = none :=
    Scan.bind_of_none (Scan.mark_of_head? (head?_write_ne given rest (by simp))) _
  have noTable : inlineTable (value 79) (given.write ++ '\n' :: rest) = none :=
    Scan.bind_of_none (Scan.mark_of_head? (head?_write_ne given rest (by simp))) _
  have unfolded : value deepest = (list (value 79) <|> inlineTable (value 79) <|> scalar) := rfl
  rw [unfolded, Scan.orElse_of_none noList, Scan.orElse_of_none noTable]
  exact scalar_write given fits rest

theorem path_key (name : String) {gap rest : List Char} (ends : EndsPath gap rest)
    (noPoint : rest.head? ≠ some '.') :
    path (writeKey name ++ (gap ++ rest)) = some ([name], rest) := by
  have read := path_write name [] ends noPoint (by decide)
  rwa [flatten_intersperse, laterKeys, List.flatMap_nil, List.append_nil] at read

theorem pairOf_writePair (name : String) {given : Scalar} (fits : given.Fits) (rest : List Char) :
    pairOf (value deepest) (writePair (name, given) ++ rest) =
      some (([name], given.value), '\n' :: rest) := by
  have written : writePair (name, given) ++ rest =
      writeKey name ++ ([' '] ++ '=' :: ([' '] ++ (given.write ++ '\n' :: rest))) := by
    simp [writePair]
  have ends : EndsPath [' '] ('=' :: ([' '] ++ (given.write ++ '\n' :: rest))) :=
    ⟨by simp [isBlank], by simp [isBlank], by simp [isBare]⟩
  have gap : blanks ([' '] ++ (given.write ++ '\n' :: rest)) =
      some ((), given.write ++ '\n' :: rest) :=
    blanks_append (by simp [isBlank]) fun c here => by
      cases blank : isBlank c with
      | false => rfl
      | true =>
          simp only [isBlank, Bool.or_eq_true, beq_iff_eq] at blank
          exact absurd here (head?_write_ne given rest (by rcases blank with rfl | rfl <;> simp))
  rw [written, pairOf, Scan.bind_of_some (path_key name ends (by simp)),
    Scan.bind_of_some (Scan.mark_cons _ _), Scan.bind_of_some gap,
    Scan.bind_of_some (value_scalar fits rest),
    Scan.bind_of_some (blanks_of_head? (by simp [isBlank]))]
  rfl

/-- What a header of a table stands for, without the end of its line. -/
def writeHeader (path : List String) : List Char :=
  '[' :: ((path.map writeKey).intersperse ['.']).flatten ++ [']']

theorem header_writeHeader {keys : List String} (nonempty : keys ≠ [])
    (shallow : keys.length < deepest) (rest : List Char) :
    header (writeHeader keys ++ '\n' :: rest) = some (.table keys, '\n' :: rest) := by
  obtain ⟨first, others, rfl⟩ := List.exists_cons_of_ne_nil nonempty
  have written : writeHeader (first :: others) ++ '\n' :: rest =
      '[' :: ((((first :: others).map writeKey).intersperse ['.']).flatten ++
        ([] ++ ']' :: '\n' :: rest)) := by
    simp [writeHeader]
  have ends : EndsPath [] (']' :: '\n' :: rest) :=
    ⟨by simp, by simp [isBlank], by simp [isBare]⟩
  have noItem : Scan.word "[[" (writeHeader (first :: others) ++ '\n' :: rest) = none := by
    rw [written, flatten_intersperse, List.append_assoc]
    refine Scan.word_of_not_prefix ?_
    rintro ⟨after, same⟩
    have brackets : "[[".toList = ['[', '['] := rfl
    rw [brackets] at same
    have second := congrArg List.head? (List.cons.inj same).2
    exact head?_writeKey_ne first _ ⟨by decide, by decide, rfl⟩ second.symm
  rw [header, Scan.orElse_of_none (Scan.bind_of_none noItem _), written,
    Scan.bind_of_some (Scan.mark_cons _ _),
    Scan.bind_of_some (path_write first others ends (by simp) (by simpa using shallow)),
    Scan.bind_of_some (Scan.mark_cons _ _)]
  rfl

/-! ## Lines -/

/-- What a line has besides blanks and a comment. -/
def content : Scan Line :=
  header <|> (do
    let (keys, value) ← pairOf (value deepest)
    return .pair keys value) <|> pure .empty

theorem line_eq : line = (do
    blanks
    let found ← content
    blanks
    let _ ← Scan.option comment
    return found) := rfl

section

variable {text rest : List Char}

theorem line_of_content {found : Line} (noBlank : ∀ c ∈ text.head?, isBlank c = false)
    (read : content text = some (found, '\n' :: rest)) :
    line text = some (found, '\n' :: rest) := by
  have noComment : comment ('\n' :: rest) = none :=
    Scan.bind_of_none (Scan.mark_of_head? (by simp)) _
  rw [line_eq, Scan.bind_of_some (blanks_of_head? noBlank), Scan.bind_of_some read,
    Scan.bind_of_some (blanks_of_head? (by simp [isBlank])),
    Scan.bind_of_some (Scan.option_of_none noComment)]
  rfl

/-- A key cannot begin here. -/
theorem path_of_head? (noBlank : ∀ c ∈ text.head?, isBlank c = false)
    (noKey : ∀ c ∈ text.head?, c ≠ '"' ∧ c ≠ '\'' ∧ isBare c = false) : path text = none := by
  have noDouble : basicText text = none :=
    Scan.bind_of_none (Scan.mark_of_head? fun here => (noKey _ here).1 rfl) _
  have noSingle : literalText text = none :=
    Scan.bind_of_none (Scan.mark_of_head? fun here => (noKey _ here).2.1 rfl) _
  have noBare : Scan.someRun isBare text = none :=
    Scan.someRun_of_head? fun c here => (noKey c here).2.2
  have fails : key text = none := by
    refine Scan.bind_of_none ?_ _
    rw [Scan.orElse_of_none noDouble, Scan.orElse_of_none noSingle, noBare]
  rw [path_eq]
  refine Scan.bind_of_none (Scan.separated_of_none ?_) _
  rw [step, Scan.bind_of_some (blanks_of_head? noBlank), Scan.bind_of_none fails]

theorem header_of_head? (noBracket : text.head? ≠ some '[') : header text = none := by
  have noItem : Scan.word "[[" text = none := by
    refine Scan.word_of_not_prefix ?_
    rintro ⟨rest, rfl⟩
    exact noBracket rfl
  rw [header, Scan.orElse_of_none (Scan.bind_of_none noItem _),
    Scan.bind_of_none (Scan.mark_of_head? noBracket)]

theorem line_empty (rest : List Char) : line ('\n' :: rest) = some (.empty, '\n' :: rest) := by
  have noPair : pairOf (value deepest) ('\n' :: rest) = none :=
    Scan.bind_of_none (path_of_head? (by simp [isBlank]) (by simp [isBare])) _
  refine line_of_content (by simp [isBlank]) ?_
  rw [content, Scan.orElse_of_none (header_of_head? (by simp)),
    Scan.orElse_of_none (Scan.bind_of_none noPair _)]
  rfl

theorem line_end : line [] = some (.empty, []) := rfl

theorem line_writeHeader {keys : List String} (nonempty : keys ≠ [])
    (shallow : keys.length < deepest) (rest : List Char) :
    line (writeHeader keys ++ '\n' :: rest) = some (.table keys, '\n' :: rest) :=
  line_of_content (by simp [writeHeader, isBlank])
    (Scan.orElse_of_some (header_writeHeader nonempty shallow rest) _)

theorem line_writePair (name : String) {given : Scalar} (fits : given.Fits) (rest : List Char) :
    line (writePair (name, given) ++ rest) = some (.pair [name] given.value, '\n' :: rest) := by
  have written : writePair (name, given) ++ rest =
      writeKey name ++ (' ' :: '=' :: ' ' :: (given.write ++ '\n' :: rest)) := by
    simp [writePair]
  have noBracket : (writePair (name, given) ++ rest).head? ≠ some '[' := by
    rw [written]
    exact head?_writeKey_ne name _ ⟨by decide, by decide, rfl⟩
  refine line_of_content (written ▸ isBlank_of_head?_writeKey name _) ?_
  rw [content, Scan.orElse_of_none (header_of_head? noBracket), Scan.orElse_of_some]
  rw [Scan.bind_of_some (pairOf_writePair name fits rest)]
  rfl

end

/-! ## Documents -/

/-- A line with its end. -/
def endedLine : Scan Line := do
  let l ← line
  lineEnd
  return l

/-- The character that may stand in front of a document and is none of its own. -/
def orderMark : Char := '\uFEFF'

theorem lines_eq : lines = (do
    let _ ← Scan.option (Scan.mark orderMark)
    let found ← Scan.many endedLine
    let last ← line
    Scan.finish
    return found ++ [last]) := rfl

/-- Whatever stands after it, the part of a document is read as the lines; it does not begin
with a byte order mark. -/
structure IsReadAs (written : List Char) (found : List Line) : Prop where
  repeats : ∀ {rest : List Char} {values : List Line} {last : List Char},
    Scan.Repeats endedLine rest values last →
    Scan.Repeats endedLine (written ++ rest) (found ++ values) last
  noMark : ∀ {rest : List Char}, rest.head? ≠ some orderMark →
    (written ++ rest).head? ≠ some orderMark

namespace IsReadAs

variable {written written' : List Char} {found found' : List Line}

theorem nil : IsReadAs [] [] := ⟨id, id⟩

theorem append (front : IsReadAs written found) (back : IsReadAs written' found') :
    IsReadAs (written ++ written') (found ++ found') where
  repeats later := by
    rw [List.append_assoc, List.append_assoc]
    exact front.repeats (back.repeats later)
  noMark later := by
    rw [List.append_assoc]
    exact front.noMark (back.noMark later)

theorem single {l : Line} (read : ∀ rest, line (written ++ '\n' :: rest) = some (l, '\n' :: rest))
    (noMark : (written ++ ['\n']).head? ≠ some orderMark) : IsReadAs (written ++ ['\n']) [l] where
  repeats := by
    intro rest values last later
    have ended : endedLine (written ++ ['\n'] ++ rest) = some (l, rest) := by
      rw [endedLine, List.append_assoc, List.singleton_append, Scan.bind_of_some (read rest)]
      rfl
    exact .step ended (by simp; omega) later
  noMark _ := by
    cases written with
    | nil => simp [orderMark]
    | cons c written => simpa using noMark

theorem flatMap {α : Type} {write : α → List Char} {toLines : α → List Line} {items : List α}
    (each : ∀ item ∈ items, IsReadAs (write item) (toLines item)) :
    IsReadAs (items.flatMap write) (items.flatMap toLines) := by
  induction items with
  | nil => exact nil
  | cons item items ih =>
      obtain ⟨first, others⟩ := List.forall_mem_cons.mp each
      exact first.append (ih others)

theorem intersperse {α : Type} {write : α → List Char} {toLines : α → List Line} {items : List α}
    (each : ∀ item ∈ items, IsReadAs (write item) (toLines item))
    (between : IsReadAs written found) :
    IsReadAs ((items.map write).intersperse written).flatten
      ((items.map toLines).intersperse found).flatten := by
  induction items with
  | nil => exact nil
  | cons item items ih =>
      obtain ⟨first, others⟩ := List.forall_mem_cons.mp each
      cases items with
      | nil => simpa using first
      | cons second items =>
          have later := ih others
          simp only [List.map_cons, List.intersperse_cons_cons, List.flatten_cons] at later ⊢
          exact first.append (between.append later)

/-- All lines of a document are read, and the empty line after the last one. -/
theorem lines (whole : IsReadAs written found) : lines written = some (found ++ [.empty], []) := by
  have noMark : Scan.option (Scan.mark orderMark) written = some (none, written) := by
    have first : (written ++ []).head? ≠ some orderMark := whole.noMark (by simp)
    rw [List.append_nil] at first
    exact Scan.option_of_none (Scan.mark_of_head? first)
  have stops : Scan.Repeats endedLine [] [] [] := .stop rfl
  have repeats := whole.repeats stops
  rw [List.append_nil, List.append_nil] at repeats
  rw [lines_eq, Scan.bind_of_some noMark, Scan.bind_of_some (Scan.many_of_repeats repeats),
    Scan.bind_of_some line_end]
  rfl

end IsReadAs

/-- The lines that a section is written on. -/
def Section.lines (given : Section) : List Line :=
  (if given.path.isEmpty then [] else [.table given.path]) ++
    given.pairs.map fun pair => .pair [pair.1] pair.2.value

/-- The section can be written so that it is read again. -/
structure Section.Fits (given : Section) : Prop where
  shallow : given.path.length < deepest
  scalars : ∀ pair ∈ given.pairs, pair.2.Fits

theorem isReadAs_pair {pair : String × Scalar} (fits : pair.2.Fits) :
    IsReadAs (writePair pair) [.pair [pair.1] pair.2.value] := by
  have ended : writePair pair = writeKey pair.1 ++ " = ".toList ++ pair.2.write ++ ['\n'] := rfl
  rw [ended]
  refine .single (fun rest => ?_) ?_
  · have read := line_writePair pair.1 fits rest
    rwa [ended, List.append_assoc, List.singleton_append] at read
  · simp only [List.append_assoc]
    exact head?_writeKey_ne pair.1 _ ⟨by decide, by decide, rfl⟩

theorem isReadAs_section {given : Section} (fits : given.Fits) :
    IsReadAs given.write given.lines := by
  have pairs : IsReadAs (given.pairs.flatMap writePair)
      (given.pairs.map fun pair => .pair [pair.1] pair.2.value) := by
    rw [List.map_eq_flatMap]
    exact .flatMap fun pair member => isReadAs_pair (fits.scalars pair member)
  by_cases root : given.path = []
  · simpa [Section.write, Section.lines, root] using pairs
  · have header : IsReadAs (writeHeader given.path ++ ['\n']) [.table given.path] :=
      .single (line_writeHeader root fits.shallow) (by simp [writeHeader, orderMark])
    have whole := header.append pairs
    simpa [Section.write, Section.lines, root, writeHeader] using whole

/-- A document is read as the lines of its sections, an empty line between two sections and one
after the last. -/
theorem lines_writeDocument {sections : List Section} (fits : ∀ given ∈ sections, given.Fits) :
    lines (writeDocument sections) =
      some (((sections.map Section.lines).intersperse [.empty]).flatten ++ [.empty], []) := by
  have emptyLine : IsReadAs ([] ++ ['\n']) [.empty] := .single line_empty (by simp [orderMark])
  exact (IsReadAs.intersperse (fun given member => isReadAs_section (fits given member))
    emptyLine).lines

end DevicePanel.Toml
