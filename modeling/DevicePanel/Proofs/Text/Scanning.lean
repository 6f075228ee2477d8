import DevicePanel.Text.Scan
import Mathlib.Data.List.TakeWhile

/-!
# What scans read

Each scan is told by what it answers at the front of a text.  A repetition reads a list of values
when its scan reads them one after the other and then fails, which is what `Repeats` says.
-/

namespace DevicePanel.Scan

variable {α β : Type} {text rest : List Char}

/-! ## Sequences and alternatives -/

theorem bind_of_some {scan : Scan α} {value : α} (read : scan text = some (value, rest))
    (next : α → Scan β) : (scan >>= next) text = next value rest := by
  simp [bind, StateT.bind, read]

theorem bind_of_none {scan : Scan α} (fails : scan text = none) (next : α → Scan β) :
    (scan >>= next) text = none := by
  simp [bind, StateT.bind, fails]

theorem exists_of_bind {scan : Scan α} {next : α → Scan β} {found : β × List Char}
    (read : (scan >>= next) text = some found) :
    ∃ value rest, scan text = some (value, rest) ∧ next value rest = some found := by
  cases first : scan text with
  | none => rw [bind_of_none first] at read; cases read
  | some pair =>
      rw [bind_of_some first] at read
      exact ⟨pair.1, pair.2, rfl, read⟩

theorem pure_apply (value : α) (text : List Char) :
    (pure value : Scan α) text = some (value, text) := rfl

theorem orElse_of_some {first : Scan α} {found : α × List Char} (read : first text = some found)
    (second : Scan α) : (first <|> second) text = some found := by
  simp [HOrElse.hOrElse, OrElse.orElse, Alternative.orElse, StateT.orElse, read]

theorem orElse_of_none {first : Scan α} (fails : first text = none) (second : Scan α) :
    (first <|> second) text = second text := by
  simp [HOrElse.hOrElse, OrElse.orElse, Alternative.orElse, StateT.orElse, fails]

theorem option_of_some {scan : Scan α} {value : α} (read : scan text = some (value, rest)) :
    option scan text = some (some value, rest) := by
  simp [option, read]

theorem option_of_none {scan : Scan α} (fails : scan text = none) :
    option scan text = some (none, text) := by
  simp [option, fails]

/-! ## Characters and words -/

theorem one_cons {test : Char → Bool} {c : Char} (passes : test c = true) (rest : List Char) :
    one test (c :: rest) = some (c, rest) := by
  simp [one, passes]

theorem one_of_head? {test : Char → Bool} (fails : ∀ c ∈ text.head?, test c = false) :
    one test text = none := by
  cases text with
  | nil => rfl
  | cons c text => simp [one, fails c rfl]

theorem mark_cons (c : Char) (rest : List Char) : mark c (c :: rest) = some ((), rest) := by
  simp [mark, one]

theorem mark_of_head? {c : Char} (other : text.head? ≠ some c) : mark c text = none := by
  have fails : one (· == c) text = none := one_of_head? fun d here => by
    simpa using fun same : d = c => other (same ▸ here)
  simp [mark, fails]

theorem word_append (expected : String) (rest : List Char) :
    word expected (expected.toList ++ rest) = some ((), rest) := by
  have front : expected.toList.isPrefixOf (expected.toList ++ rest) = true := by simp
  simp [word, front, ← String.length_toList]

theorem word_of_not_prefix {expected : String} (other : ¬ expected.toList <+: text) :
    word expected text = none := by
  simp [word, other]

theorem require_of_true {condition : Bool} (holds : condition = true) (text : List Char) :
    require condition text = some ((), text) := by
  subst holds
  rfl

theorem require_of_false {condition : Bool} (fails : condition = false) (text : List Char) :
    require condition text = none := by
  subst fails
  rfl

theorem eq_of_require {condition : Bool} (passed : require condition text = some ((), rest)) :
    rest = text := by
  cases condition with
  | false => cases passed
  | true => cases passed; rfl

/-! ## Runs -/

theorem run_append {test : Char → Bool} {piece : List Char} (all : ∀ c ∈ piece, test c = true)
    (stops : ∀ c ∈ rest.head?, test c = false) :
    run test (piece ++ rest) = some (piece, rest) := by
  have nothing : rest.takeWhile test = [] ∧ rest.dropWhile test = rest := by
    cases rest with
    | nil => exact ⟨rfl, rfl⟩
    | cons c rest => simp [stops c rfl]
  rw [run, List.takeWhile_append_of_pos all, List.dropWhile_append_of_pos all, nothing.1,
    nothing.2, List.append_nil]

theorem run_of_head? {test : Char → Bool} (stops : ∀ c ∈ text.head?, test c = false) :
    run test text = some ([], text) := by
  have nothing : ∀ c ∈ ([] : List Char), test c = true := by simp
  exact run_append nothing stops

theorem someRun_append {test : Char → Bool} {piece : List Char} (nonempty : piece ≠ [])
    (all : ∀ c ∈ piece, test c = true) (stops : ∀ c ∈ rest.head?, test c = false) :
    someRun test (piece ++ rest) = some (piece, rest) := by
  have whole := run_append all stops
  simp only [run, Option.some.injEq, Prod.mk.injEq] at whole
  rw [someRun, whole.1, whole.2]
  cases piece with
  | nil => exact absurd rfl nonempty
  | cons c piece => rfl

theorem someRun_of_head? {test : Char → Bool} (stops : ∀ c ∈ text.head?, test c = false) :
    someRun test text = none := by
  cases text with
  | nil => rfl
  | cons c text => simp [someRun, stops c rfl]

/-! ## Repetitions -/

/-- The scan reads the values one after the other, and fails on what is left. -/
inductive Repeats (scan : Scan α) : List Char → List α → List Char → Prop where
  | stop {text : List Char} : scan text = none → Repeats scan text [] text
  | step {text rest last : List Char} {value : α} {values : List α} :
      scan text = some (value, rest) → rest.length < text.length →
      Repeats scan rest values last → Repeats scan text (value :: values) last

theorem manyUpTo_of_repeats {scan : Scan α} {values : List α} {last : List Char}
    (repeats : Repeats scan text values last) {limit : Nat} (enough : text.length ≤ limit) :
    manyUpTo scan limit text = some (values, last) := by
  induction repeats generalizing limit with
  | stop fails => cases limit <;> simp [manyUpTo, fails]
  | step read shorter _ ih =>
      cases limit with
      | zero => omega
      | succ limit =>
          have others := ih (Nat.le_of_lt_succ (Nat.lt_of_lt_of_le shorter enough))
          simp [manyUpTo, read, others]

theorem many_of_repeats {scan : Scan α} {values : List α} {last : List Char}
    (repeats : Repeats scan text values last) : many scan text = some (values, last) :=
  manyUpTo_of_repeats repeats (Nat.le_refl _)

theorem separated_of_repeats {scan : Scan α} {separator : Scan Unit} {first : α} {values : List α}
    {last : List Char} (read : scan text = some (first, rest))
    (repeats : Repeats (do separator; scan) rest values last) :
    separated scan separator text = some (first :: values, last) := by
  rw [separated, bind_of_some read, bind_of_some (many_of_repeats repeats)]
  rfl

theorem separated_of_none {scan : Scan α} {separator : Scan Unit} (fails : scan text = none) :
    separated scan separator text = none := by
  rw [separated, bind_of_none fails]

/-! ## What all answers are like -/

/-- Whatever the text, the scan answers nothing but values like these. -/
def Gives (scan : Scan α) (good : α → Prop) : Prop :=
  ∀ text value rest, scan text = some (value, rest) → good value

theorem gives_pure {good : α → Prop} {value : α} (holds : good value) :
    Gives (pure value : Scan α) good := by
  intro text found rest read
  cases read
  exact holds

theorem gives_failure (good : α → Prop) : Gives (failure : Scan α) good := by
  intro text value rest read
  cases read

theorem Gives.bind {scan : Scan α} {next : α → Scan β} {good : α → Prop} {fine : β → Prop}
    (gives : Gives scan good) (later : ∀ value, good value → Gives (next value) fine) :
    Gives (scan >>= next) fine := by
  intro text found rest read
  obtain ⟨value, middle, first, second⟩ := exists_of_bind read
  exact later value (gives text value middle first) middle found rest second

/-- What comes last decides what the answers are like. -/
theorem gives_bind (scan : Scan α) {next : α → Scan β} {fine : β → Prop}
    (last : ∀ value, Gives (next value) fine) : Gives (scan >>= next) fine := by
  have anything : Gives scan fun _ => True := fun _ _ _ _ => trivial
  exact anything.bind fun value _ => last value

theorem Gives.orElse {first second : Scan α} {good : α → Prop} (gives : Gives first good)
    (otherwise : Gives second good) : Gives (first <|> second) good := by
  intro text value rest read
  cases found : first text with
  | none => exact otherwise text value rest (orElse_of_none found second ▸ read)
  | some pair =>
      obtain rfl : pair = (value, rest) := by
        simpa [orElse_of_some found second] using read
      exact gives text value rest found

theorem Gives.option {scan : Scan α} {good : α → Prop} (gives : Gives scan good) :
    Gives (option scan) fun found => ∀ value ∈ found, good value := by
  intro text found rest read value member
  cases first : scan text with
  | none =>
      rw [option_of_none first] at read
      cases read
      cases member
  | some pair =>
      rw [option_of_some first] at read
      cases read
      cases member
      exact gives text _ _ first

theorem Gives.many {scan : Scan α} {good : α → Prop} (gives : Gives scan good) :
    Gives (many scan) fun values => ∀ value ∈ values, good value := by
  intro text values rest read
  rw [Scan.many] at read
  generalize text.length = limit at read
  induction limit generalizing text values with
  | zero =>
      cases read
      exact List.forall_mem_nil _
  | succ limit ih =>
      rw [manyUpTo] at read
      split at read
      · cases read
        exact List.forall_mem_nil _
      · rename_i value middle first
        obtain ⟨⟨others, last⟩, later, same⟩ := Option.map_eq_some_iff.mp read
        cases same
        exact List.forall_mem_cons.mpr ⟨gives _ _ _ first, ih _ _ later⟩

theorem Gives.separated {scan : Scan α} {good : α → Prop} (gives : Gives scan good)
    (separator : Scan Unit) :
    Gives (separated scan separator) fun values => ∀ value ∈ values, good value :=
  gives.bind fun _ first => (gives_bind separator fun _ => gives).many.bind fun _ others =>
    gives_pure (List.forall_mem_cons.mpr ⟨first, others⟩)

theorem Gives.of_whole? {scan : Scan α} {good : α → Prop} (gives : Gives scan good)
    {text : String} {value : α} (read : whole? scan text = some value) : good value := by
  unfold whole? at read
  split at read
  · rename_i found first
    cases read
    exact gives _ _ _ first
  · cases read

/-! ## What is taken from a text -/

/-- Whatever the scan reads, the characters that it takes from the text pass a test. -/
def Takes (test : Char → Bool) (scan : Scan α) : Prop :=
  ∀ text value rest, scan text = some (value, rest) →
    ∃ front, front ++ rest = text ∧ ∀ c ∈ front, test c = true

section

variable {test : Char → Bool}

theorem takes_pure (value : α) : Takes test (pure value : Scan α) := by
  intro text found rest read
  cases read
  exact ⟨[], rfl, List.forall_mem_nil _⟩

theorem Takes.bind {scan : Scan α} {next : α → Scan β} (takes : Takes test scan)
    (later : ∀ value, Takes test (next value)) : Takes test (scan >>= next) := by
  intro text found rest read
  obtain ⟨value, middle, first, second⟩ := exists_of_bind read
  obtain ⟨front, rfl, frontPasses⟩ := takes text value middle first
  obtain ⟨back, rfl, backPasses⟩ := later value middle found rest second
  exact ⟨front ++ back, List.append_assoc _ _ _,
    List.forall_mem_append.mpr ⟨frontPasses, backPasses⟩⟩

theorem Takes.option {scan : Scan α} (takes : Takes test scan) : Takes test (option scan) := by
  intro text found rest read
  cases first : scan text with
  | none =>
      rw [option_of_none first] at read
      cases read
      exact ⟨[], rfl, List.forall_mem_nil _⟩
  | some pair =>
      rw [option_of_some first] at read
      cases read
      exact takes text _ _ first

theorem takes_one {own : Char → Bool} (passes : ∀ c, own c = true → test c = true) :
    Takes test (one own) := by
  intro text c rest read
  cases text with
  | nil => cases read
  | cons first text =>
      rw [one] at read
      split at read
      · rename_i holds
        cases read
        exact ⟨[c], rfl, by simpa using passes c holds⟩
      · cases read

theorem takes_mark {c : Char} (passes : test c = true) : Takes test (mark c) := by
  intro text value rest read
  obtain ⟨pair, first, same⟩ := Option.map_eq_some_iff.mp read
  cases same
  exact takes_one (fun d same => by rwa [eq_of_beq same]) text _ _ first

theorem takes_run {own : Char → Bool} (passes : ∀ c, own c = true → test c = true) :
    Takes test (run own) := by
  intro text found rest read
  cases read
  exact ⟨_, List.takeWhile_append_dropWhile, fun c member =>
    passes c (List.mem_takeWhile_imp member)⟩

theorem takes_someRun {own : Char → Bool} (passes : ∀ c, own c = true → test c = true) :
    Takes test (someRun own) := by
  intro text found rest read
  unfold someRun at read
  split at read
  · cases read
  · cases read
    exact takes_run passes text _ _ rfl

theorem takes_require (condition : Bool) : Takes test (require condition) := by
  intro text value rest read
  obtain rfl := eq_of_require read
  exact ⟨[], rfl, List.forall_mem_nil _⟩

theorem Takes.of_whole? {scan : Scan α} (takes : Takes test scan) {text : String} {value : α}
    (read : whole? scan text = some value) : ∀ c ∈ text.toList, test c = true := by
  unfold whole? at read
  split at read
  · rename_i found first
    obtain ⟨front, same, passes⟩ := takes _ _ _ first
    rw [← same, List.append_nil]
    exact passes
  · cases read

end

/-! ## Whole texts -/

theorem whole?_of_rest {scan : Scan α} {text : String} {value : α} {rest : List Char}
    (read : scan text.toList = some (value, rest)) (left : rest ≠ []) : whole? scan text = none := by
  obtain ⟨c, rest, rfl⟩ := List.exists_cons_of_ne_nil left
  simp [whole?, read]

theorem whole?_of_some {scan : Scan α} {text : String} {value : α}
    (read : scan text.toList = some (value, [])) : whole? scan text = some value := by
  simp [whole?, read]

end DevicePanel.Scan
