import DevicePanel.Proofs.Settings.Loading
import Mathlib.Data.List.Induction

/-!
# Values at paths of keys

A value of settings stands at the path of keys that leads to it.  What a variable sets at its path
leaves all paths that go another way.  So, where the path of no variable begins the path of another
one, the environment holds the value of every variable at its path, tables on the way there, and
nothing else.
-/

namespace DevicePanel.Settings

open Variable (nest)

namespace Datum

/-! ## What stands at a path -/

/-- What the keys of a path lead to. -/
def at? : (path : List String) → Datum → Option Datum
  | [], datum => some datum
  | key :: path, datum => (datum.members.find? key).bind (at? path)

theorem at?_append (front back : List String) (datum : Datum) :
    datum.at? (front ++ back) = (datum.at? front).bind (at? back) := by
  induction front generalizing datum with
  | nil => rfl
  | cons key front ih =>
      rw [List.cons_append, at?, at?]
      cases datum.members.find? key with
      | none => rfl
      | some inner => exact ih inner

theorem at?_singleton (key : String) (datum : Datum) :
    datum.at? [key] = datum.members.find? key := by
  rw [at?]
  cases datum.members.find? key <;> rfl

def IsTable : Datum → Prop
  | .table .. => True
  | _ => False

instance : DecidablePred IsTable
  | .table .. => .isTrue trivial
  | .bool .. | .signed .. | .unsigned .. | .real .. | .text .. | .list .. => .isFalse id

/-- The datum is neither a table nor a list. -/
def IsScalar : Datum → Prop
  | .table .. | .list .. => False
  | _ => True

instance : DecidablePred IsScalar
  | .table .. | .list .. => .isFalse id
  | .bool .. | .signed .. | .unsigned .. | .real .. | .text .. => .isTrue trivial

section

variable {datum : Datum} (scalar : datum.IsScalar)

include scalar

theorem IsScalar.members_eq : datum.members = [] := by
  cases datum <;> first | rfl | exact absurd scalar id

/-- No key leads from a scalar to anything. -/
theorem IsScalar.at?_eq_none {path : List String} (further : path ≠ []) :
    datum.at? path = none := by
  obtain ⟨key, path, rfl⟩ := List.exists_cons_of_ne_nil further
  rw [at?, scalar.members_eq]
  rfl

/-- A scalar hides what is below it. -/
theorem IsScalar.overlay_eq (lower : Datum) : lower.overlay datum = datum := by
  cases datum <;> first | rfl | exact absurd scalar id

theorem IsScalar.laidOver_eq (lower : Option Datum) : laidOver lower datum = datum := by
  cases lower with
  | none => rfl
  | some lower => exact scalar.overlay_eq lower

end

/-! ## What is laid over others at one path -/

section

variable {value : Datum} {lower : Option Datum} {path other : List String}

theorem laidOver_nest_cons (first : String) (lower : Option Datum) :
    laidOver lower (nest value (first :: path)) = .table .environment
      (Keyed.put first (laidOver (lower.bind (at? [first])) (nest value path))
        (lower.elim [] members)) := by
  cases lower with
  | none => rfl
  | some lower => rw [laidOver, overlay_nest, Option.bind_some, at?_singleton, Option.elim_some]

theorem at?_laidOver_nest_cons (key first : String) (lower : Option Datum) :
    (laidOver lower (nest value (first :: path))).at? (key :: other) =
      if key = first then
        (laidOver (lower.bind (at? [first])) (nest value path)).at? other
      else lower.bind (at? (key :: other)) := by
  rw [laidOver_nest_cons, at?, members, Keyed.find?_put]
  split_ifs with same
  · rfl
  · cases lower <;> rfl

/-- A path that goes another way leads to what it led to before. -/
theorem at?_laidOver_nest_of_apart (apart : ¬ path <+: other ∧ ¬ other <+: path) :
    (laidOver lower (nest value path)).at? other = lower.bind (at? other) := by
  induction path generalizing lower other with
  | nil => exact absurd List.nil_prefix apart.1
  | cons first path ih =>
      cases other with
      | nil => exact absurd List.nil_prefix apart.2
      | cons key other =>
          rw [at?_laidOver_nest_cons]
          split_ifs with same
          · subst same
            rw [ih (by simpa using apart), Option.bind_assoc]
            exact Option.bind_congr fun inner _ => (at?_append [key] other inner).symm
          · rfl

/-- The path itself leads to the value, if that is a scalar. -/
theorem at?_laidOver_nest_self (scalar : value.IsScalar) :
    (laidOver lower (nest value path)).at? path = some value := by
  induction path generalizing lower with
  | nil => rw [nest, scalar.laidOver_eq, at?]
  | cons first path ih => rw [at?_laidOver_nest_cons, if_pos rfl, ih]

/-- Whatever comes before the path leads to a table. -/
theorem at?_laidOver_nest_of_before (before : other <+: path) (differs : other ≠ path) :
    ∃ table, (laidOver lower (nest value path)).at? other = some table ∧ table.IsTable := by
  induction path generalizing lower other with
  | nil => exact absurd (List.prefix_nil.mp before) differs
  | cons first path ih =>
      cases other with
      | nil =>
          rw [laidOver_nest_cons]
          exact ⟨_, rfl, trivial⟩
      | cons key other =>
          obtain ⟨rfl, further⟩ := List.cons_prefix_cons.mp before
          rw [at?_laidOver_nest_cons, if_pos rfl]
          exact ih further fun same => differs (congrArg (key :: ·) same)

theorem isSome_at?_laidOver_nest (scalar : value.IsScalar) (reached : other <+: path) :
    ((laidOver lower (nest value path)).at? other).isSome := by
  by_cases own : other = path
  · rw [own, at?_laidOver_nest_self scalar, Option.isSome_some]
  · obtain ⟨table, found, -⟩ : ∃ table,
        (laidOver lower (nest value path)).at? other = some table ∧ table.IsTable :=
      at?_laidOver_nest_of_before reached own
    rw [found, Option.isSome_some]

/-- Nothing stands behind the path, if the value is a scalar. -/
theorem at?_laidOver_nest_of_behind (scalar : value.IsScalar) (behind : path <+: other)
    (differs : path ≠ other) : (laidOver lower (nest value path)).at? other = none := by
  obtain ⟨further, rfl⟩ := behind
  rw [at?_append, at?_laidOver_nest_self scalar, Option.bind_some, scalar.at?_eq_none]
  rintro rfl
  exact differs (List.append_nil path).symm

end

/-! ## Tables in order -/

/-- Every table that a path leads to has its keys in order. -/
def Tidy (datum : Datum) : Prop :=
  ∀ path found, datum.at? path = some found → found.IsOrdered

section

variable {datum inner : Datum}

theorem Tidy.isOrdered (tidy : datum.Tidy) : datum.IsOrdered := tidy [] datum rfl

theorem Tidy.at? (tidy : datum.Tidy) {path : List String} (found : datum.at? path = some inner) :
    inner.Tidy := fun further last lastFound =>
  tidy (path ++ further) last (by rw [at?_append, found, Option.bind_some, lastFound])

theorem tidy_of_members (ordered : datum.IsOrdered)
    (tidy : ∀ member ∈ datum.members, member.2.Tidy) : datum.Tidy := by
  intro path found leads
  cases path with
  | nil =>
      cases leads
      exact ordered
  | cons key path =>
      obtain ⟨inner, first, later⟩ := Option.bind_eq_some_iff.mp leads
      exact tidy (key, inner) (Keyed.mem_of_find? first) path found later

theorem Tidy.ordered_members (tidy : datum.Tidy) : Keyed.Ordered datum.members := by
  cases datum <;> first | exact tidy.isOrdered | exact List.Pairwise.nil

theorem Tidy.of_mem (tidy : datum.Tidy) {member : String × Datum}
    (inside : member ∈ datum.members) : member.2.Tidy := by
  have found : datum.at? [member.1] = some member.2 := by
    rw [at?_singleton, Keyed.find?_of_mem tidy.ordered_members inside]
  exact tidy.at? found

theorem IsScalar.tidy (scalar : datum.IsScalar) : datum.Tidy :=
  tidy_of_members (by cases datum <;> trivial)
    (by simp [scalar.members_eq])

theorem tidy_ofToml {value : Toml.Value} (tidy : value.Tidy) : (ofToml value).Tidy := by
  induction tidy with
  | text | whole | real | bool => exact IsScalar.tidy (by rw [ofToml]; trivial)
  | moment =>
      rw [ofToml]
      refine tidy_of_members (List.pairwise_singleton _ _) fun member inside => ?_
      rw [List.mem_singleton.mp inside]
      exact IsScalar.tidy trivial
  | list =>
      rw [ofToml]
      exact tidy_of_members trivial (List.forall_mem_nil _)
  | table ordered _ ih =>
      rw [ofToml, ofTomlMembers_eq]
      refine tidy_of_members (Keyed.ordered_mapValues _ ordered) fun member inside => ?_
      obtain ⟨written, before, rfl⟩ := List.mem_map.mp inside
      exact ih written before

theorem tidy_laidOver_nest {value : Datum} (scalar : value.IsScalar) (path : List String)
    {lower : Option Datum} (tidy : ∀ datum ∈ lower, datum.Tidy) :
    (laidOver lower (nest value path)).Tidy := by
  induction path generalizing lower with
  | nil =>
      rw [nest, scalar.laidOver_eq]
      exact scalar.tidy
  | cons first path ih =>
      have below : ∀ datum ∈ lower.bind (Datum.at? [first]), datum.Tidy := fun datum found => by
        obtain ⟨lower, isLower, leads⟩ := Option.bind_eq_some_iff.mp found
        exact (tidy lower isLower).at? leads
      rw [laidOver_nest_cons]
      refine tidy_of_members (Keyed.ordered_put _ _ ?_) fun member inside => ?_
      · cases lower with
        | none => exact List.Pairwise.nil
        | some lower => exact (tidy lower rfl).ordered_members
      · rcases Keyed.mem_put inside with rfl | before
        · exact ih below
        · cases lower with
          | none => cases before
          | some lower => exact (tidy lower rfl).of_mem before

end

end Datum

theorem tidy_fileLayer {file : Option String} {written : Datum}
    (read : fileLayer file = .ok written) : written.Tidy := by
  cases file with
  | none =>
      cases read
      exact Datum.tidy_of_members List.Pairwise.nil (List.forall_mem_nil _)
  | some text =>
      rw [fileLayer] at read
      split at read
      · rename_i members found
        cases read
        exact Datum.tidy_ofToml (Toml.tidy_ofText? found)
      · cases read

/-! ## What the environment holds -/

namespace Variable

open Datum

/-- The value of the variable with a path. -/
def value? (environment : Environment) (path : List String) : Option Datum :=
  (List.find? (fun pair => path? pair.1 = some path) environment).map fun pair => datumOf pair.2

/-- A variable sets the value at the path or one below. -/
def SetsUnder (environment : Environment) (path : List String) : Prop :=
  ∃ pair ∈ environment, ∃ whole ∈ path? pair.1, path <+: whole

instance (environment : Environment) : DecidablePred (SetsUnder environment) :=
  fun path => inferInstanceAs (Decidable (∃ pair ∈ environment, ∃ whole ∈ path? pair.1,
    path <+: whole))

/-- The path of no variable begins the path of another one. -/
def Apart (environment : Environment) : Prop :=
  environment.Pairwise fun first second => ∀ path ∈ path? first.1, ∀ other ∈ path? second.1,
    ¬ path <+: other ∧ ¬ other <+: path

instance : DecidablePred Apart := fun _ =>
  inferInstanceAs (Decidable (List.Pairwise _ _))

/-- The variables have scalars as their values. -/
def Scalars (environment : Environment) : Prop :=
  ∀ pair ∈ environment, ∀ path ∈ path? pair.1, (datumOf pair.2).IsScalar

instance : DecidablePred Scalars := fun environment =>
  inferInstanceAs (Decidable (∀ pair ∈ environment, _))

/-- A datum holds what variables set: their values at their paths, tables on the way there, and
nothing else. -/
structure Held (environment : Environment) (datum : Datum) : Prop where
  tidy : datum.Tidy
  isSome : ∀ path, SetsUnder environment path → (datum.at? path).isSome
  setsUnder : ∀ path, path ≠ [] → (datum.at? path).isSome → SetsUnder environment path
  value? : ∀ path found, datum.at? path = some found → ¬ found.IsTable → path ≠ [] →
    value? environment path = some found

section

variable {environment : Environment} {pair : String × String} {path whole : List String}

theorem setsUnder_concat : SetsUnder (environment ++ [pair]) path ↔
    SetsUnder environment path ∨ ∃ whole ∈ path? pair.1, path <+: whole := by
  simp only [SetsUnder, List.mem_append, List.mem_singleton, or_and_right, exists_or,
    exists_eq_left]

theorem value?_concat : value? (environment ++ [pair]) path = (value? environment path).or
    (if path? pair.1 = some path then some (datumOf pair.2) else none) := by
  unfold value?
  rw [List.find?_append]
  cases List.find? (fun pair => path? pair.1 = some path) environment with
  | some found => rfl
  | none => by_cases same : path? pair.1 = some path <;> simp [same]

/-- A variable that is apart from all others has a path of its own. -/
theorem value?_eq_none (apart : Apart (environment ++ [pair])) (found : path? pair.1 = some path) :
    value? environment path = none := by
  obtain ⟨-, -, each⟩ := List.pairwise_append.mp apart
  have fresh : List.find? (fun pair => path? pair.1 = some path) environment = none :=
    List.find?_eq_none.mpr fun earlier member same =>
      (each earlier member pair (List.mem_singleton_self pair) path (by simpa using same) path
        found).1 (List.prefix_refl path)
  rw [value?, fresh, Option.map_none]

theorem Held.skip {datum : Datum} (held : Held environment datum) (noPath : path? pair.1 = none) :
    Held (environment ++ [pair]) datum := by
  have sets (path : List String) : SetsUnder (environment ++ [pair]) path ↔
      SetsUnder environment path := by simp [setsUnder_concat, noPath]
  have value (path : List String) : Variable.value? (environment ++ [pair]) path =
      Variable.value? environment path := by simp [value?_concat, noPath]
  exact {
    tidy := held.tidy
    isSome := fun path under => held.isSome path ((sets path).mp under)
    setsUnder := fun path further found => (sets path).mpr (held.setsUnder path further found)
    value? := fun path found leads noTable further =>
      (value path).trans (held.value? path found leads noTable further) }

/-- A path either leads to the whole path, or away from its end, or another way. -/
theorem Held.set {datum : Datum} (held : Held environment datum)
    (apart : Apart (environment ++ [pair])) (isWhole : path? pair.1 = some whole)
    (scalar : (datumOf pair.2).IsScalar) :
    Held (environment ++ [pair]) (laidOver (some datum) (nest (datumOf pair.2) whole)) := by
  obtain ⟨-, -, each⟩ := List.pairwise_append.mp apart
  refine {
    tidy := tidy_laidOver_nest scalar whole fun below isBelow => ?_
    isSome := fun path sets => ?_
    setsUnder := fun path further found => ?_
    value? := fun path found leads noTable further => ?_ }
  · cases isBelow
    exact held.tidy
  · by_cases before : path <+: whole
    · exact isSome_at?_laidOver_nest scalar before
    · rcases setsUnder_concat.mp sets with earlier | ⟨other, isOther, reached⟩
      · have noBehind : ¬ whole <+: path := fun behind => by
          obtain ⟨first, member, other, isOther, reached⟩ := earlier
          exact (each first member pair (List.mem_singleton_self pair) other isOther whole
            isWhole).2 (behind.trans reached)
        rw [at?_laidOver_nest_of_apart ⟨noBehind, before⟩]
        exact held.isSome path earlier
      · obtain rfl : whole = other := Option.some.inj (isWhole.symm.trans isOther)
        exact absurd reached before
  · by_cases before : path <+: whole
    · exact setsUnder_concat.mpr (Or.inr ⟨whole, isWhole, before⟩)
    · by_cases behind : whole <+: path
      · have differs : whole ≠ path := fun same => before (same ▸ List.prefix_refl _)
        simp [at?_laidOver_nest_of_behind scalar behind differs] at found
      · rw [at?_laidOver_nest_of_apart ⟨behind, before⟩] at found
        exact setsUnder_concat.mpr (Or.inl (held.setsUnder path further found))
  · rw [value?_concat]
    by_cases own : path = whole
    · subst own
      obtain rfl : datumOf pair.2 = found := by
        simpa [at?_laidOver_nest_self scalar] using leads
      rw [value?_eq_none apart isWhole, if_pos isWhole, Option.none_or]
    · by_cases before : path <+: whole
      · obtain ⟨table, isTable, kind⟩ := at?_laidOver_nest_of_before before own
        exact absurd (Option.some.inj (isTable.symm.trans leads) ▸ kind) noTable
      · by_cases behind : whole <+: path
        · rw [at?_laidOver_nest_of_behind scalar behind (Ne.symm own)] at leads
          cases leads
        · rw [at?_laidOver_nest_of_apart ⟨behind, before⟩] at leads
          rw [held.value? path found leads noTable further, Option.some_or]

/-- The environment holds what its variables set. -/
theorem held_layer (apart : Apart environment) (scalars : Scalars environment) :
    Held environment (layer environment) := by
  induction environment using List.reverseRecOn with
  | nil =>
      have empty (path : List String) (further : path ≠ []) : (layer []).at? path = none := by
        obtain ⟨key, path, rfl⟩ := List.exists_cons_of_ne_nil further
        rfl
      exact {
        tidy := tidy_of_members List.Pairwise.nil (List.forall_mem_nil _)
        isSome := fun path sets => by simp [SetsUnder] at sets
        setsUnder := fun path further found => by simp [empty path further] at found
        value? := fun path found leads _ further => by simp [empty path further] at leads }
  | append_singleton environment pair ih =>
      have others := ih (List.pairwise_append.mp apart).1
        fun pair member => scalars pair (List.mem_append_left _ member)
      have last : layer (environment ++ [pair]) = Variable.setOver (layer environment) pair :=
        List.foldl_append
      rw [last, Variable.setOver]
      cases isWhole : path? pair.1 with
      | none => exact others.skip isWhole
      | some whole =>
          exact others.set apart isWhole (scalars pair (by simp) whole isWhole)

end

end Variable

end DevicePanel.Settings
