import DevicePanel.Proofs.Keyed
import DevicePanel.Settings.Load

/-!
# Layers of settings, one over the other

A key of two tables laid one over the other finds what the upper one has, laid over what the lower
one has, and else what the lower one has.  An environment without a variable of the program lays
nothing over what is below it.
-/

namespace DevicePanel.Settings

namespace Datum

/-- The members of a table. -/
def members : Datum → Keyed Datum
  | .table _ members => members
  | _ => []

/-! ## Tables over tables -/

/-- A value over what may stand below it. -/
def laidOver (lower : Option Datum) (upper : Datum) : Datum :=
  match lower with
  | some lower => overlay lower upper
  | none => upper

theorem overlayMembers_cons (below : Keyed Datum) (key : String) (upper : Datum)
    (others : List (String × Datum)) :
    overlayMembers below ((key, upper) :: others) =
      overlayMembers (below.put key (laidOver (below.find? key) upper)) others := by
  rw [overlayMembers]
  cases below.find? key <;> rfl

theorem find?_overlayMembers (key : String) {members : List (String × Datum)}
    (different : (Keyed.keys members).Nodup) (below : Keyed Datum) :
    (overlayMembers below members).find? key =
      ((Keyed.find? key members).map (laidOver (below.find? key))).or (below.find? key) := by
  induction members generalizing below with
  | nil => simp [overlayMembers, Keyed.find?]
  | cons member members ih =>
      obtain ⟨name, upper⟩ := member
      obtain ⟨fresh, others⟩ := List.nodup_cons.mp different
      rw [overlayMembers_cons, ih others, Keyed.find?_put]
      by_cases same : name = key
      · subst same
        simp [Keyed.find?, Keyed.find?_eq_none fresh]
      · simp [Keyed.find?, same, Ne.symm same]

theorem overlayMembers_of_absent {members : List (String × Datum)}
    (different : (Keyed.keys members).Nodup) {below : Keyed Datum}
    (absent : ∀ key ∈ Keyed.keys members, below.find? key = none) :
    overlayMembers below members = Keyed.putAll members below := by
  induction members generalizing below with
  | nil => rfl
  | cons member members ih =>
      obtain ⟨name, upper⟩ := member
      obtain ⟨fresh, others⟩ := List.nodup_cons.mp different
      have first : below.find? name = none := absent name (by simp [Keyed.keys])
      rw [overlayMembers_cons, first]
      refine ih others fun key member => ?_
      rw [Keyed.find?_put_of_ne]
      · exact absent key (List.mem_cons_of_mem _ member)
      · rintro rfl
        exact fresh member

/-- What is laid over a value at a path is laid over what its first key finds there. -/
theorem overlay_nest (lower : Datum) (first : String) (path : List String) (value : Datum) :
    overlay lower (Variable.nest value (first :: path)) = .table .environment
      (lower.members.put first
        (laidOver (lower.members.find? first) (Variable.nest value path))) := by
  rw [Variable.nest]
  cases lower with
  | table layer below =>
      rw [overlay, overlayMembers_cons]
      rfl
  | _ => rfl

/-- Over an empty table a table with its keys in order stays as it is. -/
theorem overlayMembers_nil {members : Keyed Datum} (ordered : Keyed.Ordered members) :
    overlayMembers [] members = members := by
  rw [overlayMembers_of_absent ordered.nodup (fun _ _ => rfl), ← Keyed.ofPairs_eq,
    Keyed.ofPairs_of_ordered ordered]

theorem ordered_overlayMembers (members : List (String × Datum)) {below : Keyed Datum}
    (ordered : Keyed.Ordered below) : Keyed.Ordered (overlayMembers below members) := by
  induction members generalizing below with
  | nil => exact ordered
  | cons member members ih =>
      obtain ⟨name, upper⟩ := member
      rw [overlayMembers_cons]
      exact ih (Keyed.ordered_put name _ ordered)

/-- The datum is no table with its keys out of order. -/
def IsOrdered : Datum → Prop
  | .table _ members => Keyed.Ordered members
  | _ => True

/-- What is laid over a table with its keys in order is none with its keys out of order. -/
theorem isOrdered_overlay {layer : Layer} {below : Keyed Datum} (ordered : Keyed.Ordered below)
    (upper : Datum) : (overlay (.table layer below) upper).IsOrdered := by
  cases upper with
  | table layer members =>
      rw [overlay]
      exact ordered_overlayMembers members ordered
  | _ => trivial

theorem ofTomlMembers_eq (members : List (String × Toml.Value)) :
    ofTomlMembers members = Keyed.mapValues ofToml members := by
  induction members with
  | nil => rfl
  | cons member members ih =>
      rw [ofTomlMembers, ih]
      rfl

end Datum

/-! ## Environments without a variable of the program -/

/-- The name is one of a variable of the program. -/
def Variable.IsOurs (name : String) : Prop :=
  start.toList <+: small (Text.trim name.toList)

/-- No variable of the program is set. -/
def Silent (environment : Environment) : Prop :=
  ∀ pair ∈ environment, ¬ Variable.IsOurs pair.1

theorem Variable.path?_of_not_isOurs {name : String} (notOurs : ¬ Variable.IsOurs name) :
    Variable.path? name = none := by
  have noStart : Variable.start.toList.isPrefixOf
      (Variable.small (Text.trim name.toList)) = false :=
    Bool.eq_false_iff.mpr fun front => notOurs (List.isPrefixOf_iff_prefix.mp front)
  simp [Variable.path?, noStart]

/-- What a variable sets, over what the variables before it set. -/
def Variable.setOver (below : Datum) (pair : String × String) : Datum :=
  match path? pair.1 with
  | none => below
  | some path => below.overlay (nest (datumOf pair.2) path)

theorem Variable.foldl_setOver_of_silent {environment : Environment} (silent : Silent environment)
    (below : Datum) : environment.foldl setOver below = below := by
  induction environment with
  | nil => rfl
  | cons pair others ih =>
      obtain ⟨first, rest⟩ := List.forall_mem_cons.mp silent
      rw [List.foldl_cons, setOver, path?_of_not_isOurs first]
      exact ih rest

theorem layer_of_silent {environment : Environment} (silent : Silent environment) :
    Variable.layer environment = .table .environment [] :=
  Variable.foldl_setOver_of_silent silent _

/-- In a silent environment the settings are those of the file over what is built in. -/
theorem layers_of_silent {environment : Environment} (silent : Silent environment)
    {file : Option String} {written : Keyed Datum}
    (read : fileLayer file = .ok (.table .file written)) :
    layers file environment =
      .ok (.table .environment (Datum.overlayMembers builtIn.members written)) := by
  rw [layers, layer_of_silent silent, read]
  rfl

end DevicePanel.Settings
