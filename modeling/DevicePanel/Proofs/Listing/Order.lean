import DevicePanel.Listing
import Mathlib.Data.List.Nodup
import Mathlib.Data.Prod.Lex
import Mathlib.Data.String.Basic

/-!
# The order of a listing

A listing is accepted exactly when no identifier occurs twice.  What is accepted are the same
devices, ordered by type and then by name, both in small letters.
-/

namespace DevicePanel.Listing

/-- The key of a device, compared by its type and then by its name. -/
def orderKey (device : Device) : Lex (String × String) := toLex (sortKey device)

/-- In a list ordered by a key, the items with one key stand together. -/
theorem eq_parts_of_pairwise {α β : Type} [LinearOrder β] (key : α → β) (value : β)
    {items : List α} (ordered : items.Pairwise fun a b => key a ≤ key b) :
    items = items.filter (fun item => key item < value) ++
      items.filter (fun item => key item = value) ++
      items.filter (fun item => value < key item) := by
  induction items with
  | nil => rfl
  | cons item items ih =>
      obtain ⟨least, rest⟩ := List.pairwise_cons.mp ordered
      rcases lt_trichotomy (key item) value with below | same | above
      · have others := ih rest
        simp only [List.filter_cons, below, below.ne, below.not_gt, decide_true, decide_false,
          if_true, Bool.false_eq_true, if_false, List.cons_append]
        rw [← others]
      · -- Nothing after an item with the key comes before the key.
        have none : items.filter (fun item => key item < value) = [] := by
          rw [List.filter_eq_nil_iff]
          intro other member
          simpa using same ▸ least other member
        have others := ih rest
        rw [none, List.nil_append] at others
        simp only [List.filter_cons, same, lt_irrefl, decide_true, decide_false, if_true,
          Bool.false_eq_true, if_false, none, List.nil_append, List.cons_append]
        rw [← others]
      · have none : ∀ other ∈ items, value < key other :=
          fun other member => above.trans_le (least other member)
        have below : items.filter (fun item => key item < value) = [] :=
          List.filter_eq_nil_iff.mpr fun other member => by simpa using (none other member).le
        have same : items.filter (fun item => key item = value) = [] :=
          List.filter_eq_nil_iff.mpr fun other member => by simpa using (none other member).ne'
        have after : items.filter (fun item => value < key item) = items :=
          List.filter_eq_self.mpr fun other member => by simpa using none other member
        simp [above, above.not_gt, above.ne', below, same, after]

theorem keyLe_iff {a b : String × String} : keyLe a b = true ↔ toLex a ≤ toLex b := by
  rw [Prod.Lex.toLex_le_toLex, keyLe]
  by_cases same : a.1 = b.1
  · rw [if_pos same, Bool.not_eq_true', decide_eq_false_iff_not, not_lt]
    simp only [same, lt_irrefl, true_and, false_or]
  · rw [if_neg same, decide_eq_true_eq]
    simp only [same, false_and, or_false]

theorem sorted_perm (devices : List Device) : (sorted devices).Perm devices := by
  have tagged := (List.mergeSort_perm (devices.map fun device => (sortKey device, device))
    fun a b => keyLe a.1 b.1).map Prod.snd
  rw [List.map_map] at tagged
  simpa [sorted, Function.comp_def] using tagged

theorem pairwise_sorted (devices : List Device) :
    (sorted devices).Pairwise fun a b => orderKey a ≤ orderKey b := by
  have trans : ∀ a b c : (String × String) × Device, keyLe a.1 b.1 = true →
      keyLe b.1 c.1 = true → keyLe a.1 c.1 = true := by
    intro a b c first second
    rw [keyLe_iff] at first second ⊢
    exact first.trans second
  have total : ∀ a b : (String × String) × Device, (keyLe a.1 b.1 || keyLe b.1 a.1) = true := by
    intro a b
    rw [Bool.or_eq_true, keyLe_iff, keyLe_iff]
    exact le_total _ _
  have ordered := List.pairwise_mergeSort trans total
    (devices.map fun device => (sortKey device, device))
  rw [sorted, List.pairwise_map]
  refine ordered.imp_of_mem ?_
  intro a b first second le
  have key : ∀ tagged ∈ (devices.map fun device => (sortKey device, device)).mergeSort
      fun a b => keyLe a.1 b.1, tagged.1 = sortKey tagged.2 := by
    intro tagged member
    obtain ⟨device, -, rfl⟩ := List.mem_map.mp (List.mem_mergeSort.mp member)
    rfl
  rw [keyLe_iff, key a first, key b second] at le
  exact le

theorem lower_typeName_le {a b : Device} (le : orderKey a ≤ orderKey b) :
    Text.lower a.typeName ≤ Text.lower b.typeName := by
  rcases Prod.Lex.toLex_le_toLex.mp le with less | ⟨same, -⟩
  · exact less.le
  · exact same.le

/-- Among devices of one type the name decides. -/
theorem lower_name_le {a b : Device} (le : orderKey a ≤ orderKey b)
    (same : Text.lower a.typeName = Text.lower b.typeName) :
    Text.lower a.name ≤ Text.lower b.name := by
  rcases Prod.Lex.toLex_le_toLex.mp le with less | ⟨-, le⟩
  · exact absurd same less.ne
  · exact le

/-! ## The devices of one type -/

/-- The devices whose type in small letters comes before the given one. -/
def beforeType (small : String) (devices : List Device) : List Device :=
  devices.filter fun device => Text.lower device.typeName < small

def ofType (small : String) (devices : List Device) : List Device :=
  devices.filter fun device => Text.lower device.typeName = small

def afterType (small : String) (devices : List Device) : List Device :=
  devices.filter fun device => small < Text.lower device.typeName

theorem mem_ofType_iff {small : String} {devices : List Device} {device : Device} :
    device ∈ ofType small devices ↔ device ∈ devices ∧ Text.lower device.typeName = small := by
  simp [ofType]

/-- Types before and after are other types. -/
theorem lower_typeName_ne {small : String} {devices : List Device} {device : Device}
    (member : device ∈ beforeType small devices ++ afterType small devices) :
    Text.lower device.typeName ≠ small := by
  rcases List.mem_append.mp member with before | after
  · exact (of_decide_eq_true (List.mem_filter.mp before).2).ne
  · exact (of_decide_eq_true (List.mem_filter.mp after).2).ne'

/-- In the order of the board the devices of one type stand together. -/
theorem sorted_eq_parts (devices : List Device) (small : String) :
    sorted devices = beforeType small (sorted devices) ++ ofType small (sorted devices) ++
      afterType small (sorted devices) := by
  have parts := eq_parts_of_pairwise (fun device : Device => Text.lower device.typeName) small
    ((pairwise_sorted devices).imp lower_typeName_le)
  unfold beforeType ofType afterType
  -- The order of texts decides its comparisons in another way than the filters do.
  convert parts

/-- The devices of one type are ordered by their names. -/
theorem pairwise_ofType_sorted (devices : List Device) (small : String) :
    (ofType small (sorted devices)).Pairwise fun a b => Text.lower a.name ≤ Text.lower b.name := by
  have ordered : (ofType small (sorted devices)).Pairwise fun a b => orderKey a ≤ orderKey b :=
    (pairwise_sorted devices).filter _
  refine ordered.imp_of_mem ?_
  intro a b first second le
  have same : Text.lower a.typeName = Text.lower b.typeName :=
    (mem_ofType_iff.mp first).2.trans (mem_ofType_iff.mp second).2.symm
  exact lower_name_le le same

/-! ## Accepting a listing -/

/-- No identifier is found to be repeated when they differ from each other and from those seen
before. -/
theorem repeatedId?_eq_none_iff {seen : List String} {devices : List Device} :
    repeatedId? seen devices = none ↔
      (devices.map Device.id).Nodup ∧ ∀ device ∈ devices, device.id ∉ seen := by
  induction devices generalizing seen with
  | nil => simp [repeatedId?]
  | cons device devices ih =>
      rw [repeatedId?]
      by_cases before : seen.contains device.id = true
      · simp only [before, if_true]
        rw [List.contains_iff_mem] at before
        simp [before]
      · rw [if_neg before, ih, List.map_cons, List.nodup_cons, List.forall_mem_cons]
        rw [List.contains_iff_mem] at before
        constructor
        · rintro ⟨distinct, fresh⟩
          refine ⟨⟨?_, distinct⟩, before, ?_⟩
          · intro member
            obtain ⟨other, inside, same⟩ := List.mem_map.mp member
            exact fresh other inside (same ▸ List.mem_cons_self)
          · exact fun other inside seenBefore =>
              fresh other inside (List.mem_cons_of_mem _ seenBefore)
        · rintro ⟨⟨first, distinct⟩, -, fresh⟩
          refine ⟨distinct, ?_⟩
          intro other inside member
          rcases List.mem_cons.mp member with same | seenBefore
          · exact first (same ▸ List.mem_map_of_mem inside)
          · exact fresh other inside seenBefore

theorem accept_eq_ok_iff {devices listing : List Device} :
    accept devices = .ok listing ↔
      (devices.map Device.id).Nodup ∧ sorted devices = listing := by
  have distinct : repeatedId? [] devices = none ↔ (devices.map Device.id).Nodup := by
    simp [repeatedId?_eq_none_iff]
  rw [accept, ← distinct]
  cases repeatedId? [] devices with
  | none => simp
  | some id => simp

end DevicePanel.Listing
