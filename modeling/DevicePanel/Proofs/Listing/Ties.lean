import DevicePanel.Proofs.Listing.Order
import Mathlib.Data.List.Induction

/-!
# Ties, and identifiers that repeat

An accepted listing is the one arrangement of the hub's devices that is ordered by their keys and
leaves devices of one key in the hub's order.  A refused one names the first device whose
identifier stands before it.
-/

namespace DevicePanel.Listing

/-! ## Items with one key -/

section Keys

variable {α β : Type} [LinearOrder β] {key : α → β} {first second : List α}

theorem mem_iff_of_ties (ties : ∀ value, (first.filter fun item => key item = value) =
    second.filter fun item => key item = value) (item : α) : item ∈ first ↔ item ∈ second := by
  have tied := congrArg (item ∈ ·) (ties (key item))
  simpa using tied

/-- A list that is ordered by a key is told by the items with each one key. -/
theorem eq_of_pairwise_of_ties (firstOrdered : first.Pairwise fun a b => key a ≤ key b)
    (secondOrdered : second.Pairwise fun a b => key a ≤ key b)
    (ties : ∀ value, (first.filter fun item => key item = value) =
      second.filter fun item => key item = value) : first = second := by
  induction first generalizing second with
  | nil =>
      symm
      rw [List.eq_nil_iff_forall_not_mem]
      intro item inside
      simpa using (mem_iff_of_ties ties item).mpr inside
  | cons a first ih =>
      cases second with
      | nil => simpa using (mem_iff_of_ties ties a).mp List.mem_cons_self
      | cons b second =>
          obtain ⟨aLeast, firstTail⟩ := List.pairwise_cons.mp firstOrdered
          obtain ⟨bLeast, secondTail⟩ := List.pairwise_cons.mp secondOrdered
          -- Each head stands in the other list, so neither key comes before the other.
          have sameKey : key a = key b := by
            apply le_antisymm
            · rcases List.mem_cons.mp ((mem_iff_of_ties ties b).mpr List.mem_cons_self) with
                same | inside
              · exact le_of_eq (by rw [same])
              · exact aLeast b inside
            · rcases List.mem_cons.mp ((mem_iff_of_ties ties a).mp List.mem_cons_self) with
                same | inside
              · exact le_of_eq (by rw [same])
              · exact bLeast a inside
          have heads := ties (key a)
          rw [List.filter_cons_of_pos (by simp), List.filter_cons_of_pos (by simp [sameKey])]
            at heads
          obtain ⟨rfl, -⟩ := List.cons.inj heads
          have tails : ∀ value, (first.filter fun item => key item = value) =
              second.filter fun item => key item = value := by
            intro value
            have both := ties value
            rw [List.filter_cons, List.filter_cons] at both
            split at both
            · exact (List.cons.inj both).2
            · exact both
          rw [ih firstTail secondTail tails]

end Keys

/-- Devices of one key stand in the same order in both lists. -/
def SameTies (first second : List Device) : Prop :=
  ∀ key, (first.filter fun device => sortKey device = key) =
    second.filter fun device => sortKey device = key

/-- The devices of a list ordered by their keys, those of one key as they stood. -/
structure Arranges (listing devices : List Device) : Prop where
  perm : listing.Perm devices
  ordered : listing.Pairwise fun a b => orderKey a ≤ orderKey b
  ties : SameTies listing devices

namespace SameTies

variable {first second third : List Device}

theorem symm (ties : SameTies first second) : SameTies second first :=
  fun key => (ties key).symm

theorem trans (ties : SameTies first second) (others : SameTies second third) :
    SameTies first third :=
  fun key => (ties key).trans (others key)

theorem orderKey (ties : SameTies first second) (key : Lex (String × String)) :
    (first.filter fun device => Listing.orderKey device = key) =
      second.filter fun device => Listing.orderKey device = key := by
  have same (device : Device) :
      decide (Listing.orderKey device = key) = decide (sortKey device = ofLex key) :=
    decide_eq_decide.mpr Iff.rfl
  simp only [same]
  exact ties (ofLex key)

end SameTies

theorem sorted_eq_mergeSort (devices : List Device) :
    sorted devices = devices.mergeSort fun a b => keyLe (sortKey a) (sortKey b) := by
  have tagged : (devices.mergeSort fun a b => keyLe (sortKey a) (sortKey b)).map
      (fun device => (sortKey device, device)) =
      (devices.map fun device => (sortKey device, device)).mergeSort fun a b => keyLe a.1 b.1 :=
    List.map_mergeSort fun _ _ _ _ => rfl
  rw [sorted, ← tagged, List.map_map]
  exact List.map_id _

/-- Sorting leaves devices of one key in their order. -/
theorem sameTies_sorted (devices : List Device) : SameTies (sorted devices) devices := by
  intro key
  have trans : ∀ a b c : Device, keyLe (sortKey a) (sortKey b) = true →
      keyLe (sortKey b) (sortKey c) = true → keyLe (sortKey a) (sortKey c) = true := by
    intro a b c
    simp only [keyLe_iff]
    exact le_trans
  have total : ∀ a b : Device,
      (keyLe (sortKey a) (sortKey b) || keyLe (sortKey b) (sortKey a)) = true := by
    intro a b
    simp only [Bool.or_eq_true, keyLe_iff]
    exact le_total _ _
  have tied : (devices.filter fun device => sortKey device = key).Pairwise
      fun a b => keyLe (sortKey a) (sortKey b) = true := by
    apply List.pairwise_of_forall_mem_list
    intro a first b second
    rw [keyLe_iff, of_decide_eq_true (List.mem_filter.mp first).2,
      of_decide_eq_true (List.mem_filter.mp second).2]
  have inside : (devices.filter fun device => sortKey device = key).Sublist (sorted devices) := by
    rw [sorted_eq_mergeSort]
    exact List.sublist_mergeSort trans total tied List.filter_sublist
  -- What is filtered once more stays, and there are no others with the key.
  have kept := inside.filter fun device => sortKey device = key
  rw [List.filter_filter] at kept
  simp only [Bool.and_self] at kept
  exact (kept.eq_of_length ((sorted_perm devices).filter _).length_eq.symm).symm

theorem arranges_sorted (devices : List Device) : Arranges (sorted devices) devices :=
  ⟨sorted_perm devices, pairwise_sorted devices, sameTies_sorted devices⟩

theorem arranges_iff {listing devices : List Device} :
    Arranges listing devices ↔ listing = sorted devices := by
  constructor
  · intro arranges
    exact eq_of_pairwise_of_ties arranges.ordered (pairwise_sorted devices)
      (arranges.ties.trans (sameTies_sorted devices).symm).orderKey
  · rintro rfl
    exact arranges_sorted devices

/-- Only the order of devices with one key counts for the order of the board. -/
theorem sorted_of_sameTies {first second : List Device} (perm : first.Perm second)
    (ties : SameTies first second) : sorted first = sorted second := by
  rw [← arranges_iff]
  exact ⟨(sorted_perm first).trans perm, pairwise_sorted first,
    (sameTies_sorted first).trans ties⟩

/-- Where no two devices have one key, they may be listed in any order. -/
theorem sameTies_of_nodup {first second : List Device} (distinct : (second.map sortKey).Nodup)
    (perm : first.Perm second) : SameTies first second := by
  intro key
  have tied := perm.filter fun device => sortKey device = key
  match found : second.filter fun device => sortKey device = key with
  | [] => rwa [found, List.perm_nil] at tied
  | [device] => rwa [found, List.perm_singleton] at tied
  | a :: b :: others =>
      have inside : (a :: b :: others).Sublist second := found ▸ List.filter_sublist
      have keyed : ∀ device ∈ a :: b :: others, sortKey device = key := by
        intro device member
        rw [← found] at member
        exact of_decide_eq_true (List.mem_filter.mp member).2
      have differ := (inside.map sortKey).nodup distinct
      simp [keyed a (by simp), keyed b (by simp)] at differ

/-! ## Identifiers that repeat -/

/-- A device whose identifier stands before it, while none before it repeats. -/
def FirstRepeated (devices : List Device) (repeated : Device) : Prop :=
  ∃ before after, devices = before ++ repeated :: after ∧ (before.map Device.id).Nodup ∧
    repeated.id ∈ before.map Device.id

theorem exists_firstRepeated {devices : List Device} (twice : ¬ (devices.map Device.id).Nodup) :
    ∃ repeated, FirstRepeated devices repeated := by
  induction devices using List.reverseRecOn with
  | nil => exact absurd List.nodup_nil twice
  | append_singleton devices last ih =>
      by_cases distinct : (devices.map Device.id).Nodup
      · refine ⟨last, devices, [], rfl, distinct, ?_⟩
        by_contra fresh
        apply twice
        rw [List.map_append, List.nodup_append]
        refine ⟨distinct, List.nodup_singleton _, ?_⟩
        intro id inside other single same
        exact fresh (List.mem_singleton.mp single ▸ same ▸ inside)
      · obtain ⟨repeated, before, after, rfl, earlier, again⟩ := ih distinct
        exact ⟨repeated, before, after ++ [last], by simp, earlier, again⟩

/-- Devices without a repeated identifier are passed over and remembered. -/
theorem repeatedId?_append {seen : List String} {before : List Device}
    (none : repeatedId? seen before = none) (after : List Device) :
    repeatedId? seen (before ++ after) =
      repeatedId? ((before.map Device.id).reverse ++ seen) after := by
  induction before generalizing seen with
  | nil => rfl
  | cons device before ih =>
      rw [repeatedId?] at none
      split at none
      · cases none
      · rename_i fresh
        rw [List.cons_append, repeatedId?, if_neg fresh, ih none]
        simp

theorem repeatedId?_of_firstRepeated {devices : List Device} {repeated : Device}
    (first : FirstRepeated devices repeated) : repeatedId? [] devices = some repeated.id := by
  obtain ⟨before, after, rfl, distinct, again⟩ := first
  have none : repeatedId? [] before = none := by simp [repeatedId?_eq_none_iff, distinct]
  rw [repeatedId?_append none, repeatedId?, if_pos]
  simpa using again

theorem accept_of_firstRepeated {devices : List Device} {repeated : Device}
    (first : FirstRepeated devices repeated) :
    accept devices = .error (.duplicateId repeated.id) := by
  rw [accept, repeatedId?_of_firstRepeated first]

/-- A listing without a repeated identifier is accepted, and what comes of it is the one
arrangement by type and name in small letters that leaves devices of one key as they stood.  It is
accepted again as it is, and the order in which devices of different keys are listed does not
matter.  A listing with a repeated identifier is refused with that of the first device whose
identifier stands before it. -/
theorem listing_is_arranged_or_names_repeated (devices : List Device) :
    ((devices.map Device.id).Nodup → ∃ listing, ofSource (.ok devices) = .ok listing ∧
      (∀ other, Arranges other devices ↔ other = listing) ∧
      sorted listing = listing ∧ ofSource (.ok listing) = .ok listing ∧
      (∀ shuffled, shuffled.Perm devices → SameTies shuffled devices →
        ofSource (.ok shuffled) = .ok listing) ∧
      ((devices.map sortKey).Nodup → ∀ shuffled, shuffled.Perm devices →
        ofSource (.ok shuffled) = .ok listing)) ∧
    (¬ (devices.map Device.id).Nodup → ∃ repeated, FirstRepeated devices repeated) ∧
    ∀ repeated, FirstRepeated devices repeated →
      ofSource (.ok devices) = .error (.duplicateId repeated.id) := by
  refine ⟨fun distinct => ?_, exists_firstRepeated, fun _ => accept_of_firstRepeated⟩
  have accepted {shuffled : List Device} (perm : shuffled.Perm devices)
      (ties : SameTies shuffled devices) : ofSource (.ok shuffled) = .ok (sorted devices) := by
    have shuffledDistinct : (shuffled.map Device.id).Nodup :=
      (perm.map Device.id).nodup_iff.mpr distinct
    exact accept_eq_ok_iff.mpr ⟨shuffledDistinct, sorted_of_sameTies perm ties⟩
  have again := sorted_of_sameTies (sorted_perm devices) (sameTies_sorted devices)
  refine ⟨sorted devices, accept_eq_ok_iff.mpr ⟨distinct, rfl⟩, fun _ => arranges_iff, again,
    accepted (sorted_perm devices) (sameTies_sorted devices), fun _ => accepted, ?_⟩
  intro keysDistinct shuffled perm
  exact accepted perm (sameTies_of_nodup keysDistinct perm)

theorem lamps_keep_their_order_unless_repeated :
    let lamp : Device := ⟨"3", "lamp", "Light", "off", ["on"]⟩
    let fan : Device := ⟨"2", "Fan", "Motor", "still", []⟩
    let other : Device := ⟨"1", "LAMP", "light", "on", []⟩
    let again : Device := ⟨"2", "Saw", "Motor", "still", []⟩
    let last : Device := ⟨"3", "lamp", "Light", "off", []⟩
    ([lamp, fan, other].map Device.id).Nodup ∧
    (∃ listing, ofSource (.ok [lamp, fan, other]) = .ok listing ∧
      (listing.filter fun device => sortKey device = ("light", "lamp")) = [lamp, other] ∧
      ofSource (.ok [fan, lamp, other]) = .ok listing) ∧
    FirstRepeated [lamp, fan, again, last] again ∧
    ofSource (.ok [lamp, fan, again, last]) = .error (.duplicateId "2") := by
  intro lamp fan other again last
  have distinct : ([lamp, fan, other].map Device.id).Nodup := by decide
  obtain ⟨listing, accepted, only, -, -, shuffle, -⟩ :=
    (listing_is_arranged_or_names_repeated [lamp, fan, other]).1 distinct
  have ties := ((only listing).mpr rfl).ties
  have lamps : ([lamp, fan, other].filter fun device => sortKey device = ("light", "lamp")) =
      [lamp, other] := by decide
  have swapped : SameTies [fan, lamp, other] [lamp, fan, other] := by
    intro key
    have differ : sortKey lamp ≠ sortKey fan := by decide
    simp only [List.filter_cons]
    grind
  have repeated : FirstRepeated [lamp, fan, again, last] again :=
    ⟨[lamp, fan], [last], rfl, by decide, by decide⟩
  exact ⟨distinct, ⟨listing, accepted, (ties _).trans lamps,
    shuffle _ (List.Perm.swap _ _ _) swapped⟩, repeated,
    (listing_is_arranged_or_names_repeated _).2.2 again repeated⟩

end DevicePanel.Listing
