import DevicePanel.Keyed

/-!
# Values under keys, put together

What is found in values under keys after all pairs of a list were put there, and after all values
were changed by a function.
-/

namespace DevicePanel.Keyed

variable {α β : Type}

theorem find?_put (key other : String) (value : α) (pairs : Keyed α) :
    find? other (put key value pairs) =
      if other = key then some value else find? other pairs := by
  by_cases same : other = key
  · subst same
    simp [find?_put_self]
  · simp [same, find?_put_of_ne value pairs same]

/-- Of two values put under a key the later one stays. -/
theorem put_put (key : String) (earlier later : α) (pairs : Keyed α) :
    put key later (put key earlier pairs) = put key later pairs := by
  induction pairs with
  | nil => simp [put]
  | cons pair pairs ih =>
      obtain ⟨name, old⟩ := pair
      by_cases same : key = name
      · simp [put, same]
      · by_cases before : key < name
        · simp [put, same, before]
        · simp [put, same, before, ih]

theorem find?_append (key : String) (front back : Keyed α) :
    find? key (front ++ back) = (find? key front).or (find? key back) := by
  induction front with
  | nil => rfl
  | cons pair front ih =>
      obtain ⟨name, value⟩ := pair
      by_cases same : name = key
      · simp [find?, same]
      · simpa [find?, same] using ih

theorem mem_of_find? {key : String} {value : α} {pairs : Keyed α}
    (found : find? key pairs = some value) : (key, value) ∈ pairs := by
  induction pairs with
  | nil => cases found
  | cons pair pairs ih =>
      obtain ⟨name, other⟩ := pair
      rw [find?] at found
      split at found
      · rename_i same
        cases found
        exact same ▸ List.mem_cons_self
      · exact List.mem_cons_of_mem _ (ih found)

theorem find?_eq_none {key : String} {pairs : Keyed α} (absent : key ∉ keys pairs) :
    find? key pairs = none := by
  induction pairs with
  | nil => rfl
  | cons pair pairs ih =>
      obtain ⟨name, value⟩ := pair
      obtain ⟨differs, later⟩ : key ≠ name ∧ key ∉ keys pairs := by simpa [keys] using absent
      simp [find?, Ne.symm differs, ih later]

theorem isSome_find?_iff {key : String} {pairs : Keyed α} :
    (find? key pairs).isSome ↔ key ∈ keys pairs := by
  induction pairs with
  | nil => simp [find?, keys]
  | cons pair pairs ih =>
      obtain ⟨name, value⟩ := pair
      by_cases same : name = key
      · simp [find?, keys, same]
      · simpa [find?, keys, same, Ne.symm same] using ih

/-! ## All pairs of a list -/

/-- Put all pairs of a list under their keys, one after the other. -/
def putAll (pairs : List (String × α)) (start : Keyed α) : Keyed α :=
  pairs.foldl (fun pairs pair => put pair.1 pair.2 pairs) start

theorem ofPairs_eq (pairs : List (String × α)) : ofPairs pairs = putAll pairs [] := rfl

theorem find?_putAll (key : String) {pairs : List (String × α)}
    (different : (keys pairs).Nodup) (start : Keyed α) :
    find? key (putAll pairs start) = (find? key pairs).or (find? key start) := by
  induction pairs generalizing start with
  | nil => rfl
  | cons pair pairs ih =>
      obtain ⟨name, value⟩ := pair
      obtain ⟨fresh, others⟩ := List.nodup_cons.mp different
      have later := ih others (put name value start)
      rw [find?_put] at later
      refine later.trans ?_
      by_cases same : name = key
      · subst same
        simp [find?, find?_eq_none fresh]
      · simp [find?, same, Ne.symm same]

/-- Of pairs with different keys each one is found. -/
theorem find?_ofPairs (key : String) {pairs : List (String × α)}
    (different : (keys pairs).Nodup) : find? key (ofPairs pairs) = find? key pairs := by
  rw [ofPairs_eq, find?_putAll key different]
  simp [find?]

theorem put_of_forall_lt {key : String} {pairs : Keyed α} (value : α)
    (last : ∀ pair ∈ pairs, pair.1 < key) : put key value pairs = pairs ++ [(key, value)] := by
  induction pairs with
  | nil => rfl
  | cons pair pairs ih =>
      obtain ⟨name, old⟩ := pair
      obtain ⟨first, others⟩ := List.forall_mem_cons.mp last
      have differs : key ≠ name := fun same => String.lt_irrefl name (same ▸ first)
      have noLess : ¬ key < name := fun less => String.lt_irrefl key (String.lt_trans less first)
      simp [put, differs, noLess, ih others]

theorem putAll_of_ordered (pairs start : Keyed α) (ordered : Ordered (start ++ pairs)) :
    putAll pairs start = start ++ pairs := by
  induction pairs generalizing start with
  | nil => simp [putAll]
  | cons pair pairs ih =>
      obtain ⟨-, -, before⟩ := List.pairwise_append.mp ordered
      have last := put_of_forall_lt pair.2 fun early member =>
        before early member pair List.mem_cons_self
      have others := ih (start ++ [pair]) (by simpa using ordered)
      rw [putAll, List.foldl_cons, last]
      simpa [putAll] using others

/-- Pairs in the order of their keys stay as they are. -/
theorem ofPairs_of_ordered {pairs : Keyed α} (ordered : Ordered pairs) : ofPairs pairs = pairs :=
  putAll_of_ordered pairs [] ordered

theorem perm_put {key : String} {pairs : Keyed α} (value : α) (absent : key ∉ keys pairs) :
    (put key value pairs).Perm ((key, value) :: pairs) := by
  induction pairs with
  | nil => exact .refl _
  | cons pair pairs ih =>
      obtain ⟨name, old⟩ := pair
      obtain ⟨differs, later⟩ : key ≠ name ∧ key ∉ keys pairs := by simpa [keys] using absent
      by_cases before : key < name
      · simp [put, differs, before]
      · simp only [put, differs, before, if_false]
        exact ((ih later).cons _).trans (.swap ..)

theorem perm_putAll {pairs : List (String × α)} {start : Keyed α}
    (different : (keys (start ++ pairs)).Nodup) : (putAll pairs start).Perm (start ++ pairs) := by
  induction pairs generalizing start with
  | nil => simp [putAll]
  | cons pair pairs ih =>
      have same : (start ++ pair :: pairs).Perm (pair :: start ++ pairs) := List.perm_middle
      have names : (keys (pair :: start ++ pairs)).Nodup := (same.map Prod.fst).nodup different
      have absent : pair.1 ∉ keys start := fun member =>
        (List.nodup_cons.mp names).1 (by simp [keys] at member ⊢; exact Or.inl member)
      have first := perm_put pair.2 absent
      have others : (putAll pairs (put pair.1 pair.2 start)).Perm
          (put pair.1 pair.2 start ++ pairs) :=
        ih (((first.append_right pairs).map Prod.fst).symm.nodup names)
      exact (others.trans (first.append_right pairs)).trans same.symm

/-- Pairs with different keys are all there once they are in order. -/
theorem perm_ofPairs {pairs : List (String × α)} (different : (keys pairs).Nodup) :
    (ofPairs pairs).Perm pairs := perm_putAll different

theorem Ordered.nodup {pairs : Keyed α} (ordered : Ordered pairs) : (keys pairs).Nodup := by
  refine List.pairwise_map.mpr (ordered.imp fun less same => ?_)
  exact String.lt_irrefl _ (same ▸ less)

theorem find?_of_mem {pairs : Keyed α} (ordered : Ordered pairs) {pair : String × α}
    (member : pair ∈ pairs) : find? pair.1 pairs = some pair.2 := by
  induction pairs with
  | nil => cases member
  | cons first pairs ih =>
      obtain ⟨before, others⟩ := List.pairwise_cons.mp ordered
      rcases List.mem_cons.mp member with rfl | later
      · exact if_pos rfl
      · have differs : first.1 ≠ pair.1 := fun same =>
          String.lt_irrefl pair.1 (same ▸ before pair later)
        exact (if_neg differs).trans (ih others later)

/-! ## Changed values -/

/-- The same keys with their values changed by a function. -/
def mapValues (f : α → β) (pairs : Keyed α) : Keyed β := pairs.map fun pair => (pair.1, f pair.2)

theorem keys_mapValues (f : α → β) (pairs : Keyed α) : keys (mapValues f pairs) = keys pairs := by
  simp [keys, mapValues]

theorem ordered_mapValues (f : α → β) {pairs : Keyed α} (ordered : Ordered pairs) :
    Ordered (mapValues f pairs) :=
  List.pairwise_map.mpr ordered

theorem find?_mapValues (f : α → β) (key : String) (pairs : Keyed α) :
    find? key (mapValues f pairs) = (find? key pairs).map f := by
  induction pairs with
  | nil => rfl
  | cons pair pairs ih =>
      obtain ⟨name, value⟩ := pair
      by_cases same : name = key
      · simp [mapValues, find?, same]
      · simpa [mapValues, find?, same] using ih

theorem mapValues_mapValues {γ : Type} (f : α → β) (g : β → γ) (pairs : Keyed α) :
    mapValues g (mapValues f pairs) = mapValues (g ∘ f) pairs := by
  simp [mapValues]

theorem mapValues_put (f : α → β) (key : String) (value : α) (pairs : Keyed α) :
    mapValues f (put key value pairs) = put key (f value) (mapValues f pairs) := by
  induction pairs with
  | nil => rfl
  | cons pair pairs ih =>
      obtain ⟨name, old⟩ := pair
      by_cases same : key = name
      · simp [mapValues, put, same]
      · by_cases before : key < name
        · simp [mapValues, put, same, before]
        · simpa [mapValues, put, same, before] using ih

theorem mapValues_putAll (f : α → β) (pairs : List (String × α)) (start : Keyed α) :
    mapValues f (putAll pairs start) = putAll (mapValues f pairs) (mapValues f start) := by
  induction pairs generalizing start with
  | nil => rfl
  | cons pair pairs ih =>
      have later := ih (put pair.1 pair.2 start)
      rwa [mapValues_put] at later

theorem mapValues_ofPairs (f : α → β) (pairs : List (String × α)) :
    mapValues f (ofPairs pairs) = ofPairs (mapValues f pairs) :=
  mapValues_putAll f pairs []

end DevicePanel.Keyed
