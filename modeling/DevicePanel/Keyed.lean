/-!
# Values under keys

A list of pairs in the order of their keys, every key at most once.
-/

namespace DevicePanel

/-- Values under texts as keys, in the order of the keys. -/
abbrev Keyed (α : Type) := List (String × α)

namespace Keyed

/-- The value under a key. -/
def find? {α : Type} (key : String) : Keyed α → Option α
  | [] => none
  | (name, value) :: others => if name = key then some value else find? key others

/-- Put a value under a key, in place of the one that is there. -/
def put {α : Type} (key : String) (value : α) : Keyed α → Keyed α
  | [] => [(key, value)]
  | (name, old) :: others =>
      if key = name then (key, value) :: others
      else if key < name then (key, value) :: (name, old) :: others
      else (name, old) :: put key value others

/-- Take away the value under a key. -/
def erase {α : Type} (key : String) (pairs : Keyed α) : Keyed α :=
  pairs.filter fun pair => pair.1 ≠ key

def keys {α : Type} (pairs : Keyed α) : List String := pairs.map Prod.fst

/-- The pairs of any list in the order of their keys; of two with one key the later one counts. -/
def ofPairs {α : Type} (pairs : List (String × α)) : Keyed α :=
  pairs.foldl (fun pairs pair => put pair.1 pair.2 pairs) []

/-- The keys stand in their order, every key at most once. -/
def Ordered {α : Type} (pairs : Keyed α) : Prop :=
  List.Pairwise (fun first second => first.1 < second.1) pairs

/-- A pair is the one that was put there, or it was there before. -/
theorem mem_put {α : Type} {key : String} {value : α} {pairs : Keyed α} {pair : String × α}
    (member : pair ∈ put key value pairs) : pair = (key, value) ∨ pair ∈ pairs := by
  induction pairs with
  | nil => simpa [put] using member
  | cons first others ih =>
      obtain ⟨name, old⟩ := first
      by_cases same : key = name
      · simp only [put, if_pos same, List.mem_cons] at member ⊢
        exact member.imp id Or.inr
      · by_cases before : key < name
        · simpa only [put, if_neg same, if_pos before, List.mem_cons] using member
        · simp only [put, if_neg same, if_neg before, List.mem_cons] at member ⊢
          rcases member with here | later
          · exact Or.inr (Or.inl here)
          · exact (ih later).imp id Or.inr

/-- Putting a value under a key keeps the order. -/
theorem ordered_put {α : Type} (key : String) (value : α) {pairs : Keyed α}
    (ordered : Ordered pairs) : Ordered (put key value pairs) := by
  induction pairs with
  | nil => simp [put, Ordered]
  | cons first others ih =>
      obtain ⟨name, old⟩ := first
      obtain ⟨below, rest⟩ := List.pairwise_cons.mp ordered
      by_cases same : key = name
      · subst same
        simp only [put, if_true]
        exact List.pairwise_cons.mpr ⟨below, rest⟩
      · by_cases before : key < name
        · simp only [put, if_neg same, if_pos before]
          refine List.pairwise_cons.mpr ⟨?_, ordered⟩
          intro pair member
          rcases List.mem_cons.mp member with rfl | later
          · exact before
          · exact String.lt_trans before (below pair later)
        · simp only [put, if_neg same, if_neg before]
          refine List.pairwise_cons.mpr ⟨?_, ih rest⟩
          intro pair member
          rcases mem_put member with rfl | later
          · apply String.not_le.mp
            intro reverse
            exact same (String.le_antisymm reverse (String.not_lt.mp before))
          · exact below pair later

/-- The pairs of any list stand in the order of their keys. -/
theorem ordered_ofPairs {α : Type} (pairs : List (String × α)) : Ordered (ofPairs pairs) := by
  have ordered_foldl : ∀ (pairs : List (String × α)) (start : Keyed α), Ordered start →
      Ordered (pairs.foldl (fun pairs pair => put pair.1 pair.2 pairs) start) := by
    intro pairs
    induction pairs with
    | nil => exact fun _ ordered => ordered
    | cons pair others ih => exact fun _ ordered => ih _ (ordered_put pair.1 pair.2 ordered)
  exact ordered_foldl pairs [] List.Pairwise.nil

/-- What a key finds after a value was put under it. -/
theorem find?_put_self {α : Type} (key : String) (value : α) (pairs : Keyed α) :
    find? key (put key value pairs) = some value := by
  induction pairs with
  | nil => simp [put, find?]
  | cons pair others ih =>
      obtain ⟨name, old⟩ := pair
      unfold put
      split
      · simp [find?]
      · split
        · simp [find?]
        · next differs _ =>
            simp [find?, Ne.symm differs, ih]

/-- Another key finds what it found before. -/
theorem find?_put_of_ne {α : Type} {key other : String} (value : α) (pairs : Keyed α)
    (different : other ≠ key) : find? other (put key value pairs) = find? other pairs := by
  induction pairs with
  | nil => simp [put, find?, different.symm]
  | cons pair others ih =>
      obtain ⟨name, old⟩ := pair
      unfold put
      split
      · next same =>
          subst same
          simp [find?, different.symm]
      · split
        · simp [find?, different.symm]
        · simp [find?, ih]

end Keyed

end DevicePanel
