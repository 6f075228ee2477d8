import DevicePanel.Proofs.Json.Values
import Mathlib.Data.List.Basic

/-!
# Which records are accepted

An object is accepted as a record when no field is given twice, what is no field can be passed
over, and each field can be read from its member, wherever it stands, or may be missing.  A list
is accepted like an object with the fields in their order.
-/

namespace DevicePanel.Json

/-- The members of an object that is closed, if all its keys have a text. -/
def Members.pairs? : Members → Option (List (String × Node))
  | .closed => some []
  | .broken _ _ => none
  | .member key value _ others =>
      key.name.toOption.bind fun name => others.pairs?.map ((name, value) :: ·)

/-! ## Fields -/

namespace Field

variable {σ : Type}

/-- What a field does to a draft, if it can be read from these members or may be missing. -/
def setting? (field : Field σ) (depth : Nat) (pairs : List (String × Node)) : Option (σ → σ) :=
  match pairs.lookup field.name with
  | some node => (field.read depth node).toOption
  | none => field.absent.toOption

/-- The field may do this to a draft. -/
def MaySet (field : Field σ) (set : σ → σ) : Prop :=
  (∃ depth node, field.read depth node = .ok set) ∨ field.absent = .ok set

theorem maySet_of_setting? {field : Field σ} {depth : Nat} {pairs : List (String × Node)}
    {set : σ → σ} (found : field.setting? depth pairs = some set) : field.MaySet set := by
  unfold setting? at found
  split at found
  · exact Or.inl ⟨_, _, toOption_eq_some_iff.mp found⟩
  · exact Or.inr (toOption_eq_some_iff.mp found)

/-- It does not matter which of two fields is read first. -/
def Independent (first second : Field σ) : Prop :=
  ∀ f g, first.MaySet f → second.MaySet g → ∀ draft, f (g draft) = g (f draft)

/-- The field does nothing to a draft but set this part of it, if anything. -/
def Sets {α : Type} (field : Field σ) (set : α → σ → σ) : Prop :=
  ∀ f, field.MaySet f → (∃ a, f = set a) ∨ f = id

theorem sets_required {α : Type} (name : String) (decode : Decoder α) (set : α → σ → σ) :
    (required name decode set).Sets set := by
  rintro f (⟨depth, node, read⟩ | absent)
  · obtain ⟨a, -, same⟩ := map_eq_ok_iff.mp read
    exact Or.inl ⟨a, same.symm⟩
  · simp [required] at absent

theorem sets_defaulted {α : Type} (name : String) (decode : Decoder α) (set : α → σ → σ) :
    (defaulted name decode set).Sets set := by
  rintro f (⟨depth, node, read⟩ | absent)
  · obtain ⟨a, -, same⟩ := map_eq_ok_iff.mp read
    exact Or.inl ⟨a, same.symm⟩
  · exact Or.inr (Except.ok.inj absent).symm

theorem independent_of_sets {α β : Type} {first second : Field σ} {set : α → σ → σ}
    {other : β → σ → σ} (firstSets : first.Sets set) (secondSets : second.Sets other)
    (swap : ∀ a b draft, set a (other b draft) = other b (set a draft)) :
    first.Independent second := by
  intro f g mayFirst maySecond draft
  rcases firstSets f mayFirst with ⟨a, rfl⟩ | rfl
  · rcases secondSets g maySecond with ⟨b, rfl⟩ | rfl
    · exact swap a b draft
    · rfl
  · rfl

theorem setting?_required {α : Type} (name : String) (decode : Decoder α) (set : α → σ → σ)
    (depth : Nat) (pairs : List (String × Node)) :
    (required name decode set).setting? depth pairs =
      ((pairs.lookup name).bind fun node => (decode depth node).toOption).map set := by
  cases found : pairs.lookup name with
  | none => simp [setting?, required, found, Except.toOption]
  | some node =>
      cases read : decode depth node <;>
        simp [setting?, required, found, read, Except.map, Except.toOption]

theorem setting?_defaulted {α : Type} (name : String) (decode : Decoder α) (set : α → σ → σ)
    (depth : Nat) (pairs : List (String × Node)) :
    (defaulted name decode set).setting? depth pairs =
      match pairs.lookup name with
      | none => some id
      | some node => (decode depth node).toOption.map set := by
  cases found : pairs.lookup name with
  | none => simp [setting?, defaulted, found, Except.toOption]
  | some node =>
      cases read : decode depth node <;>
        simp [setting?, defaulted, found, read, Except.map, Except.toOption]

theorem setting?_cons_of_ne {field : Field σ} {name : String} (differs : field.name ≠ name)
    (depth : Nat) (node : Node) (pairs : List (String × Node)) :
    field.setting? depth ((name, node) :: pairs) = field.setting? depth pairs := by
  simp only [setting?, List.lookup_cons, beq_eq_false_iff_ne.mpr differs]

theorem setting?_cons_self (field : Field σ) (depth : Nat) (node : Node)
    (pairs : List (String × Node)) :
    field.setting? depth ((field.name, node) :: pairs) = (field.read depth node).toOption := by
  simp only [setting?, List.lookup_cons, beq_self_eq_true]

/-- A list may end before the field if an object may lack it, and then nothing is set. -/
def Regular (field : Field σ) : Prop :=
  field.absent.toOption = if field.isOptional then some id else none

theorem regular_required {α : Type} (name : String) (decode : Decoder α) (set : α → σ → σ) :
    (required name decode set).Regular := rfl

theorem regular_defaulted {α : Type} (name : String) (decode : Decoder α) (set : α → σ → σ) :
    (defaulted name decode set).Regular := rfl

end Field

/-! ## Records -/

section

variable {σ : Type}

/-- Read each field from its member, in the order of the fields. -/
def readFields (depth : Nat) (pairs : List (String × Node)) : List (Field σ) → σ → Option σ
  | [], draft => some draft
  | field :: fields, draft =>
      (field.setting? depth pairs).bind fun set => readFields depth pairs fields (set draft)

/-- Read the nodes of a list as the fields of a record. -/
def readItems (depth : Nat) : List (Field σ) → List Node → σ → Option σ
  | [], [], draft => some draft
  | [], _ :: _, _ => none
  | field :: fields, [], draft => if field.isOptional then readItems depth fields [] draft else none
  | field :: fields, node :: nodes, draft =>
      (field.read depth node).toOption.bind fun set => readItems depth fields nodes (set draft)

/-- The members can be read as fields with these names: after those `seen` before, no field is given
twice, and what is no field can be passed over. -/
structure Fits (names seen : List String) (pairs : List (String × Node)) : Prop where
  once : ∀ name ∈ names, (seen ++ pairs.map Prod.fst).count name ≤ 1
  passable : ∀ pair ∈ pairs, pair.1 ∉ names → skip pair.2 = .ok ()

theorem find?_name_eq_none_iff {fields : List (Field σ)} {name : String} :
    fields.find? (fun field => field.name == name) = none ↔ name ∉ fields.map Field.name := by
  simp [List.find?_eq_none]

/-- The fields that were not seen yet. -/
def unseen (seen : List String) (fields : List (Field σ)) : List (Field σ) :=
  fields.filter fun field => !seen.contains field.name

theorem fillAbsent_eq_ok_iff (depth : Nat) {stop : Nat} {seen : List String}
    {fields : List (Field σ)} {draft final : σ} : fillAbsent stop seen fields draft = .ok final ↔
      readFields depth [] (unseen seen fields) draft = some final := by
  induction fields generalizing draft with
  | nil => simp [fillAbsent, unseen, readFields]
  | cons field fields ih =>
      rw [fillAbsent, unseen, List.filter_cons]
      cases before : seen.contains field.name with
      | true => exact ih
      | false =>
          simp only [Bool.not_false, Bool.false_eq_true, if_true, if_false, readFields,
            Field.setting?, List.lookup_nil]
          cases field.absent with
          | error cause => simp [Except.toOption]
          | ok set => exact ih

theorem readFields_cons_of_notMem {name : String} {fields : List (Field σ)}
    (absent : name ∉ fields.map Field.name) (depth : Nat) (node : Node)
    (pairs : List (String × Node)) (draft : σ) :
    readFields depth ((name, node) :: pairs) fields draft =
      readFields depth pairs fields draft := by
  induction fields generalizing draft with
  | nil => rfl
  | cons field fields ih =>
      rw [List.map_cons, List.mem_cons, not_or] at absent
      simp only [readFields, field.setting?_cons_of_ne (Ne.symm absent.1), ih absent.2]

/-- The first member may be read before all other fields. -/
theorem readFields_cons {field : Field σ} {fields : List (Field σ)} {depth : Nat} {node : Node}
    {set : σ → σ} (read : field.read depth node = .ok set) (member : field ∈ fields)
    (distinct : (fields.map Field.name).Nodup) (independent : fields.Pairwise Field.Independent)
    (pairs : List (String × Node)) (draft : σ) :
    readFields depth ((field.name, node) :: pairs) fields draft =
      readFields depth pairs (fields.filter fun other => other.name != field.name)
        (set draft) := by
  induction fields generalizing draft with
  | nil => simp at member
  | cons first fields ih =>
      obtain ⟨notAgain, rest⟩ := List.nodup_cons.mp distinct
      obtain ⟨free, others⟩ := List.pairwise_cons.mp independent
      rcases List.mem_cons.mp member with rfl | inside
      · have kept : fields.filter (fun other => other.name != field.name) = fields := by
          rw [List.filter_eq_self]
          intro other here
          exact bne_iff_ne.mpr fun same => notAgain (same ▸ List.mem_map_of_mem here)
        rw [readFields, field.setting?_cons_self, read, List.filter_cons, bne_self_eq_false, kept]
        exact readFields_cons_of_notMem notAgain depth node pairs (set draft)
      · have differs : first.name ≠ field.name :=
          fun same => notAgain (same ▸ List.mem_map_of_mem inside)
        rw [List.filter_cons, if_pos (bne_iff_ne.mpr differs), readFields, readFields,
          first.setting?_cons_of_ne differs]
        cases found : first.setting? depth pairs with
        | none => rfl
        | some other =>
            -- The fields in front of it are read first and do not mind.
            have swap := free field inside other set (Field.maySet_of_setting? found)
              (Or.inl ⟨depth, node, read⟩) draft
            rw [Option.bind_some, Option.bind_some, ih inside rest others, swap]

theorem readFields_eq_none {field : Field σ} {fields : List (Field σ)} {depth : Nat}
    {pairs : List (String × Node)} (member : field ∈ fields)
    (unread : field.setting? depth pairs = none) (draft : σ) :
    readFields depth pairs fields draft = none := by
  induction fields generalizing draft with
  | nil => simp at member
  | cons first fields ih =>
      rw [readFields]
      rcases List.mem_cons.mp member with rfl | inside
      · rw [unread, Option.bind_none]
      · rw [Option.bind_eq_none_iff]
        exact fun set _ => ih inside (set draft)

theorem unseen_cons {name : String} {seen : List String} {fields : List (Field σ)} :
    unseen (name :: seen) fields =
      (unseen seen fields).filter fun other => other.name != name := by
  rw [unseen, unseen, List.filter_filter]
  apply List.filter_congr
  intro other _
  rw [List.contains_cons, Bool.not_or]
  rfl

namespace Fits

variable {names seen : List String} {name : String} {node : Node} {pairs : List (String × Node)}

theorem cons_of_notMem_iff (absent : name ∉ names) :
    Fits names seen ((name, node) :: pairs) ↔ skip node = .ok () ∧ Fits names seen pairs := by
  have same_count : ∀ other ∈ names,
      (seen ++ name :: pairs.map Prod.fst).count other =
        (seen ++ pairs.map Prod.fst).count other := by
    intro other member
    have differs : name ≠ other := fun same => absent (same ▸ member)
    rw [List.count_append, List.count_append, List.count_cons_of_ne differs]
  constructor
  · intro fits
    refine ⟨fits.passable _ List.mem_cons_self absent, ?_, ?_⟩
    · intro other member
      exact same_count other member ▸ fits.once other member
    · exact fun pair inside => fits.passable pair (List.mem_cons_of_mem _ inside)
  · rintro ⟨passed, fits⟩
    refine ⟨?_, ?_⟩
    · intro other member
      exact (same_count other member).symm ▸ fits.once other member
    · intro pair inside unknown
      rcases List.mem_cons.mp inside with rfl | later
      · exact passed
      · exact fits.passable pair later unknown

theorem cons_of_mem_iff (known : name ∈ names) :
    Fits names seen ((name, node) :: pairs) ↔ Fits names (name :: seen) pairs := by
  have same_count (other : String) :
      (seen ++ name :: pairs.map Prod.fst).count other =
        (name :: seen ++ pairs.map Prod.fst).count other :=
    List.perm_middle.count_eq other
  constructor
  · intro fits
    refine ⟨?_, fun pair inside => fits.passable pair (List.mem_cons_of_mem _ inside)⟩
    intro other member
    exact same_count other ▸ fits.once other member
  · intro fits
    refine ⟨?_, ?_⟩
    · intro other member
      exact (same_count other).symm ▸ fits.once other member
    · intro pair inside unknown
      rcases List.mem_cons.mp inside with rfl | later
      · exact absurd known unknown
      · exact fits.passable pair later unknown

theorem notMem_of_cons (known : name ∈ names) (fits : Fits names seen ((name, node) :: pairs)) :
    name ∉ seen := by
  intro before
  have once := fits.once name known
  have positive := List.count_pos_iff.mpr before
  rw [List.map_cons, List.count_append, List.count_cons_self] at once
  omega

end Fits

/-- Members are read one by one into a draft and then what is missing is filled in: this comes to
reading each field from its member. -/
theorem recordMembers_eq_ok_iff {fields : List (Field σ)}
    (distinct : (fields.map Field.name).Nodup) (independent : fields.Pairwise Field.Independent)
    {depth stop : Nat} {draft final : σ} {seen : List String} {members : Members}
    (fresh : ∀ name ∈ fields.map Field.name, seen.count name ≤ 1) :
    (∃ later names, recordMembers fields depth draft seen members = .ok (later, names) ∧
        fillAbsent stop names fields later = .ok final) ↔
      ∃ pairs, members.pairs? = some pairs ∧ Fits (fields.map Field.name) seen pairs ∧
        readFields depth pairs (unseen seen fields) draft = some final := by
  -- The induction follows the walk: the draft holds what the fields in `seen` have set, and the
  -- fields that are left are read from the members that are left.
  fun_induction recordMembers fields depth draft seen members with
  | case1 draft seen =>
      have fits : Fits (fields.map Field.name) seen [] := ⟨by simpa using fresh, by simp⟩
      simp [Members.pairs?, fits, fillAbsent_eq_ok_iff depth]
  | case2 => simp [Members.pairs?]
  | case3 draft seen key value valueNext others fault broken =>
      simp [Members.pairs?, broken, Except.toOption]
  | case4 draft seen key value valueNext others name named unknown fault refused =>
      have absent := find?_name_eq_none_iff.mp unknown
      simp [Members.pairs?, named, Except.toOption, Fits.cons_of_notMem_iff absent, refused]
  | case5 draft seen key value valueNext others name named unknown passed ih =>
      have absent := find?_name_eq_none_iff.mp unknown
      have stillAbsent : name ∉ (unseen seen fields).map Field.name :=
        fun member => absent ((List.filter_sublist.map _).subset member)
      simp [Members.pairs?, named, Except.toOption, Fits.cons_of_notMem_iff absent, passed,
        readFields_cons_of_notMem stillAbsent, ih fresh]
  | case6 draft seen key value valueNext others name named field found before =>
      obtain rfl : field.name = name := by simpa using List.find?_some found
      have known : field.name ∈ fields.map Field.name :=
        List.mem_map_of_mem (List.mem_of_find?_eq_some found)
      have twice {pairs : List (String × Node)} :
          ¬ Fits (fields.map Field.name) seen ((field.name, value) :: pairs) := fun fits =>
        fits.notMem_of_cons known (List.contains_iff_mem.mp before)
      simp [Members.pairs?, named, Except.toOption, twice]
  | case7 draft seen key value valueNext others name named field found before fault refused =>
      obtain rfl : field.name = name := by simpa using List.find?_some found
      have member : field ∈ unseen seen fields :=
        List.mem_filter.mpr ⟨List.mem_of_find?_eq_some found, by simpa using before⟩
      have unread (pairs : List (String × Node)) :
          readFields depth ((field.name, value) :: pairs) (unseen seen fields) draft = none :=
        readFields_eq_none member (by rw [field.setting?_cons_self, refused]; rfl) draft
      simp [Members.pairs?, named, Except.toOption, unread]
  | case8 draft seen key value valueNext others name named field found before set read ih =>
      obtain rfl : field.name = name := by simpa using List.find?_some found
      have inside := List.mem_of_find?_eq_some found
      have member : field ∈ unseen seen fields :=
        List.mem_filter.mpr ⟨inside, by simpa using before⟩
      have known : field.name ∈ fields.map Field.name := List.mem_map_of_mem inside
      have stillFresh : ∀ other ∈ fields.map Field.name,
          (field.name :: seen).count other ≤ 1 := by
        intro other here
        by_cases same : field.name = other
        · have none : seen.count other = 0 :=
            List.count_eq_zero_of_not_mem (same ▸ by simpa using before)
          rw [List.count_cons, none]
          split <;> omega
        · rw [List.count_cons_of_ne same]
          exact fresh other here
      have front (pairs : List (String × Node)) :
          readFields depth ((field.name, value) :: pairs) (unseen seen fields) draft =
            readFields depth pairs (unseen (field.name :: seen) fields) (set draft) := by
        rw [unseen_cons]
        exact readFields_cons read member (distinct.sublist (List.filter_sublist.map _))
          (independent.sublist List.filter_sublist) pairs draft
      rw [ih stillFresh]
      simp [Members.pairs?, named, Except.toOption, front, Fits.cons_of_mem_iff known]

/-- A record is read from the members of an object if they fit the fields and every field can be
read from its member. -/
theorem record_object_eq_ok_iff {fields : List (Field σ)}
    (distinct : (fields.map Field.name).Nodup) (independent : fields.Pairwise Field.Independent)
    {name : String} {depth start stop : Nat} {draft final : σ} {members : Members} :
    record name fields draft (depth + 1) (.object start stop members) = .ok final ↔
      ∃ pairs, members.pairs? = some pairs ∧ Fits (fields.map Field.name) [] pairs ∧
        readFields depth pairs fields draft = some final := by
  have all : unseen [] fields = fields := by simp [unseen]
  have fresh : ∀ name ∈ fields.map Field.name, ([] : List String).count name ≤ 1 := by simp
  have walked : (∃ later names, recordMembers fields depth draft [] members = .ok (later, names) ∧
      fillAbsent stop names fields later = .ok final) ↔ ∃ pairs, members.pairs? = some pairs ∧
        Fits (fields.map Field.name) [] pairs ∧
        readFields depth pairs (unseen [] fields) draft = some final :=
    recordMembers_eq_ok_iff distinct independent fresh
  rw [all] at walked
  rw [← walked, record]
  cases read : recordMembers fields depth draft [] members with
  | error fault => simp
  | ok found =>
      obtain ⟨later, names⟩ := found
      simp

theorem recordItems_eq_ok_iff {expected : String} {depth stop count : Nat}
    {fields : List (Field σ)} {draft final : σ} {items : Items} :
    recordItems expected depth stop count fields draft items = .ok final ↔
      ∃ nodes, items.nodes? = some nodes ∧ readItems depth fields nodes draft = some final := by
  fun_induction recordItems expected depth stop count fields draft items with
  | case1 => simp [Items.nodes?, readItems]
  | case2 => simp [Items.nodes?]
  | case3 => simp [Items.nodes?, readItems]
  | case4 => simp [Items.nodes?]
  | case5 count field fields draft optional ih => simpa [Items.nodes?, readItems, optional] using ih
  | case6 count field fields draft required => simp [Items.nodes?, readItems, required]
  | case7 count field fields draft value others fault refused =>
      simp [Items.nodes?, readItems, refused, Except.toOption]
  | case8 count field fields draft value others set read ih =>
      simp [Items.nodes?, readItems, read, Except.toOption, ih]

/-- A record is read from an object or from a list. -/
theorem record_eq_ok_iff {fields : List (Field σ)}
    (distinct : (fields.map Field.name).Nodup) (independent : fields.Pairwise Field.Independent)
    {name : String} {depth : Nat} {draft final : σ} {node : Node} :
    record name fields draft (depth + 1) node = .ok final ↔
      (∃ start stop members pairs, node = .object start stop members ∧
        members.pairs? = some pairs ∧ Fits (fields.map Field.name) [] pairs ∧
        readFields depth pairs fields draft = some final) ∨
      (∃ start stop items nodes, node = .list start stop items ∧ items.nodes? = some nodes ∧
        readItems depth fields nodes draft = some final) := by
  cases node with
  | object start stop members => simp [record_object_eq_ok_iff distinct independent]
  | list start stop items => simp [record, recordItems_eq_ok_iff]
  | _ => simp [record]

/-- The items of a list are read like members with the names of the fields. -/
theorem readItems_eq_readFields {fields : List (Field σ)}
    (distinct : (fields.map Field.name).Nodup) (regular : ∀ field ∈ fields, field.Regular)
    (depth : Nat) (nodes : List Node) (draft : σ) :
    readItems depth fields nodes draft =
      if nodes.length ≤ fields.length then
        readFields depth ((fields.map Field.name).zip nodes) fields draft
      else none := by
  induction fields generalizing nodes draft with
  | nil => cases nodes <;> simp [readItems, readFields]
  | cons field fields ih =>
      rw [List.map_cons] at distinct
      obtain ⟨notAgain, rest⟩ := List.nodup_cons.mp distinct
      obtain ⟨first, others⟩ := List.forall_mem_cons.mp regular
      cases nodes with
      | nil =>
          simp only [readItems, ih rest others, List.length_nil, Nat.zero_le, if_true,
            List.zip_nil_right, readFields, Field.setting?, List.lookup_nil]
          rw [first]
          cases field.isOptional <;> rfl
      | cons node nodes =>
          simp only [readItems, readFields, List.map_cons, List.zip_cons_cons,
            field.setting?_cons_self, readFields_cons_of_notMem notAgain, ih rest others,
            List.length_cons, Nat.add_le_add_iff_right]
          split
          · rfl
          · simp

/-- What stands for the fields with these names: the members with these names in an object that
fits, and the items in their order in a list that is closed and no longer. -/
inductive Node.Parts (names : List String) : Node → List (Option Node) → Prop where
  | members {start stop : Nat} {members : Members} {pairs : List (String × Node)} :
      members.pairs? = some pairs → Fits names [] pairs →
      Parts names (.object start stop members) (names.map fun name => pairs.lookup name)
  | items {start stop : Nat} {items : Items} {nodes : List Node} :
      items.nodes? = some nodes → nodes.length ≤ names.length →
      Parts names (.list start stop items) (names.map fun name => (names.zip nodes).lookup name)

theorem Node.Parts.unique {names : List String} {node : Node} {parts others : List (Option Node)}
    (first : node.Parts names parts) (second : node.Parts names others) : parts = others := by
  cases first with
  | members closed fits =>
      cases second with
      | members again _ =>
          obtain rfl := Option.some.inj (closed.symm.trans again)
          rfl
  | items closed short =>
      cases second with
      | items again _ =>
          obtain rfl := Option.some.inj (closed.symm.trans again)
          rfl

/-- A record is read from what stands for its fields, be it in an object or in a list. -/
theorem record_eq_ok_iff_parts {fields : List (Field σ)}
    (distinct : (fields.map Field.name).Nodup) (independent : fields.Pairwise Field.Independent)
    (regular : ∀ field ∈ fields, field.Regular)
    {name : String} {depth : Nat} {draft final : σ} {ofParts? : List (Option Node) → Option σ}
    (reading : ∀ pairs, readFields depth pairs fields draft =
      ofParts? ((fields.map Field.name).map fun name => pairs.lookup name))
    {node : Node} : record name fields draft (depth + 1) node = .ok final ↔
      ∃ parts, node.Parts (fields.map Field.name) parts ∧ ofParts? parts = some final := by
  rw [record_eq_ok_iff distinct independent]
  constructor
  · rintro (⟨start, stop, members, pairs, rfl, closed, fits, found⟩ |
      ⟨start, stop, items, nodes, rfl, closed, found⟩)
    · exact ⟨_, .members closed fits, reading pairs ▸ found⟩
    · rw [readItems_eq_readFields distinct regular] at found
      split at found
      · next short =>
          exact ⟨_, .items closed (by rwa [List.length_map]), reading _ ▸ found⟩
      · cases found
  · rintro ⟨parts, stands, found⟩
    cases stands with
    | members closed fits =>
        exact Or.inl ⟨_, _, _, _, rfl, closed, fits, (reading _).trans found⟩
    | items closed short =>
        refine Or.inr ⟨_, _, _, _, rfl, closed, ?_⟩
        rw [List.length_map] at short
        rw [readItems_eq_readFields distinct regular, if_pos short, reading]
        exact found

end

end DevicePanel.Json
