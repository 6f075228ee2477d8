import DevicePanel.Proofs.Toml.Sections

/-!
# Tidy documents

In every table of a document the keys stand in their order, so that none of them stands twice,
however deep in the document the table is.  Whatever a line puts into the tables read so far, and
whatever is written between brackets and braces, keeps it so.
-/

namespace DevicePanel.Toml

open Growth (Members)

/-- Every table in the value has its keys in order. -/
inductive Value.Tidy : Value → Prop where
  | text (value : String) : Tidy (.text value)
  | whole (value : Int) : Tidy (.whole value)
  | real (value : Number.Binary64) : Tidy (.real value)
  | bool (value : Bool) : Tidy (.bool value)
  | moment (value : String) : Tidy (.moment value)
  | list {items : List Value} : (∀ item ∈ items, Tidy item) → Tidy (.list items)
  | table {members : List (String × Value)} :
      Keyed.Ordered members → (∀ member ∈ members, Tidy member.2) → Tidy (.table members)

namespace Growth

/-- Every table in what is read so far has its keys in order. -/
inductive Tidy : Growth → Prop where
  | value {written : Value} : written.Tidy → Tidy (.value written)
  | table {making : Making} {members : Members} :
      Keyed.Ordered members → (∀ member ∈ members, Tidy member.2) →
      Tidy (.table making members)
  | tables {current : Members} {earlier : List Members} :
      (∀ members ∈ current :: earlier, Keyed.Ordered members) →
      (∀ members ∈ current :: earlier, ∀ member ∈ members, Tidy member.2) →
      Tidy (.tables current earlier)

/-- The members of a tidy table. -/
structure TidyMembers (members : Members) : Prop where
  ordered : Keyed.Ordered members
  tidy : ∀ member ∈ members, member.2.Tidy

/-! ## Tables as values -/

theorem tidy_toMembers {members : Members} (ordered : Keyed.Ordered members)
    (tidy : ∀ member ∈ members, member.2.toValue.Tidy) :
    (Value.table (toMembers members)).Tidy := by
  rw [toMembers_eq]
  refine .table (Keyed.ordered_mapValues _ ordered) fun member inside => ?_
  obtain ⟨grown, before, rfl⟩ := List.mem_map.mp inside
  exact tidy grown before

theorem mem_toTables {item : Value} {earlier : List Members} {later : List Value}
    (member : item ∈ toTables earlier later) :
    item ∈ later ∨ ∃ members ∈ earlier, item = .table (toMembers members) := by
  induction earlier generalizing later with
  | nil => exact Or.inl (by rwa [toTables] at member)
  | cons members earlier ih =>
      rw [toTables] at member
      rcases ih member with here | ⟨others, inside, same⟩
      · rcases List.mem_cons.mp here with rfl | before
        · exact Or.inr ⟨members, List.mem_cons_self, rfl⟩
        · exact Or.inl before
      · exact Or.inr ⟨others, List.mem_cons_of_mem _ inside, same⟩

theorem Tidy.toValue {growth : Growth} (tidy : growth.Tidy) : growth.toValue.Tidy := by
  induction tidy with
  | value tidy =>
      rw [Growth.toValue]
      exact tidy
  | table ordered _ ih =>
      rw [Growth.toValue]
      exact tidy_toMembers ordered ih
  | @tables current earlier ordered _ ih =>
      have each : ∀ members ∈ current :: earlier, (Value.table (toMembers members)).Tidy :=
        fun members inside => tidy_toMembers (ordered members inside) (ih members inside)
      rw [Growth.toValue]
      refine .list fun item member => ?_
      rcases mem_toTables member with last | ⟨members, inside, rfl⟩
      · rw [List.mem_singleton.mp last]
        exact each current List.mem_cons_self
      · exact each members (List.mem_cons_of_mem _ inside)

/-! ## What lines put into tables -/

section

variable {members changed : Members}

theorem tidyMembers_nil : TidyMembers [] := ⟨List.Pairwise.nil, List.forall_mem_nil _⟩

theorem TidyMembers.put (before : TidyMembers members) (key : String) {growth : Growth}
    (tidy : growth.Tidy) : TidyMembers (members.put key growth) where
  ordered := Keyed.ordered_put key growth before.ordered
  tidy := fun member inside => by
    rcases Keyed.mem_put inside with rfl | earlier
    · exact tidy
    · exact before.tidy member earlier

theorem TidyMembers.table (tidy : TidyMembers members) (making : Making) :
    (Growth.table making members).Tidy := .table tidy.ordered tidy.tidy

theorem TidyMembers.of_find? (before : TidyMembers members) {key : String} {growth : Growth}
    (found : members.find? key = some growth) : growth.Tidy :=
  before.tidy (key, growth) (Keyed.mem_of_find? found)

theorem Tidy.inside {making : Making} (tidy : (Growth.table making members).Tidy) :
    TidyMembers members := by
  cases tidy with
  | table ordered tidy => exact ⟨ordered, tidy⟩

theorem Tidy.current {earlier : List Members} (tidy : (Growth.tables members earlier).Tidy) :
    TidyMembers members := by
  cases tidy with
  | tables ordered tidy =>
      exact ⟨ordered members List.mem_cons_self, tidy members List.mem_cons_self⟩

/-- A tidy table takes the place of the last table of a list. -/
theorem Tidy.replace {earlier : List Members} (tidy : (Growth.tables members earlier).Tidy)
    (fresh : TidyMembers changed) : (Growth.tables changed earlier).Tidy := by
  cases tidy with
  | tables ordered tidy =>
      exact .tables
        (List.forall_mem_cons.mpr ⟨fresh.ordered, (List.forall_mem_cons.mp ordered).2⟩)
        (List.forall_mem_cons.mpr ⟨fresh.tidy, (List.forall_mem_cons.mp tidy).2⟩)

/-- A tidy table stands behind the tables of a list. -/
theorem Tidy.follow {earlier : List Members} (tidy : (Growth.tables members earlier).Tidy)
    (fresh : TidyMembers changed) : (Growth.tables changed (members :: earlier)).Tidy := by
  cases tidy with
  | tables ordered tidy =>
      exact .tables (List.forall_mem_cons.mpr ⟨fresh.ordered, ordered⟩)
        (List.forall_mem_cons.mpr ⟨fresh.tidy, tidy⟩)

/-- A change of tables leaves them tidy, if it succeeds. -/
def KeepsTidy (change : Members → Option Members) : Prop :=
  ∀ members changed, TidyMembers members → change members = some changed → TidyMembers changed

theorem keepsTidy_putPair {value : Value} (tidy : value.Tidy) (path : List String) :
    KeepsTidy (putPair value path) := by
  match path with
  | [] =>
      intro members changed _ put
      cases put
  | [key] =>
      intro members changed before put
      cases found : members.find? key with
      | some growth => simp [putPair, found] at put
      | none =>
          obtain rfl : members.put key (.value value) = changed := by
            simpa [putPair, found] using put
          exact before.put key (.value tidy)
  | key :: next :: path =>
      have deeper := keepsTidy_putPair tidy (next :: path)
      intro members changed before put
      unfold putPair at put
      split at put
      · obtain ⟨inner, grown, rfl⟩ := Option.map_eq_some_iff.mp put
        exact before.put key ((deeper _ _ tidyMembers_nil grown).table _)
      · rename_i making inner found
        split_ifs at put
        obtain ⟨inner', grown, rfl⟩ := Option.map_eq_some_iff.mp put
        exact before.put key ((deeper _ _ (before.of_find? found).inside grown).table _)
      · rename_i current earlier found
        split_ifs at put
        obtain ⟨current', grown, rfl⟩ := Option.map_eq_some_iff.mp put
        have tables := before.of_find? found
        exact before.put key (tables.replace (deeper _ _ tables.current grown))
      · cases put

theorem KeepsTidy.within {change : Members → Option Members} (keeps : KeepsTidy change)
    (path : List String) : KeepsTidy (within change path) := by
  induction path with
  | nil => exact keeps
  | cons key path ih =>
      intro members changed before put
      unfold Growth.within at put
      split at put
      · obtain ⟨inner, grown, rfl⟩ := Option.map_eq_some_iff.mp put
        exact before.put key ((ih _ _ tidyMembers_nil grown).table _)
      · rename_i making inner found
        obtain ⟨inner', grown, rfl⟩ := Option.map_eq_some_iff.mp put
        exact before.put key ((ih _ _ (before.of_find? found).inside grown).table _)
      · rename_i current earlier found
        obtain ⟨current', grown, rfl⟩ := Option.map_eq_some_iff.mp put
        have tables := before.of_find? found
        exact before.put key (tables.replace (ih _ _ tables.current grown))
      · cases put

theorem keepsTidy_openTable (key : String) : KeepsTidy (openTable key) := by
  intro members changed before put
  unfold openTable at put
  split at put
  · cases put
    exact before.put key (tidyMembers_nil.table _)
  · rename_i inner found
    cases put
    exact before.put key ((before.of_find? found).inside.table _)
  · cases put

theorem keepsTidy_openItem (key : String) : KeepsTidy (openItem key) := by
  intro members changed before put
  unfold openItem at put
  split at put
  · cases put
    exact before.put key (.tables
      (List.forall_mem_cons.mpr ⟨List.Pairwise.nil, List.forall_mem_nil _⟩)
      (List.forall_mem_cons.mpr ⟨List.forall_mem_nil _, List.forall_mem_nil _⟩))
  · rename_i current earlier found
    cases put
    exact before.put key ((before.of_find? found).follow tidyMembers_nil)
  · cases put

end

end Growth

open Growth (KeepsTidy TidyMembers tidyMembers_nil keepsTidy_putPair keepsTidy_openTable
  keepsTidy_openItem)

/-! ## Values between brackets and braces -/

theorem gives_scalar : Scan.Gives scalar Value.Tidy := by
  unfold scalar
  refine .orElse (Scan.gives_bind _ fun _ => Scan.gives_pure (.text _)) ?_
  refine .orElse (Scan.gives_bind _ fun _ => Scan.gives_pure (.bool _)) ?_
  refine .orElse (Scan.gives_bind _ fun _ => Scan.gives_pure (.bool _)) ?_
  refine .orElse (Scan.gives_bind _ fun _ => Scan.gives_pure (.moment _)) ?_
  refine .orElse (Scan.gives_bind _ fun _ => Scan.gives_pure (.real _)) ?_
  refine .orElse (Scan.gives_bind _ fun _ => Scan.gives_pure (.real _)) ?_
  refine .orElse (Scan.gives_bind _ fun _ => Scan.gives_pure (.whole _)) ?_
  exact Scan.gives_bind _ fun _ => Scan.gives_pure (.whole _)

section

variable {item : Scan Value} (gives : Scan.Gives item Value.Tidy)

include gives

theorem gives_list : Scan.Gives (list item) Value.Tidy := by
  have items : Scan.Gives (do let v ← item; gap; return v) Value.Tidy :=
    gives.bind fun _ tidy => Scan.gives_bind _ fun _ => Scan.gives_pure tidy
  have ended : Scan.Gives (do
      let values ← Scan.separated (do let v ← item; gap; return v) (do Scan.mark ','; gap)
      let _ ← Scan.option (do Scan.mark ','; gap)
      return values) fun values => ∀ value ∈ values, value.Tidy :=
    (items.separated _).bind fun _ tidy => Scan.gives_bind _ fun _ => Scan.gives_pure tidy
  unfold list
  refine Scan.gives_bind _ fun _ => Scan.gives_bind _ fun _ => ?_
  refine Scan.Gives.bind ended.option fun found tidy =>
    Scan.gives_bind _ fun _ => Scan.gives_pure (.list ?_)
  cases found with
  | none => exact List.forall_mem_nil _
  | some values => exact tidy values rfl

theorem gives_pairOf : Scan.Gives (pairOf item) fun pair => pair.2.Tidy :=
  Scan.gives_bind _ fun _ => Scan.gives_bind _ fun _ => Scan.gives_bind _ fun _ =>
    gives.bind fun _ tidy => Scan.gives_bind _ fun _ => Scan.gives_pure tidy

theorem gives_inlineTable : Scan.Gives (inlineTable item) Value.Tidy := by
  have putAll_keeps {pairs : List (List String × Value)}
      (tidy : ∀ pair ∈ pairs, pair.2.Tidy) : KeepsTidy (putAll pairs) := by
    induction pairs with
    | nil =>
        intro members changed before put
        cases put
        exact before
    | cons pair pairs ih =>
        obtain ⟨first, others⟩ := List.forall_mem_cons.mp tidy
        intro members changed before put
        obtain ⟨middle, firstPut, later⟩ := Option.bind_eq_some_iff.mp put
        exact ih others _ _ (keepsTidy_putPair first pair.1 _ _ before firstPut) later
  unfold inlineTable
  refine Scan.gives_bind _ fun _ => Scan.gives_bind _ fun _ => ?_
  refine Scan.Gives.bind ((gives_pairOf gives).separated _).option fun pairs tidy => ?_
  refine Scan.gives_bind _ fun _ => ?_
  have tidyPairs : ∀ pair ∈ pairs.getD [], pair.2.Tidy := by
    cases pairs with
    | none => exact List.forall_mem_nil _
    | some pairs => exact tidy pairs rfl
  split
  · rename_i members put
    have grown := putAll_keeps tidyPairs _ _ tidyMembers_nil put
    exact Scan.gives_pure (Growth.tidy_toMembers grown.ordered fun member inside =>
      (grown.tidy member inside).toValue)
  · exact Scan.gives_failure _

end

theorem gives_value (depth : Nat) : Scan.Gives (value depth) Value.Tidy := by
  fun_induction value depth with
  | case1 => exact Scan.gives_failure _
  | case2 => exact gives_scalar
  | case3 depth _ ih =>
      exact (gives_list ih).orElse ((gives_inlineTable ih).orElse gives_scalar)

/-! ## Lines -/

/-- The value that the line sets, if it sets one, is tidy. -/
def Line.Tidy : Line → Prop
  | .pair _ value => value.Tidy
  | _ => True

theorem gives_header : Scan.Gives header Line.Tidy := by
  unfold header
  refine .orElse ?_ ?_
  · exact Scan.gives_bind _ fun _ => Scan.gives_bind _ fun _ => Scan.gives_bind _ fun _ =>
      Scan.gives_pure trivial
  · exact Scan.gives_bind _ fun _ => Scan.gives_bind _ fun _ => Scan.gives_bind _ fun _ =>
      Scan.gives_pure trivial

theorem gives_line : Scan.Gives line Line.Tidy := by
  have nothing : Scan.Gives (return Line.empty) Line.Tidy := Scan.gives_pure trivial
  unfold line
  refine Scan.gives_bind _ fun _ =>
    Scan.Gives.bind (gives_header.orElse (Scan.Gives.orElse ?pair nothing)) fun _ tidy => ?_
  case pair => exact (gives_pairOf (gives_value deepest)).bind fun _ tidy => Scan.gives_pure tidy
  exact Scan.gives_bind _ fun _ => Scan.gives_bind _ fun _ => Scan.gives_pure tidy

theorem gives_lines : Scan.Gives lines fun found => ∀ line ∈ found, line.Tidy := by
  have ended : Scan.Gives (do let l ← line; lineEnd; return l) Line.Tidy :=
    gives_line.bind fun _ tidy => Scan.gives_bind _ fun _ => Scan.gives_pure tidy
  unfold lines
  refine Scan.gives_bind _ fun _ => ended.many.bind fun found tidy => ?_
  refine gives_line.bind fun last tidyLast => Scan.gives_bind _ fun _ => Scan.gives_pure ?_
  exact List.forall_mem_append.mpr ⟨tidy, by simpa using tidyLast⟩

theorem tidyMembers_takeIn {line : Line} (tidy : line.Tidy) {place : List String}
    {members : Members} {next : List String × Members} (before : TidyMembers members)
    (read : takeIn line place members = some next) : TidyMembers next.2 := by
  unfold takeIn at read
  split at read
  · cases read
    exact before
  · obtain ⟨changed, put, rfl⟩ := Option.map_eq_some_iff.mp read
    exact (keepsTidy_putPair tidy _).within _ _ _ before put
  · split at read
    · cases read
    · obtain ⟨changed, put, rfl⟩ := Option.map_eq_some_iff.mp read
      exact (keepsTidy_openTable _).within _ _ _ before put
  · split at read
    · cases read
    · obtain ⟨changed, put, rfl⟩ := Option.map_eq_some_iff.mp read
      exact (keepsTidy_openItem _).within _ _ _ before put

theorem tidyMembers_takeInAll {lines : List Line} (tidy : ∀ line ∈ lines, line.Tidy)
    {place : List String} {members changed : Members} (before : TidyMembers members)
    (read : takeInAll lines place members = some changed) : TidyMembers changed := by
  induction lines generalizing place members with
  | nil =>
      cases read
      exact before
  | cons line lines ih =>
      obtain ⟨first, others⟩ := List.forall_mem_cons.mp tidy
      obtain ⟨next, taken, later⟩ := Option.bind_eq_some_iff.mp read
      exact ih others (tidyMembers_takeIn first before taken) later

/-- Every table of a document has its keys in order. -/
theorem tidy_ofText? {text : String} {table : Table} (read : ofText? text = some table) :
    (Value.table table).Tidy := by
  obtain ⟨members, taken, rfl⟩ := Option.map_eq_some_iff.mp read
  obtain ⟨lines, found, taken⟩ := Option.bind_eq_some_iff.mp taken
  have grown := tidyMembers_takeInAll (gives_lines.of_whole? found) tidyMembers_nil taken
  exact Growth.tidy_toMembers grown.ordered fun member inside => (grown.tidy member inside).toValue

/-- The keys of a document stand in their order. -/
theorem ordered_ofText? {text : String} {table : Table} (read : ofText? text = some table) :
    Keyed.Ordered table := by
  cases tidy_ofText? read with
  | table ordered _ => exact ordered

end DevicePanel.Toml
