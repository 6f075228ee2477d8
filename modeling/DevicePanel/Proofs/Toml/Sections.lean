import DevicePanel.Proofs.Keyed
import DevicePanel.Proofs.Toml.Lines

/-!
# The tables of a document of sections

The lines of a section open a table and fill it.  Changes at one path of tables one after the
other are one change there, so that a section, and several sections of one table, come to a single
change of the tables read so far.
-/

namespace DevicePanel.Toml

open Growth (Members)

namespace Growth

/-! ## Changes at a path -/

section

variable (change : Members → Option Members) (key : String) (path : List String)
  (members : Members)

theorem within_put_table (making : Making) (inner : Members) :
    within change (key :: path) (members.put key (.table making inner)) =
      (within change path inner).map fun inner => members.put key (.table making inner) := by
  simp [within, Keyed.find?_put_self, Keyed.put_put]

theorem within_put_tables (current : Members) (earlier : List Members) :
    within change (key :: path) (members.put key (.tables current earlier)) =
      (within change path current).map fun current =>
        members.put key (.tables current earlier) := by
  simp [within, Keyed.find?_put_self, Keyed.put_put]

end

/-- Two changes at a path one after the other are one change there. -/
theorem within_bind (first second : Members → Option Members) (path : List String)
    (members : Members) :
    (within first path members).bind (within second path) =
      within (fun members => (first members).bind second) path members := by
  induction path generalizing members with
  | nil => rfl
  | cons key path ih =>
      conv_lhs => rw [within]
      conv_rhs => rw [within]
      cases found : members.find? key with
      | none =>
          rw [← ih []]
          cases changed : within first path [] with
          | none => simp
          | some inner => simp [within_put_table]
      | some growth =>
          cases growth with
          | value written => rfl
          | table making inner =>
              simp only [← ih inner]
              cases changed : within first path inner with
              | none => rfl
              | some inner => simp [within_put_table]
          | tables current earlier =>
              simp only [← ih current]
              cases changed : within first path current with
              | none => rfl
              | some current => simp [within_put_tables]

theorem within_append (change : Members → Option Members) (front back : List String)
    (members : Members) :
    within change (front ++ back) members = within (within change back) front members := by
  induction front generalizing members with
  | nil => rfl
  | cons key front ih =>
      simp only [List.cons_append, within, ih]

end Growth

/-! ## Pairs below a header -/

def Scalar.growth (given : Scalar) : Growth := .value given.value

/-- Put the pairs of a section into the table under a key, one after the other. -/
def putUnder (key : String) : List (String × Scalar) → Members → Option Members
  | [], members => some members
  | pair :: pairs, members =>
      (Growth.within (Growth.putPair pair.2.value [pair.1]) [key] members).bind
        (putUnder key pairs)

/-- Open a table and fill it. -/
def openFilled (key : String) (pairs : List (String × Scalar)) (members : Members) :
    Option Members :=
  (Growth.openTable key members).bind (putUnder key pairs)

theorem putUnder_put {key : String} {pairs : List (String × Scalar)} {inner : Members}
    (members : Members) (different : (Keyed.keys pairs).Nodup)
    (fresh : ∀ name ∈ Keyed.keys pairs, inner.find? name = none) :
    putUnder key pairs (members.put key (.table .header inner)) =
      some (members.put key (.table .header
        (Keyed.putAll (Keyed.mapValues Scalar.growth pairs) inner))) := by
  induction pairs generalizing inner with
  | nil => rfl
  | cons pair pairs ih =>
      obtain ⟨name, given⟩ := pair
      obtain ⟨differs, others⟩ := List.nodup_cons.mp different
      have absent : inner.find? name = none := fresh name (by simp [Keyed.keys])
      have put : Growth.putPair given.value [name] inner = some (inner.put name given.growth) := by
        simp [Growth.putPair, absent, Scalar.growth]
      have later : ∀ other ∈ Keyed.keys pairs,
          (inner.put name given.growth).find? other = none := by
        intro other member
        rw [Keyed.find?_put_of_ne]
        · exact fresh other (List.mem_cons_of_mem _ member)
        · rintro rfl
          exact differs member
      rw [putUnder, Growth.within_put_table]
      simp only [Growth.within, put, Option.map_some, Option.bind_some]
      exact ih others later

/-- The table of a section that is not there yet holds its pairs. -/
theorem openFilled_of_absent {key : String} {pairs : List (String × Scalar)} {members : Members}
    (absent : members.find? key = none) (different : (Keyed.keys pairs).Nodup) :
    openFilled key pairs members = some (members.put key (.table .header
      (Keyed.ofPairs (Keyed.mapValues Scalar.growth pairs)))) := by
  have opened : Growth.openTable key members = some (members.put key (.table .header [])) := by
    simp [Growth.openTable, absent]
  rw [openFilled, opened, Option.bind_some,
    putUnder_put members different (fun _ _ => rfl), Keyed.ofPairs_eq]

/-! ## Lines of sections -/

section

variable (path : List String) (key : String) (pairs : List (String × Scalar)) (lines : List Line)
  (members : Members)

theorem takeInAll_pairs (change : Members → Option Members) :
    (Growth.within change path members).bind
        (takeInAll (pairs.map (fun pair => .pair [pair.1] pair.2.value) ++ lines) (path ++ [key])) =
      (Growth.within (fun members => (change members).bind (putUnder key pairs)) path members).bind
        (takeInAll lines (path ++ [key])) := by
  induction pairs generalizing change with
  | nil => simp [putUnder]
  | cons pair pairs ih =>
      have step : takeInAll (.pair [pair.1] pair.2.value ::
            (pairs.map (fun pair => .pair [pair.1] pair.2.value) ++ lines)) (path ++ [key]) =
          fun members => (Growth.within
            (Growth.within (Growth.putPair pair.2.value [pair.1]) [key]) path members).bind
              (takeInAll (pairs.map (fun pair => .pair [pair.1] pair.2.value) ++ lines)
                (path ++ [key])) := by
        funext members
        rw [takeInAll, takeIn, Growth.within_append, Option.bind_map]
        rfl
      rw [List.map_cons, List.cons_append, step, ← Option.bind_assoc, Growth.within_bind, ih]
      simp only [Option.bind_assoc]
      rfl

theorem takeInAll_section (place : List String) :
    takeInAll ((Section.mk (path ++ [key]) pairs).lines ++ lines) place members =
      (Growth.within (openFilled key pairs) path members).bind
        (takeInAll lines (path ++ [key])) := by
  have opens : takeInAll ((Section.mk (path ++ [key]) pairs).lines ++ lines) place members =
      (Growth.within (Growth.openTable key) path members).bind
        (takeInAll (pairs.map (fun pair => .pair [pair.1] pair.2.value) ++ lines)
          (path ++ [key])) := by
    have head : (Section.mk (path ++ [key]) pairs).lines =
        .table (path ++ [key]) :: pairs.map fun pair => .pair [pair.1] pair.2.value := by
      simp [Section.lines]
    rw [head, List.cons_append, takeInAll, takeIn, List.getLast?_concat]
    simp only [List.dropLast_concat, Option.bind_map]
    rfl
  rw [opens, takeInAll_pairs]
  rfl

end

theorem takeInAll_append {back back' : List Line}
    (same : ∀ place members, takeInAll back place members = takeInAll back' place members)
    (front : List Line) (place : List String) (members : Members) :
    takeInAll (front ++ back) place members = takeInAll (front ++ back') place members := by
  induction front generalizing place members with
  | nil => exact same place members
  | cons line front ih =>
      rw [List.cons_append, List.cons_append, takeInAll, takeInAll]
      exact congrArg _ (funext fun next => ih next.1 next.2)

/-- The empty lines between the sections and after the last one change nothing. -/
theorem takeInAll_intersperse (sections : List Section) (place : List String)
    (members : Members) :
    takeInAll (((sections.map Section.lines).intersperse [.empty]).flatten ++ [.empty]) place
      members = takeInAll (sections.flatMap Section.lines) place members := by
  induction sections generalizing place members with
  | nil => rfl
  | cons first others ih =>
      cases others with
      | nil =>
          have last : ∀ place members, takeInAll [.empty] place members =
              takeInAll [] place members := fun _ _ => rfl
          simpa using takeInAll_append last first.lines place members
      | cons second others =>
          have later : ∀ place members, takeInAll (.empty ::
              ((((second :: others).map Section.lines).intersperse [.empty]).flatten ++ [.empty]))
                place members =
              takeInAll ((second :: others).flatMap Section.lines) place members := ih
          simpa using takeInAll_append later first.lines place members

/-! ## Several tables in one -/

/-- The sections of the tables in the table under a key. -/
def sectionsUnder (key : String) (tables : List (String × List (String × Scalar))) :
    List Section :=
  tables.map fun table => ⟨[key, table.1], table.2⟩

/-- The table of a section as it stands in another one. -/
def grownTable (pairs : List (String × Scalar)) : Growth :=
  .table .header (Keyed.ofPairs (Keyed.mapValues Scalar.growth pairs))

def openAll : List (String × List (String × Scalar)) → Members → Option Members
  | [], members => some members
  | table :: tables, members => (openFilled table.1 table.2 members).bind (openAll tables)

section

variable {key : String} {tables : List (String × List (String × Scalar))} {members : Members}

theorem takeInAll_sectionsUnder (change : Members → Option Members) (place : List String) :
    (Growth.within change [key] members).bind
        (takeInAll ((sectionsUnder key tables).flatMap Section.lines) place) =
      Growth.within (fun members => (change members).bind (openAll tables)) [key] members := by
  induction tables generalizing change place with
  | nil =>
      have nothing : takeInAll ((sectionsUnder key []).flatMap Section.lines) place = some := rfl
      have unchanged : (fun members => (change members).bind (openAll [])) = change :=
        funext fun members => by cases change members <;> rfl
      rw [nothing, unchanged]
      cases Growth.within change [key] members <;> rfl
  | cons table tables ih =>
      have first : takeInAll ((sectionsUnder key (table :: tables)).flatMap Section.lines) place =
          fun members => (Growth.within (openFilled table.1 table.2) [key] members).bind
            (takeInAll ((sectionsUnder key tables).flatMap Section.lines) [key, table.1]) :=
        funext fun members => takeInAll_section [key] table.1 table.2 _ members place
      rw [first, ← Option.bind_assoc, Growth.within_bind, ih]
      simp only [Option.bind_assoc]
      rfl

theorem openAll_of_absent (different : (Keyed.keys tables).Nodup)
    (filled : ∀ table ∈ tables, (Keyed.keys table.2).Nodup)
    (fresh : ∀ name ∈ Keyed.keys tables, members.find? name = none) :
    openAll tables members =
      some (Keyed.putAll (Keyed.mapValues grownTable tables) members) := by
  induction tables generalizing members with
  | nil => rfl
  | cons table tables ih =>
      obtain ⟨differs, others⟩ := List.nodup_cons.mp different
      obtain ⟨first, rest⟩ := List.forall_mem_cons.mp filled
      have absent : members.find? table.1 = none := fresh table.1 (by simp [Keyed.keys])
      have later : ∀ name ∈ Keyed.keys tables,
          (members.put table.1 (grownTable table.2)).find? name = none := by
        intro name member
        rw [Keyed.find?_put_of_ne]
        · exact fresh name (List.mem_cons_of_mem _ member)
        · rintro rfl
          exact differs member
      rw [openAll, openFilled_of_absent absent first, Option.bind_some]
      exact ih others rest later

/-- The tables of all sections stand in the table under the key. -/
theorem takeInAll_tables (nonempty : tables ≠ []) (different : (Keyed.keys tables).Nodup)
    (filled : ∀ table ∈ tables, (Keyed.keys table.2).Nodup) (absent : members.find? key = none)
    (place : List String) :
    takeInAll ((sectionsUnder key tables).flatMap Section.lines) place members =
      some (members.put key
        (.table .passage (Keyed.ofPairs (Keyed.mapValues grownTable tables)))) := by
  obtain ⟨table, others, rfl⟩ := List.exists_cons_of_ne_nil nonempty
  have first : takeInAll ((sectionsUnder key (table :: others)).flatMap Section.lines) place
      members = (Growth.within (openFilled table.1 table.2) [key] members).bind
        (takeInAll ((sectionsUnder key others).flatMap Section.lines) [key, table.1]) :=
    takeInAll_section [key] table.1 table.2 _ members place
  have opened : openAll (table :: others) [] =
      some (Keyed.ofPairs (Keyed.mapValues grownTable (table :: others))) :=
    openAll_of_absent different filled fun _ _ => rfl
  rw [first, takeInAll_sectionsUnder]
  rw [openAll] at opened
  simp [Growth.within, absent, opened]

end

/-! ## Tables as values -/

theorem toMembers_eq (members : Members) :
    Growth.toMembers members = Keyed.mapValues Growth.toValue members := by
  induction members with
  | nil => rfl
  | cons member members ih =>
      rw [Growth.toMembers, ih]
      rfl

/-- The value of the table of a section. -/
def tableOf (pairs : List (String × Scalar)) : Value :=
  .table (Keyed.ofPairs (Keyed.mapValues Scalar.value pairs))

theorem toValue_grownTable (pairs : List (String × Scalar)) :
    (grownTable pairs).toValue = tableOf pairs := by
  rw [grownTable, Growth.toValue, toMembers_eq, Keyed.mapValues_ofPairs,
    Keyed.mapValues_mapValues]
  have same : Growth.toValue ∘ Scalar.growth = Scalar.value := by
    funext given
    rw [Function.comp, Scalar.growth, Growth.toValue]
  rw [same]
  rfl

/-! ## The table of a document -/

/-- A document is read as what its sections come to one after the other. -/
theorem ofText?_writeDocument {sections : List Section}
    (fits : ∀ given ∈ sections, given.Fits) :
    ofText? (String.ofList (writeDocument sections)) =
      (takeInAll (sections.flatMap Section.lines) [] []).map
        (Keyed.mapValues Growth.toValue) := by
  have read := lines_writeDocument fits
  rw [← String.toList_ofList (l := writeDocument sections)] at read
  rw [ofText?, Scan.whole?_of_some read, Option.bind_some, takeInAll_intersperse,
    funext toMembers_eq]

end DevicePanel.Toml
