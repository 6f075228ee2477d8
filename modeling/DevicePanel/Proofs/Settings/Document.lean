import DevicePanel.Proofs.Toml.Sections
import DevicePanel.Settings.Save

/-!
# The document of settings

Settings can be written when no number of them is too large for a document.  The document has a
section for the defaults and one for each profile, and it is read as a table of these tables.
-/

namespace DevicePanel

/-! ## What can be written -/

/-- The times of a profile are none too large for a document. -/
structure Settings.Profile.Writable (profile : Settings.Profile) : Prop where
  timeout : ∀ n ∈ profile.timeout, n ≤ 0x7FFFFFFFFFFFFFFF
  dispatchTimeout : ∀ n ∈ profile.dispatchTimeout, n ≤ 0x7FFFFFFFFFFFFFFF

instance (profile : Settings.Profile) : Decidable profile.Writable :=
  decidable_of_iff ((∀ n ∈ profile.timeout, n ≤ 0x7FFFFFFFFFFFFFFF) ∧
      ∀ n ∈ profile.dispatchTimeout, n ≤ 0x7FFFFFFFFFFFFFFF)
    ⟨fun ⟨timeout, dispatchTimeout⟩ => ⟨timeout, dispatchTimeout⟩,
      fun writable => ⟨writable.timeout, writable.dispatchTimeout⟩⟩

/-- No time of the settings is too large for a document. -/
structure Settings.Writable (settings : Settings) : Prop where
  timeout : settings.defaults.timeout ≤ 0x7FFFFFFFFFFFFFFF
  dispatchTimeout : settings.defaults.dispatchTimeout ≤ 0x7FFFFFFFFFFFFFFF
  profiles : ∀ pair ∈ settings.profiles, pair.2.Writable

instance (settings : Settings) : Decidable settings.Writable :=
  decidable_of_iff (settings.defaults.timeout ≤ 0x7FFFFFFFFFFFFFFF ∧
      settings.defaults.dispatchTimeout ≤ 0x7FFFFFFFFFFFFFFF ∧
      ∀ pair ∈ settings.profiles, pair.2.Writable)
    ⟨fun ⟨timeout, dispatchTimeout, profiles⟩ => ⟨timeout, dispatchTimeout, profiles⟩,
      fun writable => ⟨writable.timeout, writable.dispatchTimeout, writable.profiles⟩⟩

namespace Settings

open Toml (Scalar Section)

theorem numberScalar_eq (n : Nat) : numberScalar n =
    if n ≤ 0x7FFFFFFFFFFFFFFF then .ok (.natural n)
    else .error (.unwritable "out-of-range value for u64 type") := rfl

/-! ## The pairs of a section -/

def Defaults.entries (defaults : Defaults) : List (String × Scalar) :=
  [("output", .text defaults.output), ("color", .text defaults.color),
    ("insecure", .bool defaults.insecure), ("timeout", .natural defaults.timeout),
    ("dispatch_timeout", .natural defaults.dispatchTimeout)]

theorem Defaults.pairs_eq (defaults : Defaults) : defaults.pairs =
    if defaults.timeout ≤ 0x7FFFFFFFFFFFFFFF ∧ defaults.dispatchTimeout ≤ 0x7FFFFFFFFFFFFFFF then
      .ok defaults.entries
    else .error (.unwritable "out-of-range value for u64 type") := by
  rw [Defaults.pairs, numberScalar_eq, numberScalar_eq]
  by_cases writable :
      defaults.timeout ≤ 0x7FFFFFFFFFFFFFFF ∧ defaults.dispatchTimeout ≤ 0x7FFFFFFFFFFFFFFF
  · rw [if_pos writable, if_pos writable.1, if_pos writable.2]
    rfl
  · rw [if_neg writable]
    by_cases timeout : defaults.timeout ≤ 0x7FFFFFFFFFFFFFFF
    · rw [if_pos timeout, if_neg fun dispatchTimeout => writable ⟨timeout, dispatchTimeout⟩]
      rfl
    · rw [if_neg timeout]
      rfl

/-- The fields of a profile by their keys; one that is not set has no value. -/
def Profile.fields (profile : Profile) : List (String × Option Scalar) :=
  [("server", some (.text profile.server)), ("token", profile.token.map Scalar.text),
    ("token_env", profile.tokenVariable.map Scalar.text),
    ("ca_cert", profile.certificate.map Scalar.text),
    ("insecure", profile.insecure.map Scalar.bool),
    ("timeout", profile.timeout.map Scalar.natural),
    ("dispatch_timeout", profile.dispatchTimeout.map Scalar.natural),
    ("dispatch_policy", profile.policy.map (Scalar.text ∘ OverlapPolicy.name)),
    ("body_encoding", profile.encoding.map (Scalar.text ∘ BodyEncoding.name))]

/-- The pair of a field, if it has a value. -/
def pairOf (field : String × Option Scalar) : List (String × Scalar) :=
  (field.2.map (field.1, ·)).toList

/-- The pairs of a profile. -/
def Profile.entries (profile : Profile) : List (String × Scalar) := profile.fields.flatMap pairOf

theorem optionalPair_ok {α : Type} (key : String) (write : α → Except Fault Scalar)
    (toScalar : α → Scalar) {value : Option α} (writes : ∀ x ∈ value, write x = .ok (toScalar x)) :
    optionalPair key write value = .ok (pairOf (key, value.map toScalar)) := by
  cases value with
  | none => rfl
  | some x =>
      rw [optionalPair, writes x rfl]
      rfl

theorem optionalPair_number (key : String) (value : Option Nat) :
    optionalPair key numberScalar value =
      if ∀ n ∈ value, n ≤ 0x7FFFFFFFFFFFFFFF then .ok (pairOf (key, value.map Scalar.natural))
      else .error (.unwritable "out-of-range value for u64 type") := by
  split_ifs with small
  · exact optionalPair_ok key numberScalar Scalar.natural fun n here => by
      rw [numberScalar_eq, if_pos (small n here)]
  · cases value with
    | none => simp at small
    | some n =>
        have tooLarge : ¬ n ≤ 0x7FFFFFFFFFFFFFFF := by simpa using small
        rw [optionalPair, numberScalar_eq, if_neg tooLarge]
        rfl

theorem Profile.pairs_eq (profile : Profile) : profile.pairs =
    if profile.Writable then .ok profile.entries
    else .error (.unwritable "out-of-range value for u64 type") := by
  rw [Profile.pairs, optionalPair_ok "token" textScalar Scalar.text fun _ _ => rfl,
    optionalPair_ok "token_env" textScalar Scalar.text fun _ _ => rfl,
    optionalPair_ok "ca_cert" textScalar Scalar.text fun _ _ => rfl,
    optionalPair_ok "insecure" (fun value => .ok (.bool value)) Scalar.bool fun _ _ => rfl,
    optionalPair_number "timeout", optionalPair_number "dispatch_timeout",
    optionalPair_ok "dispatch_policy" (textScalar ∘ OverlapPolicy.name)
      (Scalar.text ∘ OverlapPolicy.name) fun _ _ => rfl,
    optionalPair_ok "body_encoding" (textScalar ∘ BodyEncoding.name)
      (Scalar.text ∘ BodyEncoding.name) fun _ _ => rfl]
  by_cases writable : profile.Writable
  · rw [if_pos writable, if_pos writable.timeout, if_pos writable.dispatchTimeout]
    refine congrArg Except.ok ?_
    simp [Profile.entries, Profile.fields, pairOf]
  · rw [if_neg writable]
    by_cases timeout : ∀ n ∈ profile.timeout, n ≤ 0x7FFFFFFFFFFFFFFF
    · rw [if_pos timeout, if_neg fun dispatchTimeout => writable ⟨timeout, dispatchTimeout⟩]
      rfl
    · rw [if_neg timeout]
      rfl

/-! ## The sections of settings -/

/-- The tables of the profiles. -/
def tables (settings : Settings) : List (String × List (String × Scalar)) :=
  Keyed.mapValues Profile.entries settings.profiles

theorem profileSections_of_writable {profiles : Keyed Profile}
    (writable : ∀ pair ∈ profiles, pair.2.Writable) :
    profileSections profiles =
      .ok (Toml.sectionsUnder "profiles" (Keyed.mapValues Profile.entries profiles)) := by
  induction profiles with
  | nil => rfl
  | cons pair profiles ih =>
      obtain ⟨name, profile⟩ := pair
      obtain ⟨first, others⟩ := List.forall_mem_cons.mp writable
      rw [profileSections, Profile.pairs_eq, if_pos first]
      simp only [ih others]
      rfl

theorem profileSections_error {profiles : Keyed Profile}
    (unwritable : ¬ ∀ pair ∈ profiles, pair.2.Writable) :
    ∃ fault, profileSections profiles = .error fault := by
  induction profiles with
  | nil => simp at unwritable
  | cons pair profiles ih =>
      obtain ⟨name, profile⟩ := pair
      by_cases first : profile.Writable
      · have others : ¬ ∀ pair ∈ profiles, pair.2.Writable := fun others =>
          unwritable (List.forall_mem_cons.mpr ⟨first, others⟩)
        obtain ⟨fault, fails⟩ := ih others
        rw [profileSections, Profile.pairs_eq, if_pos first]
        exact ⟨fault, by simp only [fails]; rfl⟩
      · rw [profileSections, Profile.pairs_eq, if_neg first]
        exact ⟨_, rfl⟩

/-- The section without a header, if there is a name of a profile to write there. -/
def head (settings : Settings) : List Section :=
  match settings.defaultProfile with
  | some name => [⟨[], [("default_profile", .text name)]⟩]
  | none => []

/-- The sections below the one of the defaults. -/
def tail (settings : Settings) : List Section :=
  if settings.profiles.isEmpty then [⟨["profiles"], []⟩]
  else Toml.sectionsUnder "profiles" settings.tables

theorem fits_of_mem_fields {profile : Profile} (writable : profile.Writable) :
    ∀ field ∈ profile.fields, ∀ given ∈ field.2, given.Fits := by
  have number {n : Nat} (small : n ≤ 0x7FFFFFFFFFFFFFFF) : (Scalar.natural n).Fits := by
    change n < 0x8000000000000000
    omega
  simp only [Profile.fields, List.forall_mem_cons, List.not_mem_nil, false_implies, implies_true,
    and_true, Option.mem_def, Option.map_eq_some_iff, Option.some.injEq, forall_exists_index,
    and_imp, forall_apply_eq_imp_iff₂, forall_eq']
  exact ⟨trivial, fun _ _ => trivial, fun _ _ => trivial, fun _ _ => trivial, fun _ _ => trivial,
    fun n here => number (writable.timeout n here),
    fun n here => number (writable.dispatchTimeout n here), fun _ _ => trivial, fun _ _ => trivial⟩

theorem fits_of_mem_entries {profile : Profile} (writable : profile.Writable) :
    ∀ pair ∈ profile.entries, pair.2.Fits := by
  intro pair member
  obtain ⟨field, inFields, here⟩ := List.mem_flatMap.mp member
  obtain ⟨given, value, rfl⟩ : ∃ given, field.2 = some given ∧ (field.1, given) = pair := by
    simpa [pairOf] using here
  exact fits_of_mem_fields writable field inFields given value

theorem keys_flatMap_pairOf (fields : List (String × Option Scalar)) :
    (Keyed.keys (fields.flatMap pairOf)).Sublist (Keyed.keys fields) := by
  induction fields with
  | nil => exact List.Sublist.slnil
  | cons field fields ih =>
      obtain ⟨key, value⟩ := field
      cases value with
      | none => exact ih.cons _
      | some given => exact ih.cons_cons _

theorem Profile.nodup_fields (profile : Profile) : (Keyed.keys profile.fields).Nodup := by
  have keys : Keyed.keys profile.fields = ["server", "token", "token_env", "ca_cert",
    "insecure", "timeout", "dispatch_timeout", "dispatch_policy", "body_encoding"] := rfl
  rw [keys]
  decide

theorem Profile.nodup_entries (profile : Profile) : (Keyed.keys profile.entries).Nodup :=
  (keys_flatMap_pairOf profile.fields).nodup profile.nodup_fields

theorem Defaults.nodup_entries (defaults : Defaults) : (Keyed.keys defaults.entries).Nodup := by
  have keys : Keyed.keys defaults.entries =
    ["output", "color", "insecure", "timeout", "dispatch_timeout"] := rfl
  rw [keys]
  decide

theorem find?_flatMap_pairOf (key : String) {fields : List (String × Option Scalar)}
    (different : (Keyed.keys fields).Nodup) :
    Keyed.find? key (fields.flatMap pairOf) = (Keyed.find? key fields).join := by
  induction fields with
  | nil => rfl
  | cons field fields ih =>
      obtain ⟨name, value⟩ := field
      obtain ⟨fresh, others⟩ := List.nodup_cons.mp different
      rw [List.flatMap_cons, Keyed.find?_append, ih others]
      by_cases same : name = key
      · subst same
        cases value <;> simp [pairOf, Keyed.find?, Keyed.find?_eq_none fresh]
      · cases value <;> simp [pairOf, Keyed.find?, same]

/-- All sections of the settings, as they are written. -/
def allSections (settings : Settings) : List Section :=
  settings.head ++ ⟨["defaults"], settings.defaults.entries⟩ :: settings.tail

theorem fits_of_mem_allSections {settings : Settings} (writable : settings.Writable) :
    ∀ given ∈ settings.allSections, given.Fits := by
  have head : ∀ given ∈ settings.head, given.Fits := by
    intro given member
    cases name : settings.defaultProfile with
    | none => simp [Settings.head, name] at member
    | some name' =>
        obtain rfl : given = ⟨[], [("default_profile", .text name')]⟩ := by
          simpa [Settings.head, name] using member
        exact ⟨show 0 < Toml.deepest by decide, by simp [Scalar.Fits]⟩
  have defaults : (Section.mk ["defaults"] settings.defaults.entries).Fits := by
    have timeout := writable.timeout
    have dispatchTimeout := writable.dispatchTimeout
    refine ⟨show 1 < Toml.deepest by decide, ?_⟩
    simp [Defaults.entries, Scalar.Fits]
    omega
  have tail : ∀ given ∈ settings.tail, given.Fits := by
    intro given member
    unfold Settings.tail at member
    split_ifs at member
    · obtain rfl : given = ⟨["profiles"], []⟩ := by simpa using member
      exact ⟨show 1 < Toml.deepest by decide, by simp⟩
    · obtain ⟨table, inTables, rfl⟩ := List.mem_map.mp member
      obtain ⟨pair, inProfiles, rfl⟩ := List.mem_map.mp inTables
      exact ⟨show 2 < Toml.deepest by decide,
        fits_of_mem_entries (writable.profiles pair inProfiles)⟩
  intro given member
  rcases List.mem_append.mp member with inHead | later
  · exact head given inHead
  · rcases List.mem_cons.mp later with rfl | inTail
    · exact defaults
    · exact tail given inTail

theorem sections_of_writable {settings : Settings} (writable : settings.Writable) :
    settings.sections = .ok settings.allSections := by
  rw [sections, Defaults.pairs_eq, if_pos ⟨writable.timeout, writable.dispatchTimeout⟩,
    profileSections_of_writable writable.profiles]
  refine congrArg Except.ok ?_
  simp only [allSections, Toml.sectionsUnder, head, tail, tables, Keyed.mapValues, List.map_map]
  cases settings.profiles <;> rfl

theorem sections_error {settings : Settings} (unwritable : ¬ settings.Writable) :
    ∃ fault, settings.sections = .error fault := by
  rw [sections, Defaults.pairs_eq]
  split_ifs with defaults
  · have profiles : ¬ ∀ pair ∈ settings.profiles, pair.2.Writable := fun profiles =>
      unwritable ⟨defaults.1, defaults.2, profiles⟩
    obtain ⟨fault, fails⟩ := profileSections_error profiles
    rw [fails]
    exact ⟨fault, rfl⟩
  · exact ⟨_, rfl⟩

/-! ## The table of the document -/

/-- The table that the document of the settings is read as. -/
def table (settings : Settings) : Toml.Table :=
  let named : Toml.Table := match settings.defaultProfile with
    | some name => [("default_profile", .text name)]
    | none => []
  Keyed.put "profiles" (.table (Keyed.ofPairs (Keyed.mapValues Toml.tableOf settings.tables)))
    (Keyed.put "defaults" (Toml.tableOf settings.defaults.entries) named)

/-- What the section without a header comes to. -/
def started (settings : Settings) : Toml.Growth.Members :=
  match settings.defaultProfile with
  | some name => [("default_profile", .value (.text name))]
  | none => []

/-- The profiles come to a table of tables, also when there are none. -/
theorem takeInAll_tail {settings : Settings} {members : Toml.Growth.Members}
    (different : (Keyed.keys settings.profiles).Nodup) (absent : members.find? "profiles" = none)
    (place : List String) :
    ∃ making, Toml.takeInAll (settings.tail.flatMap Section.lines) place members =
      some (Keyed.put "profiles" (.table making
        (Keyed.ofPairs (Keyed.mapValues Toml.grownTable settings.tables))) members) := by
  unfold tail
  split_ifs with none
  · have noTables : settings.tables = [] := by simpa [tables, Keyed.mapValues] using none
    have noKeys : (Keyed.keys ([] : List (String × Scalar))).Nodup := List.nodup_nil
    have opened := Toml.openFilled_of_absent absent noKeys
    have read := Toml.takeInAll_section [] "profiles" [] [] members place
    rw [Toml.Growth.within, opened, List.append_nil] at read
    refine ⟨.header, ?_⟩
    rw [noTables, List.flatMap_singleton]
    exact read
  · have some : settings.tables ≠ [] := by simpa [tables, Keyed.mapValues] using none
    have filled : ∀ table ∈ settings.tables, (Keyed.keys table.2).Nodup := by
      intro table member
      obtain ⟨pair, -, rfl⟩ := List.mem_map.mp member
      exact pair.2.nodup_entries
    have names : (Keyed.keys settings.tables).Nodup := by rwa [tables, Keyed.keys_mapValues]
    exact ⟨.passage, Toml.takeInAll_tables some names filled absent place⟩

theorem takeInAll_allSections {settings : Settings}
    (different : (Keyed.keys settings.profiles).Nodup) :
    ∃ making, Toml.takeInAll (settings.allSections.flatMap Section.lines) [] [] =
      some (Keyed.put "profiles" (.table making
        (Keyed.ofPairs (Keyed.mapValues Toml.grownTable settings.tables)))
        (Keyed.put "defaults" (Toml.grownTable settings.defaults.entries) settings.started)) := by
  have head : Toml.takeInAll (settings.allSections.flatMap Section.lines) [] [] =
      Toml.takeInAll ((Section.mk ([] ++ ["defaults"]) settings.defaults.entries).lines ++
        settings.tail.flatMap Section.lines) [] settings.started := by
    rw [allSections, List.flatMap_append]
    cases name : settings.defaultProfile with
    | none => simp [Settings.head, started, name]
    | some given =>
        simp [Settings.head, started, name, Section.lines, Toml.takeInAll, Toml.takeIn,
          Toml.Growth.within, Toml.Growth.putPair, Keyed.find?, Keyed.put, Scalar.value]
  have noDefaults : settings.started.find? "defaults" = none := by
    cases name : settings.defaultProfile <;> simp [started, name, Keyed.find?]
  have noProfiles : (Keyed.put "defaults" (Toml.grownTable settings.defaults.entries)
      settings.started).find? "profiles" = none := by
    rw [Keyed.find?_put_of_ne _ _ (by decide)]
    cases name : settings.defaultProfile <;> simp [started, name, Keyed.find?]
  obtain ⟨making, tail⟩ := takeInAll_tail different noProfiles ["defaults"]
  refine ⟨making, ?_⟩
  rw [head, Toml.takeInAll_section, Toml.Growth.within,
    Toml.openFilled_of_absent noDefaults settings.defaults.nodup_entries, Option.bind_some]
  exact tail

/-- The document of settings is read as their table. -/
theorem ofText?_document {settings : Settings} (writable : settings.Writable)
    (different : (Keyed.keys settings.profiles).Nodup) :
    Toml.ofText? (String.ofList (Toml.writeDocument settings.allSections)) =
      some settings.table := by
  obtain ⟨making, read⟩ := takeInAll_allSections different
  have started : Keyed.mapValues Toml.Growth.toValue settings.started =
      (match settings.defaultProfile with
        | some name => [("default_profile", .text name)]
        | none => []) := by
    unfold Settings.started
    cases settings.defaultProfile <;> simp [Keyed.mapValues, Toml.Growth.toValue]
  have profiles : Toml.Growth.toValue ∘ Toml.grownTable = Toml.tableOf :=
    funext Toml.toValue_grownTable
  rw [Toml.ofText?_writeDocument (fits_of_mem_allSections writable), read, Option.map_some,
    Keyed.mapValues_put, Keyed.mapValues_put, started, Toml.Growth.toValue, Toml.toMembers_eq,
    Keyed.mapValues_ofPairs, Keyed.mapValues_mapValues, profiles, Toml.toValue_grownTable]
  rfl

end Settings

end DevicePanel
