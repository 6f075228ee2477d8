import DevicePanel.Proofs.Settings.Records

/-!
# Which layer a setting comes from

A setting is what the variable for it says, and else what the file says, and else what is built in.
The defaults and a profile may also stand in the file as lists of their fields in their order.  Such
a list counts field by field, until a variable sets one of the fields: the variable then hides the
whole list, and not only the field.
-/

namespace DevicePanel.Settings

open Datum

/-! ## Layers at a path -/

namespace Datum

/-- What two layers come to at one place. -/
def joined (lower upper : Option Datum) : Option Datum := (upper.map (laidOver lower)).or lower

theorem joined_none_left (upper : Option Datum) : joined none upper = upper := by
  cases upper <;> rfl

theorem joined_none_right (lower : Option Datum) : joined lower none = lower := rfl

theorem isSome_joined {lower upper : Option Datum} :
    (joined lower upper).isSome ↔ upper.isSome ∨ lower.isSome := by
  cases upper <;> simp [joined]

theorem laidOver_of_not_isTable {upper : Datum} (noTable : ¬ upper.IsTable)
    (lower : Option Datum) : laidOver lower upper = upper := by
  cases lower with
  | none => rfl
  | some lower => cases upper <;> first | rfl | exact absurd trivial noTable

theorem isTable_laidOver {upper : Datum} (isTable : upper.IsTable) (lower : Option Datum) :
    (laidOver lower upper).IsTable := by
  cases upper <;> first | exact absurd isTable id | skip
  cases lower with
  | none => trivial
  | some lower => cases lower <;> trivial

/-- A table leads on to what both layers lead on to. -/
theorem at?_laidOver {upper : Datum} (isTable : upper.IsTable) (ordered : upper.IsOrdered)
    (lower : Option Datum) (key : String) :
    (laidOver lower upper).at? [key] = joined (lower.bind (at? [key])) (upper.at? [key]) := by
  cases upper <;> first | exact absurd isTable id | skip
  rename_i layer members
  cases lower with
  | none => exact (joined_none_left _).symm
  | some lower =>
      rw [Option.bind_some, at?_singleton, at?_singleton, at?_singleton]
      cases lower <;> first
        | exact find?_overlayMembers key (Keyed.Ordered.nodup ordered) _
        | exact (joined_none_left _).symm

/-- What is found in all layers is what is given, or what is built in if nothing is given; it may
also be a table. -/
inductive Follows (builtIn given : Option Datum) : Option Datum → Prop where
  | table {datum : Datum} : datum.IsTable → Follows builtIn given (some datum)
  | given : Follows builtIn given given
  | builtIn : given = none → Follows builtIn given builtIn

theorem follows_joined (builtIn given : Option Datum) :
    Follows builtIn given (joined builtIn given) := by
  cases given with
  | none => exact .builtIn rfl
  | some upper =>
      by_cases isTable : upper.IsTable
      · exact .table (isTable_laidOver isTable builtIn)
      · rw [joined, Option.map_some, laidOver_of_not_isTable isTable]
        exact .given

end Datum

/-! ## Fields that follow what is given -/

section

variable {α : Type} {read : Datum → Except LoadFault α} {builtIn given found : Option Datum}

theorem IsRead.of_follows {usual value : α} (isRead : IsRead read usual found value)
    (rejects : RejectsTables read) (follows : Follows builtIn given found)
    (isUsual : ∀ datum ∈ builtIn, read datum = .ok usual) : IsRead read usual given value := by
  cases follows with
  | table isTable => exact absurd isRead (rejects _ _ isTable)
  | given => exact isRead
  | builtIn nothing =>
      rw [nothing]
      cases builtIn with
      | none => exact isRead
      | some datum => exact Except.ok.inj (isRead.symm.trans (isUsual datum rfl))

end

/-- What is built in for the fields of the defaults. -/
def builtInDefaults : Datum := (builtIn.members.find? "defaults").getD (.table .builtIn [])

section

variable {given found : String → Option Datum}

theorem Defaults.AreRead.of_follows {defaults : Defaults} (areRead : defaults.AreRead found)
    (follows : ∀ key, Follows (builtInDefaults.at? [key]) (given key) (found key)) :
    defaults.AreRead given where
  output := areRead.output.of_follows (rejectsTables_toText _) (follows _) (by rintro _ ⟨⟩; rfl)
  color := areRead.color.of_follows (rejectsTables_toText _) (follows _) (by rintro _ ⟨⟩; rfl)
  insecure := areRead.insecure.of_follows rejectsTables_toBool (follows _) (by rintro _ ⟨⟩; rfl)
  timeout := areRead.timeout.of_follows rejectsTables_toNatural (follows _) (by rintro _ ⟨⟩; rfl)
  dispatchTimeout := areRead.dispatchTimeout.of_follows rejectsTables_toNatural (follows _)
    (by rintro _ ⟨⟩; rfl)

theorem Profile.IsRead.of_follows {profile : Profile} (isRead : profile.IsRead found)
    (follows : ∀ key, Follows none (given key) (found key)) : profile.IsRead given := by
  have field {α : Type} {read : Datum → Except LoadFault α} {key : String} {value : Option α}
      (isRead : Settings.IsRead (optionally read) none (found key) value)
      (rejects : RejectsTables read) : Settings.IsRead (optionally read) none (given key) value :=
    isRead.of_follows (rejectsTables_optionally rejects) (follows key) (by simp)
  exact {
    server := field isRead.server (rejectsTables_toText _)
    token := field isRead.token (rejectsTables_toText _)
    tokenVariable := field isRead.tokenVariable (rejectsTables_toText _)
    certificate := field isRead.certificate (rejectsTables_toText _)
    insecure := field isRead.insecure rejectsTables_toBool
    timeout := field isRead.timeout rejectsTables_toNatural
    dispatchTimeout := field isRead.dispatchTimeout rejectsTables_toNatural
    policy := field isRead.policy (rejectsTables_toChoice _ _)
    encoding := field isRead.encoding (rejectsTables_toChoice _ _) }

end

/-! ## What is given -/

open Variable (value? SetsUnder Apart Scalars Held)

/-- What the environment and the file give for a field of the record at a path.  Where a variable
sets a field, the file gives only what it has under the key of the field. -/
def given? (written : Datum) (environment : Environment) (record fieldNames : List String)
    (key : String) : Option Datum :=
  (value? environment (record ++ [key])).or ((written.at? record).bind fun found =>
    if SetsUnder environment record then found.at? [key] else found.field? fieldNames key)

section

variable {written upper : Datum} {environment : Environment} {path : List String}

theorem setsUnder_of_value? {value : Datum} (found : value? environment path = some value) :
    SetsUnder environment path := by
  obtain ⟨pair, first, -⟩ := Option.map_eq_some_iff.mp found
  have isPath := List.find?_some first
  exact ⟨pair, List.mem_of_find?_eq_some first, path, by simpa using isPath, List.prefix_refl _⟩

theorem isScalar_of_value? (scalars : Scalars environment) {value : Datum}
    (found : value? environment path = some value) : value.IsScalar := by
  obtain ⟨pair, first, rfl⟩ := Option.map_eq_some_iff.mp found
  have isPath := List.find?_some first
  exact scalars pair (List.mem_of_find?_eq_some first) path (by simpa using isPath)

theorem setsUnder_of_append {front back : List String}
    (sets : SetsUnder environment (front ++ back)) : SetsUnder environment front := by
  obtain ⟨pair, member, whole, isWhole, before⟩ := sets
  exact ⟨pair, member, whole, isWhole, (List.prefix_append front back).trans before⟩

theorem follows_value? (held : Held environment upper) (further : path ≠ [])
    {builtIn given lower : Option Datum} (follows : Follows builtIn given lower) :
    Follows builtIn ((value? environment path).or given) (joined lower (upper.at? path)) := by
  cases leads : upper.at? path with
  | none =>
      have unset : value? environment path = none := by
        refine Option.eq_none_iff_forall_ne_some.mpr fun value found => ?_
        have present := held.isSome path (setsUnder_of_value? found)
        simp [leads] at present
      rw [unset]
      exact follows
  | some found =>
      by_cases isTable : found.IsTable
      · exact .table (isTable_laidOver isTable lower)
      · rw [held.value? path found leads isTable further, joined, Option.map_some,
          laidOver_of_not_isTable isTable]
        exact .given

/-- What a field of a record finds in all layers follows what is given for it, if what it finds
below the environment follows the file. -/
theorem follows_given? (held : Held environment upper) (scalars : Scalars environment)
    {fieldNames : List String} (further : path ≠ []) {builtIn : String → Option Datum}
    {lower : Option Datum} {datum : Datum} (whole : joined lower (upper.at? path) = some datum)
    (isRecord : ¬ datum.IsScalar)
    (followsKey : ∀ key, Follows (builtIn key) ((written.at? path).bind (at? [key]))
      (lower.bind (at? [key])))
    (followsField : ∀ key, Follows (builtIn key) ((written.at? path).bind (field? fieldNames key))
      (lower.bind (field? fieldNames key))) (key : String) :
    Follows (builtIn key) (given? written environment path fieldNames key)
      (datum.field? fieldNames key) := by
  have sets := held.setsUnder path further
  cases leads : upper.at? path with
  | none =>
      have unset : ¬ SetsUnder environment path := fun sets => by
        simpa [leads] using held.isSome path sets
      have noValue : value? environment (path ++ [key]) = none :=
        Option.eq_none_iff_forall_ne_some.mpr fun value found =>
          unset (setsUnder_of_append (setsUnder_of_value? found))
      rw [leads, joined_none_right] at whole
      simpa [given?, noValue, unset, whole] using followsField key
  | some found =>
      have isSet : SetsUnder environment path := sets (by rw [leads, Option.isSome_some])
      rw [leads, joined, Option.map_some, Option.some_or, Option.some.injEq] at whole
      have isTable : found.IsTable := by
        by_contra noTable
        have scalar := isScalar_of_value? scalars (held.value? path found leads noTable further)
        rw [scalar.laidOver_eq] at whole
        exact isRecord (whole ▸ scalar)
      have ordered := (held.tidy.at? leads).isOrdered
      have asKey := field?_of_isTable (whole ▸ isTable_laidOver isTable lower) fieldNames key
      have leadsOn : upper.at? (path ++ [key]) = found.at? [key] := by
        rw [at?_append, leads, Option.bind_some]
      rw [asKey, ← whole, at?_laidOver isTable ordered, ← leadsOn]
      simpa [given?, isSet] using follows_value? held (by simp) (followsKey key)

end

/-! ## The file over what is built in -/

section

variable {base : Datum} {written : Option Datum}

/-- A field of a record in the file is what the file says, over what is built in. -/
theorem follows_field? (isTable : base.IsTable) (ordered : ∀ datum ∈ written, datum.IsOrdered)
    (fieldNames : List String) (key : String) :
    Follows (base.at? [key]) (written.bind (field? fieldNames key))
      ((joined (some base) written).bind (field? fieldNames key)) := by
  cases written with
  | none =>
      rw [joined_none_right, Option.bind_some, field?_of_isTable isTable]
      exact .builtIn rfl
  | some found =>
      rw [joined, Option.map_some, Option.some_or, Option.bind_some, Option.bind_some]
      by_cases foundTable : found.IsTable
      · rw [field?_of_isTable foundTable, field?_of_isTable (isTable_laidOver foundTable _),
          at?_laidOver foundTable (ordered found rfl)]
        exact follows_joined _ _
      · rw [laidOver_of_not_isTable foundTable]
        exact .given

theorem follows_key (ordered : ∀ datum ∈ written, datum.IsOrdered)
    (key : String) : Follows (base.at? [key]) (written.bind (at? [key]))
      ((joined (some base) written).bind (at? [key])) := by
  cases written with
  | none => exact .builtIn rfl
  | some found =>
      rw [joined, Option.map_some, Option.some_or, Option.bind_some, Option.bind_some]
      by_cases foundTable : found.IsTable
      · rw [at?_laidOver foundTable (ordered found rfl)]
        exact follows_joined _ _
      · rw [laidOver_of_not_isTable foundTable]
        exact .given

/-- Over an empty table a key finds what it finds without it. -/
theorem at?_joined_empty (layer : Layer) (ordered : ∀ datum ∈ written, datum.IsOrdered)
    (key : String) :
    (joined (some (.table layer [])) written).bind (at? [key]) = written.bind (at? [key]) := by
  cases written with
  | none => rfl
  | some found =>
      rw [joined, Option.map_some, Option.some_or, Option.bind_some, Option.bind_some]
      by_cases foundTable : found.IsTable
      · rw [at?_laidOver foundTable (ordered found rfl)]
        exact joined_none_left _
      · rw [laidOver_of_not_isTable foundTable]

end

/-- A table in two layers leads on to what the layers lead on to. -/
theorem at?_of_joined {lower upper : Option Datum} {datum : Datum}
    (whole : joined lower upper = some datum) (isTable : datum.IsTable)
    (ordered : ∀ found ∈ upper, found.IsOrdered) (key : String) :
    datum.at? [key] = joined (lower.bind (at? [key])) (upper.bind (at? [key])) := by
  cases upper with
  | none =>
      rw [joined_none_right] at whole
      rw [whole]
      rfl
  | some found =>
      rw [joined, Option.map_some, Option.some_or, Option.some.injEq] at whole
      subst whole
      by_cases foundTable : found.IsTable
      · exact at?_laidOver foundTable (ordered found rfl) lower key
      · rw [laidOver_of_not_isTable foundTable] at isTable
        exact absurd isTable foundTable

theorem isOrdered_laidOver {lower : Option Datum} {upper : Datum} (ordered : upper.IsOrdered)
    (below : ∀ datum ∈ lower, datum.IsOrdered) : (laidOver lower upper).IsOrdered := by
  cases lower with
  | none => exact ordered
  | some lower =>
      have lowerOrdered := below lower rfl
      cases lower <;> first
        | exact isOrdered_overlay lowerOrdered upper
        | cases upper <;> exact ordered

theorem isOrdered_joined {lower upper : Option Datum} (above : ∀ datum ∈ upper, datum.IsOrdered)
    (below : ∀ datum ∈ lower, datum.IsOrdered) :
    ∀ datum ∈ joined lower upper, datum.IsOrdered := by
  cases upper with
  | none => exact below
  | some upper =>
      rintro _ ⟨⟩
      exact isOrdered_laidOver (above upper rfl) below

/-! ## Loaded settings -/

/-- Settings are what environment and file give for each setting, and else what is built in; their
profiles are those that a variable or the file names. -/
structure ComesFrom (written : Datum) (environment : Environment) (settings : Settings) :
    Prop where
  defaultProfile : IsRead (optionally toPhrase) (some usualProfile)
    ((value? environment ["default_profile"]).or (written.at? ["default_profile"]))
    settings.defaultProfile
  defaults : settings.defaults.AreRead
    (given? written environment ["defaults"] Defaults.fieldNames)
  ordered : Keyed.Ordered settings.profiles
  profileNames : ∀ name, name ∈ settings.profileNames ↔
    SetsUnder environment ["profiles", name] ∨ (written.at? ["profiles", name]).isSome
  profiles : ∀ name profile, settings.profiles.find? name = some profile →
    profile.IsRead (given? written environment ["profiles", name] Profile.fieldNames)

section

variable {written upper : Datum} {environment : Environment}
  (scalars : Scalars environment) (held : Held environment upper)

theorem isOrdered_at? (tidy : written.Tidy) (path : List String) :
    ∀ found ∈ written.at? path, found.IsOrdered :=
  fun _ leads => (tidy.at? leads).isOrdered

include scalars held

theorem areRead_of_toDefaults (tidy : written.Tidy) {datum : Datum} {defaults : Defaults}
    (whole : joined (joined (some builtInDefaults) (written.at? ["defaults"]))
      (upper.at? ["defaults"]) = some datum)
    (understood : toDefaults datum = .ok defaults) :
    defaults.AreRead (given? written environment ["defaults"] Defaults.fieldNames) := by
  obtain ⟨isRecord, areRead⟩ := areRead_toDefaults understood
  have ordered := isOrdered_at? tidy ["defaults"]
  have isTable : builtInDefaults.IsTable := trivial
  exact areRead.of_follows (follows_given? held scalars (by simp) whole isRecord
    (follows_key ordered) (follows_field? isTable ordered _))

theorem isRead_of_toProfile {name : String} {datum : Datum} {profile : Profile}
    (whole : joined (written.at? ["profiles", name]) (upper.at? ["profiles", name]) = some datum)
    (understood : toProfile datum = .ok profile) :
    profile.IsRead (given? written environment ["profiles", name] Profile.fieldNames) := by
  obtain ⟨isRecord, isRead⟩ := isRead_toProfile understood
  exact isRead.of_follows (follows_given? held scalars (by simp) whole isRecord
    (fun _ => .given) (fun _ => .given))

omit scalars in
/-- A name leads in the profiles of all layers to what file and environment have for it. -/
theorem at?_profiles (tidy : written.Tidy) {datum : Datum}
    (whole : joined (joined (some (.table .builtIn [])) (written.at? ["profiles"]))
      (upper.at? ["profiles"]) = some datum) (isTable : datum.IsTable) (name : String) :
    datum.at? [name] = joined (written.at? ["profiles", name]) (upper.at? ["profiles", name]) := by
  rw [at?_of_joined whole isTable (isOrdered_at? held.tidy _),
    at?_joined_empty .builtIn (isOrdered_at? tidy _), ← at?_append, ← at?_append]
  rfl

end

/-- Something is found in all layers under a key that something is built in under. -/
theorem exists_of_builtIn {below above : Keyed Datum} (orderedFile : Keyed.Ordered below)
    (orderedEnvironment : Keyed.Ordered above) (key : String) {base : Datum}
    (isBase : builtIn.at? [key] = some base) :
    ∃ datum, (overlayMembers (overlayMembers builtIn.members below) above).find? key =
        some datum ∧
      joined (joined (some base) ((Datum.table .file below).at? [key]))
        ((Datum.table .environment above).at? [key]) = some datum := by
  have isSome : (joined (joined (some base) ((Datum.table .file below).at? [key]))
      ((Datum.table .environment above).at? [key])).isSome := by simp [isSome_joined]
  obtain ⟨datum, isDatum⟩ := Option.isSome_iff_exists.mp isSome
  refine ⟨datum, ?_, isDatum⟩
  rw [find?_overlayMembers key orderedEnvironment.nodup,
    find?_overlayMembers key orderedFile.nodup, ← at?_singleton key builtIn, isBase, ← isDatum]
  simp only [at?_singleton]
  rfl

/-- Settings are what environment and file give for each setting, and else what is built in.  Their
profiles are those that a variable or the file names. -/
theorem environment_over_file_over_usual {file : Option String} {environment : Environment}
    {settings : Settings} (apart : Apart environment) (scalars : Scalars environment)
    (loaded : load file environment = .ok settings) :
    ∃ written, fileLayer file = .ok written ∧ ComesFrom written environment settings := by
  obtain ⟨below, above, isFile, isEnvironment, orderedFile, orderedEnvironment, understood⟩ :=
    exists_loadedFrom loaded
  have held := Variable.held_layer apart scalars
  rw [isEnvironment] at held
  have tidy := tidy_fileLayer isFile
  obtain ⟨named, ⟨defaults, readDefaults, isDefaults⟩, profiles, readProfiles, isProfiles⟩ :=
    members_of_toSettings understood
  have found := exists_of_builtIn orderedFile orderedEnvironment
  obtain ⟨nameDatum, nameFound, wholeName⟩ := found "default_profile" rfl
  obtain ⟨defaultsDatum, defaultsFound, wholeDefaults⟩ := found "defaults" rfl
  obtain ⟨profilesDatum, profilesFound, wholeProfiles⟩ := found "profiles" rfl
  obtain ⟨name, isName, understoodName⟩ := exists_of_member nameFound named
  obtain ⟨own, rfl, understoodDefaults⟩ := exists_of_member defaultsFound readDefaults
  obtain ⟨each, rfl, understoodProfiles⟩ := exists_of_member profilesFound readProfiles
  obtain ⟨isTable, names, inner⟩ := at?_of_toProfiles understoodProfiles
  have leads := at?_profiles held tidy wholeProfiles isTable
  refine ⟨_, isFile, ?_, ?_, ?_, fun name => ?_, fun name profile found => ?_⟩
  · have isRead : IsRead (optionally toPhrase) (some usualProfile) (some nameDatum)
        settings.defaultProfile := by
      rw [IsRead, optionally, understoodName, isName]
      rfl
    have follows := follows_value? held (List.cons_ne_nil "default_profile" []) (follows_joined
      (some (.text .builtIn usualProfile)) ((Datum.table .file below).at? ["default_profile"]))
    rw [wholeName] at follows
    exact isRead.of_follows (rejectsTables_optionally (rejectsTables_toText _)) follows
      (by rintro _ ⟨⟩; rfl)
  · rw [isDefaults]
    exact areRead_of_toDefaults scalars held tidy wholeDefaults understoodDefaults
  · rw [isProfiles, Option.getD_some]
    have noProfiles : ∀ datum ∈ some (Datum.table .builtIn []), datum.IsOrdered := by
      rintro _ ⟨⟩
      exact List.Pairwise.nil
    have allOrdered := isOrdered_joined (isOrdered_at? held.tidy ["profiles"])
      (isOrdered_joined (isOrdered_at? tidy ["profiles"]) noProfiles)
    exact (ordered_toProfiles (allOrdered profilesDatum wholeProfiles) understoodProfiles).1
  · rw [profileNames, isProfiles, Option.getD_some, names, leads, isSome_joined]
    exact or_congr_left ⟨held.setsUnder _ (by simp), held.isSome _⟩
  · rw [isProfiles, Option.getD_some] at found
    obtain ⟨datum, isDatum, understoodProfile⟩ := inner name profile found
    exact isRead_of_toProfile scalars held ((leads name).symm.trans isDatum) understoodProfile

/-- One setting from each layer, a token that a variable sets over the one of the file, and a
profile that only a variable names. -/
theorem settings_of_three_layers :
    let file := some ("[defaults]\noutput = \"json\"\ntimeout = 20\n" ++
      "[profiles.lab]\nserver = \"http://10.0.0.5\"\ntoken = \"old\"\n")
    let environment : Environment := [("DEVGRID_DEFAULTS__TIMEOUT", "5"),
      ("DEVGRID_PROFILES__HOME__SERVER", "http://hub.local"),
      ("DEVGRID_PROFILES__LAB__TOKEN", "new")]
    let settings : Settings := { usual with
      defaults := { Defaults.usual with output := "json", timeout := 5 }
      profiles := [("home", .ofServer "http://hub.local"),
        ("lab", { Profile.ofServer "http://10.0.0.5" with token := some "new" })] }
    Apart environment ∧ Scalars environment ∧ load file environment = .ok settings ∧
      ∃ written, fileLayer file = .ok written ∧ ComesFrom written environment settings := by
  intro file environment settings
  have apart : Apart environment := by decide
  have scalars : Scalars environment := by decide +kernel
  have loaded : load file environment = .ok settings := by decide +kernel
  exact ⟨apart, scalars, loaded, environment_over_file_over_usual apart scalars loaded⟩

/-- A list of fields is no table.  Where the file lists the defaults, a variable for the timeout
takes away the output that the file gives; and where it lists the fields of a profile, the profile
has a token without a variable or a key for it. -/
theorem list_of_fields_is_no_table :
    let file := some ("defaults = [\"json\"]\n[profiles]\nlab = [\"http://10.0.0.5\", " ++
      "\"secret\", \"LAB_TOKEN\", \"ca.pem\", true, 5, 6, \"supersede\", \"json\"]\n")
    let environment : Environment := [("DEVGRID_DEFAULTS__TIMEOUT", "5")]
    Apart environment ∧ Scalars environment ∧ ∃ written settings profile,
      fileLayer file = .ok written ∧ load file environment = .ok settings ∧
      (¬ settings.defaults.AreRead fun key => (value? environment ["defaults", key]).or
        ((written.at? ["defaults"]).bind (field? Defaults.fieldNames key))) ∧
      settings.profiles.find? "lab" = some profile ∧
      ¬ profile.IsRead fun key => (value? environment ["profiles", "lab", key]).or
        (written.at? ["profiles", "lab", key]) := by
  intro file environment
  let lab : Profile := ⟨"http://10.0.0.5", some "secret", some "LAB_TOKEN", some "ca.pem",
    some true, some 5, some 6, some .supersede, some .json⟩
  let settings : Settings := { usual with
    defaults := { Defaults.usual with timeout := 5 }
    profiles := [("lab", lab)] }
  have loaded : load file environment = .ok settings := by decide +kernel
  have told : (fileLayer file).toOption.map (fun written =>
      (((written.at? ["defaults"]).bind (field? Defaults.fieldNames "output")).map toPhrase,
        (written.at? ["profiles", "lab", "token"]).isNone)) = some (some (.ok "json"), true) := by
    decide +kernel
  obtain ⟨written, isFile, told⟩ := Option.map_eq_some_iff.mp told
  obtain ⟨output, noToken⟩ := Prod.mk.inj told
  have isWritten : fileLayer file = .ok written := by
    cases read : fileLayer file with
    | error fault => simp [read, Except.toOption] at isFile
    | ok datum => simpa [read, Except.toOption] using isFile
  refine ⟨by decide, by decide +kernel, written, settings, lab, isWritten, loaded,
    fun areRead => ?_, rfl, fun isRead => ?_⟩
  · obtain ⟨datum, given, read⟩ := Option.map_eq_some_iff.mp output
    have outputRead := areRead.output
    rw [given] at outputRead
    exact absurd (Except.ok.inj (read.symm.trans outputRead)) (by decide)
  · have tokenRead := isRead.token
    rw [Option.isNone_iff_eq_none.mp noToken] at tokenRead
    cases tokenRead

end DevicePanel.Settings
