import DevicePanel.Proofs.Settings.Document
import DevicePanel.Proofs.Settings.Layers

/-!
# Saved settings are loaded again

What the document of settings comes to is understood as the same settings, wherever no variable of
the environment lays something over the file.
-/

namespace DevicePanel.Settings

open Toml (Scalar Section)

namespace Datum

/-! ## Values under keys -/

theorem member_of_find? {α : Type} {key : String} {read : Datum → Except LoadFault α}
    {members : Keyed Datum} {value : Option α} (toDatum : α → Datum)
    (found : members.find? key = value.map toDatum)
    (reads : ∀ x ∈ value, read (toDatum x) = .ok x) : member key read members = .ok value := by
  rw [member, found]
  cases value with
  | none => rfl
  | some x =>
      rw [Option.map_some]
      simp only [reads x rfl]

/-- The datum of a scalar in a file. -/
def ofScalar (given : Scalar) : Datum := ofToml given.value

/-- A scalar hides what is below it. -/
theorem laidOver_ofScalar (lower : Option Datum) (given : Scalar) :
    laidOver lower (ofScalar given) = ofScalar given := by
  cases lower <;> cases given <;> simp [laidOver, ofScalar, Scalar.value, ofToml, overlay]

theorem ofToml_tableOf (pairs : List (String × Scalar)) :
    ofToml (Toml.tableOf pairs) =
      .table .file (Keyed.ofPairs (Keyed.mapValues ofScalar pairs)) := by
  have same : ofToml ∘ Scalar.value = ofScalar := rfl
  rw [Toml.tableOf, ofToml, ofTomlMembers_eq, Keyed.mapValues_ofPairs, Keyed.mapValues_mapValues,
    same]

section

variable {pairs : List (String × Scalar)}

theorem find?_tableOf (key : String) (different : (Keyed.keys pairs).Nodup) :
    (Keyed.ofPairs (Keyed.mapValues ofScalar pairs)).find? key =
      (Keyed.find? key pairs).map ofScalar := by
  rw [Keyed.find?_ofPairs key (by rwa [Keyed.keys_mapValues]), Keyed.find?_mapValues]

/-- Laid over another table, the pairs of a section are found. -/
theorem find?_over_tableOf (key : String) {given : Scalar} (different : (Keyed.keys pairs).Nodup)
    (found : Keyed.find? key pairs = some given) (below : Keyed Datum) :
    (overlayMembers below (Keyed.ofPairs (Keyed.mapValues ofScalar pairs))).find? key =
      some (ofScalar given) := by
  rw [find?_overlayMembers key (Keyed.ordered_ofPairs _).nodup, find?_tableOf key different, found,
    Option.map_some, Option.map_some, laidOver_ofScalar, Option.some_or]

end

theorem toNatural_ofScalar (n : Nat) : toNatural (ofScalar (.natural n)) = .ok n := by
  simp [ofScalar, Scalar.value, ofToml, toNatural]

theorem toPolicy_ofScalar (policy : OverlapPolicy) :
    toPolicy (ofScalar (.text policy.name)) = .ok policy := by
  cases policy <;> rfl

theorem toEncoding_ofScalar (encoding : BodyEncoding) :
    toEncoding (ofScalar (.text encoding.name)) = .ok encoding := by
  cases encoding <;> rfl

/-! ## Profiles -/

theorem find?_entries (profile : Profile) {key : String} {value : Option Scalar}
    (field : Keyed.find? key profile.fields = some value) :
    (Keyed.ofPairs (Keyed.mapValues ofScalar profile.entries)).find? key =
      value.map ofScalar := by
  rw [find?_tableOf key profile.nodup_entries, Profile.entries,
    find?_flatMap_pairOf key profile.nodup_fields, field, Option.join_some]

/-- The table of a profile is understood as the profile. -/
theorem toProfile_entries (profile : Profile) :
    toProfile (ofToml (Toml.tableOf profile.entries)) = .ok profile := by
  have field {α : Type} (key : String) (value : Option α) {toScalar : α → Scalar}
      {read : Datum → Except LoadFault α} (reads : ∀ x, read (ofScalar (toScalar x)) = .ok x)
      (found : Keyed.find? key profile.fields = some (value.map toScalar)) :
      member key read (Keyed.ofPairs (Keyed.mapValues ofScalar profile.entries)) = .ok value := by
    refine member_of_find? (ofScalar ∘ toScalar) ?_ fun x _ => reads x
    rw [find?_entries profile found, Option.map_map]
  have text (x : String) : toPhrase (ofScalar (.text x)) = .ok x := rfl
  have path (x : String) : toPath (ofScalar (.text x)) = .ok x := rfl
  have flag (x : Bool) : toBool (ofScalar (.bool x)) = .ok x := rfl
  rw [ofToml_tableOf, toProfile, field "body_encoding" profile.encoding toEncoding_ofScalar rfl,
    field "ca_cert" profile.certificate path rfl,
    field "dispatch_policy" profile.policy toPolicy_ofScalar rfl,
    field "dispatch_timeout" profile.dispatchTimeout toNatural_ofScalar rfl,
    field "insecure" profile.insecure flag rfl,
    field "server" (some profile.server) text rfl,
    field "timeout" profile.timeout toNatural_ofScalar rfl,
    field "token" profile.token text rfl,
    field "token_env" profile.tokenVariable text rfl]
  rfl

theorem profilesOf_tables (profiles : Keyed Profile) :
    profilesOf (Keyed.mapValues (ofToml ∘ Toml.tableOf ∘ Profile.entries) profiles) =
      .ok profiles := by
  induction profiles with
  | nil => rfl
  | cons pair profiles ih =>
      obtain ⟨name, profile⟩ := pair
      change profilesOf ((name, ofToml (Toml.tableOf profile.entries)) ::
        Keyed.mapValues (ofToml ∘ Toml.tableOf ∘ Profile.entries) profiles) = _
      rw [profilesOf, toProfile_entries]
      simp only [ih]
      rfl

/-! ## Defaults -/

/-- The table of the defaults, over any other table, is understood as the defaults. -/
theorem toDefaults_entries (defaults : Defaults) (layer : Layer) (below : Keyed Datum) :
    toDefaults (overlay (.table layer below) (ofToml (Toml.tableOf defaults.entries))) =
      .ok defaults := by
  have field {α : Type} (key : String) (value : α) {toScalar : α → Scalar}
      {read : Datum → Except LoadFault α} (reads : ∀ x, read (ofScalar (toScalar x)) = .ok x)
      (found : Keyed.find? key defaults.entries = some (toScalar value)) :
      member key read (overlayMembers below
        (Keyed.ofPairs (Keyed.mapValues ofScalar defaults.entries))) = .ok (some value) := by
    refine member_of_find? (ofScalar ∘ toScalar) ?_ fun x _ => reads x
    exact find?_over_tableOf key defaults.nodup_entries found below
  have text (x : String) : toPhrase (ofScalar (.text x)) = .ok x := rfl
  have flag (x : Bool) : toBool (ofScalar (.bool x)) = .ok x := rfl
  rw [ofToml_tableOf, overlay, toDefaults, field "color" defaults.color text rfl,
    field "dispatch_timeout" defaults.dispatchTimeout toNatural_ofScalar rfl,
    field "insecure" defaults.insecure flag rfl, field "output" defaults.output text rfl,
    field "timeout" defaults.timeout toNatural_ofScalar rfl]
  rfl

/-- The tables of profiles, over a table without any, are understood as the profiles in the order
of their names. -/
theorem toProfiles_entries (profiles : Keyed Profile) (layer : Layer) :
    toProfiles (overlay (.table layer []) (ofToml (.table (Keyed.ofPairs
      (Keyed.mapValues Toml.tableOf (Keyed.mapValues Profile.entries profiles)))))) =
        .ok (Keyed.ofPairs profiles) := by
  rw [ofToml, ofTomlMembers_eq, Keyed.mapValues_mapValues, Keyed.mapValues_ofPairs,
    Keyed.mapValues_mapValues, overlay, overlayMembers_nil (Keyed.ordered_ofPairs _),
    ← Keyed.mapValues_ofPairs, toProfiles]
  exact profilesOf_tables (Keyed.ofPairs profiles)

end Datum

/-! ## All settings -/

open Datum

section

variable {settings : Settings}

theorem ordered_table (settings : Settings) : Keyed.Ordered settings.table := by
  unfold table
  refine Keyed.ordered_put _ _ (Keyed.ordered_put _ _ ?_)
  cases settings.defaultProfile <;> simp [Keyed.Ordered]

/-- What a key of the settings finds in all layers. -/
theorem find?_layers (key : String) :
    (overlayMembers builtIn.members (Keyed.mapValues ofToml settings.table)).find? key =
      (((settings.table.find? key).map ofToml).map (laidOver (builtIn.members.find? key))).or
        (builtIn.members.find? key) := by
  rw [find?_overlayMembers key (Keyed.ordered_mapValues _ settings.ordered_table).nodup,
    Keyed.find?_mapValues]

theorem find?_table_named :
    settings.table.find? "default_profile" = settings.defaultProfile.map .text := by
  rw [table, Keyed.find?_put_of_ne _ _ (by decide), Keyed.find?_put_of_ne _ _ (by decide)]
  cases settings.defaultProfile <;> simp [Keyed.find?]

theorem find?_table_defaults :
    settings.table.find? "defaults" = some (Toml.tableOf settings.defaults.entries) := by
  rw [table, Keyed.find?_put_of_ne _ _ (by decide), Keyed.find?_put_self]

theorem find?_table_profiles :
    settings.table.find? "profiles" =
      some (.table (Keyed.ofPairs (Keyed.mapValues Toml.tableOf settings.tables))) := by
  rw [table, Keyed.find?_put_self]

/-- The settings as they are loaded: a profile in use is always named, and the profiles stand in
the order of their names. -/
def asLoaded (settings : Settings) : Settings where
  defaultProfile := some settings.defaultProfileName
  defaults := settings.defaults
  profiles := Keyed.ofPairs settings.profiles

/-- The table of settings over what is built in is understood as the settings. -/
theorem toSettings_table (settings : Settings) (layer : Layer) :
    toSettings (.table layer
      (overlayMembers builtIn.members (Keyed.mapValues ofToml settings.table))) =
        .ok settings.asLoaded := by
  have named : member "default_profile" toPhrase
      (overlayMembers builtIn.members (Keyed.mapValues ofToml settings.table)) =
        .ok (some settings.defaultProfileName) := by
    have builtInName : builtIn.members.find? "default_profile" =
        some (.text .builtIn usualProfile) := rfl
    rw [member, find?_layers, find?_table_named, builtInName, defaultProfileName]
    cases settings.defaultProfile with
    | none => rfl
    | some name =>
        have shown : laidOver (some (.text .builtIn usualProfile)) (ofToml (.text name)) =
            .text .file name := laidOver_ofScalar _ (.text name)
        simp only [Option.map_some, Option.some_or, shown]
        rfl
  have defaults : member "defaults" toDefaults
      (overlayMembers builtIn.members (Keyed.mapValues ofToml settings.table)) =
        .ok (some settings.defaults) := by
    obtain ⟨below, builtInDefaults⟩ :
        ∃ below, builtIn.members.find? "defaults" = some (.table .builtIn below) := ⟨_, rfl⟩
    rw [member, find?_layers, find?_table_defaults, builtInDefaults]
    simp only [Option.map_some, Option.some_or, laidOver, toDefaults_entries]
  have profiles : member "profiles" toProfiles
      (overlayMembers builtIn.members (Keyed.mapValues ofToml settings.table)) =
        .ok (some (Keyed.ofPairs settings.profiles)) := by
    have builtInProfiles : builtIn.members.find? "profiles" = some (.table .builtIn []) := rfl
    rw [member, find?_layers, find?_table_profiles, builtInProfiles]
    simp only [Option.map_some, Option.some_or, laidOver, tables, toProfiles_entries]
  rw [toSettings, named, defaults, profiles]
  rfl

theorem document_ok_iff : (∃ text, settings.document = .ok text) ↔ settings.Writable := by
  constructor
  · rintro ⟨text, written⟩
    by_contra unwritable
    obtain ⟨fault, fails⟩ := sections_error unwritable
    simp [document, fails, Except.map] at written
  · intro writable
    exact ⟨_, by rw [document, sections_of_writable writable]; rfl⟩

/-- What was written is loaded as the settings, when the environment is silent. -/
theorem load_document (different : (Keyed.keys settings.profiles).Nodup) {text : String}
    (written : settings.document = .ok text) {environment : Environment}
    (silent : Silent environment) : load (some text) environment = .ok settings.asLoaded := by
  have writable : settings.Writable := document_ok_iff.mp ⟨text, written⟩
  obtain rfl : String.ofList (Toml.writeDocument settings.allSections) = text := by
    simpa [document, sections_of_writable writable, Except.map] using written
  have layer : fileLayer (some (String.ofList (Toml.writeDocument settings.allSections))) =
      .ok (.table .file (Keyed.mapValues ofToml settings.table)) := by
    simp only [fileLayer, ofText?_document writable different, ofToml, ofTomlMembers_eq]
  rw [load, layers_of_silent silent layer]
  exact toSettings_table settings .environment

end

end DevicePanel.Settings
