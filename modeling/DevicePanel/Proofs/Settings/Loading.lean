import DevicePanel.Proofs.Settings.Rereading
import DevicePanel.Proofs.Toml.Tidy

/-!
# What loaded settings are like

Loaded settings name a profile in use, and their profiles stand in the order of their names when
the file can be loaded without the environment.
-/

namespace DevicePanel.Settings

/-! ## The environment is a table -/

namespace Variable

theorem keysOf_ne_nil (name key : List Char) : keysOf name key ≠ [] := by
  fun_induction keysOf name key <;> simp_all

theorem path?_ne_nil {name : String} {path : List String} (found : path? name = some path) :
    path ≠ [] := by
  unfold path? at found
  simp only at found
  split_ifs at found
  cases found
  exact keysOf_ne_nil _ _

theorem foldl_setOver (environment : Environment) {start : Keyed Datum}
    (ordered : Keyed.Ordered start) :
    ∃ members, environment.foldl setOver (.table .environment start) =
      .table .environment members ∧ Keyed.Ordered members := by
  induction environment generalizing start with
  | nil => exact ⟨start, rfl, ordered⟩
  | cons pair others ih =>
      rw [List.foldl_cons, setOver]
      cases found : path? pair.1 with
      | none => exact ih ordered
      | some path =>
          obtain ⟨key, path, rfl⟩ := List.exists_cons_of_ne_nil (path?_ne_nil found)
          simp only [nest, Datum.overlay]
          exact ih (Datum.ordered_overlayMembers _ ordered)

/-- The environment comes to a table with its keys in order. -/
theorem layer_table (environment : Environment) :
    ∃ members, layer environment = .table .environment members ∧ Keyed.Ordered members :=
  foldl_setOver environment List.Pairwise.nil

end Variable

open Datum

theorem fileLayer_table {file : Option String} {layer : Datum} (read : fileLayer file = .ok layer) :
    ∃ members, layer = .table .file members ∧ Keyed.Ordered members := by
  cases file with
  | none =>
      cases read
      exact ⟨[], rfl, List.Pairwise.nil⟩
  | some text =>
      simp only [fileLayer] at read
      split at read
      · rename_i members found
        cases read
        refine ⟨Keyed.mapValues ofToml members, by rw [ofToml, ofTomlMembers_eq], ?_⟩
        exact Keyed.ordered_mapValues _ (Toml.ordered_ofText? found)
      · cases read

/-! ## What settings are loaded from -/

/-- Settings were loaded from the members of a file and of an environment. -/
structure LoadedFrom (written upper : Keyed Datum) (settings : Settings) : Prop where
  orderedFile : Keyed.Ordered written
  orderedEnvironment : Keyed.Ordered upper
  understood : toSettings (.table .environment
    (overlayMembers (overlayMembers builtIn.members written) upper)) = .ok settings

theorem exists_loadedFrom {file : Option String} {environment : Environment} {settings : Settings}
    (loaded : load file environment = .ok settings) :
    ∃ written upper, fileLayer file = .ok (.table .file written) ∧
      Variable.layer environment = .table .environment upper ∧
      LoadedFrom written upper settings := by
  obtain ⟨upper, fromEnvironment, orderedEnvironment⟩ := Variable.layer_table environment
  cases read : fileLayer file with
  | error fault => simp [load, layers, read, Except.map] at loaded
  | ok layer =>
      obtain ⟨written, rfl, orderedFile⟩ := fileLayer_table read
      refine ⟨written, upper, rfl, fromEnvironment, orderedFile, orderedEnvironment, ?_⟩
      rw [load, layers, read, fromEnvironment] at loaded
      exact loaded

/-! ## What is found in all layers -/

theorem exists_of_bind {ε α β : Type} {first : Except ε α} {next : α → Except ε β} {last : β}
    (run : (first >>= next) = .ok last) : ∃ value, first = .ok value ∧ next value = .ok last := by
  cases first with
  | error fault => cases run
  | ok value => exact ⟨value, rfl, run⟩

/-- A key that is found below is found in the tables laid one over the other. -/
theorem exists_find?_overlayMembers {key : String} {below : Keyed Datum} {lower : Datum}
    (found : below.find? key = some lower) {members : Keyed Datum}
    (ordered : Keyed.Ordered members) :
    ∃ datum, (overlayMembers below members).find? key = some datum ∧
      (datum = lower ∨ ∃ upper, datum = overlay lower upper) := by
  rw [find?_overlayMembers key ordered.nodup, found]
  cases members.find? key with
  | none => exact ⟨lower, rfl, Or.inl rfl⟩
  | some upper => exact ⟨overlay lower upper, rfl, Or.inr ⟨upper, rfl⟩⟩

section

variable {layer : Layer} {members : Keyed Datum} {settings : Settings}

theorem exists_of_member {α : Type} {key : String} {read : Datum → Except LoadFault α}
    {datum : Datum} {value : Option α} (found : members.find? key = some datum)
    (understood : member key read members = .ok value) :
    ∃ x, value = some x ∧ read datum = .ok x := by
  rw [member, found] at understood
  cases result : read datum with
  | error fault => simp [result] at understood
  | ok x =>
      simp only [result] at understood
      exact ⟨x, (Except.ok.inj understood).symm, rfl⟩

/-- What settings have to do with the members that they were understood from. -/
theorem members_of_toSettings (understood : toSettings (.table layer members) = .ok settings) :
    member "default_profile" toPhrase members = .ok settings.defaultProfile ∧
      (∃ defaults, member "defaults" toDefaults members = .ok defaults ∧
        settings.defaults = defaults.getD .usual) ∧
      ∃ profiles, member "profiles" toProfiles members = .ok profiles ∧
        settings.profiles = profiles.getD [] := by
  obtain ⟨name, named, understood⟩ := exists_of_bind understood
  obtain ⟨defaults, readDefaults, understood⟩ := exists_of_bind understood
  obtain ⟨profiles, readProfiles, understood⟩ := exists_of_bind understood
  cases understood
  exact ⟨named, ⟨defaults, readDefaults, rfl⟩, profiles, readProfiles, rfl⟩

theorem exists_of_profilesOf_cons {name : String} {datum : Datum} {data : Keyed Datum}
    {profiles : Keyed Profile} (read : profilesOf ((name, datum) :: data) = .ok profiles) :
    ∃ profile later, toProfile datum = .ok profile ∧ profilesOf data = .ok later ∧
      profiles = (name, profile) :: later := by
  rw [profilesOf] at read
  cases first : toProfile datum with
  | error fault => simp [first] at read
  | ok profile =>
      cases others : profilesOf data with
      | error fault => simp [first, others, Except.map] at read
      | ok later =>
          refine ⟨profile, later, rfl, rfl, ?_⟩
          simpa [first, others, Except.map] using read.symm

theorem keys_profilesOf {data : Keyed Datum} {profiles : Keyed Profile}
    (read : profilesOf data = .ok profiles) : Keyed.keys profiles = Keyed.keys data := by
  induction data generalizing profiles with
  | nil =>
      cases read
      rfl
  | cons pair data ih =>
      obtain ⟨profile, later, -, others, rfl⟩ := exists_of_profilesOf_cons read
      exact congrArg (pair.1 :: ·) (ih others)

/-- Profiles that are understood from a table in order are in order. -/
theorem ordered_toProfiles {datum : Datum} {profiles : Keyed Profile} (ordered : datum.IsOrdered)
    (read : toProfiles datum = .ok profiles) :
    Keyed.Ordered profiles ∧ ∃ layer members, datum = .table layer members ∧
      Keyed.Ordered members := by
  cases datum with
  | table layer members =>
      refine ⟨?_, layer, members, rfl, ordered⟩
      have names : (Keyed.keys members).Pairwise (· < ·) := List.pairwise_map.mpr ordered
      rw [← keys_profilesOf read] at names
      exact List.pairwise_map.mp names
  | _ => cases read

end

/-! ## The name and the profiles -/

section

variable {file : Option String} {environment : Environment} {settings : Settings}

/-- Loaded settings name a profile in use. -/
theorem defaultProfile_of_load (loaded : load file environment = .ok settings) :
    settings.defaultProfile = some settings.defaultProfileName := by
  obtain ⟨written, upper, -, -, orderedFile, orderedEnvironment, understood⟩ :=
    exists_loadedFrom loaded
  have builtInName : builtIn.members.find? "default_profile" =
      some (.text .builtIn usualProfile) := rfl
  obtain ⟨middle, below, -⟩ := exists_find?_overlayMembers builtInName orderedFile
  obtain ⟨datum, found, -⟩ := exists_find?_overlayMembers below orderedEnvironment
  obtain ⟨name, named, -⟩ := exists_of_member found (members_of_toSettings understood).1
  simp [defaultProfileName, named]

/-- The profiles of loaded settings stand in the order of their names, if the file can be loaded
without the environment. -/
theorem ordered_profiles_of_load {calm : Environment} {original : Settings}
    (silent : Silent calm) (readable : load file calm = .ok original)
    (loaded : load file environment = .ok settings) : Keyed.Ordered settings.profiles := by
  obtain ⟨written, nothing, fromFile, fromCalm, orderedFile, -, understoodAlone⟩ :=
    exists_loadedFrom readable
  obtain ⟨written', upper, fromFile', -, -, orderedEnvironment, understood⟩ :=
    exists_loadedFrom loaded
  obtain rfl : written = written' := by simpa [fromFile] using fromFile'
  obtain rfl : [] = nothing := by simpa [layer_of_silent silent] using fromCalm
  have builtInProfiles : builtIn.members.find? "profiles" = some (.table .builtIn []) := rfl
  obtain ⟨middle, below, middleKind⟩ := exists_find?_overlayMembers builtInProfiles orderedFile
  have middleOrdered : middle.IsOrdered := by
    rcases middleKind with rfl | ⟨upper, rfl⟩
    · exact List.Pairwise.nil
    · exact isOrdered_overlay List.Pairwise.nil upper
  -- Without the environment the profiles are understood, so that they are a table.
  obtain ⟨-, -, profiles, read, -⟩ := members_of_toSettings understoodAlone
  obtain ⟨alone, -, readMiddle⟩ := exists_of_member below read
  obtain ⟨-, layer, members, rfl, membersOrdered⟩ := ordered_toProfiles middleOrdered readMiddle
  obtain ⟨last, found, lastKind⟩ := exists_find?_overlayMembers below orderedEnvironment
  have lastOrdered : last.IsOrdered := by
    rcases lastKind with rfl | ⟨upper, rfl⟩
    · exact middleOrdered
    · exact isOrdered_overlay membersOrdered upper
  obtain ⟨-, -, profiles', read', same⟩ := members_of_toSettings understood
  obtain ⟨present, rfl, readLast⟩ := exists_of_member found read'
  rw [same]
  exact (ordered_toProfiles lastOrdered readLast).1

/-! ## Settings like loaded ones -/

/-- The settings name a profile in use, and their profiles stand in the order of their names. -/
structure IsLoaded (settings : Settings) : Prop where
  named : settings.defaultProfile = some settings.defaultProfileName
  ordered : Keyed.Ordered settings.profiles

theorem IsLoaded.asLoaded_eq (isLoaded : IsLoaded settings) : settings.asLoaded = settings := by
  rw [asLoaded, ← isLoaded.named, Keyed.ofPairs_of_ordered isLoaded.ordered]

theorem IsLoaded.put (isLoaded : IsLoaded settings) (name : String) (profile : Profile) :
    IsLoaded { settings with profiles := settings.profiles.put name profile } where
  named := isLoaded.named
  ordered := Keyed.ordered_put name profile isLoaded.ordered

theorem IsLoaded.use (isLoaded : IsLoaded settings) (name : String) :
    IsLoaded { settings with defaultProfile := some name } where
  named := rfl
  ordered := isLoaded.ordered

theorem isLoaded_usual : IsLoaded usual := ⟨rfl, List.Pairwise.nil⟩

theorem isLoaded_loadOrUsual {calm : Environment} {original : Settings} (silent : Silent calm)
    (readable : load file calm = .ok original) (environment : Environment) :
    IsLoaded (loadOrUsual file environment) := by
  unfold loadOrUsual
  split
  · rename_i loaded
    exact ⟨defaultProfile_of_load loaded, ordered_profiles_of_load silent readable loaded⟩
  · exact isLoaded_usual

end

end DevicePanel.Settings
