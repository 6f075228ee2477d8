import DevicePanel.Proofs.Console.Saving
import DevicePanel.Proofs.Settings.Loading

/-!
# Changing the settings

An order that changes the settings starts from what the file and the environment come to together,
or from the usual settings when they cannot be loaded, and saves all of it with one change.
-/

namespace DevicePanel.Console

open DevicePanel.Settings (Profile)

/-! ## Values of a profile -/

/-- A text gives a value to the field of a key, and the other fields stay as they are. -/
inductive Assigns : (key text : String) → (profile changed : Profile) → Prop where
  | server {text : String} {profile : Profile} {url : Url} :
      Settings.serverUrl text = .ok url →
      Assigns "server" text profile { profile with server := text }
  | tokenVariable {key text : String} {profile : Profile} :
      key ∈ ["token_env", "token-env"] →
      Assigns key text profile { profile with tokenVariable := some text }
  | insecure {text : String} {profile : Profile} {value : Bool} :
      flagOf? text = some value →
      Assigns "insecure" text profile { profile with insecure := some value }
  | timeout {text : String} {profile : Profile} {n : Nat} :
      Number.natural64 text = .ok n →
      Assigns "timeout" text profile { profile with timeout := some n }
  | dispatchTimeout {key text : String} {profile : Profile} {n : Nat} :
      key ∈ ["dispatch_timeout", "dispatch-timeout"] → Number.natural64 text = .ok n →
      Assigns key text profile { profile with dispatchTimeout := some n }
  | policy {key : String} {profile : Profile} (policy : OverlapPolicy) :
      key ∈ ["dispatch_policy", "dispatch-policy"] →
      Assigns key policy.name profile { profile with policy := some policy }
  | encoding {key : String} {profile : Profile} (encoding : BodyEncoding) :
      key ∈ ["body_encoding", "body-encoding"] →
      Assigns key encoding.name profile { profile with encoding := some encoding }
  | certificate {key text : String} {profile : Profile} :
      key ∈ ["ca_cert", "ca-cert"] →
      Assigns key text profile { profile with certificate := some text }

theorem exists_of_map_valueOr {α β : Type} {field hint : String} {found : Option α} {f : α → β}
    {last : β} (set : (valueOr field hint found).map f = .ok last) :
    ∃ x, found = some x ∧ f x = last := by
  cases found with
  | none => cases set
  | some x => exact ⟨x, rfl, Except.ok.inj set⟩

theorem exists_of_map_secondsOr {field text : String} {β : Type} {f : Nat → β} {last : β}
    (set : (secondsOr field text).map f = .ok last) :
    ∃ n, Number.natural64 text = .ok n ∧ f n = last := by
  obtain ⟨n, found, changed⟩ := exists_of_map_valueOr set
  cases read : Number.natural64 text with
  | error fault => simp [read, Except.toOption] at found
  | ok m =>
      obtain rfl : m = n := by simpa [read, Except.toOption] using found
      exact ⟨m, rfl, changed⟩

theorem eq_name_of_ofName? {text : String} {policy : OverlapPolicy}
    (found : OverlapPolicy.ofName? text = some policy) : text = policy.name := by
  obtain ⟨choice, inChoices, rfl⟩ := Option.map_eq_some_iff.mp found
  have sameName : choice.1 = text := by simpa using List.find?_some inChoices
  have named : ∀ choice ∈ OverlapPolicy.choices, choice.1 = choice.2.name := by decide
  exact sameName.symm.trans (named choice (List.mem_of_find?_eq_some inChoices))

theorem eq_name_of_lookup {text : String} {encoding : BodyEncoding}
    (found : BodyEncoding.choices.lookup text = some encoding) : text = encoding.name := by
  obtain ⟨front, back, parts, -⟩ := List.lookup_eq_some_iff.mp found
  have named : ∀ choice ∈ BodyEncoding.choices, choice.1 = choice.2.name := by decide
  exact named (text, encoding) (parts ▸ List.mem_append_right front List.mem_cons_self)

theorem assigns_of_setValue {key text : String} {profile changed : Profile}
    (set : setValue profile key text = .ok changed) : Assigns key text profile changed := by
  unfold setValue at set
  split at set
  · split at set
    · cases set
    · rename_i valid
      cases set
      exact .server valid
  · cases set
    exact .tokenVariable (by decide)
  · cases set
    exact .tokenVariable (by decide)
  · obtain ⟨value, found, rfl⟩ := exists_of_map_valueOr set
    exact .insecure found
  · obtain ⟨n, read, rfl⟩ := exists_of_map_secondsOr set
    exact .timeout read
  · obtain ⟨n, read, rfl⟩ := exists_of_map_secondsOr set
    exact .dispatchTimeout (by decide) read
  · obtain ⟨n, read, rfl⟩ := exists_of_map_secondsOr set
    exact .dispatchTimeout (by decide) read
  · obtain ⟨policy, found, rfl⟩ := exists_of_map_valueOr set
    exact eq_name_of_ofName? found ▸ .policy policy (by decide)
  · obtain ⟨policy, found, rfl⟩ := exists_of_map_valueOr set
    exact eq_name_of_ofName? found ▸ .policy policy (by decide)
  · obtain ⟨encoding, found, rfl⟩ := exists_of_map_valueOr set
    exact eq_name_of_lookup found ▸ .encoding encoding (by decide)
  · obtain ⟨encoding, found, rfl⟩ := exists_of_map_valueOr set
    exact eq_name_of_lookup found ▸ .encoding encoding (by decide)
  · cases set
    exact .certificate (by decide)
  · cases set
    exact .certificate (by decide)
  · cases set

theorem setValue_of_assigns {key text : String} {profile changed : Profile}
    (assigns : Assigns key text profile changed) : setValue profile key text = .ok changed := by
  cases assigns with
  | server valid => simp [setValue, valid]
  | tokenVariable here =>
      obtain rfl | rfl : key = "token_env" ∨ key = "token-env" := by simpa using here
      · rfl
      · rfl
  | insecure found => simp [setValue, found, valueOr, Except.map]
  | timeout read => simp [setValue, read, secondsOr, valueOr, Except.map, Except.toOption]
  | dispatchTimeout here read =>
      obtain rfl | rfl : key = "dispatch_timeout" ∨ key = "dispatch-timeout" := by simpa using here
      · simp [setValue, read, secondsOr, valueOr, Except.map, Except.toOption]
      · simp [setValue, read, secondsOr, valueOr, Except.map, Except.toOption]
  | policy policy here =>
      obtain rfl | rfl : key = "dispatch_policy" ∨ key = "dispatch-policy" := by simpa using here
      · cases policy <;> rfl
      · cases policy <;> rfl
  | encoding encoding here =>
      obtain rfl | rfl : key = "body_encoding" ∨ key = "body-encoding" := by simpa using here
      · cases encoding <;> rfl
      · cases encoding <;> rfl
  | certificate here =>
      obtain rfl | rfl : key = "ca_cert" ∨ key = "ca-cert" := by simpa using here
      · rfl
      · rfl

/-- A value is changed exactly as the text says. -/
theorem setValue_eq_ok_iff {key text : String} {profile changed : Profile} :
    setValue profile key text = .ok changed ↔ Assigns key text profile changed :=
  ⟨assigns_of_setValue, setValue_of_assigns⟩

/-! ## One change -/

/-- The invocation succeeds and leaves a file that is loaded as the settings. -/
def Saves (outcome : Outcome) (settings : Settings) : Prop :=
  outcome.failure = none ∧ ∃ text, outcome.written = some text ∧ LoadsAs (some text) settings

/-- The invocation fails and leaves the file as it was. -/
def Refuses (outcome : Outcome) : Prop := outcome.failure ≠ none ∧ outcome.written = none

theorem refuses_failed (fault : Fault) : Refuses (.failed fault) := ⟨Option.some_ne_none _, rfl⟩

section

variable {settings : Settings}

theorem saves_save (isLoaded : settings.IsLoaded) (writable : settings.Writable)
    (remark : String) : Saves (save settings remark) settings := by
  obtain ⟨text, saved, loads⟩ := save_of_writable writable isLoaded.ordered.nodup remark
  rw [isLoaded.asLoaded_eq] at loads
  rw [saved]
  exact ⟨rfl, text, rfl, loads⟩

theorem refuses_save (unwritable : ¬ settings.Writable) (remark : String) :
    Refuses (save settings remark) := by
  obtain ⟨fault, fails⟩ := save_of_not_writable unwritable remark
  exact fails ▸ refuses_failed fault

/-- The profile in use, or a blank one if there is none. -/
def profileInUse (options : Options) (settings : Settings) : Profile :=
  (settings.profiles.find? (profileName options settings)).getD (.ofServer "")

/-- The settings with the profile in use changed. -/
def withProfile (options : Options) (settings : Settings) (changed : Profile) : Settings :=
  { settings with profiles := settings.profiles.put (profileName options settings) changed }

section

variable {options : Options} {key text : String} {changed : Profile}

theorem setKey_of_assigns
    (assigns : Assigns key text (profileInUse options settings) changed) :
    ∃ remark, setKey options settings key text =
      save (withProfile options settings changed) remark := by
  have set := setValue_eq_ok_iff.mpr assigns
  unfold profileInUse at set
  exact ⟨_, by simp only [setKey, set]; rfl⟩

theorem refuses_setKey
    (unassigned : ∀ changed, ¬ Assigns key text (profileInUse options settings) changed) :
    Refuses (setKey options settings key text) := by
  cases set : setValue (profileInUse options settings) key text with
  | ok changed => exact absurd (setValue_eq_ok_iff.mp set) (unassigned changed)
  | error fault =>
      unfold profileInUse at set
      simp only [setKey, set]
      exact refuses_failed fault

end

/-- Setting a value saves the settings with this value changed, or it fails. -/
theorem setKey_cases (isLoaded : settings.IsLoaded) (options : Options) (key text : String) :
    Refuses (setKey options settings key text) ∨
      ∃ changed, Assigns key text (profileInUse options settings) changed ∧
        Saves (setKey options settings key text) (withProfile options settings changed) := by
  by_cases assigned : ∃ changed, Assigns key text (profileInUse options settings) changed
  · obtain ⟨changed, assigns⟩ := assigned
    obtain ⟨remark, saved⟩ := setKey_of_assigns assigns
    rw [saved]
    by_cases writable : (withProfile options settings changed).Writable
    · exact Or.inr ⟨changed, assigns, saves_save (isLoaded.put _ changed) writable remark⟩
    · exact Or.inl (refuses_save writable remark)
  · exact Or.inl (refuses_setKey fun changed assigns => assigned ⟨changed, assigns⟩)

/-- Choosing a profile saves the settings with its name, or it fails. -/
theorem makeDefault_cases (isLoaded : settings.IsLoaded) (name : String) :
    Refuses (makeDefault settings name) ∨
      (settings.profiles.find? name).isSome ∧
        Saves (makeDefault settings name) { settings with defaultProfile := some name } := by
  unfold makeDefault Settings.profile?
  cases found : settings.profiles.find? name with
  | none => exact Or.inl (refuses_failed _)
  | some profile =>
      by_cases writable : Settings.Writable { settings with defaultProfile := some name }
      · exact Or.inr ⟨rfl, saves_save (isLoaded.use name) writable _⟩
      · exact Or.inl (refuses_save writable _)

end

/-! ## Files that cannot be loaded -/

theorem writable_single_iff {name : String} {profile : Profile} :
    Settings.Writable { Settings.usual with profiles := [(name, profile)] } ↔
      profile.Writable := by
  constructor
  · exact fun writable => writable.profiles _ List.mem_cons_self
  · have defaults : Settings.usual.Writable := by decide
    exact fun writable => ⟨defaults.timeout, defaults.dispatchTimeout, by simpa using writable⟩

section

variable (surroundings : Surroundings)

theorem obey_set (options : Options) (key text : String) :
    (SettingsOrder.set key text).obey options surroundings = setKey options
      (Settings.loadOrUsual surroundings.file surroundings.environment) key text := rfl

theorem obey_use (options : Options) (name : String) :
    (SettingsOrder.use name).obey options surroundings = makeDefault
      (Settings.loadOrUsual surroundings.file surroundings.environment) name := rfl

theorem loadOrUsual_of_error {file : Option String} {environment : Environment}
    (unloadable : ∃ fault, Settings.load file environment = .error fault) :
    Settings.loadOrUsual file environment = Settings.usual := by
  obtain ⟨fault, fails⟩ := unloadable
  simp only [Settings.loadOrUsual, fails]

/-- Over a file that cannot be loaded a new profile is saved with the usual settings. -/
theorem obey_set_of_unloadable
    (unloadable : ∃ fault,
      Settings.load surroundings.file surroundings.environment = .error fault)
    (options : Options) {key text : String} {changed : Profile}
    (assigns : Assigns key text (.ofServer "") changed) :
    ∃ remark, (SettingsOrder.set key text).obey options surroundings =
      save { Settings.usual with
        profiles := [(options.profile.getD Settings.usualProfile, changed)] } remark := by
  have blank : Assigns key text (profileInUse options Settings.usual) changed := assigns
  rw [obey_set, loadOrUsual_of_error unloadable]
  exact setKey_of_assigns blank

/-- When the file and the environment cannot be loaded, choosing a profile leaves the file as it
is.  Setting a value does so only if the value is refused; otherwise it leaves the usual settings
with a single new profile, and all that the file held is lost. -/
theorem unloadable_file_is_kept_or_lost
    (unloadable : ∃ fault,
      Settings.load surroundings.file surroundings.environment = .error fault)
    (options : Options) :
    (∀ name, Refuses ((SettingsOrder.use name).obey options surroundings)) ∧
      ∀ key text,
        (∀ changed, Assigns key text (.ofServer "") changed → changed.Writable →
          Saves ((SettingsOrder.set key text).obey options surroundings)
            { Settings.usual with
              profiles := [(options.profile.getD Settings.usualProfile, changed)] }) ∧
        ((∀ changed, Assigns key text (.ofServer "") changed → ¬ changed.Writable) →
          Refuses ((SettingsOrder.set key text).obey options surroundings)) := by
  refine ⟨fun name => ?_, fun key text => ⟨fun changed assigns writable => ?_, fun none => ?_⟩⟩
  · rw [obey_use, loadOrUsual_of_error unloadable]
    exact refuses_failed _
  · obtain ⟨remark, saved⟩ := obey_set_of_unloadable surroundings unloadable options assigns
    rw [saved]
    exact saves_save (Settings.isLoaded_usual.put _ changed) (writable_single_iff.mpr writable)
      remark
  · by_cases assigned : ∃ changed, Assigns key text (.ofServer "") changed
    · obtain ⟨changed, assigns⟩ := assigned
      obtain ⟨remark, saved⟩ := obey_set_of_unloadable surroundings unloadable options assigns
      rw [saved]
      exact refuses_save (mt writable_single_iff.mp (none changed assigns)) remark
    · rw [obey_set, loadOrUsual_of_error unloadable]
      exact refuses_setKey fun changed assigns => assigned ⟨changed, assigns⟩

end

/-- An invocation without options. -/
def bare : Options := ⟨none, none, none, .table, .auto, 0, false, false, none, none, none⟩

/-- Surroundings with a settings file and variables, and with nothing else. -/
def placeWith (file : String) (environment : Environment) : Surroundings where
  home := "/home"
  file := some file
  environment := environment
  keyring := ⟨[], none⟩
  terminal := false
  network := fun _ => .refused
  certificates := fun _ => .error ""

/-- A file with two profiles, the last of which is cut off. -/
def brokenFile : String :=
  "[profiles.home]\nserver = \"http://10.0.0.5\"\n\n[profiles.lab]\nserver = "

theorem load_brokenFile :
    Settings.load (some brokenFile) [] = .error ⟨.unreadable, [], some .file⟩ := by
  decide +kernel

theorem broken_file_is_kept_or_lost :
    (∃ fault, Settings.load (some brokenFile) [] = .error fault) ∧
      Refuses ((SettingsOrder.use "home").obey bare (placeWith brokenFile [])) ∧
      Saves ((SettingsOrder.set "insecure" "true").obey bare (placeWith brokenFile []))
        { Settings.usual with
          profiles := [("default", { Profile.ofServer "" with insecure := some true })] } ∧
      Refuses ((SettingsOrder.set "insecure" "maybe").obey bare (placeWith brokenFile [])) := by
  have unloadable : ∃ fault, Settings.load (some brokenFile) [] = .error fault :=
    ⟨_, load_brokenFile⟩
  obtain ⟨use, set⟩ := unloadable_file_is_kept_or_lost (placeWith brokenFile []) unloadable bare
  refine ⟨unloadable, use "home", (set "insecure" "true").1 _ (.insecure rfl) (by decide),
    (set "insecure" "maybe").2 fun changed assigns => ?_⟩
  cases setValue_eq_ok_iff.mpr assigns

/-- A file that cannot be loaded does not stay as it is. -/
theorem broken_file_is_overwritten :
    (∃ fault, Settings.load (some brokenFile) [] = .error fault) ∧
      ((SettingsOrder.set "insecure" "true").obey bare (placeWith brokenFile [])).fileAfter
        (some brokenFile) ≠ some brokenFile := by
  have unloadable : ∃ fault, Settings.load (some brokenFile) [] = .error fault :=
    ⟨_, load_brokenFile⟩
  refine ⟨unloadable, fun same => ?_⟩
  have assigns : Assigns "insecure" "true" (.ofServer "")
      { Profile.ofServer "" with insecure := some true } := .insecure rfl
  obtain ⟨remark, saved⟩ := obey_set_of_unloadable (placeWith brokenFile []) unloadable bare
    assigns
  obtain ⟨-, text, written, loads⟩ := saves_save (Settings.isLoaded_usual.put "default"
    { Profile.ofServer "" with insecure := some true }) (by decide) remark
  have after : ((SettingsOrder.set "insecure" "true").obey bare
      (placeWith brokenFile [])).written = some text := by
    rw [saved]
    exact written
  obtain rfl : text = brokenFile := by simpa [Outcome.fileAfter, after] using same
  have loaded := loads [] (by simp [Settings.Silent])
  rw [load_brokenFile] at loaded
  cases loaded

/-! ## Files that can be loaded -/

/-- For a file that can be loaded without the environment, an order that changes the settings
fails and leaves the file as it is, or it leaves what the file and the environment come to
together with one thing changed: the value of one key of the profile in use, or the profile in use
when none is named.  Where the environment changes nothing, this is the file with one thing
changed. -/
theorem orders_change_one_thing (surroundings : Surroundings) {calm : Environment}
    {original : Settings} (silent : Settings.Silent calm)
    (readable : Settings.load surroundings.file calm = .ok original) (options : Options) :
    ∃ base, base = Settings.loadOrUsual surroundings.file surroundings.environment ∧
      (Settings.load surroundings.file surroundings.environment = .ok original →
        base = original) ∧
      (∀ key text,
        Refuses ((SettingsOrder.set key text).obey options surroundings) ∨
          ∃ changed, Assigns key text (profileInUse options base) changed ∧
            Saves ((SettingsOrder.set key text).obey options surroundings)
              (withProfile options base changed)) ∧
      ∀ name,
        Refuses ((SettingsOrder.use name).obey options surroundings) ∨
          (base.profiles.find? name).isSome ∧
            Saves ((SettingsOrder.use name).obey options surroundings)
              { base with defaultProfile := some name } := by
  have isLoaded := Settings.isLoaded_loadOrUsual silent readable surroundings.environment
  refine ⟨_, rfl, fun same => ?_, setKey_cases isLoaded options, makeDefault_cases isLoaded⟩
  simp only [Settings.loadOrUsual, same]

/-- A file with a profile, and a variable that sets a time. -/
def plainFile : String := "[profiles.default]\nserver = \"http://10.0.0.5\"\n"

def hurried : Environment := [("DEVGRID_DEFAULTS__TIMEOUT", "5")]

/-- The settings of the file alone. -/
def plainSettings : Settings :=
  { Settings.usual with profiles := [("default", .ofServer "http://10.0.0.5")] }

theorem load_plainFile : Settings.load (some plainFile) [] = .ok plainSettings := by
  decide +kernel

/-- The settings of the file and the variable together. -/
def hurriedSettings : Settings :=
  { plainSettings with defaults := { Settings.Defaults.usual with timeout := 5 } }

theorem loadOrUsual_hurried :
    Settings.loadOrUsual (some plainFile) hurried = hurriedSettings := by
  decide +kernel

theorem orders_change_plain_file :
    Settings.Silent [] ∧ Settings.load (some plainFile) [] = .ok plainSettings ∧
      Saves ((SettingsOrder.set "insecure" "true").obey bare (placeWith plainFile hurried))
        { hurriedSettings with profiles :=
          [("default", { Profile.ofServer "http://10.0.0.5" with insecure := some true })] } ∧
      Refuses ((SettingsOrder.use "home").obey bare (placeWith plainFile hurried)) := by
  have silent : Settings.Silent [] := List.forall_mem_nil _
  obtain ⟨base, isBase, -, set, use⟩ := orders_change_one_thing (placeWith plainFile hurried)
    silent load_plainFile bare
  obtain rfl : base = hurriedSettings := isBase.trans loadOrUsual_hurried
  refine ⟨silent, load_plainFile, ?_, ?_⟩
  · have succeeds : ((SettingsOrder.set "insecure" "true").obey bare
        (placeWith plainFile hurried)).failure = none := by decide +kernel
    rcases set "insecure" "true" with refuses | ⟨changed, assigns, saves⟩
    · exact absurd succeeds refuses.1
    · cases setValue_eq_ok_iff.mpr assigns
      exact saves
  · rcases use "home" with refuses | ⟨found, -⟩
    · exact refuses
    · cases found

theorem saves_hurried :
    Saves ((SettingsOrder.set "insecure" "true").obey bare (placeWith plainFile hurried))
      (withProfile bare hurriedSettings
        { Profile.ofServer "http://10.0.0.5" with insecure := some true }) := by
  have isLoaded : hurriedSettings.IsLoaded := loadOrUsual_hurried ▸
    Settings.isLoaded_loadOrUsual (List.forall_mem_nil _) load_plainFile hurried
  have assigns : Assigns "insecure" "true" (profileInUse bare hurriedSettings)
      { Profile.ofServer "http://10.0.0.5" with insecure := some true } := .insecure rfl
  obtain ⟨remark, saved⟩ := setKey_of_assigns assigns
  have starts : Settings.loadOrUsual (placeWith plainFile hurried).file
      (placeWith plainFile hurried).environment = hurriedSettings := loadOrUsual_hurried
  rw [obey_set, starts, saved]
  exact saves_save (isLoaded.put _ _) (by decide) remark

/-- What a variable sets for the time being is saved with the change of another value. -/
theorem variable_is_saved :
    Settings.load (some plainFile) [] = .ok plainSettings ∧
      ((SettingsOrder.set "insecure" "true").obey bare (placeWith plainFile hurried)).failure =
        none ∧
      ∀ name changed, ¬ LoadsAs
        (((SettingsOrder.set "insecure" "true").obey bare (placeWith plainFile hurried)).fileAfter
          (some plainFile))
        { plainSettings with profiles := plainSettings.profiles.put name changed } := by
  obtain ⟨succeeds, text, written, loads⟩ := saves_hurried
  refine ⟨load_plainFile, succeeds, fun name changed alone => ?_⟩
  have after := alone [] (List.forall_mem_nil _)
  rw [Outcome.fileAfter, written, Option.some_or, loads [] (List.forall_mem_nil _)] at after
  have times : 5 = 30 := congrArg (fun settings => settings.defaults.timeout) (Except.ok.inj after)
  cases times

end DevicePanel.Console
