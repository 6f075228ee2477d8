import DevicePanel.Console.Options
import DevicePanel.Dashboard.Start
import DevicePanel.Proofs.Settings.Loading

/-!
# Variables that set no setting

Settings are read from three keys.  What one of these finds in the environment is decided by the
variables whose path begins with it, one after the other.  Every other variable of the program, such
as one that stands for an option of the command line, is a stray: whatever its text, it leaves the
settings and the fault of a failed load as they are.
-/

namespace DevicePanel.Settings

/-- The keys that settings are read from. -/
def settingKeys : List String := ["default_profile", "defaults", "profiles"]

namespace Variable

/-! ## The first key of a name -/

/-- What stands before the first two underscores or the first point. -/
def firstPart : List Char → List Char
  | [] => []
  | '_' :: '_' :: _ => []
  | '.' :: _ => []
  | c :: rest => c :: firstPart rest

/-- The first key in the name of a variable of the program. -/
def firstKey (name : String) : String :=
  String.ofList (firstPart ((small (Text.trim name.toList)).drop start.length))

/-- The name is one of a variable of the program whose first key holds no settings. -/
def IsStray (name : String) : Prop := IsOurs name ∧ firstKey name ∉ settingKeys

instance : DecidablePred IsStray :=
  fun name => inferInstanceAs (Decidable (start.toList <+: _ ∧ firstKey name ∉ settingKeys))

/-- The variables that are no strays. -/
def withoutStrays (environment : Environment) : Environment :=
  environment.filter fun pair => ¬ IsStray pair.1

theorem withoutStrays_cons (pair : String × String) (others : Environment) :
    withoutStrays (pair :: others) =
      if IsStray pair.1 then withoutStrays others else pair :: withoutStrays others := by
  by_cases stray : IsStray pair.1 <;> simp [withoutStrays, stray]

theorem head?_keysOf (name key : List Char) :
    (keysOf name key).head? = some (String.ofList (key.reverse ++ firstPart name)) := by
  fun_induction keysOf name key with
  | case1 key => simp [firstPart]
  | case2 rest key => simp [firstPart]
  | case3 rest key => simp [firstPart]
  | case4 c rest key noLine noPoint ih => simp [firstPart, ih]

/-- A path begins with the first key of the name. -/
theorem head?_of_path? {name : String} {path : List String} (found : path? name = some path) :
    path.head? = some (firstKey name) := by
  unfold path? at found
  simp only at found
  split_ifs at found
  cases found
  rw [head?_keysOf]
  rfl

/-! ## What a key finds in the environment -/

/-- What a key finds after a variable, where it found this before. -/
def setUnder (key : String) (found : Option Datum) (pair : String × String) : Option Datum :=
  match path? pair.1 with
  | some (first :: path) =>
      if key = first then some (Datum.laidOver found (nest (datumOf pair.2) path)) else found
  | _ => found

theorem find?_foldl_setOver (key : String) (environment : Environment) (below : Datum) :
    (environment.foldl setOver below).members.find? key =
      environment.foldl (setUnder key) (below.members.find? key) := by
  induction environment generalizing below with
  | nil => rfl
  | cons pair others ih =>
      rw [List.foldl_cons, List.foldl_cons, setOver, setUnder]
      cases found : path? pair.1 with
      | none => exact ih below
      | some path =>
          obtain ⟨first, path, rfl⟩ := List.exists_cons_of_ne_nil (path?_ne_nil found)
          simp only [Datum.overlay_nest]
          rw [ih, Datum.members, Keyed.find?_put]
          by_cases same : key = first
          · rw [if_pos same, if_pos same, same]
          · rw [if_neg same, if_neg same]

theorem find?_layer (key : String) (environment : Environment) :
    (layer environment).members.find? key = environment.foldl (setUnder key) none :=
  find?_foldl_setOver key environment (.table .environment [])

/-- A stray sets nothing under a key of settings. -/
theorem setUnder_of_isStray {key : String} (read : key ∈ settingKeys) {pair : String × String}
    (stray : IsStray pair.1) (found : Option Datum) : setUnder key found pair = found := by
  unfold setUnder
  split
  · rename_i first path begins
    have firstKey : some first = some (firstKey pair.1) := head?_of_path? begins
    have differs : key ≠ first := by
      rintro rfl
      exact stray.2 (Option.some.inj firstKey ▸ read)
    rw [if_neg differs]
  · rfl

theorem foldl_setUnder_of_strays {key : String} (read : key ∈ settingKeys)
    (environment : Environment) (found : Option Datum) :
    environment.foldl (setUnder key) found =
      (withoutStrays environment).foldl (setUnder key) found := by
  induction environment generalizing found with
  | nil => rfl
  | cons pair others ih =>
      rw [List.foldl_cons, withoutStrays_cons]
      by_cases stray : IsStray pair.1
      · rw [if_pos stray, setUnder_of_isStray read stray, ih]
      · rw [if_neg stray, List.foldl_cons, ih]

/-- Environments that are the same without strays hold the same under each key of settings. -/
theorem find?_layer_of_strays {environment other : Environment}
    (same : withoutStrays environment = withoutStrays other) {key : String}
    (read : key ∈ settingKeys) :
    (layer environment).members.find? key = (layer other).members.find? key := by
  rw [find?_layer, find?_layer, foldl_setUnder_of_strays read environment, same,
    ← foldl_setUnder_of_strays read]

end Variable

/-! ## Loading looks at nothing else -/

theorem Datum.member_congr {α : Type} {key : String} (read : Datum → Except LoadFault α)
    {members others : Keyed Datum} (same : members.find? key = others.find? key) :
    member key read members = member key read others := by
  rw [member, member, same]

/-- Settings are understood from what their keys find. -/
theorem Datum.toSettings_congr (layer : Layer) {members others : Keyed Datum}
    (same : ∀ key ∈ settingKeys, members.find? key = others.find? key) :
    toSettings (.table layer members) = toSettings (.table layer others) := by
  have name := member_congr toPhrase (same "default_profile" (by decide))
  have defaults := member_congr toDefaults (same "defaults" (by decide))
  have profiles := member_congr toProfiles (same "profiles" (by decide))
  simp only [toSettings, name, defaults, profiles]

theorem load_congr {environment other : Environment}
    (same : ∀ key ∈ settingKeys, (Variable.layer environment).members.find? key =
      (Variable.layer other).members.find? key) (file : Option String) :
    load file environment = load file other := by
  obtain ⟨upper, isUpper, ordered⟩ := Variable.layer_table environment
  obtain ⟨others, isOthers, otherOrdered⟩ := Variable.layer_table other
  have agree (key : String) (inKeys : key ∈ settingKeys) :
      Keyed.find? key upper = Keyed.find? key others := by
    have found := same key inKeys
    rwa [isUpper, isOthers] at found
  rw [load, load, layers, layers, isUpper, isOthers]
  cases read : fileLayer file with
  | error fault => rfl
  | ok written =>
      obtain ⟨written, rfl, -⟩ := fileLayer_table read
      refine Datum.toSettings_congr .environment fun key inKeys => ?_
      rw [Datum.find?_overlayMembers key ordered.nodup, agree key inKeys,
        Datum.find?_overlayMembers key otherOrdered.nodup]

/-- The variables that stand for options of the programs are strays.  Whatever the file says, two
environments that differ in strays alone are loaded as the same settings, or both fail with the same
fault. -/
theorem strays_change_no_setting :
    (∀ switch ∈ Console.switches ++ Dashboard.switches, ∀ name ∈ switch.substitute,
      Variable.IsStray name) ∧
    ∀ (file : Option String) (environment other : Environment),
      Variable.withoutStrays environment = Variable.withoutStrays other →
      load file environment = load file other := by
  refine ⟨by decide, fun file environment other same => ?_⟩
  exact load_congr (fun _ read => Variable.find?_layer_of_strays same read) file

/-- Strays with all kinds of texts leave the time that another variable sets, and they leave the
fault of a variable that does not set a time. -/
theorem strays_change_no_time :
    let file := some "[profiles.default]\nserver = \"http://10.0.0.5\"\n"
    let time (text : String) : String × String := ("DEVGRID_DEFAULTS__TIMEOUT", text)
    let strays : Environment := [("DEVGRID_DEFAULT__TIMEOUT", "7"), ("DEVGRID_INSECURE", "yes"),
      ("DEVGRID_PROFILE", "[1, \x7bdefaults = 2\x7d]"), ("DEVGRID___PROFILES__DEFAULT", "5"),
      ("devgrid_server.profiles", "\x7d")]
    (∀ text, Variable.withoutStrays (time text :: strays) = [time text]) ∧
    load file (time "5" :: strays) = .ok { usual with
      defaults := { Defaults.usual with timeout := 5 }
      profiles := [("default", .ofServer "http://10.0.0.5")] } ∧
    load file (time "soon" :: strays) = .error
      ⟨.wrongType (.text "soon") "u64", ["defaults", "timeout"], some .environment⟩ := by
  intro file time strays
  have kept (text : String) (others : Environment) :
      Variable.withoutStrays (time text :: others) =
        time text :: Variable.withoutStrays others := by
    have isRead : ¬ Variable.IsStray "DEVGRID_DEFAULTS__TIMEOUT" := by decide
    rw [Variable.withoutStrays_cons, if_neg isRead]
  have gone : Variable.withoutStrays strays = [] := by decide
  have alone (text : String) : Variable.withoutStrays (time text :: strays) = [time text] := by
    rw [kept, gone]
  have same (text : String) : load file (time text :: strays) = load file [time text] :=
    strays_change_no_setting.2 file _ _ ((alone text).trans (kept text []).symm)
  refine ⟨alone, ?_, ?_⟩
  · rw [same]
    decide +kernel
  · rw [same]
    decide +kernel

end DevicePanel.Settings
