import DevicePanel.Proofs.Settings.Precedence
import DevicePanel.Proofs.Settings.Values

/-!
# Text fields of a profile in the environment

A profile has four fields that hold texts, and each of them has a variable.  Where the text of the
variable is read as a text, the field has that text, and all else in the settings stays.  Where it
is read as a number, a truth value, a list or a table, the settings are refused for a value of the
wrong type.
-/

namespace DevicePanel.Settings

open Datum

/-! ## The variable of a field -/

/-- A field of a profile that holds a text. -/
inductive TextField where
  | server
  | token
  | tokenVariable
  | certificate
deriving DecidableEq

namespace TextField

def key : TextField → String
  | server => "server"
  | token => "token"
  | tokenVariable => "token_env"
  | certificate => "ca_cert"

/-- What a value of another type is told to be instead. -/
def expected : TextField → String
  | certificate => "path string"
  | _ => "a string"

/-- The profile with another text in the field. -/
def set (field : TextField) (value : String) (profile : Profile) : Profile :=
  match field with
  | server => { profile with server := value }
  | token => { profile with token := some value }
  | tokenVariable => { profile with tokenVariable := some value }
  | certificate => { profile with certificate := some value }

/-- The name of the variable for the field of a profile. -/
def variableName (field : TextField) (profile : String) : String :=
  "DEVGRID_PROFILES__" ++ profile.toUpper ++ "__" ++ field.key.toUpper

end TextField

/-- The name has characters, all of them small letters and digits. -/
def IsPlainName (name : String) : Prop :=
  name ≠ "" ∧ ∀ c ∈ name.toList, c.isLower ∨ c.isDigit

instance : DecidablePred IsPlainName := fun name =>
  decidable_of_iff (name ≠ "" ∧ name.toList.all (fun c => c.isLower || c.isDigit) = true)
    (by simp [IsPlainName])

theorem toLower_toUpper {c : Char} (plain : c.isLower ∨ c.isDigit) :
    c.toUpper.toLower = c := by
  have each : ∀ n < 128, (Char.ofNat n).isLower ∨ (Char.ofNat n).isDigit →
      (Char.ofNat n).toUpper.toLower = Char.ofNat n := by decide
  have small : c.toNat < 128 := by
    rcases plain with isLower | isDigit
    · have bounds : (decide ('a'.val ≤ c.val) && decide (c.val ≤ 'z'.val)) = true := isLower
      rw [Bool.and_eq_true, decide_eq_true_eq, decide_eq_true_eq] at bounds
      exact Nat.lt_of_le_of_lt bounds.2 (by decide)
    · simp only [Char.isDigit, Bool.and_eq_true, decide_eq_true_eq] at isDigit
      exact Nat.lt_of_le_of_lt isDigit.2 (by decide)
  simpa [Char.ofNat_toNat] using each c.toNat small (by simpa [Char.ofNat_toNat] using plain)

theorem keysOf_append {front : List Char} (noMark : ∀ c ∈ front, c ≠ '_' ∧ c ≠ '.')
    (rest key : List Char) : Variable.keysOf (front ++ '_' :: '_' :: rest) key =
      String.ofList (key.reverse ++ front) :: Variable.keysOf rest [] := by
  induction front generalizing key with
  | nil => simp [Variable.keysOf]
  | cons c front ih =>
      obtain ⟨⟨noLine, noPoint⟩, others⟩ := List.forall_mem_cons.mp noMark
      have step : Variable.keysOf (c :: (front ++ '_' :: '_' :: rest)) key =
          Variable.keysOf (front ++ '_' :: '_' :: rest) (c :: key) := by
        simp [Variable.keysOf, noLine]
      rw [List.cons_append, step, ih others]
      simp

theorem TextField.keysOf_key (field : TextField) :
    Variable.keysOf field.key.toList [] = [field.key] := by
  cases field <;> decide

theorem not_mark_of_plain {c : Char} (plain : c.isLower ∨ c.isDigit) : c ≠ '_' ∧ c ≠ '.' := by
  constructor
  · rintro rfl
    exact absurd plain (by decide)
  · rintro rfl
    exact absurd plain (by decide)

/-- In small letters the name of the variable leads to the field. -/
theorem small_variableName {name : String} (plain : IsPlainName name) (field : TextField) :
    Variable.small (field.variableName name).toList =
      Variable.start.toList ++ ("profiles".toList ++ '_' :: '_' :: (name.toList ++
        '_' :: '_' :: field.key.toList)) := by
  have front : "DEVGRID_PROFILES__".toList.map Char.toLower =
      Variable.start.toList ++ ("profiles".toList ++ ['_', '_']) := by decide
  have nameAgain : (name.toList.map Char.toUpper).map Char.toLower = name.toList := by
    rw [List.map_map]
    exact (List.map_congr_left fun c member => toLower_toUpper (plain.2 c member)).trans
      (List.map_id _)
  have gap : "__".toList.map Char.toLower = ['_', '_'] := by decide
  have keyAgain : (field.key.toList.map Char.toUpper).map Char.toLower = field.key.toList := by
    cases field <;> decide
  have parts (first second third last : String) :
      Variable.small (first ++ second.toUpper ++ third ++ last.toUpper).toList =
        first.toList.map Char.toLower ++ ((second.toList.map Char.toUpper).map Char.toLower ++
          (third.toList.map Char.toLower ++ (last.toList.map Char.toUpper).map Char.toLower)) := by
    simp [Variable.small, String.toUpper]
  refine (parts _ _ _ _).trans ((congrArg₂ (· ++ ·) front (congrArg₂ (· ++ ·) nameAgain
    (congrArg₂ (· ++ ·) gap keyAgain))).trans ?_)
  simp only [List.append_assoc, List.cons_append, List.nil_append]

theorem trim_variableName (field : TextField) (name : String) :
    Text.trim (field.variableName name).toList = (field.variableName name).toList := by
  have first {front rest : String} {c : Char} (isFirst : front.toList.head? = some c) :
      (front ++ rest).toList.head? = some c := by
    rw [String.toList_append, List.head?_append, isFirst, Option.some_or]
  have last {front rest : String} {c : Char} (isLast : rest.toList.getLast? = some c) :
      (front ++ rest).toList.getLast? = some c := by
    rw [String.toList_append, List.getLast?_append, isLast, Option.some_or]
  have keyLast : ∃ c, field.key.toUpper.toList.getLast? = some c ∧ Text.isBlank c = false := by
    cases field
    · exact ⟨'R', by decide +kernel⟩
    · exact ⟨'N', by decide +kernel⟩
    · exact ⟨'V', by decide +kernel⟩
    · exact ⟨'T', by decide +kernel⟩
  obtain ⟨final, isEnd, noBlank⟩ := keyLast
  have begins : (field.variableName name).toList.head? = some 'D' :=
    first (first (first (by decide)))
  refine Text.trim_of_ends (fun c isFirst => ?_) (fun c isLast => ?_)
  · obtain rfl : 'D' = c := Option.some.inj (begins.symm.trans isFirst)
    decide
  · obtain rfl : final = c := Option.some.inj ((last isEnd).symm.trans isLast)
    exact noBlank

theorem path?_variableName {name : String} (plain : IsPlainName name) (field : TextField) :
    Variable.path? (field.variableName name) = some ["profiles", name, field.key] := by
  have noneEmpty : ["profiles", name, field.key].any String.isEmpty = false := by
    have keyNotEmpty : field.key.isEmpty = false := by cases field <;> rfl
    simp [plain.1, keyNotEmpty]
  generalize isRest : "profiles".toList ++ '_' :: '_' :: (name.toList ++
    '_' :: '_' :: field.key.toList) = rest
  have keys : Variable.keysOf rest [] = ["profiles", name, field.key] := by
    have profiles : IsPlainName "profiles" := by decide
    rw [← isRest, keysOf_append fun c member => not_mark_of_plain (profiles.2 c member),
      keysOf_append fun c member => not_mark_of_plain (plain.2 c member), field.keysOf_key]
    simp
  have isSmall := small_variableName plain field
  rw [isRest] at isSmall
  have behind : (Variable.start.toList ++ rest).drop Variable.start.length = rest :=
    List.drop_left' (by rw [String.length_toList])
  simp [Variable.path?, trim_variableName, isSmall, behind, keys, noneEmpty]

/-! ## Tables with another value under a key -/

section

variable {α : Type} {members : Keyed Datum} {datum : Datum}

theorem member_put_self (key : String) (read : Datum → Except LoadFault α) :
    member key read (members.put key datum) =
      ((read datum).map some).mapError (LoadFault.under key) := by
  rw [member, Keyed.find?_put_self]
  cases result : read datum <;> simp [result, Except.map, Except.mapError]

theorem member_put_of_ne {key other : String} (differs : other ≠ key)
    (read : Datum → Except LoadFault α) :
    member other read (members.put key datum) = member other read members := by
  rw [member, member, Keyed.find?_put_of_ne datum members differs]

end

/-- What a datum at a text field makes of a profile that is understood without it. -/
theorem toProfile_put {layer : Layer} {members : Keyed Datum} {profile : Profile}
    (understood : toProfile (.table layer members) = .ok profile) (field : TextField)
    (datum : Datum) : toProfile (.table .environment (members.put field.key datum)) =
      ((toText field.expected datum).map (field.set · profile)).mapError
        (LoadFault.under field.key) := by
  have others := inMembers_of_toProfile understood
  have isPhrase : toText "a string" datum = toPhrase datum := rfl
  have isPath : toText "path string" datum = toPath datum := rfl
  -- The other members are understood as before, so that the fault of the field is the first one.
  cases field <;> cases phrase : toPhrase datum <;> cases path : toPath datum <;>
    simp [toProfile, TextField.key, TextField.expected, TextField.set, member_put_of_ne,
      member_put_self, others.server, others.token, others.tokenVariable, others.certificate,
      others.insecure, others.timeout, others.dispatchTimeout, others.policy, others.encoding,
      isPhrase, isPath, phrase, path, Except.map, Except.mapError, bind, Except.bind, pure,
      Except.pure]

/-- What a datum at a text field makes of a profile that nothing else is said about. -/
theorem toProfile_alone (field : TextField) (datum : Datum) :
    toProfile (.table .environment (Keyed.put field.key datum [])) =
      ((toText field.expected datum).mapError (LoadFault.under field.key)).bind fun value =>
        if field = .server then .ok (.ofServer value)
        else .error ⟨.fieldMissing "server", [], some .environment⟩ := by
  have nothing {α : Type} (key : String) (read : Datum → Except LoadFault α) :
      member key read [] = .ok none := rfl
  have isPhrase : toText "a string" datum = toPhrase datum := rfl
  have isPath : toText "path string" datum = toPath datum := rfl
  cases field <;> cases phrase : toPhrase datum <;> cases path : toPath datum <;>
    simp [toProfile, TextField.key, TextField.expected, Profile.ofServer, member_put_of_ne,
      member_put_self, nothing, isPhrase, isPath, phrase, path, Except.map, Except.mapError, bind,
      Except.bind, pure, Except.pure]

theorem profilesOf_put {data : Keyed Datum} {profiles : Keyed Profile}
    (understood : profilesOf data = .ok profiles) {name : String}
    (present : name ∈ data.keys) (datum : Datum) :
    profilesOf (data.put name datum) =
      ((toProfile datum).map (profiles.put name ·)).mapError (LoadFault.under name) := by
  induction data generalizing profiles with
  | nil => cases present
  | cons pair data ih =>
      obtain ⟨key, own⟩ := pair
      obtain ⟨profile, later, first, others, rfl⟩ := exists_of_profilesOf_cons understood
      by_cases same : name = key
      · cases result : toProfile datum <;>
          simp [Keyed.put, same, profilesOf, result, others, Except.map, Except.mapError]
      · by_cases before : name < key
        · cases result : toProfile datum <;>
            simp [Keyed.put, same, before, profilesOf, result, first, others, Except.map,
              Except.mapError]
        · have inside : name ∈ Keyed.keys data := by simpa [Keyed.keys, same] using present
          cases result : toProfile datum <;>
            simp [Keyed.put, same, before, profilesOf, ih others inside, result, first,
              Except.map, Except.mapError]

theorem toSettings_put {layer : Layer} {members : Keyed Datum} {settings : Settings}
    (understood : toSettings (.table layer members) = .ok settings) (datum : Datum) :
    toSettings (.table layer (members.put "profiles" datum)) =
      ((toProfiles datum).map fun profiles => { settings with profiles := profiles }).mapError
        (LoadFault.under "profiles") := by
  obtain ⟨name, named, understood⟩ := exists_of_bind understood
  obtain ⟨defaults, readDefaults, understood⟩ := exists_of_bind understood
  obtain ⟨profiles, readProfiles, understood⟩ := exists_of_bind understood
  cases understood
  cases result : toProfiles datum <;>
    simp [toSettings, member_put_of_ne, member_put_self, named, readDefaults, result, Except.map,
      Except.mapError, bind, Except.bind, pure, Except.pure]

/-! ## The variable in an environment -/

theorem laidOver_of_lower {lower : Option Datum} (noTable : ∀ datum ∈ lower, ¬ datum.IsTable)
    (upper : Datum) : laidOver lower upper = upper := by
  cases lower with
  | none => rfl
  | some lower =>
      have isNone := noTable lower rfl
      cases lower <;> first | exact absurd trivial isNone | (cases upper <;> rfl)

/-- The text field of an understood profile is no table. -/
theorem not_isTable_of_toProfile {record : Datum} {profile : Profile}
    (understood : toProfile record = .ok profile) (field : TextField) :
    ∀ datum ∈ record.at? [field.key], ¬ datum.IsTable := by
  intro datum found isTable
  rw [at?_singleton] at found
  cases record with
  | table layer members =>
      have inMembers := inMembers_of_toProfile understood
      have noText : ∀ value, toText field.expected datum ≠ .ok value :=
        fun value => rejectsTables_toText _ datum value isTable
      cases field with
      | server =>
          obtain ⟨value, -, read⟩ := exists_of_member found inMembers.server
          exact noText value read
      | token =>
          obtain ⟨value, -, read⟩ := exists_of_member found inMembers.token
          exact noText value read
      | tokenVariable =>
          obtain ⟨value, -, read⟩ := exists_of_member found inMembers.tokenVariable
          exact noText value read
      | certificate =>
          obtain ⟨value, -, read⟩ := exists_of_member found inMembers.certificate
          exact noText value read
  | _ => cases found

/-- A value at a key of a record lies in a table of the record's other members. -/
theorem laidOver_record {all record : Datum} {name key : String}
    (leads : all.at? [name] = some record)
    (noTable : ∀ datum ∈ record.at? [key], ¬ datum.IsTable) (datum : Datum) :
    laidOver (some all) (Variable.nest datum [name, key]) = .table .environment
      (all.members.put name (.table .environment (record.members.put key datum))) := by
  rw [laidOver_nest_cons, Option.bind_some, leads, laidOver_nest_cons, Option.bind_some,
    Variable.nest, laidOver_of_lower noTable]
  rfl

theorem layer_of_variable {before after : Environment} (silent : Silent (before ++ after))
    {variableName : String} {path : List String} (isPath : Variable.path? variableName = some path)
    (text : String) : Variable.layer (before ++ (variableName, text) :: after) =
      laidOver (some (.table .environment [])) (Variable.nest (Variable.datumOf text) path) := by
  obtain ⟨silentBefore, silentAfter⟩ := List.forall_mem_append.mp silent
  have asFold (environment : Environment) : Variable.layer environment =
      environment.foldl Variable.setOver (.table .environment []) := rfl
  rw [asFold, List.foldl_append, List.foldl_cons,
    Variable.foldl_setOver_of_silent silentBefore, Variable.foldl_setOver_of_silent silentAfter,
    Variable.setOver, isPath, laidOver]

section

variable {file : Option String} {before after : Environment} {settings : Settings}
  {name : String} {profile : Profile}

/-- What settings are loaded from without the environment: a name leads in all profiles to what the
file has for it. -/
theorem exists_profiles (silent : Silent (before ++ after))
    (loaded : load file (before ++ after) = .ok settings) :
    ∃ below all, fileLayer file = .ok (.table .file below) ∧
      (overlayMembers builtIn.members below).find? "profiles" = some all ∧
      toSettings (.table .environment (overlayMembers builtIn.members below)) = .ok settings ∧
      toProfiles all = .ok settings.profiles ∧
      ∀ name, all.at? [name] = (Datum.table .file below).at? ["profiles", name] := by
  obtain ⟨below, above, isFile, isEnvironment, orderedFile, -, understood⟩ :=
    exists_loadedFrom loaded
  obtain rfl : [] = above := by simpa [layer_of_silent silent] using isEnvironment
  obtain ⟨all, allFound, whole⟩ :=
    exists_of_builtIn orderedFile (List.Pairwise.nil : Keyed.Ordered []) "profiles" rfl
  obtain ⟨-, -, profiles, readProfiles, isProfiles⟩ := members_of_toSettings understood
  obtain ⟨each, rfl, understoodProfiles⟩ := exists_of_member allFound readProfiles
  rw [overlayMembers] at allFound understood
  refine ⟨below, all, isFile, allFound, understood, isProfiles ▸ understoodProfiles, fun name => ?_⟩
  have joinedBelow : joined (some (.table .builtIn []))
      ((Datum.table .file below).at? ["profiles"]) = some all := whole
  have leads := at?_joined_empty .builtIn (isOrdered_at? (tidy_fileLayer isFile) ["profiles"]) name
  rw [joinedBelow, Option.bind_some, ← at?_append] at leads
  exact leads

/-- The record of a profile in the file, and what a variable for a text field makes of it. -/
theorem exists_record (silent : Silent (before ++ after))
    (loaded : load file (before ++ after) = .ok settings)
    (found : settings.profiles.find? name = some profile) (plain : IsPlainName name) :
    ∃ written record, fileLayer file = .ok written ∧
      written.at? ["profiles", name] = some record ∧ toProfile record = .ok profile ∧
      ∀ field text, load file (before ++ (TextField.variableName field name, text) :: after) =
        ((toProfile (.table .environment
            (record.members.put field.key (Variable.datumOf text)))).map fun changed =>
          { settings with profiles := settings.profiles.put name changed }).mapError
            fun fault => (fault.under name).under "profiles" := by
  obtain ⟨below, all, isFile, allFound, understood, understoodProfiles, inFile⟩ :=
    exists_profiles silent loaded
  obtain ⟨isTable, -, inner⟩ := at?_of_toProfiles understoodProfiles
  obtain ⟨record, isRecord, understoodRecord⟩ := inner name profile found
  refine ⟨_, record, isFile, (inFile name).symm.trans isRecord, understoodRecord,
    fun field text => ?_⟩
  have layer := layer_of_variable silent (path?_variableName plain field) text
  rw [laidOver_nest_cons] at layer
  have whole : layers file (before ++ (field.variableName name, text) :: after) =
      .ok (.table .environment (overlayMembers (overlayMembers builtIn.members below)
        [("profiles", Variable.nest (Variable.datumOf text) [name, field.key])])) := by
    rw [layers, isFile, layer]
    rfl
  have isAll : load file (before ++ (field.variableName name, text) :: after) =
      toSettings (.table .environment ((overlayMembers builtIn.members below).put "profiles"
        (laidOver (some all) (Variable.nest (Variable.datumOf text) [name, field.key])))) := by
    rw [load, whole]
    simp only [overlayMembers, allFound, laidOver]
  obtain ⟨tableLayer, members, rfl⟩ : ∃ layer members, all = .table layer members := by
    cases all <;> first | exact ⟨_, _, rfl⟩ | exact absurd isTable id
  have present : name ∈ Keyed.keys members :=
    List.mem_map_of_mem (Keyed.mem_of_find? ((at?_singleton name _).symm.trans isRecord))
  rw [isAll, toSettings_put understood,
    laidOver_record isRecord (not_isTable_of_toProfile understoodRecord field), toProfiles,
    Datum.members, profilesOf_put understoodProfiles present]
  cases toProfile _ <;> rfl

theorem toText_of_not_text {datum : Datum} (noText : ∀ layer value, datum ≠ .text layer value)
    (expected : String) : toText expected datum = .error (datum.wrongType expected) := by
  cases datum with
  | text layer value => exact absurd rfl (noText layer value)
  | _ => rfl

/-- A variable for a text field of a profile, beside variables of other programs.  Where its text is
read as a text and the file has the profile as a table, the field has what is read, and nothing else
changes; a list of fields in the file gives way to the field alone.  Where the text is read as
anything else, the settings are refused.  Texts that stay as they are are read as themselves. -/
theorem text_field_from_environment (silent : Silent (before ++ after))
    (loaded : load file (before ++ after) = .ok settings)
    (found : settings.profiles.find? name = some profile) (plain : IsPlainName name)
    (field : TextField) (text : String) :
    let environment := before ++ (field.variableName name, text) :: after
    ∃ written record, fileLayer file = .ok written ∧
      written.at? ["profiles", name] = some record ∧
      (∀ layer value, Variable.datumOf text = .text layer value → record.IsTable →
        load file environment = .ok { settings with
          profiles := settings.profiles.put name (field.set value profile) }) ∧
      (∀ layer value, Variable.datumOf text = .text layer value → ¬ record.IsTable →
        load file environment = if field = .server then
            .ok { settings with profiles := settings.profiles.put name (.ofServer value) }
          else .error ⟨.fieldMissing "server", ["profiles", name], some .environment⟩) ∧
      ((∀ layer value, Variable.datumOf text ≠ .text layer value) →
        load file environment = .error ⟨.wrongType (Variable.datumOf text).found field.expected,
          ["profiles", name, field.key], some .environment⟩) ∧
      (Variable.StaysText text → Variable.datumOf text = .text .environment text) := by
  intro environment
  obtain ⟨written, record, isFile, isRecord, understood, outcome⟩ :=
    exists_record silent loaded found plain
  have noMembers (noTable : ¬ record.IsTable) : record.members = [] := by
    cases record <;> first | rfl | exact absurd trivial noTable
  refine ⟨written, record, isFile, isRecord, fun layer value isText isTable => ?_,
    fun layer value isText noTable => ?_, fun noText => ?_, Variable.datumOf_of_staysText⟩
  · cases record <;> first | exact absurd isTable id | skip
    rw [outcome, Datum.members, toProfile_put understood, isText]
    rfl
  · rw [outcome, noMembers noTable, toProfile_alone, isText]
    by_cases isServer : field = .server <;> simp [isServer, toText, Except.map, Except.mapError,
      Except.bind, LoadFault.under]
  · rw [outcome]
    have fault := toText_of_not_text noText field.expected
    rw [Datum.wrongType, Variable.layer_datumOf] at fault
    cases record with
    | table layer members =>
        rw [Datum.members, toProfile_put understood, fault]
        rfl
    | _ =>
        rw [noMembers id, toProfile_alone, fault]
        rfl

end

/-- A token for the hub at home is a text, and nothing else changes. -/
theorem token_from_environment :
    let file := some "[profiles.home]\nserver = \"http://hub.local\"\ninsecure = true\n"
    let home : Profile := { Profile.ofServer "http://hub.local" with insecure := some true }
    let settings : Settings := { usual with profiles := [("home", home)] }
    let others : Environment := [("HOME", "/home/me")]
    TextField.token.variableName "home" = "DEVGRID_PROFILES__HOME__TOKEN" ∧
      Silent others ∧ load file others = .ok settings ∧
      settings.profiles.find? "home" = some home ∧ IsPlainName "home" ∧
      load file ((TextField.token.variableName "home", "s3cret") :: others) = .ok { settings with
        profiles := settings.profiles.put "home" { home with token := some "s3cret" } } := by
  intro file home settings others
  have silent : Silent ([] ++ others) := by
    unfold Silent Variable.IsOurs
    decide
  have loaded : load file ([] ++ others) = .ok settings := by decide +kernel
  have plain : IsPlainName "home" := by decide
  have isTable : ((fileLayer file).toOption.bind (at? ["profiles", "home"])).all
      fun record => decide record.IsTable := by decide +kernel
  obtain ⟨written, record, isFile, isRecord, ofTable, -, -, stays⟩ :=
    text_field_from_environment silent loaded rfl plain .token "s3cret"
  have kind : record.IsTable := by simpa [isFile, Except.toOption, isRecord] using isTable
  have isText : Variable.datumOf "s3cret" = .text .environment "s3cret" :=
    stays ⟨by rintro c ⟨⟩; decide, by rintro c ⟨⟩; decide, by decide, 's', by decide, by decide⟩
  exact ⟨by decide +kernel, silent, loaded, rfl, plain, ofTable _ _ isText kind⟩

/-- A number is no token, although it is a text. -/
theorem number_is_no_token :
    let file := some "[profiles.home]\nserver = \"http://hub.local\"\n"
    let settings : Settings := { usual with profiles := [("home", .ofServer "http://hub.local")] }
    load file [] = .ok settings ∧ IsPlainName "home" ∧ "5" ≠ "" ∧
      settings.profiles.find? "home" = some (.ofServer "http://hub.local") ∧
      load file [(TextField.token.variableName "home", "5")] =
        .error ⟨.wrongType (.unsigned 5) "a string", ["profiles", "home", "token"],
          some .environment⟩ := by
  decide +kernel

end DevicePanel.Settings
