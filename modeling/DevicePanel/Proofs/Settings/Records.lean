import DevicePanel.Proofs.Settings.Paths

/-!
# Understood records

The defaults and a profile are records.  A record is a table of its fields, or a list of them in
their order, and each field of a value is understood from what the record says about it.  What is
understood as the value of a field is never a table.
-/

namespace DevicePanel.Settings

open Datum

/-! ## Records -/

/-- The fields of the defaults in their order. -/
def Defaults.fieldNames : List String :=
  ["output", "color", "insecure", "timeout", "dispatch_timeout"]

/-- The fields of a profile in their order. -/
def Profile.fieldNames : List String :=
  ["server", "token", "token_env", "ca_cert", "insecure", "timeout", "dispatch_timeout",
    "dispatch_policy", "body_encoding"]

/-- What a record says about a field; it is a table, or a list of its fields in their order. -/
def Datum.field? (fields : List String) (key : String) : Datum → Option Datum
  | .table _ members => Keyed.find? key members
  | .list _ items => items[fields.idxOf key]?
  | _ => none

theorem Datum.field?_of_isTable {datum : Datum} (isTable : datum.IsTable)
    (fieldNames : List String) (key : String) : datum.field? fieldNames key = datum.at? [key] := by
  rw [at?_singleton]
  cases datum <;> first | rfl | exact absurd isTable id

/-- The value is understood from what is given, and it is the usual one if nothing is given. -/
def IsRead {α : Type} (read : Datum → Except LoadFault α) (usual : α) : Option Datum → α → Prop
  | none, value => value = usual
  | some datum, value => read datum = .ok value

/-- What is understood as a value is understood as a value that there may be. -/
def optionally {α : Type} (read : Datum → Except LoadFault α) (datum : Datum) :
    Except LoadFault (Option α) := (read datum).map some

/-- The defaults are understood from what is given for their fields. -/
structure Defaults.AreRead (given : String → Option Datum) (defaults : Defaults) : Prop where
  output : IsRead toPhrase Defaults.usual.output (given "output") defaults.output
  color : IsRead toPhrase Defaults.usual.color (given "color") defaults.color
  insecure : IsRead toBool Defaults.usual.insecure (given "insecure") defaults.insecure
  timeout : IsRead toNatural Defaults.usual.timeout (given "timeout") defaults.timeout
  dispatchTimeout : IsRead toNatural Defaults.usual.dispatchTimeout (given "dispatch_timeout")
    defaults.dispatchTimeout

/-- The profile is understood from what is given for its fields. -/
structure Profile.IsRead (given : String → Option Datum) (profile : Profile) : Prop where
  server : Settings.IsRead (optionally toPhrase) none (given "server") (some profile.server)
  token : Settings.IsRead (optionally toPhrase) none (given "token") profile.token
  tokenVariable : Settings.IsRead (optionally toPhrase) none (given "token_env")
    profile.tokenVariable
  certificate : Settings.IsRead (optionally toPath) none (given "ca_cert") profile.certificate
  insecure : Settings.IsRead (optionally toBool) none (given "insecure") profile.insecure
  timeout : Settings.IsRead (optionally toNatural) none (given "timeout") profile.timeout
  dispatchTimeout : Settings.IsRead (optionally toNatural) none (given "dispatch_timeout")
    profile.dispatchTimeout
  policy : Settings.IsRead (optionally toPolicy) none (given "dispatch_policy") profile.policy
  encoding : Settings.IsRead (optionally toEncoding) none (given "body_encoding") profile.encoding

section

variable {α : Type} {read : Datum → Except LoadFault α} {given : Option Datum}

theorem isRead_of_mapM {value : Option α} (understood : given.mapM read = .ok value) (usual : α) :
    IsRead read usual given (value.getD usual) := by
  cases given with
  | none =>
      cases understood
      rfl
  | some datum =>
      rw [Option.mapM_some] at understood
      obtain ⟨value, isRead, same⟩ := exists_of_bind understood
      cases same
      exact isRead

theorem isRead_optionally_of_mapM {value : Option α} (understood : given.mapM read = .ok value) :
    IsRead (optionally read) none given value := by
  cases given with
  | none =>
      cases understood
      rfl
  | some datum => exact understood

theorem mapM_of_member {key : String} {members : Keyed Datum} {value : Option α}
    (understood : member key read members = .ok value) :
    (members.find? key).mapM read = .ok value := by
  unfold member at understood
  split at understood
  · rename_i absent
    rw [absent]
    exact understood
  · rename_i datum present
    split at understood
    · rename_i result isRead
      cases understood
      rw [present, Option.mapM_some, isRead]
      rfl
    · cases understood

theorem mapM_of_item {place : Nat} {items : List Datum} {value : Option α}
    (understood : item place read items = .ok value) : items[place]?.mapM read = .ok value := by
  unfold item at understood
  split at understood
  · rename_i absent
    rw [absent]
    exact understood
  · rename_i datum present
    split at understood
    · rename_i result isRead
      cases understood
      rw [present, Option.mapM_some, isRead]
      rfl
    · cases understood

theorem mapM_of_neededItem {layer : Layer} {expected : String} {place : Nat} {items : List Datum}
    {value : α} (understood : neededItem layer expected place read items = .ok value) :
    items[place]?.mapM read = .ok (some value) := by
  unfold neededItem at understood
  split at understood
  · rename_i found
    cases understood
    exact mapM_of_item found
  · cases understood
  · cases understood

/-- What is understood is no table. -/
def RejectsTables (read : Datum → Except LoadFault α) : Prop :=
  ∀ datum value, datum.IsTable → read datum ≠ .ok value

theorem rejectsTables_optionally (rejects : RejectsTables read) :
    RejectsTables (optionally read) := by
  intro datum value isTable understood
  obtain ⟨inner, isRead, -⟩ := exists_of_bind understood
  exact rejects datum inner isTable isRead

end

theorem rejectsTables_toText (expected : String) : RejectsTables (toText expected) := by
  intro datum value isTable understood
  cases datum with
  | table => cases understood
  | _ => exact isTable

theorem rejectsTables_toBool : RejectsTables toBool := by
  intro datum value isTable understood
  cases datum with
  | table => cases understood
  | _ => exact isTable

theorem rejectsTables_toNatural : RejectsTables toNatural := by
  intro datum value isTable understood
  cases datum with
  | table => cases understood
  | _ => exact isTable

/-- No choice is a table, for no choice has a value of its own. -/
theorem rejectsTables_toChoice {α : Type} (type : String) (choices : List (String × α)) :
    RejectsTables (toChoice type choices) := by
  intro datum value isTable understood
  cases datum with
  | table layer members =>
      cases members with
      | nil => cases understood
      | cons pair members =>
          simp only [toChoice] at understood
          split at understood <;> cases understood
  | _ => exact isTable

/-! ## Understood records -/

theorem areRead_toDefaults {datum : Datum} {defaults : Defaults}
    (understood : toDefaults datum = .ok defaults) :
    ¬ datum.IsScalar ∧
      defaults.AreRead fun key => datum.field? Defaults.fieldNames key := by
  cases datum with
  | table layer members =>
      obtain ⟨color, readColor, understood⟩ := exists_of_bind understood
      obtain ⟨dispatchTimeout, readDispatchTimeout, understood⟩ := exists_of_bind understood
      obtain ⟨insecure, readInsecure, understood⟩ := exists_of_bind understood
      obtain ⟨output, readOutput, understood⟩ := exists_of_bind understood
      obtain ⟨timeout, readTimeout, understood⟩ := exists_of_bind understood
      cases understood
      exact ⟨id, {
        output := isRead_of_mapM (mapM_of_member readOutput) _
        color := isRead_of_mapM (mapM_of_member readColor) _
        insecure := isRead_of_mapM (mapM_of_member readInsecure) _
        timeout := isRead_of_mapM (mapM_of_member readTimeout) _
        dispatchTimeout := isRead_of_mapM (mapM_of_member readDispatchTimeout) _ }⟩
  | list layer items =>
      obtain ⟨output, readOutput, understood⟩ := exists_of_bind understood
      obtain ⟨color, readColor, understood⟩ := exists_of_bind understood
      obtain ⟨insecure, readInsecure, understood⟩ := exists_of_bind understood
      obtain ⟨timeout, readTimeout, understood⟩ := exists_of_bind understood
      obtain ⟨dispatchTimeout, readDispatchTimeout, understood⟩ := exists_of_bind understood
      cases understood
      exact ⟨id, {
        output := isRead_of_mapM (mapM_of_item readOutput) _
        color := isRead_of_mapM (mapM_of_item readColor) _
        insecure := isRead_of_mapM (mapM_of_item readInsecure) _
        timeout := isRead_of_mapM (mapM_of_item readTimeout) _
        dispatchTimeout := isRead_of_mapM (mapM_of_item readDispatchTimeout) _ }⟩
  | _ => cases understood

/-- The members of a table that is understood as a profile. -/
structure Profile.InMembers (members : Keyed Datum) (profile : Profile) : Prop where
  server : member "server" toPhrase members = .ok (some profile.server)
  token : member "token" toPhrase members = .ok profile.token
  tokenVariable : member "token_env" toPhrase members = .ok profile.tokenVariable
  certificate : member "ca_cert" toPath members = .ok profile.certificate
  insecure : member "insecure" toBool members = .ok profile.insecure
  timeout : member "timeout" toNatural members = .ok profile.timeout
  dispatchTimeout : member "dispatch_timeout" toNatural members = .ok profile.dispatchTimeout
  policy : member "dispatch_policy" toPolicy members = .ok profile.policy
  encoding : member "body_encoding" toEncoding members = .ok profile.encoding

theorem inMembers_of_toProfile {layer : Layer} {members : Keyed Datum} {profile : Profile}
    (understood : toProfile (.table layer members) = .ok profile) : profile.InMembers members := by
  obtain ⟨encoding, readEncoding, understood⟩ := exists_of_bind understood
  obtain ⟨certificate, readCertificate, understood⟩ := exists_of_bind understood
  obtain ⟨policy, readPolicy, understood⟩ := exists_of_bind understood
  obtain ⟨dispatchTimeout, readDispatchTimeout, understood⟩ := exists_of_bind understood
  obtain ⟨insecure, readInsecure, understood⟩ := exists_of_bind understood
  obtain ⟨server, readServer, understood⟩ := exists_of_bind understood
  obtain ⟨timeout, readTimeout, understood⟩ := exists_of_bind understood
  obtain ⟨token, readToken, understood⟩ := exists_of_bind understood
  obtain ⟨tokenVariable, readTokenVariable, understood⟩ := exists_of_bind understood
  cases server with
  | none => cases understood
  | some server =>
      cases understood
      exact ⟨readServer, readToken, readTokenVariable, readCertificate, readInsecure, readTimeout,
        readDispatchTimeout, readPolicy, readEncoding⟩

theorem isRead_toProfile {datum : Datum} {profile : Profile}
    (understood : toProfile datum = .ok profile) :
    ¬ datum.IsScalar ∧
      profile.IsRead fun key => datum.field? Profile.fieldNames key := by
  cases datum with
  | table layer members =>
      have inMembers := inMembers_of_toProfile understood
      exact ⟨id, {
        server := isRead_optionally_of_mapM (mapM_of_member inMembers.server)
        token := isRead_optionally_of_mapM (mapM_of_member inMembers.token)
        tokenVariable := isRead_optionally_of_mapM (mapM_of_member inMembers.tokenVariable)
        certificate := isRead_optionally_of_mapM (mapM_of_member inMembers.certificate)
        insecure := isRead_optionally_of_mapM (mapM_of_member inMembers.insecure)
        timeout := isRead_optionally_of_mapM (mapM_of_member inMembers.timeout)
        dispatchTimeout := isRead_optionally_of_mapM (mapM_of_member inMembers.dispatchTimeout)
        policy := isRead_optionally_of_mapM (mapM_of_member inMembers.policy)
        encoding := isRead_optionally_of_mapM (mapM_of_member inMembers.encoding) }⟩
  | list layer items =>
      obtain ⟨server, readServer, understood⟩ := exists_of_bind understood
      obtain ⟨token, readToken, understood⟩ := exists_of_bind understood
      obtain ⟨tokenVariable, readTokenVariable, understood⟩ := exists_of_bind understood
      obtain ⟨certificate, readCertificate, understood⟩ := exists_of_bind understood
      obtain ⟨insecure, readInsecure, understood⟩ := exists_of_bind understood
      obtain ⟨timeout, readTimeout, understood⟩ := exists_of_bind understood
      obtain ⟨dispatchTimeout, readDispatchTimeout, understood⟩ := exists_of_bind understood
      obtain ⟨policy, readPolicy, understood⟩ := exists_of_bind understood
      obtain ⟨encoding, readEncoding, understood⟩ := exists_of_bind understood
      cases understood
      exact ⟨id, {
        server := isRead_optionally_of_mapM (mapM_of_neededItem readServer)
        token := isRead_optionally_of_mapM (mapM_of_neededItem readToken)
        tokenVariable := isRead_optionally_of_mapM (mapM_of_neededItem readTokenVariable)
        certificate := isRead_optionally_of_mapM (mapM_of_neededItem readCertificate)
        insecure := isRead_optionally_of_mapM (mapM_of_neededItem readInsecure)
        timeout := isRead_optionally_of_mapM (mapM_of_neededItem readTimeout)
        dispatchTimeout := isRead_optionally_of_mapM (mapM_of_neededItem readDispatchTimeout)
        policy := isRead_optionally_of_mapM (mapM_of_neededItem readPolicy)
        encoding := isRead_optionally_of_mapM (mapM_of_neededItem readEncoding) }⟩
  | _ => cases understood

/-! ## Understood profiles -/

theorem exists_of_find?_profilesOf {data : Keyed Datum} {profiles : Keyed Profile}
    (understood : profilesOf data = .ok profiles) {name : String} {profile : Profile}
    (found : profiles.find? name = some profile) :
    ∃ datum, data.find? name = some datum ∧ toProfile datum = .ok profile := by
  induction data generalizing profiles with
  | nil =>
      cases understood
      cases found
  | cons pair data ih =>
      obtain ⟨key, datum⟩ := pair
      obtain ⟨own, later, first, others, rfl⟩ := exists_of_profilesOf_cons understood
      by_cases same : key = name
      · obtain rfl : own = profile := by simpa [Keyed.find?, same] using found
        exact ⟨datum, if_pos same, first⟩
      · obtain ⟨datum, present, isProfile⟩ :=
          ih others (by simpa [Keyed.find?, same] using found)
        exact ⟨datum, (if_neg same).trans present, isProfile⟩

theorem at?_of_toProfiles {datum : Datum} {profiles : Keyed Profile}
    (understood : toProfiles datum = .ok profiles) :
    datum.IsTable ∧ (∀ name, name ∈ profiles.keys ↔ (datum.at? [name]).isSome) ∧
      ∀ name profile, profiles.find? name = some profile →
        ∃ inner, datum.at? [name] = some inner ∧ toProfile inner = .ok profile := by
  cases datum with
  | table layer members =>
      refine ⟨trivial, fun name => ?_, fun name profile found => ?_⟩
      · rw [keys_profilesOf understood, at?_singleton]
        exact Keyed.isSome_find?_iff.symm
      · rw [at?_singleton]
        exact exists_of_find?_profilesOf understood found
  | _ => cases understood

end DevicePanel.Settings
