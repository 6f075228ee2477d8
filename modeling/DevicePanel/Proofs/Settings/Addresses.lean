import DevicePanel.Console.Run
import DevicePanel.Proofs.Hub.Bases
import DevicePanel.Proofs.Settings.Connecting

/-!
# Accepted addresses

A text that can be read as an address is accepted as that of a hub by its scheme alone.  However a
web address is written, it has a host and a path of segments, so that each accepted address serves
as a base.  Both programs have the address of their hub from a text that was accepted.  So whatever
keeps them from having a client, it is never that the address is no base, and each request of a
client that they have goes to a place below it.
-/

namespace DevicePanel

/-! ## Results -/

section

variable {ε δ α β : Type} {result : Except ε α}

theorem error_of_map {f : α → β} {fault : ε} (failed : result.map f = .error fault) :
    result = .error fault := by
  cases result with
  | error cause => exact congrArg Except.error (Except.error.inj failed)
  | ok value => cases failed

theorem exists_of_mapError {f : ε → δ} {fault : δ} (failed : result.mapError f = .error fault) :
    ∃ cause, result = .error cause ∧ f cause = fault := by
  cases result with
  | error cause => exact ⟨cause, rfl, Except.error.inj failed⟩
  | ok value => cases failed

end

/-! ## Reports -/

/-- What is reported of an address that is no base. -/
def noBase (url : String) : ListingFault := (Hub.Fault.badBase url).toListingFault

theorem misconfigured_ne_noBase {reason : String} (other : reason.toList.head? ≠ some 'B')
    (url : String) : ListingFault.misconfigured reason ≠ noBase url := by
  intro same
  obtain rfl := ListingFault.misconfigured.inj same
  simp at other

theorem Console.invalid_ne_noBase {reason : String} (other : reason.toList.head? ≠ some 'B')
    (field url : String) : Fault.invalid field reason ≠ .ofListing (noBase url) := by
  intro same
  obtain ⟨-, rfl⟩ := Fault.invalid.inj same
  simp at other

/-! ## Texts -/

namespace Settings

theorem servesAsBase_of_serverUrl {text : String} {url : Url}
    (accepted : serverUrl text = .ok url) : url.ServesAsBase := by
  unfold serverUrl at accepted
  split at accepted
  · cases accepted
  · rename_i read
    split at accepted
    · rename_i web
      cases accepted
      obtain ⟨parts, -, path, -⟩ := Url.shape_of_ofText read web
      exact Url.servesAsBase_of_canBeBase (Url.canBeBase_iff.mpr ⟨parts, path⟩)
    · cases accepted

theorem ofSettings_ne_noBase {text : String} {fault : Fault}
    (refused : serverUrl text = .error fault) (url : String) :
    Console.Fault.ofSettings fault ≠ .ofListing (noBase url) := by
  unfold serverUrl at refused
  split at refused
  · cases refused
    exact Console.invalid_ne_noBase (by simp) "server" url
  · split at refused
    · cases refused
    · cases refused
      exact Console.invalid_ne_noBase (by simp) "server" url

end Settings

/-! ## Clients -/

/-- A client is made for a base, or the fault is reported as one that begins in another way than the
report of an address that is no base. -/
theorem Connection.client_cases {connection : Connection} (serves : connection.url.ServesAsBase)
    (certificates : Hub.Client.Certificates) :
    (∃ client, connection.client certificates = .ok client ∧ client.base = connection.url) ∨
      ∃ fault reason, connection.client certificates = .error fault ∧
        fault.toListingFault = .misconfigured reason ∧ reason.toList.head? ≠ some 'B' := by
  obtain made | told | ⟨reason, told⟩ := Hub.Client.create_cases serves.canBeBase certificates
    connection.token connection.trust connection.timeout connection.encoding
  · exact Or.inl ⟨_, made, rfl⟩
  · exact Or.inr ⟨_, _, told, rfl, by simp⟩
  · exact Or.inr ⟨_, _, told, rfl, by simp⟩

section

variable {file : Option String} {environment : Environment} {keyring : Keyring}
  {connection : Connection}

namespace Console

variable {options : Options} {home : String}

theorem servesAsBase_of_connection
    (reached : Console.connection options home file environment keyring = .ok connection) :
    connection.url.ServesAsBase := by
  obtain ⟨profile, found, -, connected, rfl⟩ := (connection_eq_ok_iff_addressed home).mp reached
  have accepted : Settings.serverUrl profile.server = .ok found.url :=
    Settings.Profile.serverUrl_of_connection connected
  exact Settings.servesAsBase_of_serverUrl accepted

theorem ne_noBase_of_resolve {settings : Settings} {name : String} {profile : Settings.Profile}
    {fault : Fault}
    (refused : resolve options settings name profile environment keyring = .error fault)
    (url : String) : fault ≠ .ofListing (noBase url) := by
  unfold resolve at refused
  dsimp only at refused
  split at refused
  · cases refused
  · rename_i unreached
    cases refused
    exact Settings.ofSettings_ne_noBase (error_of_map unreached) url

theorem ne_noBase_of_connection {fault : Fault}
    (refused : Console.connection options home file environment keyring = .error fault)
    (url : String) : fault ≠ .ofListing (noBase url) := by
  unfold Console.connection at refused
  dsimp only at refused
  split at refused
  · exact ne_noBase_of_resolve refused url
  · exact ne_noBase_of_resolve refused url
  · -- There is neither a profile nor an address.
    split at refused
    · cases refused
      nofun
    · cases refused
      nofun

end Console

namespace Dashboard

variable {options : Options}

theorem servesAsBase_of_connection
    (reached : Dashboard.connection options file environment keyring = .ok connection) :
    connection.url.ServesAsBase := by
  cases given : options.server with
  | none =>
      obtain ⟨found, ⟨settings, profile, -, -, connected⟩, rfl⟩ :=
        (connection_eq_ok_iff given).mp reached
      have accepted : Settings.serverUrl profile.server = .ok found.url :=
        Settings.Profile.serverUrl_of_connection connected
      exact Settings.servesAsBase_of_serverUrl accepted
  | some server =>
      simp only [Dashboard.connection, given, serverConnection] at reached
      cases accepted : Settings.serverUrl server with
      | error fault =>
          rw [accepted] at reached
          cases reached
      | ok url =>
          rw [accepted] at reached
          cases reached
          exact Settings.servesAsBase_of_serverUrl accepted

/-- Where there is no connection, there is nothing to report of a hub. -/
theorem ne_hub_of_connection {fault : StartFault}
    (refused : Dashboard.connection options file environment keyring = .error fault)
    (report : ListingFault) : fault ≠ .hub report := by
  unfold Dashboard.connection at refused
  dsimp only at refused
  replace refused := error_of_map refused
  split at refused
  · obtain ⟨cause, -, rfl⟩ := exists_of_mapError refused
    nofun
  · unfold profileConnection at refused
    split at refused
    · cases refused
      nofun
    · dsimp only at refused
      split at refused
      · cases refused
        split <;> nofun
      · obtain ⟨cause, -, rfl⟩ := exists_of_mapError refused
        nofun

end Dashboard

end

/-- Each text that is accepted as the address of a hub leads to an address that serves as a base:
clients are made of it, they are never refused for it, and any segments have a place below it, with
the same scheme, host and port.  Work of the command-line program with a hub is done with a client
of such an address, or it fails in another way than by an address that is no base, and the dashboard
starts with such a client or stops in another way than that. -/
theorem accepted_address_serves_as_base :
    (∀ text url, Settings.serverUrl text = .ok url → url.ServesAsBase) ∧
    (∀ (options : Console.Options) (surroundings : Console.Surroundings)
        (work : Connection → Hub.Client → Console.Outcome),
      (∃ connection client, Console.connection options surroundings.home surroundings.file
            surroundings.environment surroundings.keyring = .ok connection ∧
          connection.client surroundings.certificates = .ok client ∧
          client.base = connection.url ∧ client.base.ServesAsBase ∧
          Console.withHub options surroundings work = work connection client) ∨
        ∃ fault, (∀ url, fault ≠ .ofListing (noBase url)) ∧
          Console.withHub options surroundings work = .failed fault) ∧
    (∀ (options : Dashboard.Options) (file : Option String) (environment : Environment)
        (keyring : Keyring) (certificates : Hub.Client.Certificates),
      let started := (Dashboard.connection options file environment keyring).bind fun connection =>
        Dashboard.client connection certificates
      (∃ connection client,
          Dashboard.connection options file environment keyring = .ok connection ∧
          client.base = connection.url ∧ client.base.ServesAsBase ∧
          started = .ok (client, connection.url.toText)) ∨
        ∃ fault, (∀ url, fault ≠ .hub (noBase url)) ∧ started = .error fault) := by
  refine ⟨fun _ _ => Settings.servesAsBase_of_serverUrl, ?_, ?_⟩
  · intro options surroundings work
    cases reached : Console.connection options surroundings.home surroundings.file
        surroundings.environment surroundings.keyring with
    | error fault =>
        refine Or.inr ⟨fault, Console.ne_noBase_of_connection reached, ?_⟩
        simp only [Console.withHub, reached]
    | ok connection =>
        have serves := Console.servesAsBase_of_connection reached
        obtain ⟨client, made, base⟩ | ⟨fault, reason, told, report, other⟩ :=
          connection.client_cases serves surroundings.certificates
        · refine Or.inl ⟨connection, client, rfl, made, base, base ▸ serves, ?_⟩
          simp only [Console.withHub, reached, made]
        · refine Or.inr ⟨.invalid "server" reason, Console.invalid_ne_noBase other "server", ?_⟩
          simp only [Console.withHub, reached, told, report, Console.Fault.ofListing]
  · intro options file environment keyring certificates started
    cases reached : Dashboard.connection options file environment keyring with
    | error fault =>
        refine Or.inr ⟨fault, fun url => Dashboard.ne_hub_of_connection reached (noBase url), ?_⟩
        simp only [started, reached, Except.bind]
    | ok connection =>
        have serves := Dashboard.servesAsBase_of_connection reached
        obtain ⟨client, made, base⟩ | ⟨fault, reason, told, report, other⟩ :=
          connection.client_cases serves certificates
        · refine Or.inl ⟨connection, client, rfl, base, base ▸ serves, ?_⟩
          simp only [started, reached, Except.bind, Dashboard.client, made]
        · refine Or.inr ⟨.hub (.misconfigured reason), fun url same => ?_, ?_⟩
          · exact misconfigured_ne_noBase other url (Dashboard.StartFault.hub.inj same)
          · simp only [started, reached, Except.bind, Dashboard.client, told, report]

/-- An address in large letters, without slashes before its host, with a user, a port and a
backslash is a base.  An address of mail is none. -/
theorem slashless_address_serves_as_base :
    let text := "HTTP:me@Hub:08080\\panel/../x"
    let hub : Url := ⟨"http".toList, ⟨"me".toList, []⟩, some (.domain "hub".toList), some 8080,
      .segments ["x".toList], none, none⟩
    let mail : Url := ⟨"mailto".toList, ⟨[], []⟩, none, none, .opaquePath "a@b".toList, none, none⟩
    let client : Hub.Client := ⟨hub, none, 30000, .json⟩
    let certificates : Hub.Client.Certificates := fun _ => .error "no file"
    Settings.serverUrl text = .ok hub ∧
    Hub.Client.create certificates hub none .system 30000 .json = .ok client ∧
    (∃ place, client.place? ["device", "porch light/1"] = .ok place ∧ place.scheme = hub.scheme ∧
      place.host = hub.host ∧ place.port = hub.port ∧
      place.toText = "http://me@hub:8080/x/api/device/porch%20light%2F1") ∧
    Url.ofText "mailto:a@b" = .ok mail ∧
    Hub.Client.create certificates mail none .system 30000 .json =
      .error (.badBase "mailto:a@b") := by
  intro text hub mail client certificates
  have accepted : Settings.serverUrl text = .ok hub := by decide +kernel
  have serves := accepted_address_serves_as_base.1 text hub accepted
  have usable : Hub.Client.Usable certificates none .system := ⟨rfl, nofun⟩
  obtain ⟨place, found, sent, scheme, host, port⟩ :=
    serves.placed client rfl ["device", "porch light/1"]
  refine ⟨accepted, serves.created _ _ _ _ _ usable, ⟨place, found, scheme, host, port, ?_⟩,
    by decide +kernel, by decide +kernel⟩
  rw [← sent]
  decide +kernel

end DevicePanel
