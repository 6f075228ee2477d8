import DevicePanel.Console.Connect
import Mathlib.Data.List.Basic

/-!
# What the options change about a connection

Whether the settings have a profile or an address stands in for one, the connection comes from a
profile, and the options change it afterwards.  The address of the profile decides nothing but the
address of the connection, and each other option changes the one field that it is about.
-/

namespace DevicePanel

namespace Console

/-- What an option can tell about a connection. -/
inductive Wish where
  | server
  | token
  | insecure
  | timeout
  | dispatchTimeout
  | encoding
deriving Repr, DecidableEq

/-- The options ask for the same profile, and for the same connection but for one wish. -/
structure Options.AgreeBut (wish : Wish) (first second : Options) : Prop where
  profile : first.profile = second.profile
  server : wish ≠ .server → first.server = second.server
  token : wish ≠ .token → first.token = second.token
  insecure : wish ≠ .insecure → first.insecure = second.insecure
  timeout : wish ≠ .timeout → first.timeout = second.timeout
  dispatchTimeout : wish ≠ .dispatchTimeout → first.dispatchTimeout = second.dispatchTimeout
  encoding : wish ≠ .encoding → first.encoding = second.encoding

end Console

open Console (Options Wish)

/-- The connections differ at most in the field that a wish is about. -/
structure Connection.AgreeBut (wish : Wish) (first second : Connection) : Prop where
  url : wish ≠ .server → first.url = second.url
  token : wish ≠ .token → first.token = second.token
  trust : wish ≠ .insecure → first.trust = second.trust
  timeout : wish ≠ .timeout → first.timeout = second.timeout
  dispatchTimeout : wish ≠ .dispatchTimeout → first.dispatchTimeout = second.dispatchTimeout
  encoding : wish ≠ .encoding → first.encoding = second.encoding
  policy : first.policy = second.policy

/-- The connection has all that the options tell about it. -/
structure Connection.Grants (options : Options) (connection : Connection) : Prop where
  url : ∀ text, options.server = some text → Settings.serverUrl text = .ok connection.url
  token : ∀ text, options.token = some text → connection.token = some text
  trust : options.insecure = true → connection.trust = .anyCertificate
  timeout : ∀ seconds, options.timeout = some seconds → connection.timeout = seconds * 1000
  dispatchTimeout : ∀ seconds, options.dispatchTimeout = some seconds →
    connection.dispatchTimeout = seconds * 1000
  encoding : ∀ encoding, options.encoding = some encoding → connection.encoding = encoding

section

variable {environment : Environment} {keyring : Keyring} {connection : Connection}

/-! ## The address of a profile -/

theorem Settings.Profile.serverUrl_of_connection {profile : Profile} {name : String}
    {defaults : Defaults}
    (reached : profile.connection name defaults environment keyring = .ok connection) :
    serverUrl profile.server = .ok connection.url := by
  unfold Profile.connection at reached
  cases address : serverUrl profile.server with
  | error fault => simp [address, Except.map] at reached
  | ok url =>
      rw [address] at reached
      cases reached
      rfl

/-- A profile with another address comes to the same connection at that address. -/
theorem Settings.Profile.connection_of_serverUrl {profile : Profile} {name : String}
    {defaults : Defaults}
    (reached : profile.connection name defaults environment keyring = .ok connection)
    {server : String} {url : Url} (address : serverUrl server = .ok url) :
    { profile with server }.connection name defaults environment keyring =
      .ok { connection with url } := by
  have before := serverUrl_of_connection reached
  unfold Profile.connection at reached ⊢
  rw [before] at reached
  rw [address, ← Except.ok.inj reached]
  rfl

namespace Console

/-! ## The profile that the options lead to -/

/-- The profile of the settings that is asked for, or one that has nothing but the address of the
options; the address of the options stands in it in any case. -/
def addressed? (options : Options) (settings : Settings) : Option Settings.Profile :=
  ((settings.profiles.find? (profileName options settings)).or
    (options.server.map Settings.Profile.ofServer)).map fun profile =>
      { profile with server := options.server.getD profile.server }

theorem server_of_addressed? {options : Options} {settings : Settings}
    {profile : Settings.Profile} (leads : addressed? options settings = some profile)
    {text : String} (given : options.server = some text) : profile.server = text := by
  obtain ⟨found, -, rfl⟩ := Option.map_eq_some_iff.mp leads
  simp [given]

/-- Options that ask for the same profile lead to profiles that differ at most in their address. -/
theorem addressed?_of_profile {first second : Options} (same : first.profile = second.profile)
    {settings : Settings} {one other : Settings.Profile}
    (leads : addressed? first settings = some one)
    (leadsOther : addressed? second settings = some other) :
    other = { one with server := other.server } := by
  obtain ⟨found, known, rfl⟩ := Option.map_eq_some_iff.mp leads
  obtain ⟨foundOther, knownOther, rfl⟩ := Option.map_eq_some_iff.mp leadsOther
  rw [profileName, ← same, ← profileName] at knownOther
  cases listed : settings.profiles.find? (profileName first settings) with
  | some profile =>
      rw [listed] at known knownOther
      cases known
      cases knownOther
      rfl
  | none =>
      rw [listed, Option.none_or, Option.map_eq_some_iff] at known knownOther
      obtain ⟨text, -, rfl⟩ := known
      obtain ⟨textOther, -, rfl⟩ := knownOther
      rfl

theorem addressed?_congr {first second : Options} (profile : first.profile = second.profile)
    (server : first.server = second.server) (settings : Settings) :
    addressed? first settings = addressed? second settings := by
  unfold addressed? profileName
  rw [profile, server]

theorem resolve_eq_ok_iff {options : Options} {settings : Settings} {name : String}
    {profile : Settings.Profile} :
    resolve options settings name profile environment keyring = .ok connection ↔
      ∃ found, { profile with server := options.server.getD profile.server }.connection name
          settings.defaults environment keyring = .ok found ∧
        override options found = connection := by
  unfold resolve
  dsimp only
  split
  · next found reached => simp [reached]
  · next fault refused => simp [refused]

/-- The connection is that of the profile, as the options change it. -/
theorem connection_eq_ok_iff_addressed {options : Options} (home : String)
    {file : Option String} :
    let settings := Settings.loadOrUsual file environment
    Console.connection options home file environment keyring = .ok connection ↔
      ∃ profile found, addressed? options settings = some profile ∧
        profile.connection (profileName options settings) settings.defaults environment keyring =
          .ok found ∧
        override options found = connection := by
  intro settings
  unfold Console.connection addressed?
  dsimp only
  cases settings.profiles.find? (profileName options settings) with
  | some profile => simp [settings, resolve_eq_ok_iff]
  | none =>
      cases given : options.server with
      | some server => simp [settings, resolve_eq_ok_iff, given]
      | none =>
          dsimp only
          split <;> simp

theorem agreeBut_override {wish : Wish} {first second : Options}
    (agree : first.AgreeBut wish second) {one other : Connection}
    (near : one = { other with url := one.url }) (url : wish ≠ .server → one.url = other.url) :
    (override first one).AgreeBut wish (override second other) := by
  rw [near]
  refine ⟨url, ?_, ?_, ?_, ?_, ?_, rfl⟩
  · intro unasked
    simp only [override, agree.token unasked]
  · intro unasked
    simp only [override, agree.insecure unasked]
  · intro unasked
    simp only [override, agree.timeout unasked]
  · intro unasked
    simp only [override, agree.dispatchTimeout unasked]
  · intro unasked
    simp only [override, agree.encoding unasked]

theorem grants_override {options : Options} {found : Connection}
    (url : ∀ text, options.server = some text → Settings.serverUrl text = .ok found.url) :
    (override options found).Grants options := by
  refine ⟨url, ?_, ?_, ?_, ?_, ?_⟩
  · intro text given
    simp [override, given]
  · intro wished
    simp [override, wished]
  · intro seconds given
    simp [override, given, Settings.seconds]
  · intro seconds given
    simp [override, given, Settings.seconds]
  · intro encoding given
    simp [override, given]

end Console

end

namespace Console

/-- Whatever stands in the settings file, the environment and the keyring, and whether or not there
is a profile: options that differ in one wish only lead to connections that differ at most in the
field that this wish is about, and each connection has all that its options tell.  Unless the wish
is about the server, it does not decide either whether there is a connection. -/
theorem each_option_governs_one_field {wish : Wish} {first second : Options}
    (agree : first.AgreeBut wish second) (home : String) (file : Option String)
    (environment : Environment) (keyring : Keyring) :
    (∀ one other, connection first home file environment keyring = .ok one →
      connection second home file environment keyring = .ok other →
      one.AgreeBut wish other ∧ one.Grants first ∧ other.Grants second) ∧
    (wish ≠ .server → ((∃ one, connection first home file environment keyring = .ok one) ↔
      ∃ other, connection second home file environment keyring = .ok other)) := by
  simp only [connection_eq_ok_iff_addressed]
  have name (settings : Settings) : profileName second settings = profileName first settings := by
    rw [profileName, ← agree.profile, ← profileName]
  rw [name]
  generalize Settings.loadOrUsual file environment = settings
  constructor
  · rintro _ _ ⟨profile, found, leads, reached, rfl⟩ ⟨profileOther, foundOther, leadsOther,
      reachedOther, rfl⟩
    have address := Settings.Profile.serverUrl_of_connection reached
    have addressOther := Settings.Profile.serverUrl_of_connection reachedOther
    have near : found = { foundOther with url := found.url } := by
      have again := Settings.Profile.connection_of_serverUrl reachedOther address
      rw [← addressed?_of_profile agree.profile.symm leadsOther leads, reached] at again
      exact Except.ok.inj again
    refine ⟨agreeBut_override agree near fun elsewhere => ?_, grants_override ?_,
      grants_override ?_⟩
    · have same := addressed?_congr agree.profile (agree.server elsewhere) settings
      rw [leads, leadsOther] at same
      rw [Option.some.inj same, addressOther] at address
      exact (Except.ok.inj address).symm
    · intro text given
      rw [← server_of_addressed? leads given, address]
    · intro text given
      rw [← server_of_addressed? leadsOther given, addressOther]
  · intro elsewhere
    rw [addressed?_congr agree.profile (agree.server elsewhere)]
    constructor
    · rintro ⟨_, profile, found, leads, reached, -⟩
      exact ⟨_, profile, found, leads, reached, rfl⟩
    · rintro ⟨_, profile, found, leads, reached, -⟩
      exact ⟨_, profile, found, leads, reached, rfl⟩

/-- Another server for the laboratory: the token of its profile is still sent, and the timeout stays
the one that is asked for. -/
theorem server_governs_address_of_laboratory :
    let file := "[profiles.lab]\nserver = \"http://lab/a\"\ntoken = \"plain\"\ntimeout = 4\n"
    let first : Options :=
      ⟨some "lab", none, none, .table, .auto, 0, false, true, some 7, none, none⟩
    let second : Options := { first with server := some "https://annex" }
    let keyring : Keyring := ⟨[], none⟩
    ∃ lab annex, first.AgreeBut .server second ∧
      connection first "/home" (some file) [] keyring = .ok lab ∧
      connection second "/home" (some file) [] keyring = .ok annex ∧
      lab.url ≠ annex.url ∧ lab.token = some "plain" ∧ lab.timeout = 7000 ∧
      lab.AgreeBut .server annex ∧ annex.Grants second := by
  intro file first second keyring
  have agree : first.AgreeBut .server second :=
    ⟨rfl, fun other => absurd rfl other, fun _ => rfl, fun _ => rfl, fun _ => rfl, fun _ => rfl,
      fun _ => rfl⟩
  have reached : connection first "/home" (some file) [] keyring = .ok {
      url := ⟨"http".toList, ⟨[], []⟩, some (.domain "lab".toList), none,
        .segments ["a".toList], none, none⟩
      token := some "plain", trust := .anyCertificate, timeout := 7000, dispatchTimeout := 10000,
      policy := .supersede, encoding := .json } := by
    decide +kernel
  have reachedOther : connection second "/home" (some file) [] keyring = .ok {
      url := ⟨"https".toList, ⟨[], []⟩, some (.domain "annex".toList), none,
        .segments [[]], none, none⟩
      token := some "plain", trust := .anyCertificate, timeout := 7000, dispatchTimeout := 10000,
      policy := .supersede, encoding := .json } := by
    decide +kernel
  obtain ⟨near, -, grants⟩ :=
    (each_option_governs_one_field agree "/home" (some file) [] keyring).1 _ _ reached reachedOther
  exact ⟨_, _, agree, reached, reachedOther, by decide, rfl, rfl, near, grants⟩

end Console

end DevicePanel
