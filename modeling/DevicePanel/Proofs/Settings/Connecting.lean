import DevicePanel.Dashboard.Start
import DevicePanel.Proofs.Console.Overriding

/-!
# Two programs, one hub

Both programs reach a hub through a profile of the settings: the one that is asked for, or the one
in use.  The dashboard stops when the settings cannot be loaded; the command-line program goes on
with the usual settings, but these have no profile, so that it fails as well.
-/

namespace DevicePanel

/-- The settings can be loaded, they have the profile that is asked for, or else the one in use, and
the profile comes to this connection. -/
def Settings.LeadTo (file : Option String) (environment : Environment) (keyring : Keyring)
    (requested : Option String) (connection : Connection) : Prop :=
  ∃ settings profile, load file environment = .ok settings ∧
    settings.profiles.find? (requested.getD settings.defaultProfileName) = some profile ∧
    profile.connection (requested.getD settings.defaultProfileName) settings.defaults environment
      keyring = .ok connection

section

variable {file : Option String} {environment : Environment} {keyring : Keyring}
  {connection : Connection}

namespace Dashboard

theorem profileConnection_eq_ok_iff {requested : Option String} :
    profileConnection requested file environment keyring = .ok connection ↔
      Settings.LeadTo file environment keyring requested connection := by
  unfold profileConnection Settings.LeadTo
  cases Settings.load file environment with
  | error fault => simp
  | ok settings =>
      simp only [Settings.profile?, Except.ok.injEq, exists_and_left, exists_eq_left']
      cases settings.profiles.find? (requested.getD settings.defaultProfileName) with
      | none => simp
      | some profile =>
          simp only [Option.some.injEq, exists_eq_left']
          cases profile.connection (requested.getD settings.defaultProfileName) settings.defaults
            environment keyring <;> simp [Except.mapError]

theorem connection_eq_ok_iff {options : Options} (noServer : options.server = none) :
    Dashboard.connection options file environment keyring = .ok connection ↔
      ∃ found, Settings.LeadTo file environment keyring options.profile found ∧
        override options found = connection := by
  simp only [Dashboard.connection, noServer, ← profileConnection_eq_ok_iff]
  cases profileConnection options.profile file environment keyring <;> simp [Except.map]

end Dashboard

namespace Console

theorem connection_eq_ok_iff {options : Options} (noServer : options.server = none)
    (home : String) :
    Console.connection options home file environment keyring = .ok connection ↔
      ∃ found, Settings.LeadTo file environment keyring options.profile found ∧
        override options found = connection := by
  unfold Console.connection Settings.LeadTo Settings.loadOrUsual profileName
  cases Settings.load file environment with
  | error fault =>
      -- The usual settings have no profile, and no address stands in for one.
      simp only [Settings.usual, Keyed.find?, noServer]
      split <;> simp
  | ok settings =>
      simp only [Except.ok.injEq, exists_and_left, exists_eq_left']
      cases settings.profiles.find? (options.profile.getD settings.defaultProfileName) with
      | none =>
          simp only [noServer]
          split <;> simp
      | some profile => simp [resolve_eq_ok_iff, noServer]

end Console

end

/-- The same profile, token and trust are asked for in both programs, no address is, and nothing is
that only the command-line program can change. -/
structure AskAlike (console : Console.Options) (dashboard : Dashboard.Options) : Prop where
  profile : console.profile = dashboard.profile
  token : console.token = dashboard.token
  insecure : console.insecure = dashboard.insecure
  noServer : console.server = none ∧ dashboard.server = none
  noTimes : console.timeout = none ∧ console.dispatchTimeout = none
  noEncoding : console.encoding = none

theorem AskAlike.override_eq {console : Console.Options} {dashboard : Dashboard.Options}
    (alike : AskAlike console dashboard) (found : Connection) :
    Console.override console found = Dashboard.override dashboard found := by
  simp only [Console.override, Dashboard.override, alike.token, alike.insecure, alike.noTimes.1,
    alike.noTimes.2, alike.noEncoding, Option.map_none, Option.getD_none]

/-- Whatever stands in the settings file, the environment and the keyring, both programs come to the
same connection when the same is asked of them, or neither comes to any. -/
theorem both_programs_reach_the_same_hub {console : Console.Options}
    {dashboard : Dashboard.Options} (alike : AskAlike console dashboard) (home : String)
    (file : Option String) (environment : Environment) (keyring : Keyring)
    (connection : Connection) :
    Console.connection console home file environment keyring = .ok connection ↔
      Dashboard.connection dashboard file environment keyring = .ok connection := by
  rw [Console.connection_eq_ok_iff alike.noServer.1,
    Dashboard.connection_eq_ok_iff alike.noServer.2, alike.profile]
  simp only [alike.override_eq]

/-- Both programs reach the laboratory over what the file says, with the trust that is asked for and
the token of the keyring, and neither of them does when the file is cut off. -/
theorem both_programs_reach_the_laboratory :
    let file := "[defaults]\ndispatch_timeout = 3\n\n[profiles.lab]\nserver = \"http://lab/a\"\n"
    let console : Console.Options :=
      ⟨some "lab", none, none, .json, .never, 2, true, true, none, none, none⟩
    let dashboard : Dashboard.Options := ⟨some "lab", none, none, true, "log", 0⟩
    let keyring : Keyring := ⟨[("lab/token", "secret")], none⟩
    let lab : Connection := {
      url := ⟨"http".toList, ⟨[], []⟩, some (.domain "lab".toList), none,
        .segments ["a".toList], none, none⟩
      token := some "secret", trust := .anyCertificate, timeout := 30000, dispatchTimeout := 3000,
      policy := .supersede, encoding := .json }
    AskAlike console dashboard ∧
    Console.connection console "/home" (some file) [] keyring = .ok lab ∧
    Dashboard.connection dashboard (some file) [] keyring = .ok lab ∧
    (∀ connection, Console.connection console "/home" (some (file ++ "[")) [] keyring ≠
      .ok connection) := by
  intro file console dashboard keyring lab
  have alike : AskAlike console dashboard := ⟨rfl, rfl, rfl, ⟨rfl, rfl⟩, ⟨rfl, rfl⟩, rfl⟩
  have reached : Dashboard.connection dashboard (some file) [] keyring = .ok lab := by
    decide +kernel
  have stops : Dashboard.connection dashboard (some (file ++ "[")) [] keyring =
      .error (.settings (.unloadable ⟨.unreadable, [], some .file⟩)) := by
    decide +kernel
  refine ⟨alike, ?_, reached, fun connection found => ?_⟩
  · exact (both_programs_reach_the_same_hub alike "/home" (some file) [] keyring lab).mpr reached
  · have both := (both_programs_reach_the_same_hub alike "/home" _ [] keyring connection).mp found
    rw [stops] at both
    cases both

end DevicePanel
