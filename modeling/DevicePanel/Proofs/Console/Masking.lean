import DevicePanel.Proofs.Console.Upkeep
import Mathlib.Data.List.Forall2

/-!
# Settings are shown without their tokens

The text masks a token when its line is written; the values of the other forms are masked
afterwards, by the keys of their objects.  Both come to the profile with its token masked, so
settings that differ in the texts of their tokens alone are shown as the same.
-/

namespace DevicePanel

namespace Settings

/-! ## Profiles -/

/-- The profiles are the same but for the text of a token, which both have or neither has. -/
def Profile.AlikeButToken (profile other : Profile) : Prop :=
  ∃ token, other = { profile with token } ∧ token.isSome = profile.token.isSome

/-- The profile with its token masked, if it has one. -/
def Profile.masked (profile : Profile) : Profile :=
  { profile with token := profile.token.map fun _ => mask }

theorem Profile.AlikeButToken.masked_eq {profile other : Profile}
    (alike : profile.AlikeButToken other) : profile.masked = other.masked := by
  obtain ⟨token, rfl, both⟩ := alike
  have tokens : profile.token.map (fun _ => mask) = token.map fun _ => mask := by
    cases token <;> cases given : profile.token <;> simp [given] at both ⊢
  rw [masked, tokens]
  rfl

/-- Masking by key finds the token and nothing else. -/
theorem maskToken_toJson (profile : Profile) :
    maskToken profile.toJson = profile.masked.toJson := by
  cases token : profile.token <;>
    simp [maskToken, Json.Value.changeUnder, Profile.toJson, optionalValue, Profile.masked, token]

theorem Profile.lines_masked (name : String) (profile : Profile) :
    profile.masked.lines name = profile.lines name := by
  simp [masked, lines, Function.comp_def]

/-! ## Settings -/

/-- The settings are the same but for the texts of tokens. -/
structure AlikeButTokens (settings others : Settings) : Prop where
  defaultProfile : settings.defaultProfile = others.defaultProfile
  defaults : settings.defaults = others.defaults
  profiles : List.Forall₂ (fun first second => first.1 = second.1 ∧
    first.2.AlikeButToken second.2) settings.profiles others.profiles

section

variable {settings others : Settings}

/-- A view of profiles that does not look behind the mask is the same for both settings. -/
theorem AlikeButTokens.map_eq {α : Type} (alike : settings.AlikeButTokens others)
    (view : String × Profile → α)
    (hides : ∀ name profile, view (name, profile) = view (name, profile.masked)) :
    settings.profiles.map view = others.profiles.map view := by
  rw [← List.forall₂_eq_eq_eq, List.forall₂_map_left_iff, List.forall₂_map_right_iff]
  refine alike.profiles.imp ?_
  rintro ⟨name, profile⟩ ⟨_, other⟩ ⟨rfl, same⟩
  rw [hides, same.masked_eq, ← hides]

theorem maskedJson_eq (settings : Settings) : settings.maskedJson =
    .object [("default_profile", optionalValue .text settings.defaultProfile),
      ("defaults", settings.defaults.toJson),
      ("profiles", .object (settings.profiles.map fun pair =>
        (pair.1, maskToken pair.2.toJson)))] := by
  simp [maskedJson, toJson, Json.Value.changeUnder, Json.Value.changeAll]

theorem AlikeButTokens.maskedJson_eq (alike : settings.AlikeButTokens others) :
    settings.maskedJson = others.maskedJson := by
  have profiles := alike.map_eq (fun pair => (pair.1, maskToken pair.2.toJson))
    fun name profile => by simp [maskToken_toJson, Profile.masked, Function.comp_def]
  rw [Settings.maskedJson_eq, Settings.maskedJson_eq, alike.defaultProfile, alike.defaults,
    profiles]

theorem AlikeButTokens.listing_eq (alike : settings.AlikeButTokens others) :
    settings.listing = others.listing := by
  have profiles := alike.map_eq (fun pair => "" :: pair.2.lines pair.1)
    fun name profile => by simp [Profile.lines_masked]
  have lines : settings.lines = others.lines := by
    simp only [Settings.lines, alike.defaultProfile, alike.defaults, List.flatMap_def]
    rw [profiles]
  rw [listing, listing, lines]

end

end Settings

namespace Console

open DevicePanel.Settings (Profile)

theorem settingsReport_congr {settings others : Settings} (alike : settings.AlikeButTokens others)
    (form : OutputForm) (path : String) :
    settingsReport form path settings = settingsReport form path others := by
  unfold settingsReport
  rw [alike.maskedJson_eq, alike.listing_eq]

/-- In every form the settings are shown as the same text when they differ in the texts of their
tokens alone; so an invocation that shows the settings tells nothing of any token. -/
theorem shown_settings_tell_no_token {settings others : Settings}
    (alike : settings.AlikeButTokens others) :
    (∀ form path, settingsReport form path settings = settingsReport form path others) ∧
    ∀ (options : Options) (first second : Surroundings), first.home = second.home →
      Settings.loadOrUsual first.file first.environment = settings →
      Settings.loadOrUsual second.file second.environment = others →
      SettingsOrder.show.obey options first = SettingsOrder.show.obey options second := by
  refine ⟨settingsReport_congr alike, fun options first second sameHome loaded alsoLoaded => ?_⟩
  simp only [SettingsOrder.obey, loaded, alsoLoaded, sameHome, settingsReport_congr alike]

/-- A file with profiles that are called like the keys that lead to a token. -/
def fileWithTokens (first second : String) : String :=
  "[profiles.profiles]\nserver = \"http://a\"\ntoken = \"" ++ first ++
    "\"\n\n[profiles.token]\nserver = \"token\"\ntoken = \"" ++ second ++ "\"\n"

/-- The settings of such a file. -/
def settingsWithTokens (first second : String) : Settings :=
  { Settings.usual with profiles := [
    ("profiles", { Profile.ofServer "http://a" with token := some first }),
    ("token", { Profile.ofServer "token" with token := some second })] }

theorem alike_settingsWithTokens (first second third fourth : String) :
    (settingsWithTokens first second).AlikeButTokens (settingsWithTokens third fourth) where
  defaultProfile := rfl
  defaults := rfl
  profiles := .cons ⟨rfl, some third, rfl, rfl⟩ (.cons ⟨rfl, some fourth, rfl, rfl⟩ .nil)

theorem profiles_called_token_tell_no_token :
    (settingsWithTokens "s3cret" "").AlikeButTokens (settingsWithTokens "****" "\x7b\x7d") ∧
    Settings.loadOrUsual (some (fileWithTokens "s3cret" "")) [] =
      settingsWithTokens "s3cret" "" ∧
    Settings.loadOrUsual (some (fileWithTokens "****" "\x7b\x7d")) [] =
      settingsWithTokens "****" "\x7b\x7d" ∧
    ∀ options,
      SettingsOrder.show.obey options (placeWith (fileWithTokens "s3cret" "") []) =
        SettingsOrder.show.obey options (placeWith (fileWithTokens "****" "\x7b\x7d") []) := by
  have alike := alike_settingsWithTokens "s3cret" "" "****" "\x7b\x7d"
  have loaded : Settings.loadOrUsual (some (fileWithTokens "s3cret" "")) [] =
      settingsWithTokens "s3cret" "" := by
    decide +kernel
  have alsoLoaded : Settings.loadOrUsual (some (fileWithTokens "****" "\x7b\x7d")) [] =
      settingsWithTokens "****" "\x7b\x7d" := by
    decide +kernel
  exact ⟨alike, loaded, alsoLoaded, fun options =>
    (shown_settings_tell_no_token alike).2 options _ _ rfl loaded alsoLoaded⟩

end Console

end DevicePanel
