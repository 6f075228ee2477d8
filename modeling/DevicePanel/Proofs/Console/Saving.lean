import DevicePanel.Console.Upkeep
import DevicePanel.Proofs.Settings.Rereading

/-!
# Saving settings

Saving either writes a document that is loaded again as the same settings, or it writes nothing.
-/

namespace DevicePanel.Console

/-- The text of the settings file after an invocation that found the text `before`. -/
def Outcome.fileAfter (outcome : Outcome) (before : Option String) : Option String :=
  outcome.written.or before

/-- Whenever no variable of the program is set, the text is loaded as the settings. -/
def LoadsAs (file : Option String) (settings : Settings) : Prop :=
  ∀ environment, Settings.Silent environment → Settings.load file environment = .ok settings

theorem save_of_writable {settings : Settings} (writable : settings.Writable)
    (different : (Keyed.keys settings.profiles).Nodup) (remark : String) :
    ∃ text, save settings remark =
        { Outcome.ofRemark ("✓ " ++ remark) with written := some text } ∧
      LoadsAs (some text) settings.asLoaded := by
  obtain ⟨text, written⟩ := Settings.document_ok_iff.mpr writable
  refine ⟨text, by rw [save, written], fun environment silent => ?_⟩
  exact Settings.load_document different written silent

theorem save_of_not_writable {settings : Settings} (unwritable : ¬ settings.Writable)
    (remark : String) : ∃ fault, save settings remark = .failed fault := by
  cases written : settings.document with
  | ok text => exact absurd (Settings.document_ok_iff.mp ⟨text, written⟩) unwritable
  | error fault => exact ⟨_, by rw [save, written]⟩

/-- Settings with profiles of different names can be saved when none of their times is too large.
The file is then loaded as the same settings, with the same profiles and the same profile in use
when none is named.  Otherwise saving fails and the file stays as it is. -/
theorem saved_settings_are_loaded (settings : Settings)
    (different : (Keyed.keys settings.profiles).Nodup) (remark : String) (before : Option String) :
    ((save settings remark).failure = none ↔ settings.Writable) ∧
      ((save settings remark).failure = none → ∃ loaded,
        LoadsAs ((save settings remark).fileAfter before) loaded ∧
        loaded.defaults = settings.defaults ∧
        loaded.profiles.Perm settings.profiles ∧
        loaded.defaultProfileName = settings.defaultProfileName) ∧
      ((save settings remark).failure ≠ none →
        (save settings remark).fileAfter before = before) := by
  by_cases writable : settings.Writable
  · obtain ⟨text, saved, loads⟩ := save_of_writable writable different remark
    have noFailure : (save settings remark).failure = none := by rw [saved]; rfl
    have after : (save settings remark).fileAfter before = some text := by rw [saved]; rfl
    refine ⟨⟨fun _ => writable, fun _ => noFailure⟩, fun _ => ?_,
      fun failed => absurd noFailure failed⟩
    exact ⟨settings.asLoaded, after ▸ loads, rfl, Keyed.perm_ofPairs different, rfl⟩
  · obtain ⟨fault, fails⟩ := save_of_not_writable writable remark
    have failure : (save settings remark).failure ≠ none := by simp [fails, Outcome.failed]
    refine ⟨⟨fun none => absurd none failure, fun yes => absurd yes writable⟩,
      fun none => absurd none failure, fun _ => ?_⟩
    rw [fails]
    rfl

/-- Settings with profiles of all kinds of names, and with the largest time that can be saved. -/
def oddSettings : Settings where
  defaultProfile := some "a.b \"c\""
  defaults := { Settings.Defaults.usual with timeout := 0x7FFFFFFFFFFFFFFF }
  profiles := [
    ("", .ofServer ""),
    ("a.b \"c\"", { Settings.Profile.ofServer "http://hub" with token := some "'''\\\n\"\"\"" }),
    ("ü\u0001'", { Settings.Profile.ofServer "\r\n" with
      timeout := some 0, policy := some .supersede, insecure := some false })]

/-- Settings with the least time that cannot be saved. -/
def slowSettings : Settings :=
  { Settings.usual with defaults := { Settings.Defaults.usual with timeout := 0x8000000000000000 } }

theorem odd_settings_are_loaded :
    (Keyed.keys oddSettings.profiles).Nodup ∧
      (∃ loaded, LoadsAs ((save oddSettings "kept").fileAfter none) loaded ∧
        loaded.defaults = oddSettings.defaults ∧
        loaded.profiles.Perm oddSettings.profiles ∧
        loaded.defaultProfileName = "a.b \"c\"") ∧
      ∀ before, (save slowSettings "kept").fileAfter before = before := by
  have names : (Keyed.keys oddSettings.profiles).Nodup := by decide
  have writable : oddSettings.Writable := by decide
  have kept := saved_settings_are_loaded oddSettings names "kept" none
  refine ⟨names, kept.2.1 (kept.1.mpr writable), fun before => ?_⟩
  have lost := saved_settings_are_loaded slowSettings (by decide) "kept" before
  exact lost.2.2 fun saved => absurd (lost.1.mp saved) (by decide)

end DevicePanel.Console
