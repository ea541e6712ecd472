import Dashboard.Settings.Basic

/-
  Validity of settings: the check passes exactly the settings
  that meet every condition.

  Key definitions include:
    * `ServerSettings.Valid`
    * `HostedSettings.Valid`
    * `Vocabulary.Valid`
    * `Settings.Valid`

  Main declarations:
    * `Settings.check_eq_ok_iff`
    * `Settings.valid_initial`
-/

------------------------------------------------------------
-- Conditions
------------------------------------------------------------

namespace Dashboard

/- The settings of the server that can be used. -/
structure ServerSettings.Valid
    (server : ServerSettings) : Prop where
  port : server.port ≠ 0
  timeoutSeconds : server.timeoutSeconds ≠ 0

/- The settings of the hosted model that can be used. -/
structure HostedSettings.Valid
    (hosted : HostedSettings) : Prop where
  provider : hosted.provider ∈ providers
  timeoutMs : hosted.timeoutMs ≠ 0
  temperature :
    Settings.isTemperature hosted.temperature = true
  maxTokens : hosted.maxTokens ≠ 0

/-
  No phrase and no field is blank, and what means a dataset
  is a single word each.
-/
structure Vocabulary.Valid
    (vocabulary : Vocabulary) : Prop where
  synonyms :
    ∀ s ∈ vocabulary.synonyms,
      Settings.isBlankSynonym s = false
  datasetWords :
    ∀ e ∈ vocabulary.datasetWords,
      Settings.isSingleWord e.word = true

/- The settings that can be used. -/
structure Settings.Valid (settings : Settings) : Prop where
  server : settings.server.Valid
  hosted : settings.interpreter.hosted.Valid
  vocabulary : settings.interpreter.vocabulary.Valid

end Dashboard

------------------------------------------------------------
-- The Check
------------------------------------------------------------

namespace Dashboard

namespace Settings

theorem require_eq_ok_iff
    (holds : Bool)
    (field reason : String) :
    require holds field reason = .ok () ↔ holds = true := by
  unfold require
  cases holds with
  | true => simp
  | false => simp

/- One check after the other passes when both pass. -/
theorem bind_eq_ok_iff
    (first second : Except SettingsError Unit) :
    (first >>= fun _ => second) = .ok () ↔
      first = .ok () ∧ second = .ok () := by
  cases first with
  | error e => simp [bind, Except.bind]
  | ok done => simp [bind, Except.bind]

theorem checkServer_eq_ok_iff (server : ServerSettings) :
    checkServer server = .ok () ↔ server.Valid := by
  unfold checkServer
  rw [bind_eq_ok_iff, require_eq_ok_iff, require_eq_ok_iff,
    bne_iff_ne, bne_iff_ne]
  exact
    ⟨fun h => ⟨h.1, h.2⟩,
      fun h => ⟨h.port, h.timeoutSeconds⟩⟩

theorem checkHosted_eq_ok_iff (hosted : HostedSettings) :
    checkHosted hosted = .ok () ↔ hosted.Valid := by
  unfold checkHosted
  simp only [bind_eq_ok_iff, require_eq_ok_iff,
    List.contains_iff_mem, bne_iff_ne]
  exact
    ⟨fun h => ⟨h.1, h.2.1, h.2.2.1, h.2.2.2⟩,
      fun h =>
        ⟨h.provider, h.timeoutMs, h.temperature,
          h.maxTokens⟩⟩

theorem checkDatasetWords_eq_ok_iff
    (entries : List DatasetWord) :
    checkDatasetWords entries = .ok () ↔
      ∀ e ∈ entries, isSingleWord e.word = true := by
  induction entries with
  | nil => simp [checkDatasetWords]
  | cons e rest ih =>
      rw [checkDatasetWords, bind_eq_ok_iff,
        require_eq_ok_iff, ih, List.forall_mem_cons]

theorem checkVocabulary_eq_ok_iff
    (vocabulary : Vocabulary) :
    checkVocabulary vocabulary = .ok () ↔
      vocabulary.Valid := by
  unfold checkVocabulary
  rw [bind_eq_ok_iff, require_eq_ok_iff,
    checkDatasetWords_eq_ok_iff, Bool.not_eq_true',
    List.any_eq_false]
  simp only [Bool.not_eq_true]
  exact
    ⟨fun h => ⟨h.1, h.2⟩,
      fun h => ⟨h.synonyms, h.datasetWords⟩⟩

/- Exactly the valid settings pass the check. -/
theorem check_eq_ok_iff (settings : Settings) :
    settings.check = .ok () ↔ settings.Valid := by
  unfold check
  rw [bind_eq_ok_iff, bind_eq_ok_iff, checkServer_eq_ok_iff,
    checkHosted_eq_ok_iff, checkVocabulary_eq_ok_iff]
  exact
    ⟨fun h => ⟨h.1, h.2.1, h.2.2⟩,
      fun h => ⟨h.server, h.hosted, h.vocabulary⟩⟩

/- Settings that say nothing can be used. -/
theorem valid_initial : initial.Valid where
  server := ⟨by decide, by decide⟩
  hosted :=
    ⟨by decide, by decide, by decide +kernel, by decide⟩
  vocabulary := ⟨nofun, nofun⟩

end Settings

end Dashboard
