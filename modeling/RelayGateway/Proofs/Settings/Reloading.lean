import RelayGateway.Proofs.Settings.Slots
import RelayGateway.Settings.Source

/-! # Settings through reloads

* `Acceptable`: all that loading demands of a file and of overrides; `loadSettings_isOk` says that it
  demands no more and no less.
* `SettingsScene`: settings in use beside the file that they come from; `SettingsScene.step` when the file
  is replaced or a reload is ordered, `SettingsScene.after` a history, `SettingsScene.replies` what the
  reloads report in it.
* `LiveSettings.Sound`: what holds of settings in use from their start on; one step keeps it (`Sound.step`),
  so every history does (`Sound.after`).
* `liveSettings_governed`: settings in use are valid, carry the overrides and are the ones last loaded.
-/

set_option autoImplicit false

namespace RelayGateway

variable {path text : String} {file : SettingsFile} {overrides : List Override} {base settings : Settings}

/-! ## Loading -/

/-- The demands on a file and on overrides, where the file holds a text that denotes some settings. -/
structure Acceptable (path : String) (file : SettingsFile) (overrides : List Override) (text : String)
    (base : Settings) : Prop where
  found : file.text path = .ok text
  parsed : Settings.ofDocument? text = some base
  baseValid : base.validate = .ok ()
  readable : ∀ item ∈ overrides, item.IsReadable
  valid : ∀ settings, base.overrideAll overrides = .ok settings → settings.validate = .ok ()

theorem loadFile_ok :
    loadFile path file = .ok base ↔
      ∃ text, file.text path = .ok text ∧ Settings.ofDocument? text = some base ∧
        base.validate = .ok () := by
  rw [loadFile, bind_eq_ok]
  refine exists_congr fun text => and_congr_right fun _ => ?_
  cases Settings.ofDocument? text with
  | none => simp
  | some found =>
    simp only [bind_eq_ok, pure, Except.pure, Except.ok.injEq, Option.some.injEq]
    constructor
    · rintro ⟨_, hvalid, rfl⟩
      exact ⟨rfl, hvalid⟩
    · rintro ⟨rfl, hvalid⟩
      exact ⟨(), hvalid, rfl⟩

theorem loadSettings_ok :
    loadSettings path file overrides = .ok settings ↔
      ∃ base, loadFile path file = .ok base ∧ base.overrideAll overrides = .ok settings ∧
        settings.validate = .ok () := by
  rw [loadSettings, bind_eq_ok]
  refine exists_congr fun base => and_congr_right fun _ => ?_
  simp only [bind_eq_ok, pure, Except.pure, Except.ok.injEq]
  constructor
  · rintro ⟨_, hall, _, hvalid, rfl⟩
    exact ⟨hall, hvalid⟩
  · rintro ⟨hall, hvalid⟩
    exact ⟨settings, hall, (), hvalid, rfl⟩

theorem acceptable_of_loaded (h : loadSettings path file overrides = .ok settings) :
    ∃ text base, Acceptable path file overrides text base ∧ base.overrideAll overrides = .ok settings := by
  obtain ⟨base, hbase, hall, hvalid⟩ := loadSettings_ok.mp h
  obtain ⟨text, found, parsed, baseValid⟩ := loadFile_ok.mp hbase
  have readable := (Settings.overrideAll_isOk base overrides).mp ⟨settings, hall⟩
  refine ⟨text, base, ⟨found, parsed, baseValid, readable, fun other hother => ?_⟩, hall⟩
  obtain rfl : settings = other := by simpa using hall.symm.trans hother
  exact hvalid

theorem loadSettings_isOk (path : String) (file : SettingsFile) (overrides : List Override) :
    (∃ settings, loadSettings path file overrides = .ok settings) ↔
      ∃ text base, Acceptable path file overrides text base := by
  constructor
  · rintro ⟨settings, h⟩
    obtain ⟨text, base, demands, -⟩ := acceptable_of_loaded h
    exact ⟨text, base, demands⟩
  · rintro ⟨text, base, demands⟩
    have hbase : loadFile path file = .ok base :=
      loadFile_ok.mpr ⟨text, demands.found, demands.parsed, demands.baseValid⟩
    obtain ⟨settings, hall⟩ := (Settings.overrideAll_isOk base overrides).mpr demands.readable
    exact ⟨settings, loadSettings_ok.mpr ⟨base, hbase, hall, demands.valid settings hall⟩⟩

theorem start_ok {live : LiveSettings} :
    LiveSettings.start path file overrides = .ok live ↔
      loadSettings path file overrides = .ok live.current ∧ live.path = path ∧
        live.overrides = overrides := by
  simp only [LiveSettings.start, bind_eq_ok, pure, Except.pure, Except.ok.injEq]
  constructor
  · rintro ⟨settings, hload, rfl⟩
    exact ⟨hload, rfl, rfl⟩
  · rintro ⟨hload, rfl, rfl⟩
    exact ⟨live.current, hload, rfl⟩

theorem start_isOk (path : String) (file : SettingsFile) (overrides : List Override) :
    (∃ live, LiveSettings.start path file overrides = .ok live) ↔
      ∃ settings, loadSettings path file overrides = .ok settings := by
  constructor
  · rintro ⟨live, h⟩
    exact ⟨live.current, (start_ok.mp h).1⟩
  · rintro ⟨settings, h⟩
    exact ⟨⟨path, overrides, settings⟩, start_ok.mpr ⟨h, rfl, rfl⟩⟩

namespace LiveSettings

variable {live : LiveSettings}

theorem reload_reply (live : LiveSettings) (file : SettingsFile) :
    (live.reload file).1 = loadSettings live.path file live.overrides := by
  unfold reload
  split <;> exact Eq.symm ‹_›

theorem reload_ok (h : (live.reload file).1 = .ok settings) :
    (live.reload file).2 = { live with current := settings } := by
  rw [reload_reply] at h
  unfold reload
  rw [h]

theorem reload_error {err : ServiceError} (h : (live.reload file).1 = .error err) :
    (live.reload file).2 = live := by
  rw [reload_reply] at h
  unfold reload
  rw [h]

end LiveSettings

/-! ## Histories -/

/-- Settings in use, and what is found at their path. -/
structure SettingsScene where
  file : SettingsFile
  live : LiveSettings

/-- What can happen to settings in use. -/
inductive SettingsEvent where
  /-- Something else is found at the path. -/
  | found (file : SettingsFile)
  | reload

namespace SettingsScene

def step (scene : SettingsScene) : SettingsEvent → SettingsScene
  | .found file => { scene with file := file }
  | .reload => { scene with live := (scene.live.reload scene.file).2 }

def after (scene : SettingsScene) (events : List SettingsEvent) : SettingsScene :=
  events.foldl step scene

/-- What the reloads of a history report, in their order. -/
def replies (scene : SettingsScene) : List SettingsEvent → List (Except ServiceError Settings)
  | [] => []
  | .found file :: later => (scene.step (.found file)).replies later
  | .reload :: later => (scene.live.reload scene.file).1 :: (scene.step .reload).replies later

/-- The settings in use are those that were reported last. -/
theorem current_after (scene : SettingsScene) (events : List SettingsEvent) :
    (scene.after events).live.current =
      ((scene.replies events).filterMap Except.toOption).getLastD scene.live.current := by
  induction events generalizing scene with
  | nil => rfl
  | cons event later ih =>
    refine (ih (scene.step event)).trans ?_
    cases event with
    | found file => rfl
    | reload =>
      rw [replies]
      cases hreply : (scene.live.reload scene.file).1 with
      | error err =>
        rw [step, LiveSettings.reload_error hreply]
        rfl
      | ok settings =>
        rw [step, LiveSettings.reload_ok hreply]
        exact List.getLastD_cons.symm

end SettingsScene

namespace LiveSettings

/-- What holds of settings in use: they were made from their overrides, and all at once. -/
structure Sound (path : String) (overrides : List Override) (live : LiveSettings) : Prop where
  path_eq : live.path = path
  overrides_eq : live.overrides = overrides
  loaded : ∃ file, loadSettings path file overrides = .ok live.current

namespace Sound

variable {live : LiveSettings} {scene : SettingsScene}

theorem start (h : LiveSettings.start path file overrides = .ok live) : Sound path overrides live :=
  have ⟨hload, hpath, hoverrides⟩ := start_ok.mp h
  ⟨hpath, hoverrides, file, hload⟩

theorem step (sound : Sound path overrides scene.live) (event : SettingsEvent) :
    Sound path overrides (scene.step event).live := by
  cases event with
  | found file => exact sound
  | reload =>
    change Sound path overrides (scene.live.reload scene.file).2
    cases hreply : (scene.live.reload scene.file).1 with
    | error err =>
      rw [LiveSettings.reload_error hreply]
      exact sound
    | ok settings =>
      rw [LiveSettings.reload_ok hreply]
      rw [LiveSettings.reload_reply, sound.path_eq, sound.overrides_eq] at hreply
      exact ⟨sound.path_eq, sound.overrides_eq, scene.file, hreply⟩

theorem after (sound : Sound path overrides scene.live) (events : List SettingsEvent) :
    Sound path overrides (scene.after events).live := by
  induction events generalizing scene with
  | nil => exact sound
  | cons event later ih => exact ih (sound.step event)

theorem whole (sound : Sound path overrides live) :
    ∃ file text base, Acceptable path file overrides text base ∧
      base.overrideAll overrides = .ok live.current := by
  obtain ⟨file, hload⟩ := sound.loaded
  exact ⟨file, acceptable_of_loaded hload⟩

theorem valid (sound : Sound path overrides live) : live.current.validate = .ok () := by
  obtain ⟨file, text, base, demands, hall⟩ := sound.whole
  exact demands.valid live.current hall

theorem shown (sound : Sound path overrides live) (distinct : (overrides.map (·.path)).Nodup)
    {item : Override} (hmem : item ∈ overrides) {slot : Slot} (hslot : Slot.ofPath? item.path = some slot) :
    ∃ value, slot.parse? item.value = some value ∧ slot.shown? live.current = some value := by
  obtain ⟨file, text, base, -, hall⟩ := sound.whole
  exact Settings.overrideAll_shown distinct hall hmem hslot

end Sound

end LiveSettings

/-- What settings in use promise after a history that began in a scene. -/
structure Governed (path : String) (overrides : List Override) (first : SettingsScene)
    (events : List SettingsEvent) : Prop where
  valid : (first.after events).live.current.validate = .ok ()
  /-- They are the settings of one file with all overrides, not a mixture of several loads. -/
  whole : ∃ file text base, Acceptable path file overrides text base ∧
    base.overrideAll overrides = .ok (first.after events).live.current
  /-- They are the last ones that a reload reported, or else those of the start. -/
  latest : (first.after events).live.current =
    ((first.replies events).filterMap Except.toOption).getLastD first.live.current
  shown : ∀ item ∈ overrides, ∀ slot, Slot.ofPath? item.path = some slot →
    ∃ value, slot.parse? item.value = some value ∧
      slot.shown? (first.after events).live.current = some value
  refused : ∀ err, ((first.after events).live.reload (first.after events).file).1 = .error err →
    ((first.after events).live.reload (first.after events).file).2 = (first.after events).live
  taken : ∀ settings, ((first.after events).live.reload (first.after events).file).1 = .ok settings →
    ((first.after events).live.reload (first.after events).file).2.current = settings
  reloads : (∃ settings, ((first.after events).live.reload (first.after events).file).1 = .ok settings) ↔
    ∃ text base, Acceptable path (first.after events).file overrides text base

/-- Settings in use are never bad and never half overridden, whatever is found at their path. -/
theorem liveSettings_governed (path : String) (file : SettingsFile) (overrides : List Override)
    (distinct : (overrides.map (·.path)).Nodup) :
    ((∃ live, LiveSettings.start path file overrides = .ok live) ↔
      ∃ text base, Acceptable path file overrides text base) ∧
    ∀ live, LiveSettings.start path file overrides = .ok live →
      ∀ events, Governed path overrides ⟨file, live⟩ events := by
  refine ⟨(start_isOk path file overrides).trans (loadSettings_isOk path file overrides), ?_⟩
  intro live hstart events
  have sound : LiveSettings.Sound path overrides (SettingsScene.after ⟨file, live⟩ events).live :=
    LiveSettings.Sound.after (LiveSettings.Sound.start hstart) events
  exact
    { valid := sound.valid
      whole := sound.whole
      latest := SettingsScene.current_after ⟨file, live⟩ events
      shown := fun item hmem slot hslot => sound.shown distinct hmem hslot
      refused := fun err herror => LiveSettings.reload_error herror
      taken := fun settings hok => by rw [LiveSettings.reload_ok hok]
      reloads := by
        rw [LiveSettings.reload_reply, sound.path_eq, sound.overrides_eq]
        exact loadSettings_isOk path _ overrides }

/-- One setting is fixed from outside, one path is unknown, and the file is replaced by a malformed one, by
one that sets a port of zero, by none and by a good one. -/
theorem fixedRetries_governed :
    let file (text : String) : SettingsFile := .bytes text.toUTF8
    let first := file "[relay]\nretry_times = 7\nretry_cooldown_seconds = 8\n"
    let overrides : List Override := [⟨"relay.retry.times", "2"⟩, ⟨"relay.unknown", "x"⟩]
    let events : List SettingsEvent :=
      [.found (file "[relay\n"), .reload, .found (file "[management]\nport = 0\n"), .reload,
        .found .missing, .reload, .found (file "[relay]\nretry_times = 0\n"), .reload]
    ∃ live, LiveSettings.start "gateway.toml" first overrides = .ok live ∧
      Governed "gateway.toml" overrides ⟨first, live⟩ events ∧
      (SettingsScene.after ⟨first, live⟩ (events.take 6)).live.current.relay.cooldownSeconds = 8 ∧
      (SettingsScene.after ⟨first, live⟩ events).live.current.relay.cooldownSeconds = 5 ∧
      (SettingsScene.after ⟨first, live⟩ events).live.current.relay.retryTimes = 2 := by
  intro file first overrides events
  have hload : loadSettings "gateway.toml" first overrides =
      .ok { relay := { retryTimes := 2, cooldownSeconds := 8 } } := by
    have htoOption : (loadSettings "gateway.toml" first overrides).toOption =
        some { relay := { retryTimes := 2, cooldownSeconds := 8 } } := by
      decide +kernel
    revert htoOption
    cases loadSettings "gateway.toml" first overrides with
    | error err => exact fun h => by cases h
    | ok settings => exact fun h => congrArg Except.ok (Option.some.inj h)
  have hstart : LiveSettings.start "gateway.toml" first overrides = .ok ⟨_, _, _⟩ :=
    start_ok.mpr ⟨hload, rfl, rfl⟩
  refine ⟨_, hstart, (liveSettings_governed _ _ _ (by decide)).2 _ hstart events, ?_, ?_, ?_⟩ <;>
    decide +kernel

end RelayGateway
