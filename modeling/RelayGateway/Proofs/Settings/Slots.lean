import RelayGateway.Json
import RelayGateway.Settings.Override

/-! # Settings that can be overridden

* `Slot`: the settings with a path of their own; `Slot.parse?` reads a value for one, and `Slot.shown?` is
  the value that settings have there.
* `Settings.override_cases`: all that one override can do; what it does to its own slot and to the others
  follows from it (`override_shown`, `override_frame`).
* `Settings.overrideAll_isOk`: overrides in a row fail only by a value that cannot be read.
* `Settings.overrideAll_shown`: of overrides with different paths each one arrives.
-/

set_option autoImplicit false

namespace RelayGateway

theorem bind_eq_ok {ε α β : Type} {action : Except ε α} {next : α → Except ε β} {b : β} :
    (action >>= next) = .ok b ↔ ∃ a, action = .ok a ∧ next a = .ok b := by
  cases action with
  | error err => simp [bind, Except.bind]
  | ok a => simp [bind, Except.bind]

/-! ## Slots -/

/-- A setting that can be overridden. -/
inductive Slot where
  | databaseUrl
  | maxConnections
  | retryTimes
  | retryTimeout
  | cooldown
  | defaultWeight
  | ignoreCase
  | automaticDisable
  | disableKeywords
  | reloadInterval
  | sweepInterval
  | host
  | port
  | webhookUrl
  deriving DecidableEq

/-- A value of a setting. -/
inductive SlotValue where
  | text (value : String)
  | number (value : Nat)
  | flag (value : Bool)
  | texts (values : List String)
  deriving DecidableEq

namespace Slot

def all : List Slot :=
  [.databaseUrl, .maxConnections, .retryTimes, .retryTimeout, .cooldown, .defaultWeight, .ignoreCase,
    .automaticDisable, .disableKeywords, .reloadInterval, .sweepInterval, .host, .port, .webhookUrl]

def path : Slot → String
  | .databaseUrl => "database.url"
  | .maxConnections => "database.max.connections"
  | .retryTimes => "relay.retry.times"
  | .retryTimeout => "relay.retry.timeout.seconds"
  | .cooldown => "relay.retry.cooldown.seconds"
  | .defaultWeight => "relay.default.channel.weight"
  | .ignoreCase => "relay.model.name.case.insensitive"
  | .automaticDisable => "relay.automatic.disable.channel"
  | .disableKeywords => "relay.disable.channel.keywords"
  | .reloadInterval => "channels.reload.interval.seconds"
  | .sweepInterval => "channels.cooldown.sweep.interval.seconds"
  | .host => "management.host"
  | .port => "management.port"
  | .webhookUrl => "notify.webhook.url"

def ofPath? (path : String) : Option Slot :=
  all.find? fun slot => slot.path == path

/-- The value that a text denotes in a slot, if it denotes one. -/
def parse? (text : String) : Slot → Option SlotValue
  | .databaseUrl | .host | .webhookUrl => some (.text text)
  | .port => (Text.natural? 65535 text).map .number
  | .maxConnections | .retryTimes | .defaultWeight => (Text.natural? maxUInt32 text).map .number
  | .retryTimeout | .cooldown | .reloadInterval | .sweepInterval =>
    (Text.natural? maxUInt64 text).map .number
  | .ignoreCase | .automaticDisable => (truthValue? text).map .flag
  | .disableKeywords => some (.texts (Text.splitList text))

/-- The value that settings have in a slot, if they have one. -/
def shown? (settings : Settings) : Slot → Option SlotValue
  | .databaseUrl => some (.text settings.database.url)
  | .maxConnections => some (.number settings.database.maxConnections.toNat)
  | .retryTimes => some (.number settings.relay.retryTimes.toNat)
  | .retryTimeout => some (.number settings.relay.retryTimeoutSeconds.toNat)
  | .cooldown => some (.number settings.relay.cooldownSeconds.toNat)
  | .defaultWeight => some (.number settings.relay.defaultWeight.toNat)
  | .ignoreCase => some (.flag settings.relay.ignoreCase)
  | .automaticDisable => some (.flag settings.relay.automaticDisable)
  | .disableKeywords => some (.texts settings.relay.disableKeywords)
  | .reloadInterval => some (.number settings.upkeep.reloadIntervalSeconds.toNat)
  | .sweepInterval => some (.number settings.upkeep.sweepIntervalSeconds.toNat)
  | .host => some (.text settings.management.host)
  | .port => some (.number settings.management.port.toNat)
  | .webhookUrl => settings.notify.webhookUrl.map .text

theorem ofPath?_path (slot : Slot) : ofPath? slot.path = some slot := by
  cases slot <;> decide +kernel

theorem path_of_ofPath? {path : String} {slot : Slot} (h : ofPath? path = some slot) :
    slot.path = path := by
  simpa using List.find?_some h

end Slot

/-- What an override makes of settings: their slot shows the value, and no other slot changes. -/
structure Fills (slot : Slot) (value : SlotValue) (before after : Settings) : Prop where
  own : slot.shown? after = some value
  others : ∀ other, other ≠ slot → other.shown? after = other.shown? before

theorem natural?_le {max n : Nat} {text : String} (h : Text.natural? max text = some n) : n ≤ max := by
  unfold Text.natural? at h
  simpa using (Option.filter_eq_some_iff.mp h).2

/-- A numeral within the bounds of a word type denotes the same number before and after its conversion. -/
theorem natural?_number {ω : Type} {max : Nat} (ofNat : Nat → ω) (toNat : ω → Nat)
    (exact : ∀ n < max + 1, toNat (ofNat n) = n) (text : String) :
    (Text.natural? max text).map SlotValue.number =
      ((Text.natural? max text).map ofNat).map fun word => .number (toNat word) := by
  cases hnumber : Text.natural? max text with
  | none => rfl
  | some n =>
    rw [Option.map_some, Option.map_some, Option.map_some,
      exact n (Nat.lt_succ_of_le (natural?_le hnumber))]

/-- An override whose value its slot can have, if its path has a slot. -/
def Override.IsReadable (item : Override) : Prop :=
  ∀ slot, Slot.ofPath? item.path = some slot → ∃ value, slot.parse? item.value = some value

namespace Settings

variable {settings : Settings} {item : Override}

/-- What an override does with a slot, as a reply of `Settings.override`. -/
def Overrides (settings : Settings) (item : Override) (slot : Slot)
    (reply : Except ServiceError Settings) : Prop :=
  (slot.parse? item.value = none ∧ reply = .error item.invalid) ∨
    ∃ value changed, slot.parse? item.value = some value ∧ reply = .ok changed ∧
      Fills slot value settings changed

theorem overrides_read {α : Type} {slot : Slot} {value? : String → Option α} (shown : α → SlotValue)
    {change : α → Settings} (parsed : slot.parse? item.value = (value? item.value).map shown)
    (fills : ∀ value, Fills slot (shown value) settings (change value)) :
    Overrides settings item slot (do let value ← item.read value?; return change value) := by
  unfold Override.read
  cases hvalue : value? item.value with
  | none => exact .inl ⟨by rw [parsed, hvalue]; rfl, rfl⟩
  | some value => exact .inr ⟨shown value, change value, by rw [parsed, hvalue]; rfl, rfl, fills value⟩

theorem fills_of_frame {slot : Slot} {value : SlotValue} {changed : Settings}
    (own : slot.shown? changed = some value)
    (frame : ∀ other, other = slot ∨ other.shown? changed = other.shown? settings) :
    Fills slot value settings changed :=
  ⟨own, fun other hne => (frame other).resolve_left hne⟩

theorem override_slot (settings : Settings) (slot : Slot) (value : String) :
    Overrides settings ⟨slot.path, value⟩ slot (settings.override ⟨slot.path, value⟩) := by
  have word16 := natural?_number UInt16.ofNat UInt16.toNat (fun _ h => UInt16.toNat_ofNat_of_lt' h) value
  have word32 := natural?_number UInt32.ofNat UInt32.toNat (fun _ h => UInt32.toNat_ofNat_of_lt' h) value
  have word64 := natural?_number UInt64.ofNat UInt64.toNat (fun _ h => UInt64.toNat_ofNat_of_lt' h) value
  -- In each case one field of one section changes, and no other slot reads that field.
  cases slot with
  | databaseUrl | host | webhookUrl =>
    refine .inr ⟨.text value, _, rfl, rfl, fills_of_frame rfl fun other => ?_⟩
    cases other <;> first | exact .inr rfl | exact .inl rfl
  | disableKeywords =>
    refine .inr ⟨.texts (Text.splitList value), _, rfl, rfl, fills_of_frame rfl fun other => ?_⟩
    cases other <;> first | exact .inr rfl | exact .inl rfl
  | ignoreCase | automaticDisable =>
    refine overrides_read .flag rfl fun b => fills_of_frame rfl fun other => ?_
    cases other <;> first | exact .inr rfl | exact .inl rfl
  | port =>
    refine overrides_read (fun n => .number (UInt16.toNat n)) word16 fun n => ?_
    refine fills_of_frame rfl fun other => ?_
    cases other <;> first | exact .inr rfl | exact .inl rfl
  | maxConnections | retryTimes | defaultWeight =>
    refine overrides_read (fun n => .number (UInt32.toNat n)) word32 fun n => ?_
    refine fills_of_frame rfl fun other => ?_
    cases other <;> first | exact .inr rfl | exact .inl rfl
  | retryTimeout | cooldown | reloadInterval | sweepInterval =>
    refine overrides_read (fun n => .number (UInt64.toNat n)) word64 fun n => ?_
    refine fills_of_frame rfl fun other => ?_
    cases other <;> first | exact .inr rfl | exact .inl rfl

theorem override_unknown (settings : Settings) {item : Override}
    (unknown : Slot.ofPath? item.path = none) : settings.override item = .ok settings := by
  have hother : ∀ slot : Slot, item.path ≠ slot.path := by
    intro slot heq
    rw [heq, Slot.ofPath?_path] at unknown
    cases unknown
  unfold override
  split
  case h_15 => rfl
  case h_1 heq => exact absurd heq (hother .databaseUrl)
  case h_2 heq => exact absurd heq (hother .maxConnections)
  case h_3 heq => exact absurd heq (hother .retryTimes)
  case h_4 heq => exact absurd heq (hother .retryTimeout)
  case h_5 heq => exact absurd heq (hother .cooldown)
  case h_6 heq => exact absurd heq (hother .defaultWeight)
  case h_7 heq => exact absurd heq (hother .ignoreCase)
  case h_8 heq => exact absurd heq (hother .automaticDisable)
  case h_9 heq => exact absurd heq (hother .disableKeywords)
  case h_10 heq => exact absurd heq (hother .reloadInterval)
  case h_11 heq => exact absurd heq (hother .sweepInterval)
  case h_12 heq => exact absurd heq (hother .host)
  case h_13 heq => exact absurd heq (hother .port)
  case h_14 heq => exact absurd heq (hother .webhookUrl)

/-- All that one override can do: it fails in no other way than by a value that its slot cannot have. -/
theorem override_cases (settings : Settings) (item : Override) :
    (Slot.ofPath? item.path = none ∧ settings.override item = .ok settings) ∨
      ∃ slot, Slot.ofPath? item.path = some slot ∧
        Overrides settings item slot (settings.override item) := by
  cases hslot : Slot.ofPath? item.path with
  | none => exact .inl ⟨rfl, override_unknown settings hslot⟩
  | some slot =>
    have hitem : item = ⟨slot.path, item.value⟩ := by rw [Slot.path_of_ofPath? hslot]
    refine .inr ⟨slot, rfl, ?_⟩
    rw [hitem]
    exact override_slot settings slot item.value

theorem override_of_isReadable (settings : Settings) (h : item.IsReadable) :
    ∃ changed, settings.override item = .ok changed := by
  obtain ⟨-, hok⟩ | ⟨slot, hslot, ⟨hnone, -⟩ | ⟨-, changed, -, hok, -⟩⟩ := override_cases settings item
  · exact ⟨settings, hok⟩
  · obtain ⟨value, hvalue⟩ := h slot hslot
    rw [hvalue] at hnone
    cases hnone
  · exact ⟨changed, hok⟩

/-- What an override that succeeds has done. -/
theorem override_ok {changed : Settings} (h : settings.override item = .ok changed) :
    (Slot.ofPath? item.path = none ∧ changed = settings) ∨
      ∃ slot value, Slot.ofPath? item.path = some slot ∧ slot.parse? item.value = some value ∧
        Fills slot value settings changed := by
  obtain ⟨hnone, hok⟩ | ⟨slot, hslot, ⟨-, herror⟩ | ⟨value, filled, hvalue, hok, fills⟩⟩ :=
    override_cases settings item
  · exact .inl ⟨hnone, by simpa using h.symm.trans hok⟩
  · cases h.symm.trans herror
  · obtain rfl : changed = filled := by simpa using h.symm.trans hok
    exact .inr ⟨slot, value, hslot, hvalue, fills⟩

theorem override_isReadable {changed : Settings} (h : settings.override item = .ok changed) :
    item.IsReadable := by
  intro slot hslot
  obtain ⟨hnone, -⟩ | ⟨own, value, hown, hvalue, -⟩ := override_ok h
  · cases hnone.symm.trans hslot
  · obtain rfl : slot = own := by simpa using hslot.symm.trans hown
    exact ⟨value, hvalue⟩

theorem override_frame {changed : Settings} {slot : Slot} (h : settings.override item = .ok changed)
    (hother : Slot.ofPath? item.path ≠ some slot) : slot.shown? changed = slot.shown? settings := by
  obtain ⟨-, rfl⟩ | ⟨own, value, hown, -, fills⟩ := override_ok h
  · rfl
  · exact fills.others slot fun hslot => hother (hslot ▸ hown)

theorem override_shown {changed : Settings} {slot : Slot} (h : settings.override item = .ok changed)
    (hslot : Slot.ofPath? item.path = some slot) :
    ∃ value, slot.parse? item.value = some value ∧ slot.shown? changed = some value := by
  obtain ⟨hnone, -⟩ | ⟨own, value, hown, hvalue, fills⟩ := override_ok h
  · cases hnone.symm.trans hslot
  · obtain rfl : slot = own := by simpa using hslot.symm.trans hown
    exact ⟨value, hvalue, fills.own⟩

/-! ## Overrides in a row -/

variable {overrides : List Override} {changed : Settings} {slot : Slot}

theorem overrideAll_nil (settings : Settings) : settings.overrideAll [] = .ok settings :=
  rfl

theorem overrideAll_cons_ok {rest : List Override} :
    settings.overrideAll (item :: rest) = .ok changed ↔
      ∃ next, settings.override item = .ok next ∧ next.overrideAll rest = .ok changed :=
  bind_eq_ok

theorem overrideAll_isOk (settings : Settings) (overrides : List Override) :
    (∃ changed, settings.overrideAll overrides = .ok changed) ↔ ∀ item ∈ overrides, item.IsReadable := by
  induction overrides generalizing settings with
  | nil => exact ⟨fun _ item hmem => absurd hmem List.not_mem_nil, fun _ => ⟨settings, rfl⟩⟩
  | cons item rest ih =>
    rw [List.forall_mem_cons]
    constructor
    · rintro ⟨changed, h⟩
      obtain ⟨next, hnext, hrest⟩ := overrideAll_cons_ok.mp h
      exact ⟨override_isReadable hnext, (ih next).mp ⟨changed, hrest⟩⟩
    · rintro ⟨hreadable, hrest⟩
      obtain ⟨next, hnext⟩ := override_of_isReadable settings hreadable
      obtain ⟨changed, hchanged⟩ := (ih next).mpr hrest
      exact ⟨changed, overrideAll_cons_ok.mpr ⟨next, hnext, hchanged⟩⟩

theorem overrideAll_frame (h : settings.overrideAll overrides = .ok changed)
    (hother : ∀ item ∈ overrides, Slot.ofPath? item.path ≠ some slot) :
    slot.shown? changed = slot.shown? settings := by
  induction overrides generalizing settings with
  | nil =>
    obtain rfl : settings = changed := by simpa [overrideAll_nil] using h
    rfl
  | cons item rest ih =>
    obtain ⟨hitem, hrest⟩ := List.forall_mem_cons.mp hother
    obtain ⟨next, hnext, hlater⟩ := overrideAll_cons_ok.mp h
    exact (ih hlater hrest).trans (override_frame hnext hitem)

/-- Of overrides with different paths each one arrives, wherever it stands. -/
theorem overrideAll_shown (distinct : (overrides.map (·.path)).Nodup)
    (h : settings.overrideAll overrides = .ok changed) (hmem : item ∈ overrides)
    (hslot : Slot.ofPath? item.path = some slot) :
    ∃ value, slot.parse? item.value = some value ∧ slot.shown? changed = some value := by
  induction overrides generalizing settings with
  | nil => exact absurd hmem List.not_mem_nil
  | cons first rest ih =>
    obtain ⟨hfirst, hrest⟩ := List.nodup_cons.mp distinct
    obtain ⟨next, hnext, hlater⟩ := overrideAll_cons_ok.mp h
    obtain rfl | hmem := List.mem_cons.mp hmem
    · obtain ⟨value, hvalue, hshown⟩ := override_shown hnext hslot
      -- A later override of the same slot would have the same path.
      refine ⟨value, hvalue, (overrideAll_frame hlater fun later hmem hsame => hfirst ?_).trans hshown⟩
      exact List.mem_map.mpr
        ⟨later, hmem, (Slot.path_of_ofPath? hsame).symm.trans (Slot.path_of_ofPath? hslot)⟩
    · exact ih hrest hlater hmem

end Settings

end RelayGateway
