import RelayGateway.Proofs.Settings.Slots
import RelayGateway.Proofs.Text.Lists

/-! # Overrides in any order

* `Settings.Fixed`, `Settings.fixed`: the settings that no override can reach. Settings are determined by
  them and by what they have in each slot (`Settings.eq_of_shown`).
* `Sets`: one override has arrived, and nothing else has changed. `Settings.override_slotted` says that this
  is all that an override does.
* `Overridden`: what a collection of overrides makes of settings, whatever their order.
  `Settings.overrideAll_eq_ok` says that overrides in a row, with different paths, do just this.
* `overrides_unordered`: so the order of overrides is of no consequence.
-/

set_option autoImplicit false

namespace RelayGateway

variable {settings changed : Settings} {item : Override} {overrides order : List Override} {slot : Slot}

/-! ## Settings by their parts -/

/-- The settings that no override can reach. -/
structure Settings.Fixed where
  connectTimeout : UInt64
  corsOrigins : List String
  noticeTimeout : Option UInt64
  deriving DecidableEq

def Settings.fixed (settings : Settings) : Settings.Fixed where
  connectTimeout := settings.database.connectTimeout
  corsOrigins := settings.management.corsOrigins
  noticeTimeout := settings.notify.timeoutSeconds

/-- Settings are determined by what they have in each slot and by the settings without a slot. -/
theorem Settings.eq_of_shown {a b : Settings} (shown : ∀ slot : Slot, slot.shown? a = slot.shown? b)
    (fixed : a.fixed = b.fixed) : a = b := by
  obtain ⟨database, relay, upkeep, management, notify⟩ := a
  obtain ⟨database', relay', upkeep', management', notify'⟩ := b
  obtain ⟨hconnect, hcors, hnotice⟩ := Fixed.mk.inj fixed
  have hdatabase : database = database' := by
    have hurl := shown .databaseUrl
    have hconnections := shown .maxConnections
    cases database
    cases database'
    simp_all [Slot.shown?, UInt32.toNat_inj]
  have hrelay : relay = relay' := by
    have hretries := shown .retryTimes
    have htimeout := shown .retryTimeout
    have hcooldown := shown .cooldown
    have hweight := shown .defaultWeight
    have hcase := shown .ignoreCase
    have hautomatic := shown .automaticDisable
    have hkeywords := shown .disableKeywords
    cases relay
    cases relay'
    simp_all [Slot.shown?, UInt32.toNat_inj, UInt64.toNat_inj]
  have hupkeep : upkeep = upkeep' := by
    have hreload := shown .reloadInterval
    have hsweep := shown .sweepInterval
    cases upkeep
    cases upkeep'
    simp_all [Slot.shown?, UInt64.toNat_inj]
  have hmanagement : management = management' := by
    have hhost := shown .host
    have hport := shown .port
    cases management
    cases management'
    simp_all [Slot.shown?, UInt16.toNat_inj]
  have hnotify : notify = notify' := by
    have hwebhook := Option.map_injective (fun _ _ => SlotValue.text.inj) (shown .webhookUrl)
    cases notify
    cases notify'
    simp_all
  rw [hdatabase, hrelay, hupkeep, hmanagement, hnotify]

/-! ## One override -/

/-- An override has arrived in its slot, and nothing else has changed. -/
structure Sets (slot : Slot) (value : SlotValue) (before after : Settings) : Prop where
  own : slot.shown? after = some value
  others : ∀ other, other ≠ slot → other.shown? after = other.shown? before
  fixed : after.fixed = before.fixed

theorem Sets.unique {value : SlotValue} {other : Settings} (h : Sets slot value settings changed)
    (h' : Sets slot value settings other) : changed = other := by
  refine Settings.eq_of_shown (fun any => ?_) (h.fixed.trans h'.fixed.symm)
  by_cases hany : any = slot
  · rw [hany, h.own, h'.own]
  · rw [h.others any hany, h'.others any hany]

namespace Settings

theorem fixed_of_read {α : Type} {value? : String → Option α} {change : α → Settings}
    (keeps : ∀ value, (change value).fixed = settings.fixed)
    (h : (do let value ← item.read value?; return change value) = Except.ok (ε := ServiceError) changed) :
    changed.fixed = settings.fixed := by
  obtain ⟨value, -, hvalue⟩ := bind_eq_ok.mp h
  obtain rfl : change value = changed := Except.ok.inj hvalue
  exact keeps value

theorem override_fixed (h : settings.override item = .ok changed) : changed.fixed = settings.fixed := by
  cases hslot : Slot.ofPath? item.path with
  | none =>
    obtain rfl : settings = changed := Except.ok.inj ((override_unknown settings hslot).symm.trans h)
    rfl
  | some slot =>
    have hitem : item = ⟨slot.path, item.value⟩ := by rw [Slot.path_of_ofPath? hslot]
    rw [hitem] at h
    cases slot with
    | databaseUrl | host | webhookUrl | disableKeywords =>
      rw [← Except.ok.inj h]
      rfl
    | ignoreCase | automaticDisable | port | maxConnections | retryTimes | defaultWeight | retryTimeout
      | cooldown | reloadInterval | sweepInterval =>
      refine fixed_of_read ?_ h
      exact fun _ => rfl

/-- An override of a slot arrives there if the slot can have its value, and else is refused. -/
theorem override_slotted (settings : Settings) (hslot : Slot.ofPath? item.path = some slot) :
    (slot.parse? item.value = none ∧ settings.override item = .error item.invalid) ∨
      ∃ value changed, slot.parse? item.value = some value ∧ settings.override item = .ok changed ∧
        Sets slot value settings changed := by
  obtain ⟨hnone, -⟩ | ⟨own, hown, refused | ⟨value, changed, hvalue, hok, fills⟩⟩ :=
    override_cases settings item
  · cases hnone.symm.trans hslot
  · obtain rfl : slot = own := by simpa using hslot.symm.trans hown
    exact .inl refused
  · obtain rfl : slot = own := by simpa using hslot.symm.trans hown
    exact .inr ⟨value, changed, hvalue, hok, fills.own, fills.others, override_fixed hok⟩

theorem override_error {err : ServiceError} (h : settings.override item = .error err) :
    ¬ item.IsReadable ∧ err = item.invalid := by
  cases hslot : Slot.ofPath? item.path with
  | none => cases (override_unknown settings hslot).symm.trans h
  | some slot =>
    obtain ⟨hvalue, hrefused⟩ | ⟨_, _, _, hok, _⟩ := override_slotted settings hslot
    · refine ⟨fun readable => ?_, Except.error.inj (h.symm.trans hrefused)⟩
      obtain ⟨value, hsome⟩ := readable slot hslot
      cases hvalue.symm.trans hsome
    · cases hok.symm.trans h

end Settings

/-! ## Overrides in a row -/

/-- Every override has arrived in its slot, and nothing else has changed. -/
structure Overridden (overrides : List Override) (before after : Settings) : Prop where
  named : ∀ item ∈ overrides, ∀ slot, Slot.ofPath? item.path = some slot →
    ∃ value, slot.parse? item.value = some value ∧ slot.shown? after = some value
  others : ∀ slot, (∀ item ∈ overrides, Slot.ofPath? item.path ≠ some slot) →
    slot.shown? after = slot.shown? before
  fixed : after.fixed = before.fixed

theorem Overridden.unique {other : Settings} (h : Overridden overrides settings changed)
    (h' : Overridden overrides settings other) : changed = other := by
  refine Settings.eq_of_shown (fun slot => ?_) (h.fixed.trans h'.fixed.symm)
  by_cases hnamed : ∃ item ∈ overrides, Slot.ofPath? item.path = some slot
  · obtain ⟨item, hmem, hslot⟩ := hnamed
    obtain ⟨value, hvalue, hshown⟩ := h.named item hmem slot hslot
    obtain ⟨value', hvalue', hshown'⟩ := h'.named item hmem slot hslot
    obtain rfl : value = value' := by simpa using hvalue.symm.trans hvalue'
    rw [hshown, hshown']
  · have hother : ∀ item ∈ overrides, Slot.ofPath? item.path ≠ some slot :=
      fun item hmem hslot => hnamed ⟨item, hmem, hslot⟩
    rw [h.others slot hother, h'.others slot hother]

/-- What becomes of settings depends on which overrides there are, and not on their order. -/
theorem Overridden.congr (same : ∀ item, item ∈ order ↔ item ∈ overrides)
    (h : Overridden overrides settings changed) : Overridden order settings changed where
  named item hmem := h.named item ((same item).mp hmem)
  others slot hother := h.others slot fun item hmem => hother item ((same item).mpr hmem)
  fixed := h.fixed

namespace Settings

theorem overrideAll_fixed (h : settings.overrideAll overrides = .ok changed) :
    changed.fixed = settings.fixed := by
  induction overrides generalizing settings with
  | nil =>
    obtain rfl : settings = changed := Except.ok.inj h
    rfl
  | cons item rest ih =>
    obtain ⟨next, hnext, hrest⟩ := overrideAll_cons_ok.mp h
    exact (ih hrest).trans (override_fixed hnext)

theorem overridden_of_ok (distinct : (overrides.map (·.path)).Nodup)
    (h : settings.overrideAll overrides = .ok changed) : Overridden overrides settings changed where
  named _ hmem _ hslot := overrideAll_shown distinct h hmem hslot
  others _ hother := overrideAll_frame h hother
  fixed := overrideAll_fixed h

theorem overrideAll_eq_ok (distinct : (overrides.map (·.path)).Nodup) :
    settings.overrideAll overrides = .ok changed ↔ Overridden overrides settings changed := by
  refine ⟨overridden_of_ok distinct, fun h => ?_⟩
  have readable : ∀ item ∈ overrides, item.IsReadable := fun item hmem slot hslot =>
    have ⟨value, hvalue, _⟩ := h.named item hmem slot hslot
    ⟨value, hvalue⟩
  obtain ⟨other, hother⟩ := (overrideAll_isOk settings overrides).mpr readable
  rw [hother, (overridden_of_ok distinct hother).unique h]

/-- Overrides in a row fail by one of those that cannot be read. -/
theorem overrideAll_error {err : ServiceError} (h : settings.overrideAll overrides = .error err) :
    ∃ item ∈ overrides, ¬ item.IsReadable ∧ err = item.invalid := by
  induction overrides generalizing settings with
  | nil => cases h
  | cons first rest ih =>
    cases hfirst : settings.override first with
    | error err' =>
      obtain rfl : err' = err := by simpa [overrideAll, bind, Except.bind, hfirst] using h
      exact ⟨first, List.mem_cons_self, override_error hfirst⟩
    | ok next =>
      have hrest : next.overrideAll rest = .error err := by
        simpa [overrideAll, bind, Except.bind, hfirst] using h
      obtain ⟨item, hmem, hitem⟩ := ih hrest
      exact ⟨item, List.mem_cons_of_mem _ hmem, hitem⟩

end Settings

/-! ## Any order -/

/-- The order of overrides with different paths is of no consequence. An override without a slot changes
nothing. One with a slot is refused, or it changes what is in the slot to the value that its text denotes,
and nothing else. If all can be read, they make the same of settings in every order: each slot that is named
has its value, and all else is as it was. If some cannot, they fail in every order, by one of these. The
keywords are what stands between the commas, trimmed, without what is empty then. -/
theorem overrides_unordered (settings : Settings) (overrides : List Override)
    (distinct : (overrides.map (·.path)).Nodup) :
    (∀ item : Override, Slot.ofPath? item.path = none → settings.override item = .ok settings) ∧
      (∀ (item : Override) (slot : Slot), Slot.ofPath? item.path = some slot →
        (slot.parse? item.value = none ∧ settings.override item = .error item.invalid) ∨
          ∃ value changed, slot.parse? item.value = some value ∧
            settings.override item = .ok changed ∧
            ∀ other, Sets slot value settings other ↔ other = changed) ∧
      ((∀ item ∈ overrides, item.IsReadable) → ∃ changed,
        (∀ other, Overridden overrides settings other ↔ other = changed) ∧
          ∀ order, order.Perm overrides → settings.overrideAll order = .ok changed) ∧
      ((∃ item ∈ overrides, ¬ item.IsReadable) → ∀ order, order.Perm overrides →
        ∃ item ∈ overrides, ¬ item.IsReadable ∧ settings.overrideAll order = .error item.invalid) ∧
      ∀ text, Slot.disableKeywords.parse? text =
        some (.texts (((Text.splitAt ',' text).map Text.trim).filter fun item => item != "")) := by
  refine ⟨fun item => Settings.override_unknown settings, ?_, ?_, ?_, ?_⟩
  · intro item slot hslot
    refine (Settings.override_slotted settings hslot).imp_right ?_
    rintro ⟨value, changed, hvalue, hok, hsets⟩
    refine ⟨value, changed, hvalue, hok, fun other => ⟨fun h => h.unique hsets, ?_⟩⟩
    rintro rfl
    exact hsets
  · intro readable
    obtain ⟨changed, hok⟩ := (Settings.overrideAll_isOk settings overrides).mpr readable
    have overridden := Settings.overridden_of_ok distinct hok
    refine ⟨changed, fun other => ⟨fun h => h.unique overridden, ?_⟩, fun order reordered => ?_⟩
    · rintro rfl
      exact overridden
    · have distinct' : (order.map (·.path)).Nodup := (reordered.map _).nodup_iff.mpr distinct
      exact (Settings.overrideAll_eq_ok distinct').mpr (overridden.congr fun _ => reordered.mem_iff)
  · rintro ⟨item, hmem, unreadable⟩ order reordered
    cases horder : settings.overrideAll order with
    | ok changed =>
      have readable := (Settings.overrideAll_isOk settings order).mp ⟨changed, horder⟩
      exact absurd (readable item (reordered.mem_iff.mpr hmem)) unreadable
    | error err =>
      obtain ⟨culprit, hculprit, hunreadable, rfl⟩ := Settings.overrideAll_error horder
      exact ⟨culprit, reordered.mem_iff.mp hculprit, hunreadable, rfl⟩
  · intro text
    rw [← splitList_eq]
    rfl

/-- One path begins like another, one has no slot, and the order is turned round; then a port is added that
is no number. -/
theorem turnedRound_unordered :
    let overrides : List Override := [⟨"relay.retry.times", "4"⟩, ⟨"relay.unknown", "x"⟩,
      ⟨"relay.disable.channel.keywords", "foo, bar ,"⟩, ⟨"relay.retry.timeout.seconds", "+9"⟩]
    let refused : Override := ⟨"management.port", "not-a-port"⟩
    ((refused :: overrides).map (·.path)).Nodup ∧
      (({} : Settings).overrideAll overrides.reverse =
        .ok { relay := { retryTimes := 4, retryTimeoutSeconds := 9, disableKeywords := ["foo", "bar"] } }) ∧
      ({} : Settings).overrideAll (overrides ++ [refused]) = .error refused.invalid := by
  intro overrides refused
  have distinct : ((refused :: overrides).map (·.path)).Nodup := by decide
  have listed : (({} : Settings).overrideAll overrides).toOption =
      some { relay := { retryTimes := 4, retryTimeoutSeconds := 9, disableKeywords := ["foo", "bar"] } } := by
    decide
  have readable : ∀ item ∈ overrides, item.IsReadable := by
    cases hlisted : ({} : Settings).overrideAll overrides with
    | ok changed => exact (Settings.overrideAll_isOk {} overrides).mp ⟨changed, hlisted⟩
    | error err =>
      rw [hlisted] at listed
      cases listed
  have unreadable : ¬ refused.IsReadable := by
    intro h
    obtain ⟨value, hvalue⟩ := h .port (by decide)
    have hnone : Slot.port.parse? refused.value = none := by decide
    cases hnone.symm.trans hvalue
  refine ⟨distinct, ?_, ?_⟩
  · obtain ⟨_, _, hsame, _⟩ := overrides_unordered {} overrides (List.nodup_cons.mp distinct).2
    obtain ⟨changed, _, hall⟩ := hsame readable
    rw [hall overrides .rfl] at listed
    rw [hall overrides.reverse (List.reverse_perm overrides), Option.some.inj listed]
  · obtain ⟨_, _, _, hfails, _⟩ := overrides_unordered {} (refused :: overrides) distinct
    obtain ⟨item, hmem, hitem, herror⟩ := hfails ⟨refused, List.mem_cons_self, unreadable⟩
      (overrides ++ [refused]) List.perm_append_comm
    rcases List.mem_cons.mp hmem with rfl | hmem
    · exact herror
    · exact absurd (readable item hmem) hitem

end RelayGateway
