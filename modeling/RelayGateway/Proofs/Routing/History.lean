import RelayGateway.Gateway.State
import RelayGateway.Proofs.Routing.Table
import RelayGateway.Proofs.Store.Fetches

/-! # Registries in the course of time

* `RegistryEvent`, `Registry.after`: a load with what it fetched, or a change of a runtime flag.
* `perform_loadChannels`, `answerHealth_registry`: nothing else happens to the registry of a gateway.
* `loads`, `Registry.snapshot_history`: a registry that starts empty has the table of its last successful
  load.
* `Snapshot.Sound`: no list of a table is empty, and every listed id is that of a channel in it. Every
  table that a registry comes to have is sound (`Registry.sound_history`).
* `Registry.selectKey_error`: the errors that are left for a selection from a sound table.
-/

set_option autoImplicit false

namespace RelayGateway

/-! ## What happens to a registry -/

inductive RegistryEvent where
  | load (fetched : Except ServiceError (List Channel))
  | setEnabled (id : ChannelId) (enabled : Bool)

/-- The registry after an event. A failed load leaves it as it was. -/
def Registry.after (registry : Registry) : RegistryEvent → Registry
  | .load (.ok channels) => registry.install (registry.tableOf channels)
  | .load (.error _) => registry
  | .setEnabled id enabled => (registry.setEnabled id enabled).2

theorem perform_loadChannels (gateway : Gateway) :
    Gateway.perform loadChannels gateway =
      match gateway.store.enabledChannels with
      | .error err => (.error err, gateway)
      | .ok channels =>
        (.ok (Registry.summary (gateway.registry.tableOf channels)),
          { gateway with
            registry := gateway.registry.install (gateway.registry.tableOf channels) }) := by
  have fetched : ∀ fetched : Except ServiceError (List Channel),
      Program.run Gateway.answerHealth (match fetched with
        | .error err => (pure (.error err) : HealthProgram (Except ServiceError LoadSummary))
        | .ok channels => do return .ok (← Program.request (HealthCall.install channels)))
          gateway =
        match fetched with
        | .error err => (.error err, gateway)
        | .ok channels =>
          (.ok (Registry.summary (gateway.registry.tableOf channels)),
            { gateway with
              registry := gateway.registry.install (gateway.registry.tableOf channels) }) := by
    intro fetched
    cases fetched <;> rfl
  exact fetched gateway.store.enabledChannels

/-- A load is an event with what the store gave, and changes only the registry. -/
theorem perform_loadChannels_gateway (gateway : Gateway) :
    (Gateway.perform loadChannels gateway).2 =
      { gateway with registry := gateway.registry.after (.load gateway.store.enabledChannels) } := by
  rw [perform_loadChannels]
  cases gateway.store.enabledChannels <;> rfl

theorem answerHealth_registry (call : HealthCall) (gateway : Gateway) :
    (Gateway.answerHealth call gateway).2.registry = gateway.registry ∨
      ∃ event, (Gateway.answerHealth call gateway).2.registry = gateway.registry.after event := by
  cases call with
  | storedChannel id => exact .inl rfl
  | updateStatus id status => exact .inl rfl
  | fetchEnabled => exact .inl rfl
  | install channels => exact .inr ⟨.load (.ok channels), rfl⟩
  | setEnabled id enabled => exact .inr ⟨.setEnabled id enabled, rfl⟩
  | notify notice => exact .inl rfl

theorem setEnabled_snapshot (registry : Registry) (id : ChannelId) (enabled : Bool) :
    (registry.setEnabled id enabled).2.snapshot = registry.snapshot := by
  unfold Registry.setEnabled
  split <;> rfl

theorem setEnabled_options (registry : Registry) (id : ChannelId) (enabled : Bool) :
    (registry.setEnabled id enabled).2.options = registry.options := by
  unfold Registry.setEnabled
  split <;> rfl

/-- Only the flag of the named channel is set, and only if the table has the channel. -/
theorem isDisabled_setEnabled (registry : Registry) (id : ChannelId) (enabled : Bool)
    (other : ChannelId) :
    (registry.setEnabled id enabled).2.isDisabled other =
      if other = id ∧ (registry.snapshot.channel? id).isSome = true then !enabled
      else registry.isDisabled other := by
  unfold Registry.setEnabled Registry.isDisabled
  by_cases hknown : (registry.snapshot.channel? id).isSome = true
  · rw [if_pos hknown]
    by_cases hsame : other = id
    · subst hsame
      cases enabled <;> simp [hknown]
    · cases enabled <;> simp [hsame]
  · rw [if_neg hknown, if_neg fun h => hknown h.2]

theorem mem_disabled_setEnabled {registry : Registry} {id other : ChannelId} {enabled : Bool}
    (different : other ≠ id) :
    other ∈ (registry.setEnabled id enabled).2.disabled ↔ other ∈ registry.disabled := by
  have h := isDisabled_setEnabled registry id enabled other
  rw [if_neg fun h => different h.1, Bool.eq_iff_iff] at h
  exact List.contains_iff_mem.symm.trans (h.trans List.contains_iff_mem)

theorem mem_disabled_setEnabled_own (registry : Registry) (id : ChannelId) :
    id ∈ (registry.setEnabled id false).2.disabled ↔
      id ∈ registry.disabled ∨ (registry.snapshot.channel? id).isSome = true := by
  have h := isDisabled_setEnabled registry id false id
  unfold Registry.isDisabled at h
  rw [← List.contains_iff_mem, h, ← List.contains_iff_mem]
  cases (registry.snapshot.channel? id).isSome <;> simp

theorem setEnabled_found (registry : Registry) (id : ChannelId) (enabled : Bool) :
    (registry.setEnabled id enabled).1 = (registry.snapshot.channel? id).isSome := by
  unfold Registry.setEnabled
  cases (registry.snapshot.channel? id).isSome <;> rfl

/-! ## The table of the last load -/

/-- What the loads among some events fetched. -/
def loads (history : List RegistryEvent) : List (Except ServiceError (List Channel)) :=
  history.filterMap fun event =>
    match event with
    | .load fetched => some fetched
    | .setEnabled _ _ => none

theorem mem_loads {history : List RegistryEvent} {fetched : Except ServiceError (List Channel)} :
    fetched ∈ loads history ↔ .load fetched ∈ history := by
  unfold loads
  rw [List.mem_filterMap]
  constructor
  · rintro ⟨event, hevent, heq⟩
    cases event with
    | load other =>
      cases heq
      exact hevent
    | setEnabled id enabled => cases heq
  · intro h
    exact ⟨.load fetched, h, rfl⟩

theorem lastLoad_distinct {history : List RegistryEvent}
    (distinct : ∀ channels, .load (.ok channels) ∈ history → (channels.map (·.id)).Nodup) :
    ((lastFetched (loads history)).map (·.id)).Nodup := by
  rcases lastFetched_mem (loads history) with hnone | hfetched
  · rw [hnone]
    exact List.nodup_nil
  · exact distinct _ (mem_loads.mp hfetched)

namespace Registry

theorem history_options (options : RegistryOptions) (history : List RegistryEvent) :
    (history.foldl Registry.after (empty options)).options = options := by
  induction history using List.reverseRecOn with
  | nil => rfl
  | append_singleton history event ih =>
    rw [List.foldl_append]
    match event with
    | .load (.ok channels) => exact ih
    | .load (.error _) => exact ih
    | .setEnabled id enabled => exact (setEnabled_options _ id enabled).trans ih

theorem snapshot_history (options : RegistryOptions) (history : List RegistryEvent) :
    (history.foldl Registry.after (empty options)).snapshot =
      .build (lastFetched (loads history)) options.defaultWeight := by
  induction history using List.reverseRecOn with
  | nil => rfl
  | append_singleton history event ih =>
    have hloads : loads (history ++ [event]) = loads history ++ loads [event] :=
      List.filterMap_append
    rw [List.foldl_append, hloads]
    match event with
    | .load (.ok channels) =>
      show Snapshot.build channels _ = .build (lastFetched (loads history ++ [.ok channels])) _
      rw [lastFetched_ok, history_options]
    | .load (.error err) =>
      show _ = Snapshot.build (lastFetched (loads history ++ [.error err])) _
      rw [lastFetched_error]
      exact ih
    | .setEnabled id enabled =>
      show (setEnabled _ id enabled).2.snapshot = Snapshot.build (lastFetched (loads history ++ [])) _
      rw [setEnabled_snapshot, List.append_nil]
      exact ih

end Registry

/-! ## Sound tables -/

/-- No list of the table is empty, and the table has a channel for every listed id. -/
def Snapshot.Sound (snapshot : Snapshot) : Prop :=
  ∀ group model tiers, snapshot.tiers group model = some tiers →
    tiers ≠ [] ∧ ∀ id ∈ tiers.flatten, (snapshot.channel? id).isSome = true

theorem Snapshot.sound_empty : Snapshot.empty.Sound := by
  intro group model tiers h
  cases h

theorem Snapshot.sound_build (channels : List Channel) (defaultWeight : UInt32) :
    (Snapshot.build channels defaultWeight).Sound := by
  intro group model tiers h
  obtain ⟨hserving, rfl⟩ := build_tiers_eq_some.mp h
  constructor
  · intro hnil
    exact tiersOf_ne_nil hserving (List.map_eq_nil_iff.mp hnil)
  · intro id hid
    obtain ⟨_, hmembers, hid⟩ := List.mem_flatten.mp hid
    obtain ⟨tier, htier, rfl⟩ := List.mem_map.mp hmembers
    obtain ⟨channel, hchannel, rfl⟩ := tiersOf_members htier hid
    obtain ⟨hmem, henabled, _⟩ := mem_serving.mp hchannel
    rw [build_channel?_isSome]
    exact ⟨channel, hmem, henabled, rfl⟩

theorem Registry.sound_after {registry : Registry} (h : registry.snapshot.Sound)
    (event : RegistryEvent) : (registry.after event).snapshot.Sound := by
  match event with
  | .load (.ok channels) => exact Snapshot.sound_build channels registry.options.defaultWeight
  | .load (.error _) => exact h
  | .setEnabled id enabled =>
    show (registry.setEnabled id enabled).2.snapshot.Sound
    rw [setEnabled_snapshot]
    exact h

theorem Registry.sound_history {registry : Registry} (h : registry.snapshot.Sound)
    (history : List RegistryEvent) : (history.foldl Registry.after registry).snapshot.Sound := by
  induction history generalizing registry with
  | nil => exact h
  | cons event history ih => exact ih (registry.sound_after h event)

/-- A selection from a sound table fails only because there is no route, or because no channel on it can
be chosen. -/
theorem Registry.selectKey_error {registry : Registry} (sound : registry.snapshot.Sound)
    {conditions : Conditions} {group key : String} {draws : Draws} {err : RoutingError}
    (h : registry.selectKey conditions group key draws = .error err) :
    err = .groupNotFound group ∨ err = .modelNotFoundInGroup group key ∨
      err = .noAvailableChannelsAfterFiltering group key := by
  unfold Registry.selectKey at h
  split at h
  · split at h
    · cases h
      exact .inr (.inl rfl)
    · rename_i hnil
      exact absurd rfl (sound group key [] hnil).1
    · rename_i tiers _ htiers
      split at h
      · cases h
      · split at h
        · rename_i id hdangling
          have hknown := (sound group key tiers htiers).2 id (List.mem_of_find?_eq_some hdangling)
          have hmissing := List.find?_some hdangling
          rw [Option.isSome_iff_ne_none] at hknown
          exact absurd (Option.isNone_iff_eq_none.mp hmissing) hknown
        · cases h
          exact .inr (.inr rfl)
  · cases h
    exact .inl rfl

/-! ## The table of distinct channels -/

/-- The table of channels with distinct ids has exactly the enabled ones, each as it is apart from a weight
of zero, in the place of which it has the default weight. A group and a model key are routed exactly if an
enabled channel serves them, by layers of the channels that do, all of which are in the table. In the course
of time no selection fails for want of channels on a route or of a channel for an id. -/
theorem table_exact (channels : List Channel) (defaultWeight : UInt32)
    (distinct : (channels.map (·.id)).Nodup) (options : RegistryOptions)
    (history : List RegistryEvent) :
    let snapshot := Snapshot.build channels defaultWeight
    let registry := history.foldl Registry.after (.empty options)
    (∀ id channel, snapshot.channel? id = some channel ↔
        ∃ stored ∈ channels, stored.status = .enabled ∧ stored.id = id ∧
          channel = { stored with
            weight := if stored.weight = 0 then defaultWeight else stored.weight }) ∧
      (snapshot.channels.map (·.id)).Nodup ∧
      (∀ group model, (snapshot.tiers group model).isSome = true ↔
        ∃ channel ∈ channels, channel.Serves group model) ∧
      (∀ group model tiers, snapshot.tiers group model = some tiers →
        Layered (serving channels group model) tiers ∧
          ∀ id ∈ tiers.flatten, (snapshot.channel? id).isSome = true) ∧
      ∀ conditions group key draws,
        (∀ g m, registry.selectKey conditions group key draws ≠ .error (.noChannelsAvailable g m)) ∧
          ∀ id, registry.selectKey conditions group key draws ≠
            .error (.databaseConsistencyBroken id) := by
  intro snapshot registry
  refine ⟨fun id channel => ?_, ?_, fun group model => build_tiers_isSome, ?_, ?_⟩
  · rw [build_channel? distinct]
    simp only [withWeight_eq]
  · rw [build_channels distinct]
    exact routable_ids_nodup distinct defaultWeight
  · intro group model tiers htiers
    exact ⟨build_layered distinct htiers,
      (Snapshot.sound_build channels defaultWeight group model tiers htiers).2⟩
  · intro conditions group key draws
    have sound : registry.snapshot.Sound := Registry.sound_history Snapshot.sound_empty history
    constructor
    · intro g m h
      rcases Registry.selectKey_error sound h with h | h | h <;> cases h
    · intro id h
      rcases Registry.selectKey_error sound h with h | h | h <;> cases h

def mixedChannel (id : ChannelId) (priority : Int64) (status : ChannelStatus) : Channel :=
  { (default : Channel) with id, groups := [" g", "g"], models := ["m", "m ", ""], priority, status }

/-- Channels of two priorities without weights, one of them disabled; their names stand there twice. -/
def mixedChannels : List Channel :=
  [mixedChannel 1 0 .enabled, mixedChannel 2 5 .enabled, mixedChannel 3 0 .enabled,
    mixedChannel 4 7 .manuallyDisabled]

theorem mixedChannels_exact :
    let snapshot := Snapshot.build mixedChannels 3
    (mixedChannels.map (·.id)).Nodup ∧
      snapshot.channel? 2 = some { mixedChannel 2 5 .enabled with weight := 3 } ∧
      snapshot.tiers "g" "m" = some [[2], [1, 3]] ∧
      Layered (serving mixedChannels "g" "m") [[2], [1, 3]] := by
  intro snapshot
  have distinct : (mixedChannels.map (·.id)).Nodup := by decide
  have htiers : snapshot.tiers "g" "m" = some [[2], [1, 3]] := by decide +kernel
  obtain ⟨hchannels, _, _, hlayered, _⟩ := table_exact mixedChannels 3 distinct ⟨3, false⟩ []
  have hchannel := (hchannels 2 { mixedChannel 2 5 .enabled with weight := 3 }).mpr
    ⟨mixedChannel 2 5 .enabled, by simp [mixedChannels], rfl, rfl, rfl⟩
  exact ⟨distinct, hchannel, htiers, (hlayered "g" "m" _ htiers).1⟩

end RelayGateway
