import RelayGateway.Proofs.Routing.Availability
import RelayGateway.Proofs.Routing.Resolution

/-! # Routing in one call and in two

A name can be resolved and a channel be selected in one call, or the name be resolved first and a channel be
selected for its key afterwards.

* `Registry.select_cases`: what the two ways come to, side by side.
* `routing_agrees`: they yield the same channels, and the causes of their failures correspond.
-/

set_option autoImplicit false

namespace RelayGateway

namespace Registry

variable {registry : Registry} {group model key : String}

theorem resolve_eq_ok : registry.resolve group model = .ok key ↔
    registry.snapshot.hasGroup group = true ∧ registry.matchedKey? group model = some key := by
  unfold resolve
  cases registry.snapshot.hasGroup group with
  | false => simp
  | true => cases registry.matchedKey? group model <;> simp

/-- A key that a name was resolved to, with the same table but any flags. -/
theorem selectKey_resolved (built : registry.Built) (h : registry.resolve group model = .ok key)
    {later : Registry} (same : later.snapshot = registry.snapshot) (conditions : Conditions)
    (draws : Draws) :
    ∃ tiers, later.snapshot.tiers group key = some tiers ∧
      later.selectKey conditions group key draws =
        match (later.pickFromTiers conditions key tiers draws).1 with
        | some channel => .ok channel
        | none => .error (.noAvailableChannelsAfterFiltering group key) := by
  obtain ⟨channels, defaultWeight, table⟩ := built
  have sound : later.snapshot.Sound := by
    rw [same, table]
    exact Snapshot.sound_build channels defaultWeight
  obtain ⟨tiers, routed⟩ := resolve_tiers h
  rw [← same] at routed
  exact ⟨tiers, routed, selectKey_routed sound routed draws⟩

/-- Both ways side by side: the group or the name is unknown, or a key is found and either both select the
same channel for it or neither selects one. -/
theorem select_cases (built : registry.Built) (conditions : Conditions) (group model : String)
    (draws : Draws) :
    (registry.resolve group model = .error (.groupNotFound group) ∧
        registry.select conditions group model draws = .error (.groupNotFound group)) ∨
      (registry.resolve group model = .error (.modelNotFoundInGroup group model) ∧
        registry.select conditions group model draws = .error (.modelNotFound model)) ∨
      ∃ key, registry.resolve group model = .ok key ∧
        ((∃ channel, registry.selectKey conditions group key draws = .ok channel ∧
            registry.select conditions group model draws = .ok channel) ∨
          registry.selectKey conditions group key draws =
              .error (.noAvailableChannelsAfterFiltering group key) ∧
            registry.select conditions group model draws = .error .channelNotFound) := by
  cases hgroup : registry.snapshot.hasGroup group with
  | false =>
    left
    constructor
    · simp [resolve, hgroup]
    · simp [select, hgroup]
  | true =>
    right
    cases hkey : registry.matchedKey? group model with
    | none =>
      left
      constructor
      · simp [resolve, hgroup, hkey]
      · simp [select, hgroup, hkey]
    | some key =>
      right
      have hresolve := resolve_eq_ok.mpr ⟨hgroup, hkey⟩
      obtain ⟨tiers, routed, hselectKey⟩ := selectKey_resolved built hresolve rfl conditions draws
      refine ⟨key, hresolve, ?_⟩
      -- both ways rest on the same choice from the tiers of the key
      simp only [hselectKey, select, hgroup, hkey, routed, Option.getD_some, if_true]
      cases (registry.pickFromTiers conditions key tiers draws).1 with
      | some channel => exact .inl ⟨channel, rfl, rfl⟩
      | none => exact .inr ⟨rfl, rfl⟩

end Registry

/-- One call yields a channel exactly if the name is resolved and a selection for its key yields this
channel. Its causes of failure are those of the two steps in other words. A selection for a resolved key,
in the same table, fails only because no channel is left for it. -/
theorem routing_agrees (registry : Registry) (built : registry.Built) (conditions : Conditions)
    (group model : String) (draws : Draws) :
    let resolved := registry.resolve group model
    let selected := registry.select conditions group model draws
    (∀ channel, selected = .ok channel ↔ ∃ key, resolved = .ok key ∧
      registry.selectKey conditions group key draws = .ok channel) ∧
    (selected = .error (.groupNotFound group) ↔ resolved = .error (.groupNotFound group)) ∧
    (selected = .error (.modelNotFound model) ↔
      resolved = .error (.modelNotFoundInGroup group model)) ∧
    (selected = .error .channelNotFound ↔ ∃ key, resolved = .ok key ∧
      registry.selectKey conditions group key draws =
        .error (.noAvailableChannelsAfterFiltering group key)) ∧
    (∀ cause, selected = .error cause →
      cause = .groupNotFound group ∨ cause = .modelNotFound model ∨ cause = .channelNotFound) ∧
    (∀ cause, resolved = .error cause →
      cause = .groupNotFound group ∨ cause = .modelNotFoundInGroup group model) ∧
    ∀ key, resolved = .ok key → ∀ later : Registry, later.snapshot = registry.snapshot →
      ∀ conditions draws cause, later.selectKey conditions group key draws = .error cause →
        cause = .noAvailableChannelsAfterFiltering group key := by
  intro resolved selected
  have failure : ∀ key, resolved = .ok key → ∀ later : Registry, later.snapshot = registry.snapshot →
      ∀ conditions draws cause, later.selectKey conditions group key draws = .error cause →
        cause = .noAvailableChannelsAfterFiltering group key := by
    intro key hkey later same conditions draws cause hcause
    obtain ⟨tiers, _, hselectKey⟩ := Registry.selectKey_resolved built hkey same conditions draws
    rw [hselectKey] at hcause
    split at hcause
    · cases hcause
    · exact (Except.error.inj hcause).symm
  rcases registry.select_cases built conditions group model draws with ⟨hresolved, hselected⟩ |
    ⟨hresolved, hselected⟩ | ⟨key, hresolved, ⟨channel, hkey, hselected⟩ | ⟨hkey, hselected⟩⟩
  -- each sentence is read off the outcomes of the two ways
  · refine ⟨?_, ?_, ?_, ?_, ?_, ?_, failure⟩ <;> simp [resolved, selected, hresolved, hselected]
  · refine ⟨?_, ?_, ?_, ?_, ?_, ?_, failure⟩ <;> simp [resolved, selected, hresolved, hselected]
  · refine ⟨?_, ?_, ?_, ?_, ?_, ?_, failure⟩ <;>
      simp [resolved, selected, hresolved, hselected, hkey]
  · refine ⟨?_, ?_, ?_, ?_, ?_, ?_, failure⟩ <;>
      simp [resolved, selected, hresolved, hselected, hkey]

/-- The channels of two priorities, and a name that differs from their key in case. -/
theorem topDisabled_agrees :
    let registry : Registry := { topDisabled with options := ⟨3, true⟩ }
    let conditions := fun excluded : List ChannelId =>
      (⟨.ofSeconds 60, 0, FilterOptions.none.chain excluded⟩ : Conditions)
    let first := Snapshot.withWeight 3 (mixedChannel 1 0 .enabled)
    registry.Built ∧ registry.resolve "g" "M" = .ok "m" ∧
      registry.select (conditions []) "g" "M" [0] = .ok first ∧
      registry.select (conditions [1, 3]) "g" "M" [0] = .error .channelNotFound := by
  intro registry conditions first
  have built : registry.Built := ⟨mixedChannels, 3, rfl⟩
  have resolved : registry.resolve "g" "M" = .ok "m" := by decide +kernel
  have chosen : registry.selectKey (conditions []) "g" "m" [0] = .ok first := by decide +kernel
  have exhausted : registry.selectKey (conditions [1, 3]) "g" "m" [0] =
      .error (.noAvailableChannelsAfterFiltering "g" "m") := by decide +kernel
  obtain ⟨hyields, _⟩ := routing_agrees registry built (conditions []) "g" "M" [0]
  obtain ⟨_, _, _, hfails, _⟩ := routing_agrees registry built (conditions [1, 3]) "g" "M" [0]
  exact ⟨built, resolved, (hyields first).mpr ⟨"m", resolved, chosen⟩,
    hfails.mpr ⟨"m", resolved, exhausted⟩⟩

end RelayGateway
