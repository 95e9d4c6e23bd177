import Mathlib.Data.List.DropRight
import RelayGateway.Proofs.Routing.History

/-! # The last good load and the flags since then

* `sinceLoad`, `flagsOf`: the events since the last load that succeeded, and the flags that events set for
  a channel.
* `Registry.isDisabled_history`: a channel is disabled at run time if the last of these flags says so.
* `RegistryEvent.failed`, `foldl_after_erased`: failed loads can be left out of a history.
* `last_load_governs`: the last good load and the flags since then are all that counts.
-/

set_option autoImplicit false

namespace RelayGateway

/-- A load that fetched channels. -/
def RegistryEvent.succeeded : RegistryEvent → Bool
  | .load (.ok _) => true
  | .load (.error _) | .setEnabled _ _ => false

/-- A load that fetched nothing. -/
def RegistryEvent.failed : RegistryEvent → Bool
  | .load (.error _) => true
  | .load (.ok _) | .setEnabled _ _ => false

/-- The runtime flag that an event asks for. -/
def RegistryEvent.flag? (id : ChannelId) : RegistryEvent → Option Bool
  | .setEnabled other enabled => if other = id then some enabled else none
  | .load _ => none

/-- The events after the last load that succeeded, or all if none did. -/
def sinceLoad (history : List RegistryEvent) : List RegistryEvent :=
  history.rtakeWhile fun event => !event.succeeded

/-- The runtime flags that events ask for, in order. -/
def flagsOf (id : ChannelId) (events : List RegistryEvent) : List Bool :=
  events.filterMap (RegistryEvent.flag? id)

variable {history : List RegistryEvent} {event : RegistryEvent} {id : ChannelId}

theorem sinceLoad_succeeded (succeeded : event.succeeded = true) : sinceLoad (history ++ [event]) = [] :=
  List.rtakeWhile_concat_neg _ _ _ (by simp [succeeded])

theorem sinceLoad_other (other : event.succeeded = false) :
    sinceLoad (history ++ [event]) = sinceLoad history ++ [event] :=
  List.rtakeWhile_concat_pos _ _ _ (by simp [other])

theorem flagsOf_concat (events : List RegistryEvent) :
    flagsOf id (events ++ [event]) = flagsOf id events ++ (event.flag? id).toList := by
  unfold flagsOf
  rw [List.filterMap_append]
  cases h : event.flag? id <;> simp [h]

/-- Failed loads do nothing, so they can be left out. -/
theorem foldl_after_erased (history : List RegistryEvent) (registry : Registry) :
    (history.filter fun event => !event.failed).foldl Registry.after registry =
      history.foldl Registry.after registry := by
  induction history generalizing registry with
  | nil => rfl
  | cons event history ih =>
    match event with
    | .load (.error _) => exact ih registry
    | .load (.ok _) => exact ih _
    | .setEnabled _ _ => exact ih _

namespace Registry

/-- A channel is disabled at run time if the table has it and the last flag since the load says so. -/
theorem isDisabled_history (options : RegistryOptions) (history : List RegistryEvent)
    (id : ChannelId) :
    let registry := history.foldl Registry.after (empty options)
    registry.isDisabled id = true ↔
      (registry.snapshot.channel? id).isSome = true ∧
        (flagsOf id (sinceLoad history)).getLast? = some false := by
  induction history using List.reverseRecOn with
  | nil => exact ⟨nofun, fun h => nomatch h.2⟩
  | append_singleton history event ih =>
    dsimp only at ih ⊢
    rw [List.foldl_append, List.foldl_cons, List.foldl_nil]
    generalize history.foldl Registry.after (empty options) = registry at ih ⊢
    match event with
    | .load (.ok channels) =>
      -- a new table starts without flags
      rw [sinceLoad_succeeded rfl]
      exact ⟨nofun, fun h => nomatch h.2⟩
    | .load (.error err) =>
      rw [sinceLoad_other rfl, flagsOf_concat]
      show registry.isDisabled id = true ↔ (registry.snapshot.channel? id).isSome = true ∧ _
      simpa [RegistryEvent.flag?] using ih
    | .setEnabled other enabled =>
      rw [sinceLoad_other rfl, flagsOf_concat]
      show (registry.setEnabled other enabled).2.isDisabled id = true ↔
        ((registry.setEnabled other enabled).2.snapshot.channel? id).isSome = true ∧ _
      rw [setEnabled_snapshot, isDisabled_setEnabled]
      by_cases hsame : other = id
      · subst hsame
        cases hknown : (registry.snapshot.channel? other).isSome with
        | true => cases enabled <;> simp [RegistryEvent.flag?]
        | false =>
          rw [hknown] at ih
          simpa using ih
      · simpa [RegistryEvent.flag?, hsame, Ne.symm hsame] using ih

end Registry

/-- After any loads, failed ones among them, and any changes of flags, the table is the one of the channels
that were fetched last, and empty before the first were. A channel is disabled at run time if it is in the
table and the last flag that was asked for since that load says so; setting a flag tells whether the
channel is in the table. Without the failed loads the registry is the same, and so is everything that
is read off it. A load of a gateway is such an event and changes nothing else. -/
theorem last_load_governs (options : RegistryOptions) (history : List RegistryEvent) :
    let registry := history.foldl Registry.after (.empty options)
    let fetched := lastFetched (loads history)
    registry.snapshot = .build fetched options.defaultWeight ∧
      Snapshot.build [] options.defaultWeight = .empty ∧
      (∀ id, registry.isDisabled id = true ↔
        (∃ channel ∈ fetched, channel.status = .enabled ∧ channel.id = id) ∧
          (flagsOf id (sinceLoad history)).getLast? = some false) ∧
      (∀ id enabled, (registry.setEnabled id enabled).1 = true ↔
        ∃ channel ∈ fetched, channel.status = .enabled ∧ channel.id = id) ∧
      (history.filter fun event => !event.failed).foldl Registry.after (.empty options) = registry ∧
      ∀ gateway : Gateway, (Gateway.perform loadChannels gateway).2 =
        { gateway with registry := gateway.registry.after (.load gateway.store.enabledChannels) } := by
  intro registry fetched
  have htable : registry.snapshot = .build fetched options.defaultWeight :=
    Registry.snapshot_history options history
  have hlisted (id : ChannelId) : (registry.snapshot.channel? id).isSome = true ↔
      ∃ channel ∈ fetched, channel.status = .enabled ∧ channel.id = id := by
    rw [htable]
    exact build_channel?_isSome fetched options.defaultWeight id
  refine ⟨htable, rfl, fun id => ?_, fun id enabled => ?_, foldl_after_erased history _,
    perform_loadChannels_gateway⟩
  · exact (Registry.isDisabled_history options history id).trans (and_congr_left' (hlisted id))
  · rw [setEnabled_found]
    exact hlisted id

end RelayGateway
