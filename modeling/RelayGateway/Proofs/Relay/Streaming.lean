import RelayGateway.Proofs.Relay.Confinement

/-! # Streaming bans

* `allowsStream_iff`, `RelayPlan.select_streams`: what a ban list says, and that a streamed request is
  given no channel that bans its routing key.
* `resolve_known`: a name that is a key of its group is resolved to itself.
* `streaming_bans_by_key`: the bans that a streamed request respects. They are looked up by the key, so the
  ban of a name that is no key of its own does not count.
* `patternStreamed_banned`: a name that is banned, and streamed because it was resolved to a pattern.
-/

set_option autoImplicit false

namespace RelayGateway

variable {policy : RelayPolicy} {request sent : RelayRequest} {plan : RelayPlan} {channel : Channel}
  {key : String} {transcript earlier later : RelayTranscript} {result : RelayResult}
  {reply : Except DispatchFailure DispatchOutcome}

theorem allowsStream_iff {model : String} :
    channel.allowsStream model = true ↔ "*" ∉ channel.disabledStream ∧ model ∉ channel.disabledStream := by
  simp only [Channel.allowsStream, Bool.not_eq_true', List.any_eq_false, Bool.or_eq_true, beq_iff_eq,
    not_or]
  constructor
  · intro h
    exact ⟨fun hstar => (h "*" hstar).1 rfl, fun hmodel => (h model hmodel).2 rfl⟩
  · rintro ⟨hstar, hmodel⟩ entry hentry
    exact ⟨fun heq => hstar (heq ▸ hentry), fun heq => hmodel (heq ▸ hentry)⟩

theorem RelayPlan.select_streams {sight : Sight} {excluded : List ChannelId}
    (streams : plan.request.stream = true) (selected : plan.select sight excluded = .ok channel) :
    channel.allowsStream plan.key = true := by
  have eligible := Registry.selectKey_eligible selected
  have demanded : plan.options.streamModel = some plan.key := if_pos streams
  exact (isEligible_iff.mp eligible).streams plan.key demanded

theorem Registry.resolve_known {registry : Registry} {group model : String}
    (resolved : registry.resolve group model = .ok key)
    (known : model ∈ registry.snapshot.keys group) : key = model := by
  have matched : registry.matchedKey? group model = some model :=
    if_pos (List.contains_iff_mem.mpr known)
  unfold resolve at resolved
  rw [matched] at resolved
  split at resolved
  · exact (Except.ok.inj resolved).symm
  · cases resolved

/-- The bans that a streamed request respects, whatever happens to the registry meanwhile. Its channels ban
neither everything nor the key that its model was resolved to. So a channel that bans the model itself is
used only if the model is no key of the group, but was resolved to a pattern or to another letter case. -/
theorem streaming_bans_by_key (unpinned : request.pinned = none) (streams : request.stream = true)
    (ends : (relay policy request).Ends transcript result)
    (placed : transcript = earlier ++ ⟨.dispatch channel key sent, reply⟩ :: later) :
    ∃ resolving, seen? transcript 1 = some resolving ∧
      resolving.registry.resolve request.effectiveGroup request.model = .ok key ∧
      "*" ∉ channel.disabledStream ∧ key ∉ channel.disabledStream ∧
      (request.model ∈ channel.disabledStream →
        key ≠ request.model ∧ request.model ∉ resolving.registry.snapshot.keys request.effectiveGroup) := by
  obtain ⟨plan, _, _, _, _, planned, ⟨rfl, _⟩, _, selected⟩ := unpinned_dispatch unpinned ends placed
  obtain ⟨resolving, hresolving, hresolved⟩ := plan?_resolved planned
  have hallowed := RelayPlan.select_streams ((plan?_stream planned).trans streams) selected
  obtain ⟨hstar, hkey⟩ := allowsStream_iff.mp hallowed
  refine ⟨resolving, hresolving, hresolved, hstar, hkey, fun hbanned => ?_⟩
  have hother : plan.key ≠ request.model := fun heq => hkey (heq ▸ hbanned)
  exact ⟨hother, fun hknown => hother (Registry.resolve_known hresolved hknown)⟩

/-! ## A banned name that is streamed -/

theorem dispatches_placed {dispatched : Dispatched} (h : dispatched ∈ dispatches transcript) :
    ∃ earlier key sent later,
      transcript = earlier ++ ⟨.dispatch dispatched.channel key sent, dispatched.reply⟩ :: later := by
  obtain ⟨⟨call, reply⟩, hentry, hdispatched⟩ := List.mem_filterMap.mp h
  cases call <;> cases hdispatched
  obtain ⟨earlier, later, heq⟩ := List.append_of_mem hentry
  exact ⟨earlier, _, _, later, heq⟩

/-- A channel for every model whose name begins with `gpt-`, with a streaming ban. -/
def patternChannel (id : ChannelId) (banned : List String) : Channel :=
  { sampleChannel id with models := ["gpt-*"], disabledStream := banned }

/-- One channel bans a model by its name, the other all that the pattern stands for. -/
def bannedSight : Sight :=
  { sampleSight with
    registry := (Registry.empty ⟨1, false⟩).install
      (.build [patternChannel 1 ["gpt-4o"], patternChannel 2 ["gpt-*"]] 1) }

def bannedSurroundings : Surroundings RelayReply := fun past call =>
  match call with
  | .look => bannedSight
  | call => firstDown past call

def streamedRequest : RelayRequest :=
  { (default : RelayRequest) with userGroup := "g", model := "gpt-4o", stream := true }

theorem streamedRequest_channels :
    (dispatches ((relay samplePolicy streamedRequest).meet bannedSurroundings []).1).map (·.channel) =
      [patternChannel 1 ["gpt-4o"]] := by
  decide +kernel

theorem streamedRequest_dispatched :
    ∃ dispatched ∈ dispatches ((relay samplePolicy streamedRequest).meet bannedSurroundings []).1,
      dispatched.channel = patternChannel 1 ["gpt-4o"] := by
  rw [← List.mem_map, streamedRequest_channels]
  exact List.mem_singleton_self _

/-- The name is resolved to a pattern, so the channel that bans the pattern is passed over, and the one that
bans the name is not. -/
theorem patternStreamed_banned :
    let run := (relay samplePolicy streamedRequest).meet bannedSurroundings []
    streamedRequest.pinned = none ∧ streamedRequest.stream = true ∧
      ∃ earlier key sent reply later resolving,
        run.1 = earlier ++ ⟨.dispatch (patternChannel 1 ["gpt-4o"]) key sent, reply⟩ :: later ∧
        seen? run.1 1 = some resolving ∧ resolving.registry.resolve "g" "gpt-4o" = .ok key ∧
        key ≠ "gpt-4o" ∧ "gpt-4o" ∉ resolving.registry.snapshot.keys "g" := by
  intro run
  obtain ⟨dispatched, hdispatched, hchannel⟩ := streamedRequest_dispatched
  obtain ⟨earlier, key, sent, later, placed⟩ := dispatches_placed hdispatched
  rw [hchannel] at placed
  obtain ⟨resolving, hseen, hresolved, _, _, hbanned⟩ :=
    streaming_bans_by_key rfl rfl (Program.ends_meet bannedSurroundings [] _) placed
  obtain ⟨hother, hunknown⟩ := hbanned (List.mem_singleton_self _)
  exact ⟨rfl, rfl, earlier, key, sent, dispatched.reply, later, resolving, placed, hseen, hresolved, hother,
    hunknown⟩

/-- A streamed request is dispatched to a channel whose list bans the model that the client asked for. -/
theorem bannedName_streamed :
    ¬ ∀ (policy : RelayPolicy) (request : RelayRequest) (surroundings : Surroundings RelayReply),
      request.pinned = none → request.stream = true →
        ∀ dispatched ∈ dispatches ((relay policy request).meet surroundings []).1,
          "*" ∉ dispatched.channel.disabledStream ∧
            request.model ∉ dispatched.channel.disabledStream := by
  intro honoured
  obtain ⟨dispatched, hdispatched, hchannel⟩ := streamedRequest_dispatched
  obtain ⟨_, hname⟩ := honoured samplePolicy streamedRequest bannedSurroundings rfl rfl dispatched hdispatched
  rw [hchannel] at hname
  exact hname (List.mem_singleton_self _)

end RelayGateway
