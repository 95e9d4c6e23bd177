import RelayGateway.Proofs.Access.Enrolment
import RelayGateway.Proofs.Relay.Failover

/-! # Routing stays within the group of a request

* `Attempting.dispatch_at`, `unpinned_dispatch`: a dispatch comes right after its reservation, and that
  after a look at which its channel was selected. It sends the request as it is planned.
* `plan?_resolved`: the key of a plan is what the model was resolved to in the group of the request.
* `Rightful`: the selected channel is listed for the group and the key, and was loaded so.
* `disclose_ofGateway`: what a client is told of an error that the gateway made itself.
* `authorization_confines`: where a request may go, and what it is charged.
-/

set_option autoImplicit false

namespace RelayGateway

/-! ## Where a dispatch stands -/

variable {policy : RelayPolicy} {request sent : RelayRequest} {plan : RelayPlan}
  {budget : RetryBudget} {channel chosen : Channel} {key : String}
  {past transcript earlier later : RelayTranscript} {result : RelayResult}
  {reply : Except DispatchFailure DispatchOutcome}

theorem entries_dispatch {course : AttemptCourse}
    (h : course.entries plan channel = earlier ++ ⟨.dispatch chosen key sent, reply⟩ :: later) :
    chosen = channel ∧ key = plan.key ∧ sent = plan.request ∧
      ∃ reservation, earlier = [⟨.reserve plan.charge, .ok reservation⟩] := by
  -- of the at most three entries only the second can be a dispatch
  cases course <;> rcases earlier with _ | ⟨first, _ | ⟨second, _ | ⟨third, tail⟩⟩⟩ <;>
    simp_all [AttemptCourse.entries]
  case failed.cons.nil => exact ⟨_, h.1.symm⟩
  case served.cons.nil => exact ⟨_, h.1.symm⟩

/-- In a turn there is one place for a dispatch. -/
theorem turn_dispatch {sequel : Sequel budget}
    (h : (turn policy plan budget channel).Ends transcript sequel)
    (placed : transcript = earlier ++ ⟨.dispatch chosen key sent, reply⟩ :: later) :
    chosen = channel ∧ key = plan.key ∧ sent = plan.request ∧
      ∃ reservation, earlier = [⟨.reserve plan.charge, .ok reservation⟩] := by
  have quiet : ∃ (course : AttemptCourse) (rest : RelayTranscript),
      transcript = course.entries plan channel ++ rest ∧ Quiet rest := by
    cases sequel with
    | ended result =>
      obtain ⟨course, rest, heq, hquiet, _⟩ := turn_ended h
      exact ⟨course, rest, heq, hquiet⟩
    | another next other fewer =>
      obtain ⟨course, rest, heq, _, hquiet, _⟩ := turn_another h
      exact ⟨course, rest, heq, hquiet⟩
  obtain ⟨course, rest, rfl, hquiet⟩ := quiet
  rcases append_eq_split placed with ⟨middle, _, rfl⟩ | ⟨middle, hentries, _⟩
  · have hbooked := hquiet ⟨.dispatch chosen key sent, reply⟩ (by simp)
    cases hbooked
  · exact entries_dispatch hentries

theorem Attempting.dispatch_at (h : Attempting policy request past plan budget channel)
    (ends : (attemptFrom policy plan budget channel).Ends transcript result)
    (placed : transcript = earlier ++ ⟨.dispatch chosen key sent, reply⟩ :: later) :
    ∃ before reservation budget',
      earlier = before ++ [⟨.reserve plan.charge, .ok reservation⟩] ∧
        (key = plan.key ∧ sent = plan.request) ∧ Attempting policy request (past ++ before) plan budget' chosen := by
  -- on the attempts that are left: the dispatch is that of the first turn, or it comes after that turn
  induction budget, channel using attemptFrom.induct generalizing past transcript earlier with
  | case1 budget channel ih =>
    rw [attemptFrom, Program.ends_bind] at ends
    obtain ⟨first, sequel, rest, rfl, hturn, hrest⟩ := ends
    rcases append_eq_split placed with ⟨middle, rfl, rfl⟩ | ⟨middle, hfirst, _⟩
    · cases sequel with
      | ended value =>
        obtain ⟨hnil, _⟩ := hrest
        simp at hnil
      | another next other fewer =>
        obtain ⟨before, reservation, budget', rfl, hsent, hstate⟩ :=
          ih next other fewer (h.again hturn) hrest rfl
        refine ⟨first ++ before, reservation, budget', by simp, hsent, ?_⟩
        rw [← List.append_assoc]
        exact hstate
    · obtain ⟨rfl, hkey, hsent, reservation, rfl⟩ := turn_dispatch hturn hfirst
      exact ⟨[], reservation, budget, rfl, ⟨hkey, hsent⟩, by simpa using h⟩

/-- Before each attempt its channel was selected, and nothing happened since. -/
theorem Attempting.selected (h : Attempting policy request past plan budget channel) :
    ∃ before sight excluded, past = before ++ [⟨.look, sight⟩] ∧
      plan.select sight excluded = .ok channel := by
  cases h with
  | @first arrival sight counted chosen routed _ _ settled planned selected =>
    exact ⟨[⟨.look, arrival⟩, ⟨.look, sight⟩, ⟨.look, counted⟩], chosen, [], rfl, selected⟩
  | @again past transcript _ budget _ failed _ fewer before turned =>
    obtain ⟨reservation, failure, reversal, cooled, elapsed, sight, rfl, hselect⟩ :=
      turn_another_selects turned
    refine ⟨past ++ ((AttemptCourse.failed reservation failure reversal).entries plan failed ++
      (followUpEntries plan failed failure.error cooled ++ [⟨.elapsed, elapsed⟩])), sight, _, ?_, hselect⟩
    simp

/-- Every dispatch of an unpinned run comes after the selection of its channel and the reservation, and
sends the request as it is planned. -/
theorem unpinned_dispatch (unpinned : request.pinned = none)
    (ends : (relay policy request).Ends transcript result)
    (placed : transcript = earlier ++ ⟨.dispatch chosen key sent, reply⟩ :: later) :
    ∃ plan before sight excluded reservation,
      plan? policy request transcript = some plan ∧ (key = plan.key ∧ sent = plan.request) ∧
        earlier = before ++ [⟨.look, sight⟩, ⟨.reserve plan.charge, .ok reservation⟩] ∧
        plan.select sight excluded = .ok chosen := by
  rcases unpinned_opening unpinned ends with ⟨hquiet, _⟩ |
      ⟨opening, rest, plan, budget, channel, rfl, hquiet, first, hrun⟩
  · have hbooked := hquiet ⟨.dispatch chosen key sent, reply⟩ (by simp [placed])
    cases hbooked
  · rcases append_eq_split placed with ⟨middle, rfl, hrest⟩ | ⟨middle, rfl, _⟩
    · obtain ⟨before, reservation, budget', rfl, hsent, hstate⟩ := first.dispatch_at hrun hrest
      obtain ⟨looks, sight, excluded, hpast, hselect⟩ := hstate.selected
      refine ⟨plan, looks, sight, excluded, reservation, ?_, hsent, ?_, hselect⟩
      · rw [plan?_append first.standing.looked, first.standing.planned]
      · rw [← List.append_assoc, hpast]
        simp
    · have hbooked := hquiet ⟨.dispatch chosen key sent, reply⟩ (by simp)
      cases hbooked

/-! ## The plan of a request -/

theorem seen?_met {surroundings : Surroundings RelayReply} {program : RelayProgram RelayResult}
    {sight : Sight} (h : seen? (program.meet surroundings []).1 0 = some sight) :
    sight = surroundings [] .look := by
  unfold seen? at h
  split at h
  · rename_i other hother
    cases h
    cases hrun : (program.meet surroundings []).1 with
    | nil => simp [hrun] at hother
    | cons entry rest =>
      rw [hrun] at hother
      obtain rfl : entry = ⟨.look, sight⟩ := by simpa using hother
      exact Program.meet_reply surroundings (show _ = [] ++ _ from hrun)
  · cases h

/-- The key of a plan is what the model of the request was resolved to in its group. -/
theorem plan?_resolved (h : plan? policy request transcript = some plan) :
    ∃ resolving, seen? transcript 1 = some resolving ∧
      resolving.registry.resolve request.effectiveGroup request.model = .ok plan.key := by
  obtain ⟨_, resolving, _, hresolving, settled, planned⟩ := plan?_settled h
  obtain ⟨ratio, hrouted⟩ := settleGroup_ok settled
  have hresolved := planRequest_key planned
  rw [hrouted] at hresolved
  exact ⟨resolving, hresolving, hresolved⟩

/-! ## What is selected -/

/-- A channel fit for a request: what is seen lists it for the group and the key, it was loaded enabled
and with these names, and it meets the demands of the request. -/
structure Rightful (request : RelayRequest) (key : String) (loaded : List Channel)
    (defaultWeight : UInt32) (sight : Sight) (channel : Channel) : Prop where
  listed : ∃ tiers, sight.registry.snapshot.tiers request.effectiveGroup key = some tiers ∧
    channel.id ∈ tiers.flatten
  stored : ∃ stored ∈ loaded, stored.Serves request.effectiveGroup key ∧
    channel = Snapshot.withWeight defaultWeight stored
  vendor : ∀ providers, request.allowedProviders = some providers → channel.provider ∈ providers
  suited : request.skipOnlyChat = true → channel.onlyChat = false

theorem RelayPlan.select_rightful {sight : Sight} {excluded : List ChannelId}
    {channels : List Channel} {defaultWeight : UInt32} {ratio : Ratio}
    (distinct : (channels.map (·.id)).Nodup)
    (table : sight.registry.snapshot = .build channels defaultWeight)
    (selected : plan.select sight excluded = .ok channel)
    (routed : plan.request = request.inGroup request.effectiveGroup ratio) :
    Rightful request plan.key channels defaultWeight sight channel := by
  obtain ⟨sent, key, promptTokens⟩ := plan
  obtain rfl : sent = request.inGroup request.effectiveGroup ratio := routed
  obtain ⟨tiers, htiers, tier, htier, hcandidate⟩ := Registry.selectKey_ok selected
  have hadmits := isEligible_iff.mp (Registry.mem_candidates.mp hcandidate).2
  unfold RelayPlan.conditions at hcandidate
  obtain ⟨stored, hserving, hid, rfl, _⟩ :=
    (Registry.built_candidates distinct table htiers htier).mp hcandidate
  obtain ⟨hstored, hserves⟩ := mem_serving.mp hserving
  constructor
  case listed =>
    rw [withWeight_id]
    exact ⟨tiers, htiers, List.mem_flatten_of_mem htier hid⟩
  case stored => exact ⟨stored, hstored, hserves, rfl⟩
  case vendor => exact hadmits.vendor
  case suited => exact hadmits.suited

/-! ## What a client is told of the gateway's own errors -/

/-- Unless it is a rate limit or looks like an error of a vendor, an error of the gateway's own keeps its
status and its kind. -/
theorem disclose_ofGateway {status : UInt16} {kind : String} (notLimit : status ≠ 429)
    (own : Text.endsWith kind "_api_error" = false) (message requestId : String) :
    disclose (.ofGateway status message kind) requestId =
      .ofGateway status (relabel message requestId) kind := by
  have hexternal : isInternalKind (.ofGateway status message kind) = false := by
    show ((!true && _) || Text.endsWith kind "_api_error") = false
    rw [own]
    rfl
  exact disclose_plain notLimit hexternal nofun requestId

theorem settleGroup_denied {fetches : List (Except ServiceError (List UserGroup))}
    (authorizes : policy.authorizesGroups = true)
    (denied : ∀ group,
      ¬ Admitted (lastFetched fetches) request.userGroup request.effectiveGroup group) :
    ∃ message, settleGroup policy (.loaded fetches) request =
      .error (.ofGateway 403 message "group_forbidden") := by
  unfold settleGroup
  rw [if_pos authorizes]
  cases hgrant : (GroupTable.loaded fetches).authorize request.userGroup request.tokenGroup with
  | ok grant =>
    obtain ⟨group, hadmitted, _⟩ := GroupTable.authorize_eq_ok.mp hgrant
    exact absurd hadmitted (denied group)
  | error err =>
    have own : Text.endsWith "group_forbidden" "_api_error" = false := by decide +kernel
    exact ⟨_, congrArg Except.error (disclose_ofGateway (by decide) own err.message _)⟩

theorem settleGroup_admitted {fetches : List (Except ServiceError (List UserGroup))}
    {routed : RelayRequest} (authorizes : policy.authorizesGroups = true)
    (h : settleGroup policy (.loaded fetches) request = .ok routed) :
    ∃ group, Admitted (lastFetched fetches) request.userGroup request.effectiveGroup group ∧
      routed.groupRatio = group.ratio := by
  unfold settleGroup at h
  rw [if_pos authorizes] at h
  cases hgrant : (GroupTable.loaded fetches).authorize request.userGroup request.tokenGroup with
  | ok grant =>
    rw [hgrant] at h
    obtain ⟨group, hadmitted, rfl⟩ := GroupTable.authorize_eq_ok.mp hgrant
    cases h
    exact ⟨group, hadmitted, rfl⟩
  | error err =>
    rw [hgrant] at h
    cases h

theorem settleGroup_trusted {groups : GroupTable} {routed : RelayRequest}
    (trusts : policy.authorizesGroups = false) (h : settleGroup policy groups request = .ok routed) :
    routed.groupRatio = request.groupRatio := by
  unfold settleGroup at h
  rw [trusts] at h
  cases h
  rfl

/-! ## Where a request may go -/

theorem charge_confined (ends : (relay policy request).Ends transcript result) {charge : Charge}
    {reserved : Except ServiceError Reservation} (h : ⟨.reserve charge, reserved⟩ ∈ transcript) :
    ∃ plan, plan? policy request transcript = some plan ∧ charge = plan.charge := by
  rcases relay_cases ends with ⟨hquiet, _⟩ | ⟨plan, planned, hbalanced⟩
  · have hbooked := hquiet _ h
    cases hbooked
  · exact ⟨plan, planned, hbalanced.charged h rfl⟩

/-- Where a request may go, whatever happens to the groups and the registry meanwhile. An unpinned run
dispatches only to channels that are listed, when they are selected, for the group of the request and the
key that its model was resolved to there, and right before it reserves. What it sends is the request with
that group and the charged ratio written in. Every reservation is asked for in that group, and where groups
are authorized, at the ratio of an admitted group; else at the ratio that the request came with. If the
group is not admitted, the run looks at the groups and ends in a refusal. -/
theorem authorization_confines (policy : RelayPolicy) (request : RelayRequest)
    (surroundings : Surroundings RelayReply) (options : RegistryOptions)
    (history : RelayTranscript → List RegistryEvent)
    (fetches : List (Except ServiceError (List UserGroup)))
    (distinct : ∀ past channels, .load (.ok channels) ∈ history past →
      (channels.map (·.id)).Nodup)
    (seen : ∀ past, (surroundings past .look).registry =
      (history past).foldl Registry.after (.empty options))
    (loaded : (surroundings [] .look).groups = .loaded fetches) :
    let group := request.effectiveGroup
    let admitted := Admitted (lastFetched fetches) request.userGroup group
    let run := (relay policy request).meet surroundings []
    (∀ earlier channel key sent reply later, request.pinned = none →
      run.1 = earlier ++ ⟨.dispatch channel key sent, reply⟩ :: later →
        ∃ before sight charge reservation resolving,
          earlier = before ++ [⟨.look, sight⟩, ⟨.reserve charge, .ok reservation⟩] ∧
          seen? run.1 1 = some resolving ∧
          resolving.registry.resolve group request.model = .ok key ∧
          Rightful request key (lastFetched (loads (history before))) options.defaultWeight sight
            channel ∧
          sent = { request with tokenGroup := group, groupRatio := charge.ratio } ∧
          (policy.authorizesGroups = true → ∃ found, admitted found)) ∧
      (∀ charge reply, ⟨.reserve charge, reply⟩ ∈ run.1 → charge.group = group ∧
        (policy.authorizesGroups = true → ∃ found, admitted found ∧ charge.ratio = found.ratio) ∧
        (policy.authorizesGroups = false → charge.ratio = request.groupRatio)) ∧
      (policy.authorizesGroups = true → (∀ found, ¬ admitted found) →
        run.1 = [⟨.look, surroundings [] .look⟩] ∧
          ∃ message, run.2 = .error (.ofGateway 403 message "group_forbidden")) := by
  intro group admitted run
  have ends : (relay policy request).Ends run.1 run.2 := Program.ends_meet surroundings [] _
  have permitted : ∀ plan, plan? policy request run.1 = some plan → policy.authorizesGroups = true →
      ∃ found, admitted found ∧ plan.request.groupRatio = found.ratio := by
    intro plan planned authorizes
    obtain ⟨arrival, _, harrival, _, settled, _⟩ := plan?_settled planned
    rw [seen?_met harrival, loaded] at settled
    exact settleGroup_admitted authorizes settled
  refine ⟨?_, ?_, ?_⟩
  · intro earlier channel key sent reply later unpinned placed
    obtain ⟨plan, before, sight, excluded, reservation, planned, ⟨rfl, rfl⟩, rfl, hselect⟩ :=
      unpinned_dispatch unpinned ends placed
    obtain ⟨resolving, hresolving, hresolved⟩ := plan?_resolved planned
    obtain ⟨ratio, hrouted⟩ := plan?_request planned
    have hsight : sight = surroundings before .look := by
      rw [List.append_assoc] at placed
      exact Program.meet_reply surroundings placed
    have table : sight.registry.snapshot =
        .build (lastFetched (loads (history before))) options.defaultWeight := by
      rw [hsight, seen, Registry.snapshot_history]
    have hrightful := RelayPlan.select_rightful (lastLoad_distinct (distinct before)) table hselect
      hrouted
    refine ⟨before, sight, plan.charge, reservation, resolving, rfl, hresolving, hresolved, hrightful, ?_,
      fun authorizes => ?_⟩
    · rw [RelayPlan.charge, hrouted]
      rfl
    · obtain ⟨found, hadmitted, _⟩ := permitted plan planned authorizes
      exact ⟨found, hadmitted⟩
  · intro charge reply hcharge
    obtain ⟨plan, planned, rfl⟩ := charge_confined ends hcharge
    obtain ⟨_, _, _, _, settled, _⟩ := plan?_settled planned
    obtain ⟨ratio, hrouted⟩ := plan?_request planned
    have hgroup : plan.request.tokenGroup = group := by
      rw [hrouted]
      rfl
    exact ⟨hgroup, permitted plan planned, fun trusts => settleGroup_trusted trusts settled⟩
  · intro authorizes denied
    obtain ⟨arrival, rest, htranscript, hstart⟩ := relay_start ends
    have harrival : arrival = surroundings [] .look :=
      Program.meet_reply surroundings (show _ = [] ++ _ from htranscript)
    obtain ⟨message, hdenied⟩ := settleGroup_denied authorizes denied
    rw [harrival, loaded, hdenied] at hstart
    obtain ⟨rfl, hresult⟩ := hstart
    rw [htranscript, harrival]
    exact ⟨rfl, message, hresult⟩

/-- A group open to everybody, at the ratio of one half. -/
def openGroup : UserGroup := ⟨"g", "", ⟨0x3FE0000000000000⟩, true, true⟩

/-- The surroundings of a first channel that is down, with the open group. -/
def firstDownOpen : Surroundings RelayReply := fun past call =>
  match call with
  | .look => { sampleSight with groups := .loaded [.ok [openGroup]] }
  | call => firstDown past call

/-- A user of another group is sent to the two channels of the open group. -/
def guestRequest : RelayRequest :=
  { (default : RelayRequest) with userGroup := "u", tokenGroup := "g", model := "m" }

theorem guest_confined :
    let policy : RelayPolicy := { samplePolicy with authorizesGroups := true }
    let run := (relay policy guestRequest).meet firstDownOpen []
    dispatchedIds run.1 = [1, 2] ∧
      ∀ charge reply, ⟨.reserve charge, reply⟩ ∈ run.1 →
        charge.group = "g" ∧ ∃ found, Admitted [openGroup] "u" "g" found ∧ charge.ratio = found.ratio := by
  intro policy run
  have distinct : ∀ (past : RelayTranscript) (channels : List Channel),
      RegistryEvent.load (.ok channels) ∈ [RegistryEvent.load (.ok [sampleChannel 1, sampleChannel 2])] →
        (channels.map (·.id)).Nodup := by
    intro past channels h
    cases List.mem_singleton.mp h
    decide
  obtain ⟨_, charged, _⟩ := authorization_confines policy guestRequest firstDownOpen ⟨1, false⟩
    (fun _ => [.load (.ok [sampleChannel 1, sampleChannel 2])]) [.ok [openGroup]] distinct
    (fun _ => rfl) rfl
  refine ⟨by decide +kernel, ?_⟩
  intro charge reply h
  obtain ⟨hgroup, hratio, _⟩ := charged charge reply h
  exact ⟨hgroup, hratio rfl⟩

end RelayGateway
