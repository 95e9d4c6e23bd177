import RelayGateway.Proofs.Balance.Cooling
import RelayGateway.Proofs.Gateway.Traffic
import RelayGateway.Proofs.Relay.Failover

/-! # A run on its own

One request on a gateway that nothing else changes. The run has side effects of its own: rate limits cool
channels, and failures that it reports are looked into in the background, at any time and in any order.

* `Happening.IsOwn`: what the run does and what follows from it. The store may change, time may pass.
* `Confined`: looking into a failure touches nothing in routing but the flag of its channel.
* `Alone`: what holds of the gateway and the run at all times. Whatever is different from the start
  concerns channels that the run has tried. `Alone.step` keeps it.
* `failover_complete`: the run tries the eligible channels in order, and comes to its end.
-/

set_option autoImplicit false

namespace RelayGateway

/-- A step of the run, in which reservations are granted and there is time left; a step in the background;
or nothing that concerns routing. -/
def Happening.IsOwn (policy : RelayPolicy) : Happening → Prop
  | .relay _ outside =>
    (∀ charge, ∃ reservation, outside.reserve charge = .ok reservation) ∧
      outside.elapsed ≤ policy.timeLimit
  | .lookInto _ | .health _ | .edit _ | .pass _ => True
  | .arrive _ | .order _ | .registry _ | .reloadGroups | .sweep => False

def Happening.isRelay : Happening → Bool
  | .relay run _ => run == 0
  | .arrive _ | .lookInto _ | .order _ | .health _ | .registry _ | .reloadGroups | .sweep | .edit _
  | .pass _ => false

/-! ## In the background -/

/-- The steps that change nothing in routing but the flags of the given channels. -/
def Confines (ids : List ChannelId) : HealthCall → Prop
  | .setEnabled id _ => id ∈ ids
  | .install _ => False
  | .storedChannel _ | .updateStatus .. | .fetchEnabled | .notify _ => True

def confining (ids : List ChannelId) : Watch HealthReply Unit where
  after _ _ := ()
  allows _ call := Confines ids call
  possible _ := True

def Confined {α : Type} (ids : List ChannelId) (program : HealthProgram α) : Prop :=
  Program.Abides (confining ids) (fun _ _ => True) () program

variable {ids : List ChannelId} {channel : Channel}

theorem Confined.mono {α : Type} {program : HealthProgram α} (h : Confined ids program)
    {more : List ChannelId} (sub : ids ⊆ more) : Confined more program := by
  induction program with
  | done value => trivial
  | ask call next ih =>
    obtain ⟨hallowed, hnext⟩ := h
    refine ⟨?_, fun reply _ => ih reply (hnext reply trivial)⟩
    cases call with
    | setEnabled id enabled => exact sub hallowed
    | install rows => exact hallowed
    | storedChannel id => trivial
    | updateStatus id status => trivial
    | fetchEnabled => trivial
    | notify notice => trivial

theorem confined_disableChannel (hid : channel.id ∈ ids) (name reason : String) (notify : Bool) :
    Confined ids (disableChannel channel.id name reason notify) := by
  unfold Confined disableChannel
  apply Program.abides_bind
  apply Program.abides_request trivial
  intro stored _
  match stored with
  | .error err => trivial
  | .ok none => trivial
  | .ok (some row) =>
    dsimp only
    split
    · exact ⟨hid, fun _ _ => trivial⟩
    · apply Program.abides_bind
      apply Program.abides_request trivial
      intro written _
      cases written with
      | error err => trivial
      | ok known =>
        refine ⟨hid, fun found _ => ?_⟩
        cases notify with
        | false => trivial
        | true => exact ⟨trivial, fun _ _ => trivial⟩

theorem confined_examine (classifier : Classifier) (hid : channel.id ∈ ids) (err : UpstreamError) :
    Confined ids (examine classifier channel err) := by
  unfold Confined examine processFailure
  apply Program.abides_bind
  split
  · trivial
  · apply Program.abides_bind
    apply Program.abides_mono _ (confined_disableChannel hid channel.name err.message true)
    intro _ outcome _
    trivial

/-! ## What holds at all times -/

/-- The registry differs from that of the start at most in flags of the given channels. -/
structure SameBut (ids : List ChannelId) (origin registry : Registry) : Prop where
  options : registry.options = origin.options
  snapshot : registry.snapshot = origin.snapshot
  flags : ∀ id ∉ ids, (id ∈ registry.disabled ↔ id ∈ origin.disabled)

theorem SameBut.mono {origin registry : Registry} (h : SameBut ids origin registry)
    {more : List ChannelId} (sub : ids ⊆ more) : SameBut more origin registry :=
  ⟨h.options, h.snapshot, fun id hid => h.flags id fun hmem => hid (sub hmem)⟩

theorem SameBut.answerHealth {origin : Registry} {gateway : Gateway}
    (h : SameBut ids origin gateway.registry) {call : HealthCall} (confined : Confines ids call) :
    SameBut ids origin (Gateway.answerHealth call gateway).2.registry := by
  cases call with
  | setEnabled id enabled =>
    show SameBut ids origin (gateway.registry.setEnabled id enabled).2
    refine ⟨?_, ?_, ?_⟩
    · rw [setEnabled_options]
      exact h.options
    · rw [setEnabled_snapshot]
      exact h.snapshot
    · intro other hother
      have different : other ≠ id := fun heq => hother (heq ▸ confined)
      rw [mem_disabled_setEnabled different]
      exact h.flags other hother
  | install rows => exact absurd confined id
  | storedChannel id => exact h
  | updateStatus id status => exact h
  | fetchEnabled => exact h
  | notify notice => exact h

/-- A run on its own, after it was given so many steps. -/
structure Alone (origin : Gateway) (request : RelayRequest) (steps : Nat) (running : Running)
    (traffic : Traffic) : Prop where
  runs : traffic.runs = [running]
  taken : (∃ result, running.rest = .done result) ∨ running.past.length = steps
  leads : ∀ transcript result, running.rest.Ends transcript result →
    (relay origin.policy request).Ends (running.past ++ transcript) result
  orderly : traffic.Orderly
  groups : traffic.gateway.groups = origin.groups
  registry : SameBut (dispatchedIds running.past) origin.registry traffic.gateway.registry
  deadlines : ∀ id ∉ dispatchedIds running.past, ∀ key,
    traffic.gateway.cooldowns.deadline? id key = origin.cooldowns.deadline? id key
  reports : ∀ report ∈ traffic.gateway.reports, report.1.id ∈ dispatchedIds running.past
  callers : ∀ program ∈ traffic.callers, Confined (dispatchedIds running.past) program
  clock : origin.now ≤ traffic.gateway.now
  calm : Calm origin.policy (origin.sight []) running.past

/-- No cooldown that was running at the start has come to its end. -/
def Steady (origin : Gateway) (now : Instant) : Prop :=
  ∀ entry ∈ origin.cooldowns.entries, origin.now < entry.deadline → now < entry.deadline

variable {origin : Gateway} {request : RelayRequest} {running : Running} {traffic : Traffic}
  {steps : Nat}

theorem Alone.undisturbed (h : Alone origin request steps running traffic)
    (steady : Steady origin traffic.gateway.now) (draws : Draws) :
    Undisturbed (origin.sight []) (dispatchedIds running.past) (traffic.gateway.sight draws) := by
  refine ⟨h.groups, h.registry.options, h.registry.snapshot, h.registry.flags, ?_⟩
  intro id hid key
  show traffic.gateway.cooldowns.isCooling id key traffic.gateway.now =
    origin.cooldowns.isCooling id key origin.now
  unfold CooldownTable.isCooling
  rw [h.deadlines id hid key]
  cases hdeadline : origin.cooldowns.deadline? id key with
  | none => rfl
  | some deadline =>
    have hkept := steady _ (CooldownTable.deadline?_eq_some hdeadline)
    have hclock := h.clock
    dsimp only at hkept ⊢
    rw [decide_eq_decide]
    constructor
    · intro hnow
      exact Int.lt_of_le_of_lt hclock hnow
    · exact hkept

theorem dispatchedIds_left (past rest : RelayTranscript) :
    dispatchedIds past ⊆ dispatchedIds (past ++ rest) := by
  rw [dispatchedIds_append]
  exact List.subset_append_left _ _

/-- What a run is told by the gateway lets it go on calmly. -/
theorem Alone.calm_answer {past : RelayTranscript} {call : RelayCall}
    {next : RelayReply call → RelayProgram RelayResult} {outside : Outside}
    (h : Alone origin request steps ⟨past, .ask call next⟩ traffic)
    (steady : Steady origin traffic.gateway.now)
    (granted : ∀ charge, ∃ reservation, outside.reserve charge = .ok reservation)
    (inTime : outside.elapsed ≤ origin.policy.timeLimit) :
    Calm origin.policy (origin.sight [])
      (past ++ [⟨call, (outside.answer call traffic.gateway).1⟩]) := by
  apply h.calm.concat
  · intro sight hentry
    cases call with
    | look =>
      cases hentry
      exact h.undisturbed steady outside.draws
    | _ => cases hentry
  · intro charge reply hentry
    cases call with
    | reserve charge' =>
      cases hentry
      exact granted charge
    | _ => cases hentry
  · intro elapsed hentry
    cases call with
    | elapsed =>
      cases hentry
      exact inTime
    | _ => cases hentry

/-- A step of the run itself. -/
theorem Alone.relay_step {past : RelayTranscript} {call : RelayCall}
    {next : RelayReply call → RelayProgram RelayResult} {outside : Outside}
    (h : Alone origin request steps ⟨past, .ask call next⟩ traffic)
    (steady : Steady origin traffic.gateway.now)
    (granted : ∀ charge, ∃ reservation, outside.reserve charge = .ok reservation)
    (inTime : outside.elapsed ≤ origin.policy.timeLimit) :
    Alone origin request (steps + 1)
      ⟨past ++ [⟨call, (outside.answer call traffic.gateway).1⟩],
        next (outside.answer call traffic.gateway).1⟩ (traffic.step (.relay 0 outside)) := by
  have hrun : traffic.runs[0]? = some ⟨past, .ask call next⟩ := by
    rw [h.runs]
    rfl
  have orderly := h.orderly.step (.relay 0 outside)
  have sub := dispatchedIds_left past [⟨call, (outside.answer call traffic.gateway).1⟩]
  have allowed : (ledgerOf past).Allows call :=
    (h.orderly.abides _ (List.mem_of_getElem? hrun)).1
  have tried := ledgerOf_tried past
  have cases := Traffic.answer_cases outside call traffic.gateway
  obtain ⟨hgroups, hregistry, hnow⟩ := Traffic.answer_frame outside call traffic.gateway
  rw [Traffic.step_relay hrun] at orderly ⊢
  constructor
  case runs =>
    show traffic.runs.set 0 _ = _
    rw [h.runs]
    rfl
  case taken =>
    rcases h.taken with ⟨result, hdone⟩ | htaken
    · cases hdone
    · right
      rw [List.length_append, List.length_singleton, htaken]
  case leads =>
    intro transcript result hends
    have hleads := h.leads (⟨call, _⟩ :: transcript) result ⟨_, _, rfl, hends⟩
    rw [List.append_assoc]
    exact hleads
  case orderly => exact orderly
  case groups => exact hgroups.trans h.groups
  case registry =>
    show SameBut _ origin.registry (outside.answer call traffic.gateway).2.registry
    rw [hregistry]
    exact h.registry.mono sub
  case deadlines =>
    intro id hid key
    have hold := h.deadlines id (fun hmem => hid (sub hmem)) key
    show (outside.answer call traffic.gateway).2.cooldowns.deadline? id key = _
    rcases cases with hsame | ⟨other, model, rfl, hcool⟩ | ⟨channel, err, _, hreport⟩
    · rw [hsame]
      exact hold
    · have hother : other ∈ dispatchedIds past := by
        rw [← tried]
        exact allowed.2.1
      have different : other ≠ id := by
        rintro rfl
        exact hid (sub hother)
      rw [hcool]
      exact (CooldownTable.deadline?_set_other fun same => different same.1).trans hold
    · rw [hreport]
      exact hold
  case reports =>
    intro report hreport
    have hreport : report ∈ (outside.answer call traffic.gateway).2.reports := hreport
    rcases cases with hsame | ⟨other, model, _, hcool⟩ | ⟨channel, err, rfl, hnew⟩
    · rw [hsame] at hreport
      exact sub (h.reports report hreport)
    · rw [hcool] at hreport
      exact sub (h.reports report hreport)
    · rw [hnew] at hreport
      rcases List.mem_append.mp hreport with hold | hlast
      · exact sub (h.reports report hold)
      · rw [List.mem_singleton.mp hlast]
        have hchannel : channel.id ∈ dispatchedIds past := by
          rw [← tried]
          exact allowed.2
        exact sub hchannel
  case callers =>
    intro program hprogram
    exact (h.callers program hprogram).mono sub
  case clock =>
    show origin.now ≤ (outside.answer call traffic.gateway).2.now
    rw [hnow]
    exact h.clock
  case calm => exact h.calm_answer steady granted inTime

/-- A step in the background. -/
theorem Alone.health_step (h : Alone origin request steps running traffic) (caller : Nat) :
    Alone origin request steps running (traffic.step (.health caller)) := by
  obtain ⟨hcooldowns, hnow, hgroups, hreports⟩ := Traffic.health_frame traffic.toConcurrent caller
  have hstep := Traffic.health_cases traffic.toConcurrent caller
  constructor
  case runs => exact h.runs
  case taken => exact h.taken
  case leads => exact h.leads
  case orderly => exact h.orderly.step _
  case groups => exact hgroups.trans h.groups
  case registry =>
    show SameBut _ origin.registry (traffic.toConcurrent.step caller).gateway.registry
    rcases hstep with hsame | ⟨call, next, hcaller, hgateway, _⟩
    · rw [hsame]
      exact h.registry
    · rw [hgateway]
      exact h.registry.answerHealth (h.callers _ (List.mem_of_getElem? hcaller)).1
  case deadlines =>
    intro id hid key
    show (traffic.toConcurrent.step caller).gateway.cooldowns.deadline? id key = _
    rw [hcooldowns]
    exact h.deadlines id hid key
  case reports =>
    show ∀ report ∈ (traffic.toConcurrent.step caller).gateway.reports, _
    rw [hreports]
    exact h.reports
  case callers =>
    show ∀ program ∈ (traffic.toConcurrent.step caller).callers, _
    rcases hstep with hsame | ⟨call, next, hcaller, _, hcallers⟩
    · rw [hsame]
      exact h.callers
    · rw [hcallers]
      intro program hprogram
      rcases List.mem_or_eq_of_mem_set hprogram with hold | rfl
      · exact h.callers program hold
      · exact (h.callers _ (List.mem_of_getElem? hcaller)).2 _ trivial
  case clock =>
    show origin.now ≤ (traffic.toConcurrent.step caller).gateway.now
    rw [hnow]
    exact h.clock
  case calm => exact h.calm

/-- A reported failure is taken up. -/
theorem Alone.lookInto_step (h : Alone origin request steps running traffic) (report : Nat) :
    Alone origin request steps running (traffic.step (.lookInto report)) := by
  have orderly := h.orderly.step (.lookInto report)
  cases hreport : traffic.gateway.reports[report]? with
  | none =>
    have hsame : traffic.step (.lookInto report) = traffic := by rw [Traffic.step, hreport]
    rw [hsame]
    exact h
  | some taken =>
    obtain ⟨channel, err⟩ := taken
    have hid := h.reports _ (List.mem_of_getElem? hreport)
    rw [Traffic.step, hreport] at orderly ⊢
    constructor
    case runs => exact h.runs
    case taken => exact h.taken
    case leads => exact h.leads
    case orderly => exact orderly
    case groups => exact h.groups
    case registry => exact h.registry
    case deadlines => exact h.deadlines
    case reports =>
      intro other hother
      exact h.reports other (List.mem_of_mem_eraseIdx hother)
    case callers =>
      intro program hprogram
      rcases List.mem_append.mp hprogram with hold | hnew
      · exact h.callers program hold
      · rw [List.mem_singleton.mp hnew]
        exact confined_examine _ hid err
    case clock => exact h.clock
    case calm => exact h.calm

theorem Alone.step (h : Alone origin request steps running traffic)
    (steady : Steady origin traffic.gateway.now) {happening : Happening}
    (own : happening.IsOwn origin.policy) :
    ∃ running, Alone origin request (steps + if happening.isRelay then 1 else 0) running
      (traffic.step happening) := by
  cases happening with
  | relay run outside =>
    obtain ⟨granted, inTime⟩ := own
    rcases Traffic.step_relay_cases traffic run outside with ⟨hsame, hdone⟩ | ⟨past, call, next, hrun⟩
    · refine ⟨running, ?_⟩
      rw [hsame]
      refine { h with taken := ?_ }
      cases run with
      | zero => exact .inl (hdone running (by rw [h.runs]; rfl))
      | succ run => exact h.taken
    · cases run with
      | zero =>
        rw [h.runs] at hrun
        obtain rfl := Option.some.inj hrun
        exact ⟨_, h.relay_step steady granted inTime⟩
      | succ run =>
        rw [h.runs] at hrun
        cases hrun
  | lookInto report => exact ⟨running, h.lookInto_step report⟩
  | health caller => exact ⟨running, h.health_step caller⟩
  | edit store => exact ⟨running, { h with orderly := h.orderly.step (.edit store) }⟩
  | pass span =>
    have hnow := (Traffic.step_now traffic (.pass span)).1
    exact ⟨running, { h with
      orderly := h.orderly.step (.pass span)
      clock := Int.le_trans h.clock hnow }⟩
  | arrive request => exact absurd own id
  | order order => exact absurd own id
  | registry event => exact absurd own id
  | reloadGroups => exact absurd own id
  | sweep => exact absurd own id

/-! ## From the arrival to the end -/

/-- A request has arrived at a gateway that has nothing else to do. -/
def Traffic.alone (gateway : Gateway) (request : RelayRequest) : Traffic :=
  (Traffic.start gateway).step (.arrive request)

theorem alone_start (built : origin.registry.Built) (quiet : origin.reports = [])
    (request : RelayRequest) :
    Alone origin request 0 ⟨[], relay origin.policy request⟩ (Traffic.alone origin request) where
  runs := rfl
  taken := .inr rfl
  leads _ _ ends := ends
  orderly := (Traffic.Orderly.start built).step (.arrive request)
  groups := rfl
  registry := ⟨rfl, rfl, fun _ _ => Iff.rfl⟩
  deadlines _ _ _ := rfl
  reports := by
    intro report hreport
    have hreport : report ∈ origin.reports := hreport
    rw [quiet] at hreport
    cases hreport
  callers := by
    intro program hprogram
    cases hprogram
  clock := Int.le_refl _
  calm := Calm.nil _ _

theorem alone_run (built : origin.registry.Built) (quiet : origin.reports = [])
    (request : RelayRequest) (happenings : List Happening)
    (own : ∀ happening ∈ happenings, happening.IsOwn origin.policy)
    (steady : Steady origin ((Traffic.alone origin request).run happenings).gateway.now) :
    ∃ running, Alone origin request (happenings.countP Happening.isRelay) running
      ((Traffic.alone origin request).run happenings) := by
  induction happenings using List.reverseRecOn with
  | nil => exact ⟨_, alone_start built quiet request⟩
  | append_singleton happenings happening ih =>
    rw [Traffic.run_append] at steady ⊢
    have hnow := (Traffic.step_now ((Traffic.alone origin request).run happenings) happening).1
    have steady' : Steady origin ((Traffic.alone origin request).run happenings).gateway.now := by
      intro entry hentry hrunning
      exact Int.lt_of_le_of_lt hnow (steady entry hentry hrunning)
    obtain ⟨running, h⟩ := ih (fun other hother => own other (List.mem_append_left _ hother)) steady'
    obtain ⟨running', h'⟩ := h.step steady' (own happening (by simp))
    refine ⟨running', ?_⟩
    rw [List.countP_append, List.countP_singleton]
    exact h'

theorem unpinned_length_le {policy : RelayPolicy} {transcript : RelayTranscript} {result : RelayResult}
    (unpinned : request.pinned = none) (ends : (relay policy request).Ends transcript result) :
    transcript.length ≤ 4 + 7 * (policy.retryTimes.toNat + 1) := by
  rcases unpinned_run unpinned ends with ⟨_, hlen, _⟩ |
      ⟨past, plan, budget, channel, last, rfl, hpast, hlast⟩
  · omega
  · have standing := hpast.standing
    obtain ⟨hshort, _⟩ := standing.ended hlast
    have hlimited := standing.limited
    have hwithin := standing.within
    have hlimit : attemptLimit policy.retryTimes (startCount policy request past) ≤
        policy.retryTimes.toNat + 1 := by
      unfold attemptLimit
      omega
    omega

/-- After enough steps the run is over. -/
theorem Alone.finished (h : Alone origin request steps running traffic)
    (unpinned : request.pinned = none)
    (enough : 4 + 7 * (origin.policy.retryTimes.toNat + 1) ≤ steps) :
    ∃ result, running.rest = .done result := by
  rcases h.taken with hdone | htaken
  · exact hdone
  cases hrest : running.rest with
  | done result => exact ⟨result, rfl⟩
  | ask call next =>
    -- wherever the run went from here, it would come to more exchanges than any run has
    have ends := Program.ends_meet firstDown [] running.rest
    have hlength := unpinned_length_le unpinned (h.leads _ _ ends)
    rw [hrest] at hlength
    rw [Program.meet, List.length_append, List.length_cons] at hlength
    omega

/-- Failover is complete and follows the priorities. A request that is let in and planned arrives at a
gateway that has the table of channels with distinct ids. Whatever its run does, with its effects in the
background in any order, as long as nothing else changes routing, no earlier cooldown ends, reservations
are granted and there is time left: the run comes to its end. Without an eligible channel it is refused.
Otherwise, if all failures let it go on, it tries eligible channels, none of them twice and none before
those of higher priorities, until one gives an answer, or as many as there are and the retries allow. -/
theorem failover_complete (origin : Gateway) (channels : List Channel) (defaultWeight : UInt32)
    (distinct : (channels.map (·.id)).Nodup)
    (table : origin.registry.snapshot = Snapshot.build channels defaultWeight)
    (quiet : origin.reports = []) (request : RelayRequest) (unpinned : request.pinned = none)
    (routed : RelayRequest) (settled : settleGroup origin.policy origin.groups request = .ok routed)
    (plan : RelayPlan) (planned : planRequest origin.policy origin.registry routed = .ok plan)
    (happenings : List Happening) (own : ∀ happening ∈ happenings, happening.IsOwn origin.policy)
    (steady : Steady origin ((Traffic.alone origin request).run happenings).gateway.now) :
    let eligible := plan.eligible channels (origin.sight [])
    ∃ running, ((Traffic.alone origin request).run happenings).runs = [running] ∧
      (4 + 7 * (origin.policy.retryTimes.toNat + 1) ≤ happenings.countP Happening.isRelay →
        ∃ result, running.rest = .done result) ∧
      ∀ result, running.rest = .done result →
        let tried := dispatches running.past
        (eligible = [] → tried = [] ∧ result = .error (plan.request.routingFailure plan.key
            (.noAvailableChannelsAfterFiltering plan.request.tokenGroup plan.key))) ∧
          (eligible ≠ [] → Forgiving tried →
            (tried.map (·.channel.id)).Nodup ∧
              (tried.map (·.channel)).Pairwise (fun upper lower => lower.priority ≤ upper.priority) ∧
              InOrder eligible defaultWeight (tried.map (·.channel)) ∧
              (Answered tried result ∨ Unanswered tried result ∧
                tried.length = min (min (origin.policy.retryTimes.toNat + 1) maxUInt32)
                  eligible.length)) := by
  intro eligible
  have built : origin.registry.Built := ⟨channels, defaultWeight, table⟩
  obtain ⟨running, h⟩ := alone_run built quiet request happenings own steady
  refine ⟨running, h.runs, h.finished unpinned, ?_⟩
  intro result hdone tried
  have ends : (relay origin.policy request).Ends running.past result := by
    have hleads := h.leads [] result
    rw [hdone, List.append_nil] at hleads
    exact hleads ⟨rfl, rfl⟩
  obtain ⟨hnone, hsome⟩ := failover_course distinct table settled planned unpinned ends h.calm
  refine ⟨hnone, ?_⟩
  intro hne forgiving
  obtain ⟨order, hend⟩ := hsome hne
  have hids := order.distinct
  rw [List.map_map] at hids
  refine ⟨hids, order.descending, order, ?_⟩
  rcases hend with hanswered | ⟨hunanswered, hlength⟩
  · exact .inl hanswered
  · refine .inr ⟨hunanswered, ?_⟩
    have hpos : 0 < eligible.length := List.length_pos_iff.mpr hne
    rw [hlength forgiving]
    unfold attemptLimit
    rw [Nat.max_eq_right hpos]

def samplePlan : RelayPlan := ⟨sampleRequest.inGroup "g" .one, "m", 0⟩

/-- No upstream accepts its credentials. -/
def unauthorized : Outside where
  reserve charge := .ok ⟨charge, 1⟩
  dispatch _ _ _ := .error ⟨.upstream 401 "unauthorized" "", false⟩
  settle _ _ _ := .ok ()
  reverse _ := .ok ()
  elapsed := 0
  draws := []

/-- The first channel is disabled in the background before the run selects another one. -/
def disabledMeanwhile : List Happening :=
  List.replicate 8 (.relay 0 unauthorized) ++
    [.lookInto 0, .health 0, .health 0, .pass 10, .health 0, .health 0] ++
    List.replicate 24 (.relay 0 unauthorized)

theorem disabledMeanwhile_failover :
    let traffic := (Traffic.alone sampleGateway sampleRequest).run disabledMeanwhile
    traffic.gateway.registry.isDisabled 1 = true ∧
      ∃ running, traffic.runs = [running] ∧ (∃ err, running.rest = .done (.error err)) ∧
        (dispatches running.past).length = 2 ∧
        ((dispatches running.past).map (·.channel.id)).Nodup := by
  intro traffic
  have settled : settleGroup sampleGateway.policy sampleGateway.groups sampleRequest =
      .ok (sampleRequest.inGroup "g" .one) := by rfl
  have planned : planRequest sampleGateway.policy sampleGateway.registry
      (sampleRequest.inGroup "g" .one) = .ok samplePlan := by rfl
  have own : ∀ happening ∈ disabledMeanwhile, happening.IsOwn sampleGateway.policy := by
    intro happening hmem
    have relays : (Happening.relay 0 unauthorized).IsOwn sampleGateway.policy :=
      ⟨fun charge => ⟨_, rfl⟩, Nat.zero_le _⟩
    simp only [disabledMeanwhile, List.mem_append, List.mem_replicate, List.mem_cons,
      List.not_mem_nil, or_false] at hmem
    rcases hmem with (⟨_, rfl⟩ | rfl | rfl | rfl | rfl | rfl | rfl) | ⟨_, rfl⟩
    · exact relays
    · trivial
    · trivial
    · trivial
    · trivial
    · trivial
    · trivial
    · exact relays
  have steady : Steady sampleGateway traffic.gateway.now := by
    intro entry hentry
    cases hentry
  obtain ⟨running, hruns, hfinished, hcourse⟩ := failover_complete sampleGateway
    [sampleChannel 1, sampleChannel 2] 1 (by decide) rfl rfl sampleRequest rfl _ settled samplePlan
    planned disabledMeanwhile own steady
  obtain ⟨result, hdone⟩ := hfinished (by decide +kernel)
  have hruns : traffic.runs = [running] := hruns
  obtain ⟨_, hcourse⟩ := hcourse result hdone
  have refused : traffic.runs.all (fun running => (dispatches running.past).all fun dispatched =>
      match dispatched.reply with
      | .ok _ => false
      | .error failure =>
        !failure.committed && shouldRetry failure.error dispatched.channel.provider) = true := by
    decide +kernel
  rw [hruns, List.all_cons, List.all_nil, Bool.and_true, List.all_eq_true] at refused
  have forgiving : Forgiving (dispatches running.past) := by
    intro dispatched hmem failure hreply
    have hrefused := refused dispatched hmem
    rw [hreply] at hrefused
    simpa using hrefused
  have two : (samplePlan.eligible [sampleChannel 1, sampleChannel 2] (sampleGateway.sight [])).length =
      2 := by decide +kernel
  have eligible : samplePlan.eligible [sampleChannel 1, sampleChannel 2] (sampleGateway.sight []) ≠
      [] := by
    intro hempty
    rw [hempty] at two
    cases two
  obtain ⟨distinct, _, _, hend⟩ := hcourse eligible forgiving
  refine ⟨by decide +kernel, running, hruns, ?_⟩
  rcases hend with ⟨_, failures, channel, outcome, htried, _⟩ | ⟨⟨⟨err, rfl⟩, _⟩, hlength⟩
  · have hrefused := refused ⟨channel, .ok outcome⟩ (by rw [htried]; simp)
    cases hrefused
  · rw [two] at hlength
    exact ⟨⟨err, hdone⟩, hlength, distinct⟩

end RelayGateway
