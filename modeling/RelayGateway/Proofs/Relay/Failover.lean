import Mathlib.Data.List.Perm.Subperm
import RelayGateway.Proofs.Relay.Conduct
import RelayGateway.Proofs.Relay.Retrying

/-! # Failover from channel to channel

* `Forgiving`: every failure leaves room for another channel.
* `RelayPlan.eligible`: the channels that a plan can use at the start.
* `Undisturbed`, `Calm`: a run sees no changes but those of channels it has tried, its reservations are
  granted and the time does not run out.
* `InOrder`: eligible channels are tried in the order of their priorities, none of them twice.
* `Attempting.advancing`: so a calm run tries them, each after a failure of the one before.
* `Attempting.exhausted`: when nothing but the retries or the channels end a calm run.
* `failover_course`: how a calm run ends.
-/

set_option autoImplicit false

namespace RelayGateway

/-! ## Dispatches -/

def Dispatched.Failed (dispatched : Dispatched) : Prop :=
  ∃ failure, dispatched.reply = .error failure

/-- Whatever failed had not begun its answer, and another channel may do better. -/
def Forgiving (tried : List Dispatched) : Prop :=
  ∀ dispatched ∈ tried, ∀ failure, dispatched.reply = .error failure →
    failure.committed = false ∧ shouldRetry failure.error dispatched.channel.provider = true

/-! ## What a run can use -/

/-- The channels that serve the key of a plan and can be chosen for it. -/
def RelayPlan.eligible (plan : RelayPlan) (channels : List Channel) (sight : Sight) : List Channel :=
  (serving channels plan.request.tokenGroup plan.key).filter
    (sight.registry.isEligible (plan.conditions sight []) plan.key)

/-- What is seen differs from what was seen at the start only for channels that were tried. -/
structure Undisturbed (start : Sight) (tried : List ChannelId) (sight : Sight) : Prop where
  groups : sight.groups = start.groups
  options : sight.registry.options = start.registry.options
  snapshot : sight.registry.snapshot = start.registry.snapshot
  flags : ∀ id ∉ tried, (id ∈ sight.registry.disabled ↔ id ∈ start.registry.disabled)
  cooling : ∀ id ∉ tried, ∀ key,
    sight.cooldowns.isCooling id key sight.now = start.cooldowns.isCooling id key start.now

/-- A run meets no obstacles but failing channels. -/
structure Calm (policy : RelayPolicy) (start : Sight) (transcript : RelayTranscript) : Prop where
  sights : ∀ earlier sight later, transcript = earlier ++ ⟨.look, sight⟩ :: later →
    Undisturbed start (dispatchedIds earlier) sight
  granted : ∀ charge reply, ⟨.reserve charge, reply⟩ ∈ transcript → ∃ reservation, reply = .ok reservation
  inTime : ∀ elapsed, ⟨.elapsed, elapsed⟩ ∈ transcript → elapsed ≤ policy.timeLimit

variable {policy : RelayPolicy} {request : RelayRequest} {start sight : Sight}
  {tried : List ChannelId} {plan : RelayPlan} {channels : List Channel} {defaultWeight : UInt32}
  {stored channel : Channel} {past transcript : RelayTranscript}

theorem Calm.left {rest : RelayTranscript} (h : Calm policy start (past ++ rest)) :
    Calm policy start past := by
  constructor
  case sights =>
    intro earlier sight later hsplit
    exact h.sights earlier sight (later ++ rest) (by rw [hsplit]; simp)
  case granted =>
    intro charge reply hmem
    exact h.granted charge reply (List.mem_append_left rest hmem)
  case inTime =>
    intro elapsed hmem
    exact h.inTime elapsed (List.mem_append_left rest hmem)

theorem Calm.nil (policy : RelayPolicy) (start : Sight) : Calm policy start [] := by
  constructor
  case sights =>
    intro earlier sight later hsplit
    simp at hsplit
  case granted =>
    intro charge reply hmem
    cases hmem
  case inTime =>
    intro elapsed hmem
    cases hmem

theorem Calm.concat (h : Calm policy start past) {entry : Exchange RelayReply}
    (seen : ∀ sight, entry = ⟨.look, sight⟩ → Undisturbed start (dispatchedIds past) sight)
    (granted : ∀ charge reply, entry = ⟨.reserve charge, reply⟩ →
      ∃ reservation, reply = .ok reservation)
    (inTime : ∀ elapsed, entry = ⟨.elapsed, elapsed⟩ → elapsed ≤ policy.timeLimit) :
    Calm policy start (past ++ [entry]) := by
  constructor
  case sights =>
    intro earlier sight later hsplit
    rcases append_singleton_eq hsplit with ⟨rfl, heq, _⟩ | ⟨rest, _, hpast⟩
    · exact seen sight heq.symm
    · exact h.sights earlier sight rest hpast
  case granted =>
    intro charge reply hmem
    rcases List.mem_append.mp hmem with hold | hnew
    · exact h.granted charge reply hold
    · exact granted charge reply (List.mem_singleton.mp hnew).symm
  case inTime =>
    intro elapsed hmem
    rcases List.mem_append.mp hmem with hold | hnew
    · exact h.inTime elapsed hold
    · exact inTime elapsed (List.mem_singleton.mp hnew).symm

theorem mem_eligible : stored ∈ plan.eligible channels start ↔
    stored ∈ serving channels plan.request.tokenGroup plan.key ∧
      start.registry.Admits start.cooldowns start.now plan.options [] plan.key stored := by
  unfold RelayPlan.eligible RelayPlan.conditions
  rw [List.mem_filter, isEligible_iff]

theorem eligible_ids_nodup (distinct : (channels.map (·.id)).Nodup) :
    ((plan.eligible channels start).map (·.id)).Nodup :=
  (serving_ids_nodup distinct plan.request.tokenGroup plan.key).sublist ((List.filter_sublist).map _)

/-- What can be chosen now could be chosen at the start and has not been tried. -/
theorem Undisturbed.admits (h : Undisturbed start tried sight) :
    sight.registry.Admits sight.cooldowns sight.now plan.options tried plan.key stored ↔
      stored.id ∉ tried ∧
        start.registry.Admits start.cooldowns start.now plan.options [] plan.key stored := by
  constructor
  · intro hadmits
    have hfresh := hadmits.untried
    have hflag := h.flags stored.id hfresh
    have hcooling := h.cooling stored.id hfresh plan.key
    refine ⟨hfresh, ?_, ?_, List.not_mem_nil, hadmits.suited, hadmits.vendor, hadmits.streams⟩
    · exact fun hdisabled => hadmits.running (hflag.mpr hdisabled)
    · rw [← hcooling]
      exact hadmits.rested
  · rintro ⟨hfresh, hadmits⟩
    have hflag := h.flags stored.id hfresh
    have hcooling := h.cooling stored.id hfresh plan.key
    refine ⟨?_, ?_, hfresh, hadmits.suited, hadmits.vendor, hadmits.streams⟩
    · exact fun hdisabled => hadmits.running (hflag.mp hdisabled)
    · rw [hcooling]
      exact hadmits.rested

theorem Undisturbed.planRequest_eq (h : Undisturbed start tried sight) (routed : RelayRequest) :
    planRequest policy sight.registry routed = planRequest policy start.registry routed := by
  unfold planRequest Registry.resolve Registry.matchedKey?
  rw [h.snapshot, h.options]

section Start

variable (distinct : (channels.map (·.id)).Nodup)
  (table : start.registry.snapshot = Snapshot.build channels defaultWeight)
  (routed : ∃ tiers, start.registry.snapshot.tiers plan.request.tokenGroup plan.key = some tiers)
include distinct table routed

/-- A selection finds an eligible channel that has not been tried, of the highest priority that has one;
or all eligible ones have been tried. -/
theorem Undisturbed.select (h : Undisturbed start tried sight) :
    (∃ stored ∈ plan.eligible channels start, stored.id ∉ tried ∧
        plan.select sight tried = .ok (Snapshot.withWeight defaultWeight stored) ∧
        ∀ other ∈ plan.eligible channels start, stored.priority < other.priority → other.id ∈ tried) ∨
      (plan.select sight tried =
          .error (.noAvailableChannelsAfterFiltering plan.request.tokenGroup plan.key) ∧
        ∀ other ∈ plan.eligible channels start, other.id ∈ tried) := by
  obtain ⟨tiers, htiers⟩ := routed
  have table' : sight.registry.snapshot = Snapshot.build channels defaultWeight :=
    h.snapshot.trans table
  have routed' : sight.registry.snapshot.tiers plan.request.tokenGroup plan.key = some tiers := by
    rw [h.snapshot]
    exact htiers
  have remaining : ∀ other ∈ plan.eligible channels start,
      ¬ sight.registry.Admits sight.cooldowns sight.now plan.options tried plan.key other →
        other.id ∈ tried := by
    intro other hother hnot
    by_contra hfresh
    exact hnot (h.admits.mpr ⟨hfresh, (mem_eligible.mp hother).2⟩)
  rcases Registry.built_selectKey distinct table' routed' sight.draws with
    ⟨stored, hserving, hselect, hadmits, hhighest⟩ | ⟨hselect, hnone⟩
  · obtain ⟨hfresh, hstart⟩ := h.admits.mp hadmits
    refine .inl ⟨stored, mem_eligible.mpr ⟨hserving, hstart⟩, hfresh, hselect, ?_⟩
    intro other hother hhigher
    exact remaining other hother (hhighest other (mem_eligible.mp hother).1 hhigher)
  · refine .inr ⟨hselect, ?_⟩
    intro other hother
    exact remaining other hother (hnone other (mem_eligible.mp hother).1)

theorem Undisturbed.countAvailable (h : Undisturbed start [] sight) :
    plan.countAvailable sight = (plan.eligible channels start).length := by
  obtain ⟨tiers, htiers⟩ := routed
  have table' : sight.registry.snapshot = Snapshot.build channels defaultWeight :=
    h.snapshot.trans table
  have routed' : sight.registry.snapshot.tiers plan.request.tokenGroup plan.key = some tiers := by
    rw [h.snapshot]
    exact htiers
  have once := (Registry.built_layered distinct table' routed').once
  have hids : (sight.registry.availableIds (plan.conditions sight []) plan.request.tokenGroup plan.key).Perm
      ((plan.eligible channels start).map (·.id)) := by
    refine (List.perm_ext_iff_of_nodup (Registry.nodup_availableIds routed' once)
      (eligible_ids_nodup distinct)).mpr ?_
    intro id
    unfold RelayPlan.conditions
    rw [Registry.built_availableIds distinct table' routed', List.mem_map]
    constructor
    · rintro ⟨stored, hserving, rfl, hadmits⟩
      exact ⟨stored, mem_eligible.mpr ⟨hserving, (h.admits.mp hadmits).2⟩, rfl⟩
    · rintro ⟨stored, hstored, rfl⟩
      obtain ⟨hserving, hadmits⟩ := mem_eligible.mp hstored
      exact ⟨stored, hserving, rfl, h.admits.mpr ⟨List.not_mem_nil, hadmits⟩⟩
  have hlength := hids.length_eq
  rw [List.length_map] at hlength
  exact hlength

end Start

theorem planned_routed {registry : Registry} {routed : RelayRequest}
    (planned : planRequest policy registry routed = .ok plan) :
    ∃ tiers, registry.snapshot.tiers plan.request.tokenGroup plan.key = some tiers := by
  rw [planRequest_routed planned]
  exact Registry.resolve_tiers (planRequest_key planned)

/-! ## The order of the attempts -/

/-- The channel is a good choice after those tried before: it is eligible and new, and all eligible
channels of higher priorities have been tried. -/
structure Preferred (eligible : List Channel) (defaultWeight : UInt32) (earlier : List Channel)
    (channel : Channel) : Prop where
  chosen : ∃ stored ∈ eligible, channel = Snapshot.withWeight defaultWeight stored
  fresh : channel.id ∉ earlier.map (·.id)
  above : ∀ other ∈ eligible, channel.priority < other.priority → other.id ∈ earlier.map (·.id)

/-- Every channel is a good choice after those before it. -/
def InOrder (eligible : List Channel) (defaultWeight : UInt32) (tried : List Channel) : Prop :=
  ∀ earlier channel later, tried = earlier ++ channel :: later →
    Preferred eligible defaultWeight earlier channel

namespace InOrder

variable {eligible tried : List Channel}

theorem nil (eligible : List Channel) (defaultWeight : UInt32) : InOrder eligible defaultWeight [] := by
  intro earlier channel later hsplit
  simp at hsplit

theorem concat (h : InOrder eligible defaultWeight tried)
    (preferred : Preferred eligible defaultWeight tried channel) :
    InOrder eligible defaultWeight (tried ++ [channel]) := by
  intro earlier other later hsplit
  rcases append_singleton_eq hsplit with ⟨rfl, rfl, _⟩ | ⟨rest, _, htried⟩
  · exact preferred
  · exact h earlier other rest htried

theorem left {rest : List Channel} (h : InOrder eligible defaultWeight (tried ++ rest)) :
    InOrder eligible defaultWeight tried := by
  intro earlier channel later hsplit
  exact h earlier channel (later ++ rest) (by rw [hsplit]; simp)

theorem distinct (h : InOrder eligible defaultWeight tried) : (tried.map (·.id)).Nodup := by
  induction tried using List.reverseRecOn with
  | nil => exact List.nodup_nil
  | append_singleton tried channel ih =>
    rw [List.map_append, List.map_singleton, ← List.concat_eq_append]
    exact (ih h.left).concat (h tried channel [] rfl).fresh

/-- No channel has a higher priority than one tried before it. -/
theorem descending (h : InOrder eligible defaultWeight tried) :
    tried.Pairwise fun upper lower => lower.priority ≤ upper.priority := by
  induction tried using List.reverseRecOn with
  | nil => exact List.Pairwise.nil
  | append_singleton tried channel ih =>
    rw [List.pairwise_append]
    refine ⟨ih h.left, List.pairwise_singleton _ _, ?_⟩
    intro upper hupper last hlast
    obtain rfl := List.mem_singleton.mp hlast
    by_contra hhigher
    -- a channel of a higher priority would have been tried before
    rw [Int64.not_le] at hhigher
    have hlast := h tried last [] rfl
    obtain ⟨stored, hstored, rfl⟩ := hlast.chosen
    obtain ⟨earlier, later, rfl⟩ := List.append_of_mem hupper
    have habove := (h.left earlier upper later rfl).above stored hstored
    rw [withWeight_priority] at hhigher
    apply hlast.fresh
    rw [withWeight_id, List.map_append]
    exact List.mem_append_left _ (habove hhigher)

end InOrder

theorem Undisturbed.preferred (h : Undisturbed start tried sight)
    (distinct : (channels.map (·.id)).Nodup)
    (table : start.registry.snapshot = Snapshot.build channels defaultWeight)
    (routed : ∃ tiers, start.registry.snapshot.tiers plan.request.tokenGroup plan.key = some tiers)
    {before : List Channel} (same : ∀ id, id ∈ tried ↔ id ∈ before.map (·.id))
    (selected : plan.select sight tried = .ok channel) :
    Preferred (plan.eligible channels start) defaultWeight before channel := by
  rcases h.select distinct table routed with ⟨stored, hstored, hfresh, hselect, habove⟩ | ⟨hselect, _⟩
  · obtain rfl := Except.ok.inj (hselect.symm.trans selected)
    refine ⟨⟨stored, hstored, rfl⟩, ?_, ?_⟩
    · rw [withWeight_id, ← same]
      exact hfresh
    · intro other hother hhigher
      rw [withWeight_priority] at hhigher
      exact (same other.id).mp (habove other hother hhigher)
  · cases hselect.symm.trans selected

/-! ## A calm run -/

variable {budget : RetryBudget}

/-- A turn that another one follows, in full: its attempt failed, and the next channel was selected. -/
theorem turn_another_selects {next : RetryBudget} {other : Channel}
    {fewer : next.remaining < budget.remaining}
    (h : (turn policy plan budget channel).Ends transcript (.another next other fewer)) :
    ∃ reservation failure reversal cooled elapsed sight,
      transcript = (AttemptCourse.failed reservation failure reversal).entries plan channel ++
        (followUpEntries plan channel failure.error cooled ++
          [⟨.elapsed, elapsed⟩, ⟨.look, sight⟩]) ∧
        plan.select sight (budget.exclude channel.id).excluded = .ok other := by
  obtain ⟨course, rest, rfl, ⟨_, _, _, _, hsequel⟩ | ⟨failure, hresult, hafter⟩⟩ := turn_cases h
  · cases hsequel
  obtain ⟨cooled, tail, rfl, ⟨_, _, hsequel⟩ | ⟨hfinal, _, elapsed, hcase⟩⟩ :=
    afterFailure_cases hafter
  · cases hsequel
  obtain ⟨_, _, hsequel⟩ | ⟨_, sight, rfl, ⟨_, _, hsequel⟩ | ⟨selected, _, hselect, hsequel⟩⟩ := hcase
  · cases hsequel
  · cases hsequel
  · cases hsequel
    have hfailed := AttemptCourse.isFailed_of_not_isFinal hresult hfinal
    cases course with
    | refused err => cases hfailed
    | served reservation outcome settlement => cases hfailed
    | failed reservation dispatchFailure reversal =>
      cases hresult
      exact ⟨reservation, dispatchFailure, reversal, cooled, elapsed, sight, rfl, hselect⟩

/-- In time, a failure that lets the run go on ends it only for want of room or of a channel. -/
theorem afterFailure_stops {failure : AttemptFailure} {result : RelayResult}
    (h : (afterFailure policy plan budget channel failure).Ends transcript (.ended result))
    (passing : failure.isFinal channel = false)
    (inTime : ∀ elapsed, ⟨.elapsed, elapsed⟩ ∈ transcript → elapsed ≤ policy.timeLimit) :
    budget.hasRoom = false ∨ ∃ cooled elapsed sight err,
      transcript = followUpEntries plan channel failure.error cooled ++
        [⟨.elapsed, elapsed⟩, ⟨.look, sight⟩] ∧
        plan.select sight (budget.exclude channel.id).excluded = .error err := by
  obtain ⟨cooled, rest, rfl, ⟨hstop, _, _⟩ | ⟨_, _, elapsed, hcase⟩⟩ := afterFailure_cases h
  · rcases hstop with hfinal | hroom
    · rw [passing] at hfinal
      cases hfinal
    · exact .inl hroom
  rcases hcase with ⟨htime, rfl, _⟩ | ⟨_, sight, rfl, ⟨err, hselect, _⟩ | ⟨_, _, _, hsequel⟩⟩
  · have hlimit := inTime elapsed (by simp)
    rw [timedOut, decide_eq_true_iff] at htime
    omega
  · exact .inr ⟨cooled, elapsed, sight, err, rfl, hselect⟩
  · cases hsequel

/-- The look after a failed attempt sees changes of the channels tried until then at most. -/
theorem Calm.next_sight {reservation : Reservation} {failure : DispatchFailure}
    {reversal : Except ServiceError Unit} {cooled : Bool} {elapsed : Nat}
    (calm : Calm policy start (past ++
      ((AttemptCourse.failed reservation failure reversal).entries plan channel ++
        (followUpEntries plan channel failure.error cooled ++
          [⟨.elapsed, elapsed⟩, ⟨.look, sight⟩])))) :
    Undisturbed start
      (dispatchedIds (past ++ (AttemptCourse.failed reservation failure reversal).entries plan channel))
      sight := by
  have hquiet : Quiet (followUpEntries plan channel failure.error cooled ++ [⟨.elapsed, elapsed⟩]) := by
    apply (quiet_followUpEntries _ _ _ _).append
    intro entry hentry
    rw [List.mem_singleton.mp hentry]
    rfl
  have hundisturbed := calm.sights
    (past ++ ((AttemptCourse.failed reservation failure reversal).entries plan channel ++
      (followUpEntries plan channel failure.error cooled ++ [⟨.elapsed, elapsed⟩]))) sight []
    (by simp)
  rw [← List.append_assoc, dispatchedIds_append, dispatchedIds_quiet hquiet, List.append_nil]
    at hundisturbed
  exact hundisturbed

/-- An answer came from the channel that was tried last, and from no other. -/
def Answered (tried : List Dispatched) (result : RelayResult) : Prop :=
  (∃ response, result = .ok response) ∧ ∃ failures channel outcome,
    tried = failures ++ [⟨channel, .ok outcome⟩] ∧ ∀ dispatched ∈ failures, dispatched.Failed

/-- No channel that was tried gave an answer. -/
def Unanswered (tried : List Dispatched) (result : RelayResult) : Prop :=
  (∃ err, result = .error err) ∧ ∀ dispatched ∈ tried, dispatched.Failed

/-- What a calm run has done before an attempt. -/
structure Advancing (policy : RelayPolicy) (request : RelayRequest) (start : Sight) (plan : RelayPlan)
    (channels : List Channel) (defaultWeight : UInt32) (past : RelayTranscript) (channel : Channel) :
    Prop where
  order : InOrder (plan.eligible channels start) defaultWeight
    ((dispatches past).map (·.channel) ++ [channel])
  failed : ∀ dispatched ∈ dispatches past, dispatched.Failed
  counted : startCount policy request past = (plan.eligible channels start).length

theorem dispatches_failed (plan : RelayPlan) (channel : Channel) (reservation : Reservation)
    (failure : DispatchFailure) (reversal : Except ServiceError Unit) :
    dispatches ((AttemptCourse.failed reservation failure reversal).entries plan channel) =
      [⟨channel, .error failure⟩] := rfl

/-- The last turn of a run to which reservations are granted, in full: it dispatches once, and the run ends
with the answer or with an error. -/
theorem turn_ended_dispatches {result : RelayResult}
    (h : (turn policy plan budget channel).Ends transcript (.ended result))
    (granted : ∀ charge reply, ⟨.reserve charge, reply⟩ ∈ transcript →
      ∃ reservation, reply = .ok reservation) :
    (∃ outcome response, dispatches transcript = [⟨channel, .ok outcome⟩] ∧ result = .ok response) ∨
      ∃ reservation failure reversal rest err,
        transcript = (AttemptCourse.failed reservation failure reversal).entries plan channel ++ rest ∧
          dispatches transcript = [⟨channel, .error failure⟩] ∧ result = .error err ∧
          (afterFailure policy plan budget channel ⟨failure.error, failure.committed⟩).Ends rest
            (.ended result) := by
  obtain ⟨course, rest, rfl, ⟨usage, outcome, hresult, rfl, hsequel⟩ | ⟨failure, hresult, hafter⟩⟩ :=
    turn_cases h
  · cases course with
    | refused err => cases hresult
    | failed reservation dispatchFailure reversal => cases hresult
    | served reservation answer settlement =>
      cases hsequel
      exact .inl ⟨answer, _, rfl, rfl⟩
  · cases course with
    | served reservation answer settlement => cases hresult
    | refused err =>
      obtain ⟨reservation, hreserved⟩ := granted plan.charge (.error err)
        (List.mem_append_left rest (List.mem_singleton_self _))
      cases hreserved
    | failed reservation dispatchFailure reversal =>
      obtain ⟨hquiet, _, ⟨err, herror⟩, _⟩ := afterFailure_ended hresult hafter
      obtain rfl := Except.error.inj hresult
      refine .inr ⟨reservation, dispatchFailure, reversal, rest, err, rfl, ?_, herror, hafter⟩
      rw [dispatches_append, dispatches_failed, dispatches_quiet hquiet, List.append_nil]

section Start

variable {routed : RelayRequest} (distinct : (channels.map (·.id)).Nodup)
  (table : start.registry.snapshot = Snapshot.build channels defaultWeight)
  (settled : settleGroup policy start.groups request = .ok routed)
  (planned : planRequest policy start.registry routed = .ok plan)
include distinct table settled planned

theorem Attempting.advancing {plan' : RelayPlan}
    (h : Attempting policy request past plan' budget channel) (calm : Calm policy start past) :
    plan' = plan ∧ Advancing policy request start plan channels defaultWeight past channel := by
  have routes := planned_routed planned
  induction h with
  | @first arrival sight counted chosen routed' plan' channel settled' planned' selected =>
    have harrival : Undisturbed start [] arrival := calm.sights [] arrival _ rfl
    have hsight : Undisturbed start [] sight := calm.sights [⟨.look, arrival⟩] sight _ rfl
    have hcounted : Undisturbed start [] counted :=
      calm.sights [⟨.look, arrival⟩, ⟨.look, sight⟩] counted _ rfl
    have hchosen : Undisturbed start [] chosen :=
      calm.sights [⟨.look, arrival⟩, ⟨.look, sight⟩, ⟨.look, counted⟩] chosen _ rfl
    obtain rfl : routed' = routed := by
      rw [harrival.groups, settled] at settled'
      exact (Except.ok.inj settled').symm
    obtain rfl : plan' = plan := by
      rw [hsight.planRequest_eq, planned] at planned'
      exact (Except.ok.inj planned').symm
    have preferred : Preferred (plan'.eligible channels start) defaultWeight [] channel :=
      hchosen.preferred distinct table routes (fun _ => Iff.rfl) selected
    refine ⟨rfl, ?_, ?_, ?_⟩
    · exact (InOrder.nil _ _).concat preferred
    · intro dispatched hdispatched
      cases hdispatched
    · have hplan : plan? policy request
          [⟨.look, arrival⟩, ⟨.look, sight⟩, ⟨.look, counted⟩, ⟨.look, chosen⟩] = some plan' :=
        plan?_looked settled' planned' _
      have hcount : startCount policy request
          [⟨.look, arrival⟩, ⟨.look, sight⟩, ⟨.look, counted⟩, ⟨.look, chosen⟩] =
            plan'.countAvailable counted := by
        rw [startCount, hplan]
        rfl
      rw [hcount]
      exact hcounted.countAvailable distinct table routes
  | @again past transcript plan' budget next channel other fewer before turned ih =>
    obtain ⟨rfl, hadvancing⟩ := ih calm.left
    obtain ⟨reservation, failure, reversal, cooled, elapsed, sight, rfl, hselect⟩ :=
      turn_another_selects turned
    have standing := before.standing
    have hfailed : (AttemptCourse.failed reservation failure reversal).isFailed = true := rfl
    rw [standing.select_excluding hfailed] at hselect
    have hundisturbed := calm.next_sight
    have hdispatches : dispatches (past ++
        ((AttemptCourse.failed reservation failure reversal).entries plan' channel ++
          (followUpEntries plan' channel failure.error cooled ++
            [⟨.elapsed, elapsed⟩, ⟨.look, sight⟩]))) =
        dispatches past ++ [⟨channel, .error failure⟩] := by
      have hrest := (quiet_followUpEntries plan' channel failure.error cooled).append
        (quiet_waiting elapsed sight)
      rw [dispatches_append, dispatches_append, dispatches_failed, dispatches_quiet hrest,
        List.append_nil]
    have preferred : Preferred (plan'.eligible channels start) defaultWeight
        ((dispatches past).map (·.channel) ++ [channel]) other := by
      refine hundisturbed.preferred distinct table routes ?_ hselect
      intro id
      rw [dispatchedIds_eq, dispatches_append, dispatches_failed]
      simp
    refine ⟨rfl, ?_, ?_, ?_⟩
    · rw [hdispatches, List.map_append]
      exact hadvancing.order.concat preferred
    · intro dispatched hdispatched
      rw [hdispatches] at hdispatched
      rcases List.mem_append.mp hdispatched with hold | hnew
      · exact hadvancing.failed dispatched hold
      · rw [List.mem_singleton.mp hnew]
        exact ⟨failure, rfl⟩
    · rw [startCount_append standing.looked]
      exact hadvancing.counted

/-- A failure that lets a calm run go on ends it only after as many attempts as it may make. -/
theorem Attempting.exhausted {reservation : Reservation} {failure : DispatchFailure}
    {reversal : Except ServiceError Unit} {rest : RelayTranscript} {result : RelayResult}
    (before : Attempting policy request past plan budget channel)
    (after : (afterFailure policy plan budget channel ⟨failure.error, failure.committed⟩).Ends rest
      (.ended result))
    (calm : Calm policy start (past ++
      ((AttemptCourse.failed reservation failure reversal).entries plan channel ++ rest)))
    (passing : AttemptFailure.isFinal ⟨failure.error, failure.committed⟩ channel = false) :
    (dispatches past).length + 1 =
      attemptLimit policy.retryTimes (plan.eligible channels start).length := by
  have routes := planned_routed planned
  have standing := before.standing
  obtain ⟨_, hadvancing⟩ := before.advancing distinct table settled planned calm.left
  have hcounted : budget.attempts.toNat = (dispatches past).length + 1 := by
    rw [standing.counted, dispatchedIds_eq, List.length_map]
  have hlimited : budget.maxAttempts.toNat =
      attemptLimit policy.retryTimes (plan.eligible channels start).length := by
    rw [standing.limited, hadvancing.counted]
  have hwithin := standing.within
  have inTime : ∀ elapsed, ⟨.elapsed, elapsed⟩ ∈ rest → elapsed ≤ policy.timeLimit := by
    intro elapsed hmem
    apply calm.inTime elapsed
    exact List.mem_append_right past (List.mem_append_right _ hmem)
  rcases afterFailure_stops after passing inTime with
    hfull | ⟨cooled, elapsed, sight, err, rfl, hselect⟩
  · have hroom := (RetryBudget.hasRoom_iff budget).not.mp (by rw [hfull]; exact Bool.false_ne_true)
    omega
  · have hfailed : (AttemptCourse.failed reservation failure reversal).isFailed = true := rfl
    rw [standing.select_excluding hfailed] at hselect
    rcases calm.next_sight.select distinct table routes with ⟨_, _, _, hsome, _⟩ | ⟨_, hall⟩
    · cases hselect.symm.trans hsome
    -- no eligible channel is left, so there were no more of them than attempts
    have hsubset : (plan.eligible channels start).map (·.id) ⊆ dispatchedIds (past ++
        (AttemptCourse.failed reservation failure reversal).entries plan channel) := by
      intro id hid
      obtain ⟨other, hother, rfl⟩ := List.mem_map.mp hid
      exact hall other hother
    have hmany := ((eligible_ids_nodup distinct).subperm hsubset).length_le
    rw [dispatchedIds_eq, dispatches_append, dispatches_failed, List.length_map, List.length_map,
      List.length_append, List.length_singleton] at hmany
    have hbound : attemptLimit policy.retryTimes (plan.eligible channels start).length ≤
        max 1 (plan.eligible channels start).length := by
      unfold attemptLimit
      omega
    omega

/-- The last turn of a calm run. Unless an answer comes, the run has made as many attempts as it may. -/
theorem Attempting.closing {result : RelayResult} {last : RelayTranscript}
    (before : Attempting policy request past plan budget channel)
    (turned : (turn policy plan budget channel).Ends last (.ended result))
    (calm : Calm policy start (past ++ last)) :
    let tried := dispatches (past ++ last)
    InOrder (plan.eligible channels start) defaultWeight (tried.map (·.channel)) ∧
      (Answered tried result ∨ Unanswered tried result ∧ (Forgiving tried →
        tried.length = attemptLimit policy.retryTimes (plan.eligible channels start).length)) := by
  intro tried
  obtain ⟨_, hadvancing⟩ := before.advancing distinct table settled planned calm.left
  have order : ∀ reply, tried = dispatches past ++ [⟨channel, reply⟩] →
      InOrder (plan.eligible channels start) defaultWeight (tried.map (·.channel)) := by
    intro reply htried
    rw [htried, List.map_append]
    exact hadvancing.order
  rcases turn_ended_dispatches turned fun charge reply hmem =>
      calm.granted charge reply (List.mem_append_right past hmem) with
    ⟨outcome, response, hlast, rfl⟩ | ⟨reservation, failure, reversal, rest, err, rfl, hlast, rfl, hafter⟩
  · have htried : tried = dispatches past ++ [⟨channel, .ok outcome⟩] := by
      rw [← hlast]
      exact dispatches_append past last
    exact ⟨order _ htried, .inl ⟨⟨response, rfl⟩, _, channel, outcome, htried, hadvancing.failed⟩⟩
  · have htried : tried = dispatches past ++ [⟨channel, .error failure⟩] := by
      rw [← hlast]
      exact dispatches_append past _
    refine ⟨order _ htried, .inr ⟨⟨⟨err, rfl⟩, ?_⟩, ?_⟩⟩
    · intro dispatched hdispatched
      rw [htried] at hdispatched
      rcases List.mem_append.mp hdispatched with hold | hnew
      · exact hadvancing.failed dispatched hold
      · rw [List.mem_singleton.mp hnew]
        exact ⟨failure, rfl⟩
    · intro forgiving
      obtain ⟨huncommitted, hretried⟩ := forgiving ⟨channel, .error failure⟩ (by simp [htried]) failure rfl
      have passing : AttemptFailure.isFinal ⟨failure.error, failure.committed⟩ channel = false := by
        rw [AttemptFailure.isFinal, huncommitted, hretried]
        rfl
      rw [htried, List.length_append, List.length_singleton]
      exact before.exhausted distinct table settled planned hafter calm passing

/-- A calm run with no eligible channel is refused before its first attempt. Any other tries eligible
channels in order until one gives an answer or the run has made as many attempts as it may. -/
theorem failover_course {result : RelayResult} (unpinned : request.pinned = none)
    (ends : (relay policy request).Ends transcript result) (calm : Calm policy start transcript) :
    let eligible := plan.eligible channels start
    let tried := dispatches transcript
    (eligible = [] → tried = [] ∧ result = .error (plan.request.routingFailure plan.key
        (.noAvailableChannelsAfterFiltering plan.request.tokenGroup plan.key))) ∧
      (eligible ≠ [] → InOrder eligible defaultWeight (tried.map (·.channel)) ∧
        (Answered tried result ∨ Unanswered tried result ∧ (Forgiving tried →
          tried.length = attemptLimit policy.retryTimes eligible.length))) := by
  intro eligible tried
  have routes := planned_routed planned
  obtain ⟨arrival, rest, rfl, hstart⟩ := relay_start ends
  have harrival : Undisturbed start [] arrival := calm.sights [] arrival rest rfl
  rw [harrival.groups, settled] at hstart
  obtain ⟨sight, tail, rfl, hstart⟩ := hstart
  have hsight : Undisturbed start [] sight := calm.sights [⟨.look, arrival⟩] sight tail rfl
  rw [hsight.planRequest_eq, planned, unpinned] at hstart
  obtain ⟨counted, chosen, rest, rfl, hselect⟩ := relayUnpinned_cases hstart
  have hchosen : Undisturbed start [] chosen :=
    calm.sights [⟨.look, arrival⟩, ⟨.look, sight⟩, ⟨.look, counted⟩] chosen rest rfl
  rcases hselect with ⟨err, hfailed, rfl, rfl⟩ | ⟨channel, hselected, hattempts⟩
  · rcases hchosen.select distinct table routes with ⟨_, _, _, hsome, _⟩ | ⟨hnone, hall⟩
    · cases hfailed.symm.trans hsome
    obtain rfl := Except.error.inj (hfailed.symm.trans hnone)
    have hempty : eligible = [] := by
      apply List.eq_nil_iff_forall_not_mem.mpr
      intro other hother
      cases hall other hother
    exact ⟨fun _ => ⟨rfl, rfl⟩, fun hne => absurd hempty hne⟩
  · have settled' : settleGroup policy arrival.groups request = .ok routed := by
      rw [harrival.groups]
      exact settled
    have planned' : planRequest policy sight.registry routed = .ok plan := by
      rw [hsight.planRequest_eq]
      exact planned
    have first : Attempting policy request
        [⟨.look, arrival⟩, ⟨.look, sight⟩, ⟨.look, counted⟩, ⟨.look, chosen⟩] plan _ channel :=
      Attempting.first settled' planned' hselected
    obtain ⟨past, budget, channel', last, heq, hpast, hlast⟩ := first.last_turn hattempts
    have hwhole : ⟨.look, arrival⟩ :: ⟨.look, sight⟩ :: ⟨.look, counted⟩ :: ⟨.look, chosen⟩ :: rest =
        past ++ last := heq
    rw [hwhole] at calm
    have hclosing := hpast.closing distinct table settled planned hlast calm
    rw [← hwhole] at hclosing
    refine ⟨fun hempty => ?_, fun _ => hclosing⟩
    -- the first choice is an eligible channel
    have preferred : Preferred (plan.eligible channels start) defaultWeight [] channel :=
      hchosen.preferred distinct table routes (fun _ => Iff.rfl) hselected
    obtain ⟨stored, hstored, _⟩ := preferred.chosen
    rw [show plan.eligible channels start = [] from hempty] at hstored
    cases hstored

end Start

end RelayGateway
