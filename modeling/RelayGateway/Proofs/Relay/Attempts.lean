import Mathlib.Data.List.Nodup
import RelayGateway.Proofs.Relay.Turn

/-! # The attempts of a run

* `dispatches`, `dispatchedIds`: the dispatches of a run with what came of them, and their channels alone.
* `plan?`, `startCount`: the plan of a request and the channels available to it, read from what its run
  sees first.
* `settleGroup_ok`, `plan?_request`: what is planned is the request with its group and ratio written in.
* `Attempting`: the states in which the run of an unpinned request stands before an attempt.
* `Attempting.standing`: what holds in each of them. The excluded channels are those dispatched to, none
  of them twice, and the counter of the budget counts them.
* `unpinned_run`: a run ends before its first attempt or with its last turn.
-/

set_option autoImplicit false

namespace RelayGateway

/-! ## What is read from a transcript -/

/-- The channel of a dispatch. -/
def dispatchedId? (entry : Exchange RelayReply) : Option ChannelId :=
  match entry.call with
  | .dispatch channel _ _ => some channel.id
  | .look | .elapsed | .storedChannel _ | .reserve _ | .settle .. | .reverse _ | .cool ..
  | .report .. => none

/-- The channels dispatched to, in order. -/
def dispatchedIds (transcript : RelayTranscript) : List ChannelId :=
  transcript.filterMap dispatchedId?

/-- A dispatch with what came of it. -/
structure Dispatched where
  channel : Channel
  reply : Except DispatchFailure DispatchOutcome

def dispatched? (entry : Exchange RelayReply) : Option Dispatched :=
  match entry with
  | ⟨.dispatch channel _ _, reply⟩ => some ⟨channel, reply⟩
  | ⟨.look, _⟩ | ⟨.elapsed, _⟩ | ⟨.storedChannel _, _⟩ | ⟨.reserve _, _⟩ | ⟨.settle .., _⟩
  | ⟨.reverse _, _⟩ | ⟨.cool .., _⟩ | ⟨.report .., _⟩ => none

def dispatches (transcript : RelayTranscript) : List Dispatched :=
  transcript.filterMap dispatched?

/-- What is seen at the given position of a transcript, if the run looks there. -/
def seen? (transcript : RelayTranscript) (position : Nat) : Option Sight :=
  match transcript[position]? with
  | some ⟨.look, sight⟩ => some sight
  | _ => none

/-- The plan that a request gets from the first two looks of its run, unless it is turned away. -/
def plan? (policy : RelayPolicy) (request : RelayRequest) (transcript : RelayTranscript) :
    Option RelayPlan := do
  let arrival ← seen? transcript 0
  let sight ← seen? transcript 1
  let routed ← (settleGroup policy arrival.groups request).toOption
  (planRequest policy sight.registry routed).toOption

/-- The channels available to a request before its first attempt, counted at the third look. -/
def startCount (policy : RelayPolicy) (request : RelayRequest) (transcript : RelayTranscript) : Nat :=
  match plan? policy request transcript, seen? transcript 2 with
  | some plan, some counted => plan.countAvailable counted
  | _, _ => 0

/-- The most attempts for the configured retries and the channels available at the start. -/
def attemptLimit (retries : UInt32) (channels : Nat) : Nat :=
  min (min (retries.toNat + 1) maxUInt32) (max 1 channels)

theorem toNat_saturate (count : Nat) : (saturate count).toNat = min count maxUInt32 := by
  unfold saturate maxUInt32
  rw [UInt32.toNat_ofNat']
  omega

theorem toNat_limit (retries : UInt32) (channels : Nat) :
    (RetryBudget.limit retries channels).toNat = attemptLimit retries channels := by
  unfold RetryBudget.limit attemptLimit
  rw [toNat_saturate, toNat_saturate, toNat_saturate]
  omega

theorem dispatches_append (first rest : RelayTranscript) :
    dispatches (first ++ rest) = dispatches first ++ dispatches rest :=
  List.filterMap_append

theorem dispatches_quiet {transcript : RelayTranscript} (h : Quiet transcript) :
    dispatches transcript = [] := by
  rw [dispatches, List.filterMap_eq_nil_iff]
  intro entry hentry
  have hquiet := h entry hentry
  obtain ⟨call, reply⟩ := entry
  cases call <;> first | rfl | cases hquiet

theorem dispatchedIds_eq (transcript : RelayTranscript) :
    dispatchedIds transcript = (dispatches transcript).map (·.channel.id) := by
  rw [dispatchedIds, dispatches, List.map_filterMap]
  congr 1
  funext entry
  obtain ⟨call, reply⟩ := entry
  cases call <;> rfl

theorem dispatchedIds_append (first rest : RelayTranscript) :
    dispatchedIds (first ++ rest) = dispatchedIds first ++ dispatchedIds rest := by
  rw [dispatchedIds_eq, dispatches_append, List.map_append, ← dispatchedIds_eq, ← dispatchedIds_eq]

theorem dispatchedIds_quiet {transcript : RelayTranscript} (h : Quiet transcript) :
    dispatchedIds transcript = [] := by
  rw [dispatchedIds_eq, dispatches_quiet h, List.map_nil]

theorem dispatchedIds_failed {plan : RelayPlan} {channel : Channel} {course : AttemptCourse}
    (h : course.isFailed = true) : dispatchedIds (course.entries plan channel) = [channel.id] := by
  cases course with
  | refused err => cases h
  | failed reservation failure reversal => rfl
  | served reservation outcome settlement => cases h

theorem dispatchedIds_served {plan : RelayPlan} {channel : Channel} {course : AttemptCourse}
    (h : course.isServed = true) : dispatchedIds (course.entries plan channel) = [channel.id] := by
  cases course with
  | refused err => cases h
  | failed reservation failure reversal => cases h
  | served reservation outcome settlement => rfl

theorem seen?_append {past : RelayTranscript} {position : Nat} (h : position < past.length)
    (rest : RelayTranscript) : seen? (past ++ rest) position = seen? past position := by
  unfold seen?
  rw [List.getElem?_append_left h]

theorem plan?_append {policy : RelayPolicy} {request : RelayRequest} {past : RelayTranscript}
    (h : 4 ≤ past.length) (rest : RelayTranscript) :
    plan? policy request (past ++ rest) = plan? policy request past := by
  unfold plan?
  rw [seen?_append (by omega), seen?_append (by omega)]

theorem plan?_looked {policy : RelayPolicy} {request : RelayRequest} {arrival sight : Sight}
    {routed : RelayRequest} {plan : RelayPlan}
    (settled : settleGroup policy arrival.groups request = .ok routed)
    (planned : planRequest policy sight.registry routed = .ok plan) (rest : RelayTranscript) :
    plan? policy request (⟨.look, arrival⟩ :: ⟨.look, sight⟩ :: rest) = some plan := by
  simp [plan?, seen?, settled, planned, Except.toOption]

theorem startCount_append {policy : RelayPolicy} {request : RelayRequest} {past : RelayTranscript}
    (h : 4 ≤ past.length) (rest : RelayTranscript) :
    startCount policy request (past ++ rest) = startCount policy request past := by
  unfold startCount
  rw [plan?_append h, seen?_append (by omega)]

/-! ## The request as it is routed -/

/-- What is routed is the request in its own group, at some ratio. -/
theorem settleGroup_ok {policy : RelayPolicy} {groups : GroupTable} {request routed : RelayRequest}
    (h : settleGroup policy groups request = .ok routed) :
    ∃ ratio, routed = request.inGroup request.effectiveGroup ratio := by
  unfold settleGroup at h
  split at h
  · unfold GroupTable.authorize at h
    dsimp only at h
    split at h
    · rename_i grant hgrant
      cases h
      split at hgrant
      · cases hgrant
      · split at hgrant <;> cases hgrant
        exact ⟨_, rfl⟩
    · cases h
  · cases h
    exact ⟨_, rfl⟩

theorem planRequest_routed {policy : RelayPolicy} {registry : Registry} {routed : RelayRequest}
    {plan : RelayPlan} (h : planRequest policy registry routed = .ok plan) : plan.request = routed := by
  unfold planRequest at h
  split at h
  · cases h
  · split at h
    · cases h
    · cases h
      rfl

theorem eq_ok_of_toOption {ε α : Type} {result : Except ε α} {value : α}
    (h : result.toOption = some value) : result = .ok value := by
  cases result with
  | ok other => rw [Option.some.inj h]
  | error err => cases h

theorem plan?_settled {policy : RelayPolicy} {request : RelayRequest} {transcript : RelayTranscript}
    {plan : RelayPlan} (h : plan? policy request transcript = some plan) :
    ∃ arrival sight, seen? transcript 0 = some arrival ∧ seen? transcript 1 = some sight ∧
      settleGroup policy arrival.groups request = .ok plan.request ∧
      planRequest policy sight.registry plan.request = .ok plan := by
  simp only [plan?, Option.bind_eq_bind, Option.bind_eq_some_iff] at h
  obtain ⟨arrival, harrival, sight, hsight, routed, hrouted, hplan⟩ := h
  have planned := eq_ok_of_toOption hplan
  rw [planRequest_routed planned]
  exact ⟨arrival, sight, harrival, hsight, eq_ok_of_toOption hrouted, planned⟩

theorem plan?_request {policy : RelayPolicy} {request : RelayRequest} {transcript : RelayTranscript}
    {plan : RelayPlan} (h : plan? policy request transcript = some plan) :
    ∃ ratio, plan.request = request.inGroup request.effectiveGroup ratio := by
  obtain ⟨_, _, _, _, settled, _⟩ := plan?_settled h
  exact settleGroup_ok settled

theorem plan?_requestId {policy : RelayPolicy} {request : RelayRequest} {transcript : RelayTranscript}
    {plan : RelayPlan} (h : plan? policy request transcript = some plan) :
    plan.request.requestId = request.requestId := by
  obtain ⟨ratio, hrequest⟩ := plan?_request h
  rw [hrequest]
  rfl

theorem plan?_stream {policy : RelayPolicy} {request : RelayRequest} {transcript : RelayTranscript}
    {plan : RelayPlan} (h : plan? policy request transcript = some plan) :
    plan.request.stream = request.stream := by
  obtain ⟨ratio, hrequest⟩ := plan?_request h
  rw [hrequest]
  rfl

/-! ## The states before an attempt -/

/-- `Attempting policy request past plan budget channel`: after the exchanges `past`, the run of an
unpinned request stands before an attempt on `channel`, which the budget counts already. -/
inductive Attempting (policy : RelayPolicy) (request : RelayRequest) :
    RelayTranscript → RelayPlan → RetryBudget → Channel → Prop where
  | first {arrival sight counted chosen : Sight} {routed : RelayRequest} {plan : RelayPlan}
      {channel : Channel}
      (settled : settleGroup policy arrival.groups request = .ok routed)
      (planned : planRequest policy sight.registry routed = .ok plan)
      (selected : plan.select chosen [] = .ok channel) :
      Attempting policy request
        [⟨.look, arrival⟩, ⟨.look, sight⟩, ⟨.look, counted⟩, ⟨.look, chosen⟩] plan
        (RetryBudget.ofChannels policy.retryTimes (plan.countAvailable counted)).countAttempt channel
  | again {past transcript : RelayTranscript} {plan : RelayPlan} {budget next : RetryBudget}
      {channel other : Channel} {fewer : next.remaining < budget.remaining}
      (before : Attempting policy request past plan budget channel)
      (turned : (turn policy plan budget channel).Ends transcript (.another next other fewer)) :
      Attempting policy request (past ++ transcript) plan next other

/-- What holds before each attempt: the excluded channels are those dispatched to, without repetition,
the channel is a new one, and the counter has counted every attempt. -/
structure Standing (policy : RelayPolicy) (request : RelayRequest) (past : RelayTranscript)
    (plan : RelayPlan) (budget : RetryBudget) (channel : Channel) : Prop where
  looked : 4 ≤ past.length
  planned : plan? policy request past = some plan
  excluded : budget.excluded = (dispatchedIds past).reverse
  distinct : (dispatchedIds past).Nodup
  fresh : channel.id ∉ dispatchedIds past
  counted : budget.attempts.toNat = (dispatchedIds past).length + 1
  limited : budget.maxAttempts.toNat =
    attemptLimit policy.retryTimes (startCount policy request past)
  within : budget.attempts.toNat ≤ budget.maxAttempts.toNat
  short : past.length ≤ 4 + 7 * (dispatchedIds past).length

variable {policy : RelayPolicy} {request : RelayRequest} {past transcript : RelayTranscript}
  {plan : RelayPlan} {budget : RetryBudget} {channel : Channel}

theorem one_le_attemptLimit (retries : UInt32) (channels : Nat) :
    1 ≤ attemptLimit retries channels := by
  unfold attemptLimit maxUInt32
  omega

theorem Standing.first {arrival sight counted chosen : Sight} {routed : RelayRequest}
    (settled : settleGroup policy arrival.groups request = .ok routed)
    (planned : planRequest policy sight.registry routed = .ok plan) :
    Standing policy request
      [⟨.look, arrival⟩, ⟨.look, sight⟩, ⟨.look, counted⟩, ⟨.look, chosen⟩] plan
      (RetryBudget.ofChannels policy.retryTimes (plan.countAvailable counted)).countAttempt
      channel := by
  have hplan : plan? policy request
      [⟨.look, arrival⟩, ⟨.look, sight⟩, ⟨.look, counted⟩, ⟨.look, chosen⟩] = some plan :=
    plan?_looked settled planned _
  have hlimit : (RetryBudget.limit policy.retryTimes (plan.countAvailable counted)).toNat =
      attemptLimit policy.retryTimes (startCount policy request
        [⟨.look, arrival⟩, ⟨.look, sight⟩, ⟨.look, counted⟩, ⟨.look, chosen⟩]) := by
    rw [toNat_limit, startCount, hplan]
    rfl
  have hpos := one_le_attemptLimit policy.retryTimes (startCount policy request
    [⟨.look, arrival⟩, ⟨.look, sight⟩, ⟨.look, counted⟩, ⟨.look, chosen⟩])
  constructor
  case looked => exact Nat.le_refl 4
  case planned => exact hplan
  case excluded => rfl
  case distinct => exact List.nodup_nil
  case fresh => exact List.not_mem_nil
  case counted => rfl
  case limited => exact hlimit
  case within =>
    show 1 ≤ (RetryBudget.limit policy.retryTimes (plan.countAvailable counted)).toNat
    rw [hlimit]
    exact hpos
  case short => exact Nat.le_refl 4

/-- A turn that another one follows keeps what holds before each attempt. -/
theorem Standing.again {next : RetryBudget} {other : Channel}
    {fewer : next.remaining < budget.remaining}
    (before : Standing policy request past plan budget channel)
    (turned : (turn policy plan budget channel).Ends transcript (.another next other fewer)) :
    Standing policy request (past ++ transcript) plan next other := by
  obtain ⟨course, rest, rfl, hfailed, hquiet, hlen, hroom, rfl, hother⟩ := turn_another turned
  have hids : dispatchedIds (past ++ (course.entries plan channel ++ rest)) =
      dispatchedIds past ++ [channel.id] := by
    rw [dispatchedIds_append, dispatchedIds_append, dispatchedIds_failed hfailed,
      dispatchedIds_quiet hquiet, List.append_nil]
  have hexcluded : (budget.exclude channel.id).excluded =
      (dispatchedIds past ++ [channel.id]).reverse := by
    have hnew : budget.excluded.contains channel.id = false := by
      rw [before.excluded]
      simpa using before.fresh
    rw [RetryBudget.exclude, hnew]
    simp [before.excluded]
  have hroom' : (budget.exclude channel.id).hasRoom = true := by
    rw [RetryBudget.hasRoom_iff] at hroom ⊢
    simpa using hroom
  have hcounted := RetryBudget.toNat_countAttempt hroom'
  rw [RetryBudget.exclude_attempts, before.counted] at hcounted
  have hmax : (budget.exclude channel.id).countAttempt.maxAttempts = budget.maxAttempts :=
    RetryBudget.exclude_maxAttempts budget channel.id
  constructor
  case looked =>
    rw [List.length_append]
    have := before.looked
    omega
  case planned => rw [plan?_append before.looked, before.planned]
  case excluded => rw [hids, ← hexcluded]; rfl
  case distinct =>
    rw [hids]
    rw [← List.concat_eq_append]
    exact before.distinct.concat before.fresh
  case fresh =>
    rw [hexcluded, List.mem_reverse] at hother
    rw [hids]
    exact hother
  case counted =>
    rw [hcounted, hids, List.length_append, List.length_singleton]
  case limited => rw [hmax, startCount_append before.looked, before.limited]
  case within =>
    rw [RetryBudget.hasRoom_iff, before.counted] at hroom
    rw [hcounted, hmax]
    omega
  case short =>
    have hpast := before.short
    have hentries := length_entries_le plan channel course
    rw [hids]
    simp only [List.length_append, List.length_singleton]
    omega

theorem Attempting.standing (h : Attempting policy request past plan budget channel) :
    Standing policy request past plan budget channel := by
  induction h with
  | first settled planned selected => exact Standing.first settled planned
  | again before turned ih => exact ih.again turned

/-! ## The end of a run -/

/-- From a state before an attempt, a run ends with its last turn. -/
theorem Attempting.last_turn {result : RelayResult}
    (h : Attempting policy request past plan budget channel)
    (ends : (attemptFrom policy plan budget channel).Ends transcript result) :
    ∃ before budget' channel' last, past ++ transcript = before ++ last ∧
      Attempting policy request before plan budget' channel' ∧
      (turn policy plan budget' channel').Ends last (.ended result) := by
  -- on the attempts that are left; the transcript so far grows by the turns that others follow
  induction budget, channel using attemptFrom.induct generalizing past transcript with
  | case1 budget channel ih =>
    rw [attemptFrom, Program.ends_bind] at ends
    obtain ⟨first, sequel, rest, rfl, hturn, hrest⟩ := ends
    cases sequel with
    | ended value =>
      obtain ⟨rfl, rfl⟩ := hrest
      exact ⟨past, budget, channel, first, by rw [List.append_nil], h, hturn⟩
    | another next other fewer =>
      rw [← List.append_assoc]
      exact ih next other fewer (h.again hturn) hrest

theorem quiet_looks (sights : List Sight) :
    Quiet (sights.map fun sight => (⟨.look, sight⟩ : Exchange RelayReply)) := by
  intro entry hentry
  obtain ⟨sight, _, rfl⟩ := List.mem_map.mp hentry
  rfl

/-- A run settles the group of its request at its first look, and plans at its second. -/
theorem relay_start {result : RelayResult} (h : (relay policy request).Ends transcript result) :
    ∃ arrival rest, transcript = ⟨.look, arrival⟩ :: rest ∧
      match settleGroup policy arrival.groups request with
      | .error err => rest = [] ∧ result = .error err
      | .ok routed => ∃ sight tail, rest = ⟨.look, sight⟩ :: tail ∧
        match planRequest policy sight.registry routed with
        | .error err => tail = [] ∧ result = .error err
        | .ok plan =>
          (match request.pinned with
            | some id => relayPinned plan id
            | none => relayUnpinned policy plan).Ends tail result := by
  unfold relay at h
  rw [ends_look_bind] at h
  obtain ⟨arrival, rest, rfl, h⟩ := h
  refine ⟨arrival, rest, rfl, ?_⟩
  cases settled : settleGroup policy arrival.groups request with
  | error err =>
    rw [settled] at h
    exact h
  | ok routed =>
    rw [settled] at h
    dsimp only at h
    rw [ends_look_bind] at h
    obtain ⟨sight, tail, rfl, h⟩ := h
    refine ⟨sight, tail, rfl, ?_⟩
    have hpinned : routed.pinned = request.pinned := by
      obtain ⟨_, rfl⟩ := settleGroup_ok settled
      rfl
    rw [hpinned] at h
    cases planned : planRequest policy sight.registry routed with
    | error err =>
      rw [planned] at h
      exact h
    | ok plan =>
      rw [planned] at h
      exact h

/-- A run begins with two looks at most. Either the request is turned away, or it has got its plan. -/
theorem relay_opening {result : RelayResult} (h : (relay policy request).Ends transcript result) :
    (Quiet transcript ∧ transcript.length ≤ 4 ∧ ∃ err, result = .error err) ∨
      ∃ arrival sight routed plan rest, transcript = ⟨.look, arrival⟩ :: ⟨.look, sight⟩ :: rest ∧
        settleGroup policy arrival.groups request = .ok routed ∧
        planRequest policy sight.registry routed = .ok plan ∧
        (match request.pinned with
          | some id => relayPinned plan id
          | none => relayUnpinned policy plan).Ends rest result := by
  obtain ⟨arrival, rest, rfl, hstart⟩ := relay_start h
  cases settled : settleGroup policy arrival.groups request with
  | error err =>
    rw [settled] at hstart
    obtain ⟨rfl, rfl⟩ := hstart
    exact .inl ⟨quiet_looks [arrival], by simp, ⟨err, rfl⟩⟩
  | ok routed =>
    rw [settled] at hstart
    obtain ⟨sight, tail, rfl, hstart⟩ := hstart
    cases planned : planRequest policy sight.registry routed with
    | error err =>
      rw [planned] at hstart
      obtain ⟨rfl, rfl⟩ := hstart
      exact .inl ⟨quiet_looks [arrival, sight], by simp, ⟨err, rfl⟩⟩
    | ok plan =>
      rw [planned] at hstart
      exact .inr ⟨arrival, sight, routed, plan, tail, rfl, settled, planned, hstart⟩

/-- Before its first attempt an unpinned run counts the channels and selects one. -/
theorem relayUnpinned_cases {result : RelayResult}
    (h : (relayUnpinned policy plan).Ends transcript result) :
    ∃ counted chosen rest, transcript = ⟨.look, counted⟩ :: ⟨.look, chosen⟩ :: rest ∧
      ((∃ err, plan.select chosen [] = .error err ∧ rest = [] ∧
          result = .error (plan.request.routingFailure plan.key err)) ∨
        ∃ channel, plan.select chosen [] = .ok channel ∧
          (attemptFrom policy plan (RetryBudget.ofChannels policy.retryTimes
            (plan.countAvailable counted)).countAttempt channel).Ends rest result) := by
  unfold relayUnpinned at h
  rw [ends_look_bind] at h
  obtain ⟨counted, rest, rfl, h⟩ := h
  dsimp only at h
  rw [ends_look_bind] at h
  obtain ⟨chosen, rest, rfl, h⟩ := h
  refine ⟨counted, chosen, rest, rfl, ?_⟩
  split at h
  · rename_i err hselect
    obtain ⟨rfl, rfl⟩ := h
    exact .inl ⟨err, hselect, rfl, rfl⟩
  · rename_i channel hselect
    exact .inr ⟨channel, hselect, h⟩

/-- The run of an unpinned request ends before its first attempt, or it comes to that attempt. -/
theorem unpinned_opening {result : RelayResult} (unpinned : request.pinned = none)
    (h : (relay policy request).Ends transcript result) :
    (Quiet transcript ∧ transcript.length ≤ 4 ∧ ∃ err, result = .error err) ∨
      ∃ opening rest plan budget channel, transcript = opening ++ rest ∧ Quiet opening ∧
        Attempting policy request opening plan budget channel ∧
        (attemptFrom policy plan budget channel).Ends rest result := by
  obtain hrejected | ⟨arrival, sight, routed, plan, rest, rfl, settled, planned, hrun⟩ :=
    relay_opening h
  · exact .inl hrejected
  rw [unpinned] at hrun
  obtain ⟨counted, chosen, rest, rfl, ⟨err, _, rfl, rfl⟩ | ⟨channel, selected, hrun⟩⟩ :=
    relayUnpinned_cases hrun
  · exact .inl ⟨quiet_looks [arrival, sight, counted, chosen], by simp, ⟨_, rfl⟩⟩
  · exact .inr ⟨[⟨.look, arrival⟩, ⟨.look, sight⟩, ⟨.look, counted⟩, ⟨.look, chosen⟩], rest, plan, _,
      channel, rfl, quiet_looks [arrival, sight, counted, chosen],
      Attempting.first settled planned selected, hrun⟩

/-- The run of an unpinned request ends before its first attempt, or with its last turn. -/
theorem unpinned_run {result : RelayResult} (unpinned : request.pinned = none)
    (h : (relay policy request).Ends transcript result) :
    (Quiet transcript ∧ transcript.length ≤ 4 ∧ ∃ err, result = .error err) ∨
      ∃ past plan budget channel last, transcript = past ++ last ∧
        Attempting policy request past plan budget channel ∧
        (turn policy plan budget channel).Ends last (.ended result) := by
  obtain hrejected | ⟨opening, rest, plan, budget, channel, rfl, _, first, hrun⟩ :=
    unpinned_opening unpinned h
  · exact .inl hrejected
  · obtain ⟨past, budget, channel', last, heq, hpast, hlast⟩ := first.last_turn hrun
    exact .inr ⟨past, plan, budget, channel', last, heq, hpast, hlast⟩

/-! ## The dispatches of a run -/

theorem dispatchedIds_entries (plan : RelayPlan) (channel : Channel) (course : AttemptCourse) :
    dispatchedIds (course.entries plan channel) = [] ∨
      dispatchedIds (course.entries plan channel) = [channel.id] := by
  cases course with
  | refused err => exact .inl rfl
  | failed reservation failure reversal => exact .inr rfl
  | served reservation outcome settlement => exact .inr rfl

/-- The last turn keeps the dispatches distinct and within the limit. If it gives an answer, the answer
names its channel and counts its dispatch. -/
theorem Standing.ended {result : RelayResult}
    (before : Standing policy request past plan budget channel)
    (turned : (turn policy plan budget channel).Ends transcript (.ended result)) :
    (past ++ transcript).length ≤ 4 + 7 * budget.attempts.toNat ∧
      (dispatchedIds (past ++ transcript)).Nodup ∧
      (dispatchedIds (past ++ transcript)).length ≤ budget.attempts.toNat ∧
      ∀ response, result = .ok response →
        response.attempts.toNat = (dispatchedIds (past ++ transcript)).length ∧
          (dispatchedIds (past ++ transcript)).getLast? = some response.channel := by
  obtain ⟨course, rest, rfl, hquiet, hlen, hok, _, _⟩ := turn_ended turned
  have hids : dispatchedIds (past ++ (course.entries plan channel ++ rest)) =
      dispatchedIds past ++ dispatchedIds (course.entries plan channel) := by
    rw [dispatchedIds_append, dispatchedIds_append, dispatchedIds_quiet hquiet, List.append_nil]
  have hcounted := before.counted
  have hshort := before.short
  have hentries := length_entries_le plan channel course
  rw [hids]
  refine ⟨?_, ?_, ?_, ?_⟩
  · simp only [List.length_append]
    omega
  · rcases dispatchedIds_entries plan channel course with h | h
    · rw [h, List.append_nil]
      exact before.distinct
    · rw [h]
      rw [← List.concat_eq_append]
      exact before.distinct.concat before.fresh
  · rw [List.length_append]
    rcases dispatchedIds_entries plan channel course with h | h
    · rw [h, List.length_nil]
      omega
    · rw [h, List.length_singleton]
      omega
  · intro response hresponse
    obtain ⟨hserved, hattempts, hchannel⟩ := hok response hresponse
    rw [dispatchedIds_served hserved, List.length_append, List.length_singleton,
      List.getLast?_append, hattempts, hchannel]
    exact ⟨hcounted, rfl⟩

/-- The attempts of an unpinned request, whatever its run meets. The run comes to an end, it dispatches
to no channel twice and at most as often as the channels at its start and the retries allow, the counter
stays within that limit before every attempt, and an answer counts the dispatches and names the last
channel. -/
theorem unpinned_dispatches (policy : RelayPolicy) (request : RelayRequest)
    (unpinned : request.pinned = none) (surroundings : Surroundings RelayReply) :
    let run := (relay policy request).meet surroundings []
    let limit := attemptLimit policy.retryTimes (startCount policy request run.1)
    run.1.length ≤ 4 + 7 * limit ∧
      (dispatchedIds run.1).Nodup ∧
      (dispatchedIds run.1).length ≤ limit ∧
      (∀ past plan budget channel, Attempting policy request past plan budget channel →
        past <+: run.1 →
          budget.attempts.toNat = (dispatchedIds past).length + 1 ∧
            budget.attempts.toNat ≤ limit) ∧
      ∀ response, run.2 = .ok response →
        response.attempts.toNat = (dispatchedIds run.1).length ∧
          (dispatchedIds run.1).getLast? = some response.channel := by
  intro run limit
  have ends : (relay policy request).Ends run.1 run.2 := Program.ends_meet surroundings [] _
  have counter : ∀ past plan budget channel,
      Attempting policy request past plan budget channel → past <+: run.1 →
        budget.attempts.toNat = (dispatchedIds past).length + 1 ∧ budget.attempts.toNat ≤ limit := by
    intro past plan budget channel h hpast
    obtain ⟨rest, hrest⟩ := hpast
    have standing := h.standing
    have hlimit := standing.limited
    rw [← startCount_append standing.looked rest, hrest] at hlimit
    have hwithin := standing.within
    rw [hlimit] at hwithin
    exact ⟨standing.counted, hwithin⟩
  rcases unpinned_run unpinned ends with ⟨hquiet, hlen, err, herr⟩ |
      ⟨past, plan, budget, channel, last, hrun, hpast, hlast⟩
  · rw [dispatchedIds_quiet hquiet]
    refine ⟨by omega, List.nodup_nil, Nat.zero_le _, counter, ?_⟩
    intro response hresponse
    rw [herr] at hresponse
    cases hresponse
  · obtain ⟨_, hwithin⟩ := counter past plan budget channel hpast ⟨last, hrun.symm⟩
    obtain ⟨hshort, hdistinct, hfew, hanswer⟩ := hpast.standing.ended hlast
    rw [← hrun] at hshort hdistinct hfew hanswer
    exact ⟨by omega, hdistinct, by omega, counter, hanswer⟩

/-! ## A run with a failover -/

/-- A channel that serves the model `m` in the group `g`. -/
def sampleChannel (id : ChannelId) : Channel :=
  { (default : Channel) with id, groups := ["g"], models := ["m"], weight := 1, status := .enabled }

def sampleSight : Sight where
  groups := .empty
  registry := (Registry.empty ⟨1, false⟩).install (.build [sampleChannel 1, sampleChannel 2] 1)
  cooldowns := .ofSeconds 60
  now := 0
  draws := []

def samplePolicy : RelayPolicy := ⟨false, 100, 5, 60⟩

def sampleRequest : RelayRequest :=
  { (default : RelayRequest) with userGroup := "g", model := "m" }

/-- The first channel is down; everything else goes well. -/
def firstDown : Surroundings RelayReply := fun _ call =>
  match call with
  | .look => sampleSight
  | .elapsed => 0
  | .storedChannel id => .ok (some (sampleChannel id))
  | .reserve charge => .ok ⟨charge, 1⟩
  | .dispatch channel _ _ =>
    if channel.id = 1 then .error ⟨.upstream 500 "down" "", false⟩ else .ok default
  | .settle .. => .ok ()
  | .reverse _ => .ok ()
  | .cool .. => true
  | .report .. => ()

theorem failover_dispatches :
    let run := (relay samplePolicy sampleRequest).meet firstDown []
    sampleRequest.pinned = none ∧ dispatchedIds run.1 = [1, 2] ∧
      run.2.toOption.map (·.attempts) = some 2 ∧ (dispatchedIds run.1).Nodup ∧
      (dispatchedIds run.1).length ≤
        attemptLimit samplePolicy.retryTimes (startCount samplePolicy sampleRequest run.1) := by
  intro run
  obtain ⟨_, distinct, few, _, _⟩ := unpinned_dispatches samplePolicy sampleRequest rfl firstDown
  exact ⟨rfl, by decide +kernel, by decide +kernel, distinct, few⟩

end RelayGateway
