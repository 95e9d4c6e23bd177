import RelayGateway.Proofs.Relay.Books

/-! # What a run does about failures

* `failedDispatches`: the dispatches of a transcript that failed, each with its key and its error.
* `coolingsOf`, `reportsOf`: the cooldowns that a run asks for, and the failures that it reports.
* `Accounted`: a run asks for a cooldown for every failure that was rate limited and for no other, and
  reports every failure that is not the gateway's own and no other. `turn_accounted` says so of a turn,
  `relay_accounted` of a whole run.
* `dispatchedIds_distinct`: no run dispatches to a channel twice, so it reports none twice.
-/

set_option autoImplicit false

namespace RelayGateway

structure FailedDispatch where
  channel : Channel
  key : String
  error : UpstreamError

/-- The pair that a rate limit cools. -/
def FailedDispatch.pair (failed : FailedDispatch) : ChannelId × String := (failed.channel.id, failed.key)

def FailedDispatch.report (failed : FailedDispatch) : Channel × UpstreamError :=
  (failed.channel, failed.error)

def failedDispatch? (entry : Exchange RelayReply) : Option FailedDispatch :=
  match entry with
  | ⟨.dispatch channel key _, .error failure⟩ => some ⟨channel, key, failure.error⟩
  | ⟨.dispatch .., .ok _⟩ | ⟨.look, _⟩ | ⟨.elapsed, _⟩ | ⟨.storedChannel _, _⟩ | ⟨.reserve _, _⟩
  | ⟨.settle .., _⟩ | ⟨.reverse _, _⟩ | ⟨.cool .., _⟩ | ⟨.report .., _⟩ => none

def cooling? (entry : Exchange RelayReply) : Option (ChannelId × String) :=
  match entry.call with
  | .cool id key => some (id, key)
  | .look | .elapsed | .storedChannel _ | .reserve _ | .dispatch .. | .settle .. | .reverse _
  | .report .. => none

def report? (entry : Exchange RelayReply) : Option (Channel × UpstreamError) :=
  match entry.call with
  | .report channel err => some (channel, err)
  | .look | .elapsed | .storedChannel _ | .reserve _ | .dispatch .. | .settle .. | .reverse _
  | .cool .. => none

def failedDispatches (transcript : RelayTranscript) : List FailedDispatch :=
  transcript.filterMap failedDispatch?

def coolingsOf (transcript : RelayTranscript) : List (ChannelId × String) :=
  transcript.filterMap cooling?

def reportsOf (transcript : RelayTranscript) : List (Channel × UpstreamError) :=
  transcript.filterMap report?

variable {policy : RelayPolicy} {request : RelayRequest} {past transcript rest : RelayTranscript}
  {plan : RelayPlan} {budget : RetryBudget} {channel : Channel} {result : RelayResult}

theorem failedDispatches_append (first rest : RelayTranscript) :
    failedDispatches (first ++ rest) = failedDispatches first ++ failedDispatches rest :=
  List.filterMap_append

theorem coolingsOf_append (first rest : RelayTranscript) :
    coolingsOf (first ++ rest) = coolingsOf first ++ coolingsOf rest :=
  List.filterMap_append

theorem reportsOf_append (first rest : RelayTranscript) :
    reportsOf (first ++ rest) = reportsOf first ++ reportsOf rest :=
  List.filterMap_append

/-! ## Failures and what is done about them -/

structure Accounted (plan : RelayPlan) (transcript : RelayTranscript) : Prop where
  keyed : ∀ failed ∈ failedDispatches transcript, failed.key = plan.key
  cooled : coolingsOf transcript =
    ((failedDispatches transcript).filter fun failed => coolsDown failed.error).map
      FailedDispatch.pair
  reported : reportsOf transcript =
    ((failedDispatches transcript).filter fun failed => !failed.error.isLocal).map
      FailedDispatch.report

/-- Nothing fails, and nothing is done about failures. -/
structure Uneventful (transcript : RelayTranscript) : Prop where
  failures : failedDispatches transcript = []
  coolings : coolingsOf transcript = []
  reports : reportsOf transcript = []

theorem Uneventful.accounted (h : Uneventful transcript) (plan : RelayPlan) :
    Accounted plan transcript := by
  constructor
  case keyed =>
    intro failed hfailed
    rw [h.failures] at hfailed
    cases hfailed
  case cooled =>
    rw [h.coolings, h.failures]
    rfl
  case reported =>
    rw [h.reports, h.failures]
    rfl

theorem Accounted.append (first : Accounted plan past) (second : Accounted plan rest) :
    Accounted plan (past ++ rest) := by
  constructor
  case keyed =>
    intro failed hfailed
    rw [failedDispatches_append] at hfailed
    rcases List.mem_append.mp hfailed with h | h
    · exact first.keyed failed h
    · exact second.keyed failed h
  case cooled =>
    rw [coolingsOf_append, failedDispatches_append, List.filter_append, List.map_append,
      first.cooled, second.cooled]
  case reported =>
    rw [reportsOf_append, failedDispatches_append, List.filter_append, List.map_append,
      first.reported, second.reported]

/-! ## One turn -/

section FollowUp

variable (plan : RelayPlan) (channel : Channel) (err : UpstreamError) (cooled : Bool)

theorem failedDispatches_followUp :
    failedDispatches (followUpEntries plan channel err cooled) = [] := by
  unfold followUpEntries
  split <;> split <;> rfl

theorem coolingsOf_followUp : coolingsOf (followUpEntries plan channel err cooled) =
    if coolsDown err then [(channel.id, plan.key)] else [] := by
  unfold followUpEntries
  split <;> split <;> rfl

theorem reportsOf_followUp : reportsOf (followUpEntries plan channel err cooled) =
    if err.isLocal then [] else [(channel, err)] := by
  unfold followUpEntries
  split <;> split <;> rfl

end FollowUp

/-- A failed attempt with its follow-up. -/
theorem accounted_failed {course : AttemptCourse} {failure : AttemptFailure}
    (hresult : course.result plan = .error failure) (cooled : Bool) :
    Accounted plan
      (course.entries plan channel ++ followUpEntries plan channel failure.error cooled) := by
  cases course with
  | refused err =>
    cases hresult
    rw [followUpEntries_refused]
    exact Uneventful.accounted ⟨rfl, rfl, rfl⟩ plan
  | served reservation outcome settlement => cases hresult
  | failed reservation failure reversal =>
    cases hresult
    have hfailures : failedDispatches (AttemptCourse.entries plan channel
        (.failed reservation failure reversal) ++
          followUpEntries plan channel failure.error cooled) =
        [⟨channel, plan.key, failure.error⟩] := by
      rw [failedDispatches_append, failedDispatches_followUp]
      rfl
    constructor
    case keyed =>
      intro failed hfailed
      rw [hfailures, List.mem_singleton] at hfailed
      rw [hfailed]
    case cooled =>
      rw [hfailures, coolingsOf_append, coolingsOf_followUp, List.filter_singleton]
      cases coolsDown failure.error <;> rfl
    case reported =>
      rw [hfailures, reportsOf_append, reportsOf_followUp, List.filter_singleton]
      cases failure.error.isLocal <;> rfl

theorem accounted_served {course : AttemptCourse} {usage : Usage} {outcome : DispatchOutcome}
    (hresult : course.result plan = .ok (usage, outcome)) :
    Accounted plan (course.entries plan channel) := by
  cases course with
  | refused err => cases hresult
  | failed reservation failure reversal => cases hresult
  | served reservation outcome settlement => exact Uneventful.accounted ⟨rfl, rfl, rfl⟩ plan

theorem turn_accounted {sequel : Sequel budget}
    (h : (turn policy plan budget channel).Ends transcript sequel) : Accounted plan transcript := by
  obtain ⟨course, rest, rfl, ⟨usage, outcome, hresult, rfl, _⟩ | ⟨failure, hresult, hafter⟩⟩ :=
    turn_cases h
  · rw [List.append_nil]
    exact accounted_served hresult
  · obtain ⟨cooled, tail, rfl, hcase⟩ := afterFailure_cases hafter
    have waits : Uneventful tail := by
      rcases hcase with ⟨_, rfl, _⟩ | ⟨_, _, elapsed, ⟨_, rfl, _⟩ | ⟨_, sight, rfl, _⟩⟩
      · exact ⟨rfl, rfl, rfl⟩
      · exact ⟨rfl, rfl, rfl⟩
      · exact ⟨rfl, rfl, rfl⟩
    rw [← List.append_assoc]
    exact (accounted_failed hresult cooled).append (waits.accounted plan)

/-! ## A whole run -/

theorem Attempting.accounted (h : Attempting policy request past plan budget channel) :
    Accounted plan past := by
  induction h with
  | first settled planned selected => exact Uneventful.accounted ⟨rfl, rfl, rfl⟩ _
  | again before turned ih => exact ih.append (turn_accounted turned)

theorem relayPinned_accounted {id : ChannelId} (h : (relayPinned plan id).Ends transcript result) :
    Accounted plan transcript := by
  obtain ⟨stored, tail, rfl, ⟨rfl, _⟩ | ⟨channel, course, rest, rfl, hcase⟩⟩ := relayPinned_course h
  · exact Uneventful.accounted ⟨rfl, rfl, rfl⟩ plan
  have opening : Accounted plan [⟨.storedChannel id, stored⟩] :=
    Uneventful.accounted ⟨rfl, rfl, rfl⟩ plan
  rcases hcase with ⟨usage, outcome, hresult, rfl, _⟩ | ⟨failure, cooled, hresult, rfl, _⟩
  · rw [List.append_nil]
    exact opening.append (accounted_served hresult)
  · exact opening.append (accounted_failed hresult cooled)

/-- A run is turned away, or it follows a plan and does about its failures what is due. -/
theorem relay_accounted (h : (relay policy request).Ends transcript result) :
    Uneventful transcript ∨
      ∃ plan, plan? policy request transcript = some plan ∧ Accounted plan transcript := by
  obtain ⟨arrival, rest, rfl, hstart⟩ := relay_start h
  cases settled : settleGroup policy arrival.groups request with
  | error err =>
    rw [settled] at hstart
    obtain ⟨rfl, _⟩ := hstart
    exact .inl ⟨rfl, rfl, rfl⟩
  | ok routed =>
    rw [settled] at hstart
    obtain ⟨sight, tail, rfl, hstart⟩ := hstart
    cases planned : planRequest policy sight.registry routed with
    | error err =>
      rw [planned] at hstart
      obtain ⟨rfl, _⟩ := hstart
      exact .inl ⟨rfl, rfl, rfl⟩
    | ok plan =>
      rw [planned] at hstart
      have opening : Accounted plan [⟨.look, arrival⟩, ⟨.look, sight⟩] :=
        Uneventful.accounted ⟨rfl, rfl, rfl⟩ plan
      refine .inr ⟨plan, plan?_looked settled planned tail, ?_⟩
      cases pinned : request.pinned with
      | some id =>
        rw [pinned] at hstart
        exact opening.append (relayPinned_accounted hstart)
      | none =>
        rw [pinned] at hstart
        obtain ⟨counted, chosen, rest, rfl, ⟨err, _, rfl, _⟩ | ⟨channel, selected, hrun⟩⟩ :=
          relayUnpinned_cases hstart
        · exact opening.append (Uneventful.accounted ⟨rfl, rfl, rfl⟩ plan)
        · have first : Attempting policy request
              [⟨.look, arrival⟩, ⟨.look, sight⟩, ⟨.look, counted⟩, ⟨.look, chosen⟩] plan _ channel :=
            .first settled planned selected
          obtain ⟨past, _, _, last, heq, hpast, hlast⟩ := first.last_turn hrun
          have haccounted := hpast.accounted.append (turn_accounted hlast)
          rw [← heq] at haccounted
          exact haccounted

/-! ## No channel is reported twice -/

theorem dispatchedIds_distinct (h : (relay policy request).Ends transcript result) :
    (dispatchedIds transcript).Nodup := by
  cases pinned : request.pinned with
  | none =>
    obtain ⟨hquiet, _, _⟩ | ⟨past, plan, budget, channel, last, rfl, hpast, hlast⟩ :=
      unpinned_run pinned h
    · rw [dispatchedIds_quiet hquiet]
      exact List.nodup_nil
    · exact (hpast.standing.ended hlast).2.1
  | some id =>
    obtain ⟨hquiet, _, _⟩ | ⟨arrival, sight, routed, plan, rest, rfl, _, _, hrun⟩ := relay_opening h
    · rw [dispatchedIds_quiet hquiet]
      exact List.nodup_nil
    rw [pinned] at hrun
    obtain ⟨stored, tail, rfl, ⟨rfl, _⟩ | ⟨channel, course, rest, rfl, hquiet, _, _⟩⟩ :=
      relayPinned_cases hrun
    · exact List.nodup_nil
    · show (dispatchedIds (course.entries plan channel ++ rest)).Nodup
      rw [dispatchedIds_append, dispatchedIds_quiet hquiet, List.append_nil]
      rcases dispatchedIds_entries plan channel course with h | h
      · rw [h]
        exact List.nodup_nil
      · rw [h]
        exact List.nodup_singleton _

theorem failedDispatches_sublist (transcript : RelayTranscript) :
    ((failedDispatches transcript).map (·.channel.id)).Sublist (dispatchedIds transcript) := by
  induction transcript with
  | nil => exact List.Sublist.refl []
  | cons entry transcript ih =>
    obtain ⟨call, reply⟩ := entry
    cases call with
    | dispatch channel key request =>
      cases reply with
      | ok outcome => exact ih.cons channel.id
      | error failure => exact ih.cons_cons channel.id
    | look => exact ih
    | elapsed => exact ih
    | storedChannel id => exact ih
    | reserve charge => exact ih
    | settle reservation usage stream => exact ih
    | reverse reservation => exact ih
    | cool id key => exact ih
    | report channel err => exact ih

/-- A run reports no channel twice. -/
theorem reportsOf_distinct (h : (relay policy request).Ends transcript result) :
    ((reportsOf transcript).map (·.1.id)).Nodup := by
  have distinct : ((failedDispatches transcript).map (·.channel.id)).Nodup :=
    (dispatchedIds_distinct h).sublist (failedDispatches_sublist transcript)
  rcases relay_accounted h with huneventful | ⟨plan, _, haccounted⟩
  · rw [huneventful.reports]
    exact List.nodup_nil
  · rw [haccounted.reported, List.map_map]
    exact distinct.sublist (List.filter_sublist.map _)

end RelayGateway
