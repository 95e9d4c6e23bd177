import RelayGateway.Proofs.Gateway.Suppression
import RelayGateway.Proofs.Health.Examination
import RelayGateway.Proofs.Relay.Penalties

/-! # A run and its background

One request on a gateway that nothing else changes, and whose store answers. Any attempt may fail, in any
way, and every failure that the run reports is looked into at any time.

* `Solitary`: what holds of the gateway and the run at all times. Every failure that was reported waits to
  be looked into or has its inquiry, and only pairs that the run has cooled have other deadlines.
  `Solitary.step` keeps it.
* `Cooled`: every rate limited attempt cools its pair as soon as it is reversed.
* `solitary_run`: both hold after every run.
-/

set_option autoImplicit false

namespace RelayGateway

/-- A step of the run, a step in the background, or time that passes. -/
def Happening.IsInternal : Happening → Prop
  | .relay .. | .lookInto _ | .health _ | .pass _ => True
  | .arrive _ | .order _ | .registry _ | .reloadGroups | .sweep | .edit _ => False

/-! ## What holds at all times -/

structure Solitary (origin : Gateway) (request : RelayRequest) (running : Running)
    (inquiries : List Inquiry) (traffic : Traffic) : Prop where
  runs : traffic.runs = [running]
  leads : ∀ transcript result, running.rest.Ends transcript result →
    (relay origin.policy request).Ends (running.past ++ transcript) result
  orderly : traffic.Orderly
  reported : (inquiries.map Inquiry.report ++ traffic.gateway.reports).Perm (reportsOf running.past)
  examined : Examined origin inquiries traffic.gateway traffic.callers
  deadlines : ∀ id key, (id, key) ∉ coolingsOf running.past →
    traffic.gateway.cooldowns.deadline? id key = origin.cooldowns.deadline? id key

variable {origin : Gateway} {request : RelayRequest} {running : Running} {inquiries : List Inquiry}
  {traffic : Traffic}

theorem solitary_start (built : origin.registry.Built) (usable : origin.store.Usable)
    (quiet : origin.reports = []) (request : RelayRequest) :
    Solitary origin request ⟨[], relay origin.policy request⟩ [] (Traffic.alone origin request) where
  runs := rfl
  leads _ _ ends := ends
  orderly := (Traffic.Orderly.start built).step (.arrive request)
  reported := List.Perm.of_eq quiet
  examined := examined_start usable
  deadlines _ _ _ := rfl

/-- However the run goes on, it reports no channel twice. -/
theorem Solitary.distinct (h : Solitary origin request running inquiries traffic) :
    ((inquiries.map Inquiry.report ++ traffic.gateway.reports).map (·.1.id)).Nodup := by
  have hends := Program.ends_meet firstDown [] running.rest
  have hwhole := reportsOf_distinct (h.leads _ _ hends)
  rw [reportsOf_append, List.map_append] at hwhole
  rw [(h.reported.map _).nodup_iff]
  exact hwhole.sublist (List.sublist_append_left _ _)

/-- A step of the run has no part in what inquiries are about. -/
theorem answer_keeps (outside : Outside) (call : RelayCall) (gateway : Gateway) :
    (outside.answer call gateway).2.store = gateway.store ∧
      (outside.answer call gateway).2.classifier = gateway.classifier ∧
      (outside.answer call gateway).2.registry = gateway.registry ∧
      (outside.answer call gateway).2.notices = gateway.notices := by
  cases call <;> exact ⟨rfl, rfl, rfl, rfl⟩

theorem answer_reports (outside : Outside) (call : RelayCall) (gateway : Gateway) :
    (outside.answer call gateway).2.reports =
      gateway.reports ++ reportsOf [⟨call, (outside.answer call gateway).1⟩] := by
  cases call <;> first | rfl | exact (List.append_nil _).symm

theorem Solitary.relay_step {past : RelayTranscript} {call : RelayCall}
    {next : RelayReply call → RelayProgram RelayResult}
    (h : Solitary origin request ⟨past, .ask call next⟩ inquiries traffic) (outside : Outside) :
    Solitary origin request
      ⟨past ++ [⟨call, (outside.answer call traffic.gateway).1⟩],
        next (outside.answer call traffic.gateway).1⟩ inquiries (traffic.step (.relay 0 outside)) := by
  have hrun : traffic.runs[0]? = some ⟨past, .ask call next⟩ := by
    rw [h.runs]
    rfl
  have orderly := h.orderly.step (.relay 0 outside)
  rw [Traffic.step_relay hrun] at orderly ⊢
  constructor
  case runs =>
    show traffic.runs.set 0 _ = _
    rw [h.runs]
    rfl
  case leads =>
    intro transcript result hends
    rw [List.append_assoc]
    exact h.leads (⟨call, _⟩ :: transcript) result ⟨_, _, rfl, hends⟩
  case orderly => exact orderly
  case reported =>
    show (inquiries.map Inquiry.report ++ (outside.answer call traffic.gateway).2.reports).Perm
      (reportsOf (past ++ [⟨call, (outside.answer call traffic.gateway).1⟩]))
    rw [reportsOf_append, answer_reports, ← List.append_assoc]
    exact h.reported.append_right _
  case examined =>
    obtain ⟨hstore, hclassifier, hregistry, hnotices⟩ := answer_keeps outside call traffic.gateway
    exact h.examined.frame hstore hclassifier hregistry hnotices
  case deadlines =>
    intro id key hid
    rw [coolingsOf_append, List.mem_append, not_or] at hid
    have hold := h.deadlines id key hid.1
    show (outside.answer call traffic.gateway).2.cooldowns.deadline? id key = _
    rcases Traffic.answer_cases outside call traffic.gateway with
      hsame | ⟨other, model, rfl, hcool⟩ | ⟨channel, err, _, hreport⟩
    · rw [hsame]
      exact hold
    · have different : ¬ (other = id ∧ model = key) := by
        rintro ⟨rfl, rfl⟩
        exact hid.2 (List.mem_singleton_self _)
      rw [hcool]
      exact (CooldownTable.deadline?_set_other different).trans hold
    · rw [hreport]
      exact hold

theorem Solitary.lookInto_step (h : Solitary origin request running inquiries traffic) (report : Nat) :
    ∃ inquiries, Solitary origin request running inquiries (traffic.step (.lookInto report)) := by
  have orderly := h.orderly.step (.lookInto report)
  cases hreport : traffic.gateway.reports[report]? with
  | none =>
    have hsame : traffic.step (.lookInto report) = traffic := by rw [Traffic.step, hreport]
    rw [hsame]
    exact ⟨inquiries, h⟩
  | some taken =>
    obtain ⟨channel, err⟩ := taken
    obtain ⟨hlt, hget⟩ := List.getElem?_eq_some_iff.mp hreport
    -- the report moves to the inquiries, so that nothing changes for both together
    have moved : ((inquiries ++ [(⟨channel, err, .fresh⟩ : Inquiry)]).map Inquiry.report ++
        traffic.gateway.reports.eraseIdx report).Perm
          (inquiries.map Inquiry.report ++ traffic.gateway.reports) := by
      have htaken := List.getElem_cons_eraseIdx_perm hlt
      rw [hget] at htaken
      rw [List.map_append, List.append_assoc]
      exact htaken.append_left _
    have fresh : channel.id ∉ inquiries.map (·.channel.id) := by
      have hdistinct := h.distinct
      rw [List.map_append, List.map_map, List.nodup_append] at hdistinct
      intro hmem
      exact hdistinct.2.2 channel.id hmem channel.id
        (List.mem_map.mpr ⟨(channel, err), List.mem_of_getElem? hreport, rfl⟩) rfl
    refine ⟨inquiries ++ [⟨channel, err, .fresh⟩], ?_⟩
    rw [Traffic.step, hreport] at orderly ⊢
    constructor
    case runs => exact h.runs
    case leads => exact h.leads
    case orderly => exact orderly
    case reported => exact moved.trans h.reported
    case examined => exact (h.examined.begin channel err fresh).frame rfl rfl rfl rfl
    case deadlines => exact h.deadlines

theorem Solitary.health_step (h : Solitary origin request running inquiries traffic) (caller : Nat) :
    ∃ inquiries, Solitary origin request running inquiries (traffic.step (.health caller)) := by
  obtain ⟨hcooldowns, _, _, hreports⟩ := Traffic.health_frame traffic.toConcurrent caller
  have examined : Examined origin inquiries traffic.toConcurrent.gateway
      traffic.toConcurrent.callers := h.examined
  obtain ⟨inquiries', hsame, hexamined⟩ := examined.step caller
  refine ⟨inquiries', ?_⟩
  constructor
  case runs => exact h.runs
  case leads => exact h.leads
  case orderly => exact h.orderly.step _
  case reported =>
    show (inquiries'.map Inquiry.report ++
      (traffic.toConcurrent.step caller).gateway.reports).Perm (reportsOf running.past)
    rw [hsame, hreports]
    exact h.reported
  case examined => exact hexamined
  case deadlines =>
    intro id key hid
    show (traffic.toConcurrent.step caller).gateway.cooldowns.deadline? id key = _
    rw [hcooldowns]
    exact h.deadlines id key hid

/-- Every step is one of the run, or leaves the run as it is. -/
theorem Solitary.step (h : Solitary origin request running inquiries traffic) {happening : Happening}
    (internal : happening.IsInternal) :
    (∃ inquiries, Solitary origin request running inquiries (traffic.step happening)) ∨
      ∃ outside past call next, happening = .relay 0 outside ∧ running = ⟨past, .ask call next⟩ ∧
        Solitary origin request ⟨past ++ [⟨call, (outside.answer call traffic.gateway).1⟩],
          next (outside.answer call traffic.gateway).1⟩ inquiries (traffic.step happening) := by
  cases happening with
  | relay run outside =>
    rcases Traffic.step_relay_cases traffic run outside with ⟨hsame, _⟩ | ⟨past, call, next, hrun⟩
    · rw [hsame]
      exact .inl ⟨inquiries, h⟩
    · cases run with
      | zero =>
        rw [h.runs] at hrun
        obtain rfl := Option.some.inj hrun
        exact .inr ⟨outside, past, call, next, rfl, rfl, h.relay_step outside⟩
      | succ run =>
        rw [h.runs] at hrun
        cases hrun
  | lookInto report => exact .inl (h.lookInto_step report)
  | health caller => exact .inl (h.health_step caller)
  | pass span =>
    exact .inl ⟨inquiries, h.runs, h.leads, h.orderly.step (.pass span), h.reported,
      h.examined.frame rfl rfl rfl rfl, h.deadlines⟩
  | arrive request => exact absurd internal id
  | order order => exact absurd internal id
  | registry event => exact absurd internal id
  | reloadGroups => exact absurd internal id
  | sweep => exact absurd internal id
  | edit store => exact absurd internal id

/-! ## Cooldowns -/

/-- One of the happenings is the next step of the run after the reversal of an attempt on the pair that was
rate limited, and after it the pair is cooling. -/
def Traffic.CoolsDuring (traffic : Traffic) (happenings : List Happening) (id : ChannelId)
    (key : String) : Prop :=
  ∃ sooner outside later running, happenings = sooner ++ .relay 0 outside :: later ∧
    (traffic.run sooner).runs = [running] ∧ rateLimited? running.past = some (id, key) ∧
    let after := (traffic.run sooner).step (.relay 0 outside)
    id ≠ 0 → 0 < traffic.gateway.cooldowns.duration →
      after.gateway.cooldowns.isCooling id key after.gateway.now = true

def FailedDispatch.IsLast (failed : FailedDispatch) (past : RelayTranscript) : Prop :=
  ∃ earlier request failure,
    past = earlier ++ [⟨.dispatch failed.channel failed.key request, .error failure⟩] ∧
      failure.error = failed.error

/-- Every pair that was rate limited has started to cool, unless its attempt is the last one and the
reversal or the cooldown is still to come. -/
def Cooled (start : Traffic) (happenings : List Happening) (past : RelayTranscript) : Prop :=
  ∀ failed ∈ failedDispatches past, coolsDown failed.error = true →
    failed.IsLast past ∨ rateLimited? past = some failed.pair ∨
      start.CoolsDuring happenings failed.channel.id failed.key

section Cooling

variable {start : Traffic} {happenings : List Happening} {past : RelayTranscript}
  {failed : FailedDispatch} {id : ChannelId} {key : String}

theorem Traffic.CoolsDuring.later (h : start.CoolsDuring happenings id key) (happening : Happening) :
    start.CoolsDuring (happenings ++ [happening]) id key := by
  obtain ⟨sooner, outside, later, running, rfl, hcools⟩ := h
  exact ⟨sooner, outside, later ++ [happening], running, by simp, hcools⟩

theorem Cooled.later (h : Cooled start happenings past) (happening : Happening) :
    Cooled start (happenings ++ [happening]) past := by
  intro failed hfailed hlimited
  rcases h failed hfailed hlimited with hlast | hreversed | hcools
  · exact .inl hlast
  · exact .inr (.inl hreversed)
  · exact .inr (.inr (hcools.later happening))

/-- After a dispatch that was rate limited, the reversal is owed. -/
theorem FailedDispatch.IsLast.owed (h : failed.IsLast past) (limited : coolsDown failed.error = true) :
    (ledgerOf past).owed = .reversal failed.channel.id failed.key := by
  obtain ⟨earlier, request, failure, rfl, herror⟩ := h
  rw [ledgerOf_append_singleton, Ledger.after_failed, herror, if_pos limited]

theorem FailedDispatch.IsLast.reversed (h : failed.IsLast past)
    (limited : coolsDown failed.error = true) (reservation : Reservation)
    (reversal : Except ServiceError Unit) :
    rateLimited? (past ++ [⟨.reverse reservation, reversal⟩]) = some failed.pair := by
  obtain ⟨earlier, request, failure, rfl, herror⟩ := h
  have hstatus : failure.error.status = 429 := by
    rw [herror]
    exact beq_iff_eq.mp limited
  unfold rateLimited?
  rw [List.reverse_append, List.reverse_append]
  exact if_pos hstatus

/-- A step that follows on the reversal starts the cooldown. -/
theorem Solitary.cools (h : Solitary origin request running inquiries (start.run happenings))
    (limited : rateLimited? running.past = some (id, key)) (outside : Outside) :
    start.CoolsDuring (happenings ++ [.relay 0 outside]) id key := by
  have placed : (start.run happenings).runs[0]? = some running := by
    rw [h.runs]
    rfl
  obtain ⟨named, _, hafter⟩ := Traffic.limited_step h.orderly placed limited outside
  refine ⟨happenings, outside, [], running, rfl, h.runs, limited, ?_⟩
  intro after hid hduration
  have sameDuration : (start.run happenings).gateway.cooldowns.duration =
      start.gateway.cooldowns.duration := Traffic.run_duration start happenings
  have accepted : (start.run happenings).gateway.cooldowns.accepts id key = true := by
    rw [CooldownTable.accepts, sameDuration]
    simp [hid, named, Nat.pos_iff_ne_zero.mp hduration]
  show after.gateway.cooldowns.isCooling id key after.gateway.now = true
  rw [hafter]
  exact CooldownTable.isCooling_set accepted (sameDuration ▸ hduration)

theorem Cooled.relay_step {call : RelayCall} {next : RelayReply call → RelayProgram RelayResult}
    (h : Cooled start happenings past)
    (solitary : Solitary origin request ⟨past, .ask call next⟩ inquiries (start.run happenings))
    (outside : Outside) (reply : RelayReply call) :
    Cooled start (happenings ++ [.relay 0 outside]) (past ++ [⟨call, reply⟩]) := by
  intro failed hfailed hlimited
  rw [failedDispatches_append] at hfailed
  rcases List.mem_append.mp hfailed with hold | hnew
  · rcases h failed hold hlimited with hlast | hreversed | hcools
    · -- all that the run may do is to reverse
      have howed := hlast.owed hlimited
      have habides : Program.Abides relayWatch Settled (ledgerOf past) (.ask call next) :=
        solitary.orderly.abides ⟨past, .ask call next⟩ (by rw [solitary.runs]; simp)
      have hallowed : (ledgerOf past).Allows call := habides.1
      rcases hallowed.pays with hnothing | ⟨reservation, rfl, _⟩ | ⟨id, key, _, hcooldown, _⟩
      · cases howed.symm.trans hnothing
      · exact .inr (.inl (hlast.reversed hlimited reservation reply))
      · cases howed.symm.trans hcooldown
    · exact .inr (.inr (solitary.cools hreversed outside))
    · exact .inr (.inr (hcools.later _))
  · cases call with
    | dispatch channel key request =>
      cases reply with
      | ok outcome => cases hnew
      | error failure =>
        rw [List.mem_singleton.mp hnew]
        exact .inl ⟨past, request, failure, rfl, rfl⟩
    | _ => cases hnew

/-- When the run owes nothing, all that were rate limited have started to cool. -/
theorem Cooled.settled (h : Cooled start happenings past) (settled : (ledgerOf past).owed = .nothing)
    (hfailed : failed ∈ failedDispatches past) (limited : coolsDown failed.error = true) :
    start.CoolsDuring happenings failed.channel.id failed.key := by
  rcases h failed hfailed limited with hlast | hreversed | hcools
  · cases (hlast.owed limited).symm.trans settled
  · cases (ledgerOf_limited hreversed).symm.trans settled
  · exact hcools

end Cooling

theorem solitary_run (built : origin.registry.Built) (usable : origin.store.Usable)
    (quiet : origin.reports = []) (request : RelayRequest) (happenings : List Happening)
    (internal : ∀ happening ∈ happenings, happening.IsInternal) :
    ∃ running inquiries, Solitary origin request running inquiries
        ((Traffic.alone origin request).run happenings) ∧
      Cooled (Traffic.alone origin request) happenings running.past := by
  -- on the happenings, with an inquiry more for each report that is taken up
  induction happenings using List.reverseRecOn with
  | nil =>
    refine ⟨_, _, solitary_start built usable quiet request, ?_⟩
    intro failed hfailed
    cases hfailed
  | append_singleton happenings happening ih =>
    obtain ⟨running, inquiries, h, cooled⟩ :=
      ih fun other hother => internal other (List.mem_append_left _ hother)
    rw [Traffic.run_append]
    rcases h.step (internal happening (by simp)) with
      ⟨inquiries', h'⟩ | ⟨outside, past, call, next, rfl, rfl, h'⟩
    · exact ⟨running, inquiries', h', cooled.later happening⟩
    · exact ⟨_, inquiries, h', cooled.relay_step h outside _⟩

end RelayGateway
