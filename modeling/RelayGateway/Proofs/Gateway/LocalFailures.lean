import RelayGateway.Proofs.Gateway.Traffic
import RelayGateway.Proofs.Relay.Endings
import RelayGateway.Proofs.Upstream.Judgement

/-! # Failures of the gateway's own

* `localFailure?`: the local failure of an attempt that has just failed, with the pair that it cools.
* `Clears`: what a run may still do after it. `after_localFailure` says that it does nothing else.
* `Running.Follows`, `Running.Spent`: a run under way has come from a request, and it is as good as over.
* `Traffic.Beside`: two gateways in traffic that differ in one run only.
* `local_failures_harmless`: a local failure changes nothing, unless it looks like a rate limit.
-/

set_option autoImplicit false

namespace RelayGateway

/-- A local failure, and the channel and the key that are cooled for it. -/
structure LocalFailure where
  error : UpstreamError
  cooled : Option (ChannelId × String)
  deriving DecidableEq

/-- The failure of an attempt that has just failed with an error of the gateway's own. -/
def localFailure? (past : RelayTranscript) : Option LocalFailure :=
  match past.getLast? with
  | some ⟨.reserve _, .error err⟩ =>
    some ⟨.ofGateway 403 err.message "insufficient_user_quota", none⟩
  | some ⟨.dispatch channel key _, .error failure⟩ =>
    if failure.error.isLocal then
      some ⟨failure.error, if failure.error.status = 429 then some (channel.id, key) else none⟩
    else none
  | _ => none

/-- What a run may still do after a local failure. -/
def Clears (cooled : Option (ChannelId × String)) : RelayCall → Prop
  | .reverse _ => True
  | .cool id key => cooled = some (id, key)
  | .look | .elapsed | .storedChannel _ | .reserve _ | .dispatch .. | .settle .. | .report .. => False

variable {policy : RelayPolicy} {request : RelayRequest} {past rest : RelayTranscript}
  {result : RelayResult} {failure : LocalFailure} {cooled : Option (ChannelId × String)}

/-! ## One run -/

theorem shouldRetry_local {err : UpstreamError} (h : err.isLocal = true) (provider : Provider) :
    shouldRetry err provider = false := by
  rw [shouldRetry_eq, if_pos h]

theorem localFailure?_isLocal (h : localFailure? past = some failure) :
    failure.error.isLocal = true := by
  unfold localFailure? at h
  split at h
  · cases h
    rfl
  · split at h
    · rename_i hlocal
      cases h
      exact hlocal
    · cases h
  · cases h

theorem after_localFailure (ends : (relay policy request).Ends (past ++ rest) result)
    (h : localFailure? past = some failure) {entry : Exchange RelayReply} (hentry : entry ∈ rest) :
    Clears failure.cooled entry.call := by
  unfold localFailure? at h
  split at h
  · rename_i hlast
    obtain ⟨earlier, rfl⟩ := List.getLast?_eq_some_iff.mp hlast
    rw [List.append_assoc] at ends
    obtain ⟨rfl, _⟩ := relay_refused ends rfl
    cases hentry
  · rename_i channel key sent failed hlast
    obtain ⟨earlier, rfl⟩ := List.getLast?_eq_some_iff.mp hlast
    split at h
    · rename_i hlocal
      cases h
      rw [List.append_assoc] at ends
      obtain ⟨plan, reservation, reversal, answered, rfl, rfl, _⟩ :=
        relay_failed ends rfl (.inr (shouldRetry_local hlocal channel.provider))
      rcases List.mem_cons.mp hentry with rfl | hnoted
      · trivial
      · unfold followUpEntries at hnoted
        rw [if_pos hlocal, List.append_nil] at hnoted
        split at hnoted
        · rename_i hcools
          rw [List.mem_singleton.mp hnoted]
          exact if_pos (beq_iff_eq.mp hcools)
        · cases hnoted
    · cases h
  · cases h

/-- What a run may still do after a local failure begins no attempt. -/
theorem Clears.beginsAttempt {entry : Exchange RelayReply} (h : Clears cooled entry.call) :
    beginsAttempt entry = false := by
  obtain ⟨call, reply⟩ := entry
  cases call <;> first | rfl | cases h

/-- What it may still do leaves the gateway as it is, but for the pair that is cooled. -/
theorem Clears.answer {call : RelayCall} (h : Clears cooled call) (outside : Outside)
    (gateway : Gateway) :
    (outside.answer call gateway).2 = gateway ∨ ∃ id key, cooled = some (id, key) ∧
      (outside.answer call gateway).2 =
        { gateway with cooldowns := (gateway.cooldowns.set id key gateway.now).2 } := by
  rcases Traffic.answer_cases outside call gateway with hsame | ⟨id, key, rfl, hcools⟩ |
      ⟨channel, err, rfl, _⟩
  · exact .inl hsame
  · exact .inr ⟨id, key, h, hcools⟩
  · cases h

/-- The run has come from a request, and goes on as that would. -/
def Running.Follows (running : Running) : Prop :=
  ∃ policy request, ∀ transcript result, running.rest.Ends transcript result →
    (relay policy request).Ends (running.past ++ transcript) result

/-- Since `past` the run has begun no attempt, and it has little left to do. -/
structure Running.Spent (cooled : Option (ChannelId × String)) (past : RelayTranscript)
    (running : Running) : Prop where
  since : ∃ tail, running.past = past ++ tail ∧ attemptsBegun tail = 0
  left : ∀ transcript result, running.rest.Ends transcript result →
    ∀ entry ∈ transcript, Clears cooled entry.call

section Running

variable {running : Running} {call : RelayCall} {next : RelayReply call → RelayProgram RelayResult}

theorem Running.Follows.answered (h : Running.Follows ⟨past, .ask call next⟩) (reply : RelayReply call) :
    Running.Follows ⟨past ++ [⟨call, reply⟩], next reply⟩ := by
  obtain ⟨policy, request, hends⟩ := h
  refine ⟨policy, request, fun transcript result ends => ?_⟩
  rw [List.append_assoc]
  exact hends (⟨call, reply⟩ :: transcript) result ⟨reply, transcript, rfl, ends⟩

theorem Running.Follows.spent (h : running.Follows) (failed : localFailure? running.past = some failure) :
    running.Spent failure.cooled running.past := by
  obtain ⟨policy, request, hends⟩ := h
  refine ⟨⟨[], (List.append_nil _).symm, rfl⟩, fun transcript result ends entry hentry => ?_⟩
  exact after_localFailure (hends transcript result ends) failed hentry

theorem Running.Spent.clears (h : Running.Spent cooled past ⟨rest, .ask call next⟩) :
    Clears cooled call := by
  -- the run has some end, and its next call comes before it
  let reply := firstDown [] call
  have ends := Program.ends_meet firstDown [] (next reply)
  exact h.left _ _ ⟨reply, _, rfl, ends⟩ ⟨call, reply⟩ List.mem_cons_self

theorem Running.Spent.answered (h : Running.Spent cooled past ⟨rest, .ask call next⟩)
    (reply : RelayReply call) : Running.Spent cooled past ⟨rest ++ [⟨call, reply⟩], next reply⟩ := by
  constructor
  case since =>
    obtain ⟨tail, rfl, hnone⟩ := h.since
    refine ⟨tail ++ [⟨call, reply⟩], List.append_assoc _ _ _, ?_⟩
    have hcall : beginsAttempt ⟨call, reply⟩ = false := h.clears.beginsAttempt
    rw [attemptsBegun_append, hnone, attemptsBegun, List.countP_singleton, hcall]
    rfl
  case left =>
    intro transcript result ends entry hentry
    exact h.left _ _ ⟨reply, transcript, rfl, ends⟩ entry (List.mem_cons_of_mem _ hentry)

end Running

namespace Traffic

variable {traffic other : Traffic} {index : Nat}

/-! ## The runs after a step -/

/-- A step begins a run, takes a run further, or leaves all runs as they are. -/
theorem step_runs (traffic : Traffic) (happening : Happening) :
    (traffic.step happening).runs = traffic.runs ∨
      (∃ request, (traffic.step happening).runs =
        traffic.runs ++ [⟨[], relay traffic.gateway.policy request⟩]) ∨
      ∃ run past call next reply, traffic.runs[run]? = some ⟨past, .ask call next⟩ ∧
        (traffic.step happening).runs =
          traffic.runs.set run ⟨past ++ [⟨call, reply⟩], next reply⟩ := by
  cases happening with
  | arrive request => exact .inr (.inl ⟨request, rfl⟩)
  | relay run outside =>
    rcases step_relay_cases traffic run outside with ⟨hsame, _⟩ | ⟨past, call, next, hrun⟩
    · exact .inl (by rw [hsame])
    · exact .inr (.inr ⟨run, past, call, next, _, hrun, by rw [step_relay hrun]⟩)
  | lookInto report =>
    left
    rw [step]
    split <;> rfl
  | order order => exact .inl rfl
  | health caller => exact .inl rfl
  | registry event => exact .inl rfl
  | reloadGroups => exact .inl rfl
  | sweep => exact .inl rfl
  | edit store => exact .inl rfl
  | pass span => exact .inl rfl

theorem follows_step (h : ∀ running ∈ traffic.runs, running.Follows) (happening : Happening) :
    ∀ running ∈ (traffic.step happening).runs, running.Follows := by
  intro running hrunning
  rcases step_runs traffic happening with hsame | ⟨request, harrives⟩ |
      ⟨run, past, call, next, reply, hrun, hset⟩
  · rw [hsame] at hrunning
    exact h running hrunning
  · rw [harrives] at hrunning
    rcases List.mem_append.mp hrunning with hold | hnew
    · exact h running hold
    · rw [List.mem_singleton.mp hnew]
      exact ⟨_, request, fun _ _ ends => ends⟩
  · rw [hset] at hrunning
    rcases List.mem_or_eq_of_mem_set hrunning with hold | rfl
    · exact h running hold
    · exact (h _ (List.mem_of_getElem? hrun)).answered reply

theorem follows_run (gateway : Gateway) (happenings : List Happening) :
    ∀ running ∈ ((start gateway).run happenings).runs, running.Follows := by
  refine run_keeps (fun traffic => ∀ running ∈ traffic.runs, running.Follows)
    (fun _ happening h => follows_step h happening) ?_ happenings
  intro running hrunning
  cases hrunning

def SpentAt (cooled : Option (ChannelId × String)) (past : RelayTranscript) (index : Nat)
    (traffic : Traffic) : Prop :=
  ∃ running, traffic.runs[index]? = some running ∧ running.Spent cooled past

/-- A run that is spent stays so. -/
theorem SpentAt.step (h : SpentAt cooled past index traffic) (happening : Happening) :
    SpentAt cooled past index (traffic.step happening) := by
  obtain ⟨running, hplaced, hspent⟩ := h
  rcases step_runs traffic happening with hsame | ⟨request, harrives⟩ |
      ⟨run, past', call, next, reply, hrun, hset⟩
  · exact ⟨running, by rw [hsame, hplaced], hspent⟩
  · exact ⟨running, by rw [harrives, getElem?_append_of_some hplaced], hspent⟩
  · by_cases hown : run = index
    · subst hown
      obtain rfl := Option.some.inj (hrun.symm.trans hplaced)
      refine ⟨_, ?_, hspent.answered reply⟩
      rw [hset, List.getElem?_set_self (List.getElem?_eq_some_iff.mp hrun).1]
    · exact ⟨running, by rw [hset, List.getElem?_set_ne hown, hplaced], hspent⟩

theorem SpentAt.run (h : SpentAt cooled past index traffic) (happenings : List Happening) :
    SpentAt cooled past index (traffic.run happenings) :=
  run_keeps (SpentAt cooled past index) (fun _ happening spent => spent.step happening) h happenings

/-- A step of a spent run leaves the gateway as it is, but for the pair that is cooled. -/
theorem SpentAt.own_step (h : SpentAt cooled past index traffic) (outside : Outside) :
    (traffic.step (.relay index outside)).gateway = traffic.gateway ∨
      ∃ id key, cooled = some (id, key) ∧ (traffic.step (.relay index outside)).gateway =
        { traffic.gateway with
          cooldowns := (traffic.gateway.cooldowns.set id key traffic.gateway.now).2 } := by
  obtain ⟨running, hplaced, hspent⟩ := h
  rcases step_relay_cases traffic index outside with ⟨hsame, _⟩ | ⟨past', call, next, hrun⟩
  · exact .inl (by rw [hsame])
  · obtain rfl := Option.some.inj (hrun.symm.trans hplaced)
    rw [step_relay hrun]
    exact hspent.clears.answer outside traffic.gateway

/-! ## One run left out -/

/-- Two gateways in traffic that differ in one run only. -/
structure Beside (index : Nat) (traffic other : Traffic) : Prop where
  core : traffic.toConcurrent = other.toConcurrent
  count : traffic.runs.length = other.runs.length
  others : ∀ run, run ≠ index → traffic.runs[run]? = other.runs[run]?

theorem Beside.refl (index : Nat) (traffic : Traffic) : Beside index traffic traffic :=
  ⟨rfl, rfl, fun _ _ => rfl⟩

end Traffic

/-- The step is one of the run at the index. -/
def Happening.isOf (index : Nat) : Happening → Bool
  | .relay run _ => run == index
  | .arrive _ | .lookInto _ | .order _ | .health _ | .registry _ | .reloadGroups | .sweep | .edit _
  | .pass _ => false

namespace Traffic

variable {traffic other : Traffic} {index : Nat}

theorem Beside.step (h : Beside index traffic other) {happening : Happening}
    (foreign : happening.isOf index = false) :
    Beside index (traffic.step happening) (other.step happening) := by
  obtain ⟨core, runs⟩ := traffic
  obtain ⟨core', others⟩ := other
  obtain ⟨hcore, hcount, hothers⟩ := h
  dsimp only at hcore hcount hothers
  subst hcore
  cases happening with
  | arrive request =>
    refine ⟨rfl, ?_, fun run hrun => ?_⟩
    · simp [step, hcount]
    · show (runs ++ [_])[run]? = (others ++ [_])[run]?
      rw [List.getElem?_append, List.getElem?_append, hcount, hothers run hrun]
  | relay run outside =>
    have hrun : run ≠ index := by simpa [Happening.isOf] using foreign
    simp only [step, hothers run hrun]
    split
    · refine ⟨rfl, ?_, fun position hposition => ?_⟩
      · simp [hcount]
      · rw [List.getElem?_set, List.getElem?_set, hcount, hothers position hposition]
    · exact ⟨rfl, hcount, hothers⟩
    · exact ⟨rfl, hcount, hothers⟩
  | lookInto report =>
    simp only [step]
    split
    · exact ⟨rfl, hcount, hothers⟩
    · exact ⟨rfl, hcount, hothers⟩
  | order order => exact ⟨rfl, hcount, hothers⟩
  | health caller => exact ⟨rfl, hcount, hothers⟩
  | registry event => exact ⟨rfl, hcount, hothers⟩
  | reloadGroups => exact ⟨rfl, hcount, hothers⟩
  | sweep => exact ⟨rfl, hcount, hothers⟩
  | edit store => exact ⟨rfl, hcount, hothers⟩
  | pass span => exact ⟨rfl, hcount, hothers⟩

/-- A step of a spent run that cools nothing makes no difference to the rest of the traffic. -/
theorem Beside.own_step (h : Beside index traffic other) (spent : SpentAt none past index traffic)
    (outside : Outside) : Beside index (traffic.step (.relay index outside)) other := by
  have hsame : (traffic.step (.relay index outside)).gateway = traffic.gateway := by
    rcases spent.own_step outside with hsame | ⟨id, key, hnone, _⟩
    · exact hsame
    · cases hnone
  rcases step_relay_cases traffic index outside with ⟨hidle, _⟩ | ⟨past', call, next, hrun⟩
  · rw [hidle]
    exact h
  rw [step_relay hrun] at hsame ⊢
  constructor
  case core =>
    rw [← h.core]
    show { traffic.toConcurrent with gateway := (outside.answer call traffic.gateway).2 } = _
    rw [show (outside.answer call traffic.gateway).2 = traffic.gateway from hsame]
  case count => rw [List.length_set, h.count]
  case others =>
    intro run hrun
    rw [List.getElem?_set_ne hrun.symm, h.others run hrun]

/-- The steps of a spent run that cools nothing can be left out. -/
theorem Beside.run (h : Beside index traffic other) (spent : SpentAt none past index traffic)
    (happenings : List Happening) :
    Beside index (traffic.run happenings)
      (other.run (happenings.filter fun happening => !happening.isOf index)) := by
  induction happenings generalizing traffic other with
  | nil => exact h
  | cons happening happenings ih =>
    cases hown : happening.isOf index with
    | false =>
      rw [List.filter_cons_of_pos (by rw [hown]; rfl)]
      exact ih (h.step hown) (spent.step happening)
    | true =>
      rw [List.filter_cons_of_neg (by rw [hown]; exact Bool.false_ne_true)]
      cases happening with
      | relay run outside =>
        obtain rfl : run = index := beq_iff_eq.mp hown
        exact ih (h.own_step spent outside) (spent.step _)
      | _ => cases hown

end Traffic

/-! ## The law of local failures -/

theorem processFailure_local {classifier : Classifier} {channel : Channel} {err : UpstreamError}
    (h : err.isLocal = true) : processFailure classifier channel err = .done none := by
  have hnone : classifier.disableRule? err channel.provider = none := by
    unfold Classifier.disableRule?
    rw [h, Bool.or_true]
    rfl
  unfold processFailure
  rw [hnone]
  rfl

/-- A failure of the gateway's own, whatever has happened to the gateway and whatever happens then. The run
begins no further attempt, and no step of it changes the gateway, but that it starts a cooldown if the error
of the dispatch has the status of a rate limit. If it has not, everything else goes on as it would without
the run. The health service would find nothing to do for the failure. -/
theorem local_failures_harmless (origin : Gateway) (earlier later : List Happening) (index : Nat)
    (running : Running) (failure : LocalFailure) :
    let before := (Traffic.start origin).run earlier
    let current := before.run later
    before.runs[index]? = some running → localFailure? running.past = some failure →
      (∃ tail rest, current.runs[index]? = some ⟨running.past ++ tail, rest⟩ ∧
        attemptsBegun tail = 0) ∧
      (∀ outside, (current.step (.relay index outside)).gateway = current.gateway ∨
        ∃ id key, failure.cooled = some (id, key) ∧
          (current.step (.relay index outside)).gateway =
            { current.gateway with
              cooldowns := (current.gateway.cooldowns.set id key current.gateway.now).2 }) ∧
      (failure.cooled = none → Traffic.Beside index current
        (before.run (later.filter fun happening => !happening.isOf index))) ∧
      ∀ classifier channel, processFailure classifier channel failure.error = .done none := by
  intro before current placed failed
  have spent : Traffic.SpentAt failure.cooled running.past index before :=
    ⟨running, placed, (Traffic.follows_run origin earlier running
      (List.mem_of_getElem? placed)).spent failed⟩
  refine ⟨?_, (spent.run later).own_step, ?_, ?_⟩
  · obtain ⟨⟨_, rest⟩, hplaced, ⟨tail, rfl, hnone⟩, _⟩ := spent.run later
    exact ⟨tail, rest, hplaced, hnone⟩
  · intro hnone
    rw [hnone] at spent
    exact (Traffic.Beside.refl index before).run spent later
  · intro classifier channel
    exact processFailure_local (localFailure?_isLocal failed)

/-- The gateway itself turns every dispatch away, with the given status. -/
def turningAway (status : UInt16) : Outside where
  reserve charge := .ok ⟨charge, 1⟩
  dispatch _ _ _ := .error ⟨.ofGateway status "busy" "", false⟩
  settle _ _ _ := .ok ()
  reverse _ := .ok ()
  elapsed := 0
  draws := []

/-- The first attempt of a run up to its failure. -/
def firstTurnedAway (status : UInt16) : List Happening :=
  .arrive sampleRequest :: List.replicate 6 (.relay 0 (turningAway status))

/-- An upstream would be disabled for this status, and another channel tried. As the error is the gateway's
own, the run reverses its reservation and ends, and changes nothing. -/
theorem turnedAway_harmless :
    let before := (Traffic.start sampleGateway).run (firstTurnedAway 401)
    let current := before.run [.relay 0 (turningAway 401)]
    sampleGateway.classifier.shouldDisable (.upstream 401 "busy" "") .openai = true ∧
      shouldRetry (.upstream 401 "busy" "") .openai = true ∧
      (current.runs[0]?.bind fun running => running.rest.value?).isSome = true ∧
      current.toConcurrent = before.toConcurrent := by
  intro before current
  have fails : (before.runs[0]?.bind fun running => localFailure? running.past) =
      some ⟨.ofGateway 401 "busy" "", none⟩ := by
    decide +kernel
  obtain ⟨running, placed, failed⟩ := Option.bind_eq_some_iff.mp fails
  obtain ⟨_, _, beside, _⟩ := local_failures_harmless sampleGateway (firstTurnedAway 401)
    [.relay 0 (turningAway 401)] 0 running _ placed failed
  exact ⟨by decide, by decide, by decide +kernel, (beside rfl).core⟩

/-- A local failure that has the status of a rate limit cools its channel. -/
theorem localRateLimit_cools :
    ¬ ∀ (origin : Gateway) (earlier later : List Happening) (index : Nat) (running : Running)
        (failure : LocalFailure),
      let before := (Traffic.start origin).run earlier
      before.runs[index]? = some running → localFailure? running.past = some failure →
        Traffic.Beside index (before.run later)
          (before.run (later.filter fun happening => !happening.isOf index)) := by
  intro harmless
  let before := (Traffic.start sampleGateway).run (firstTurnedAway 429)
  let current := before.run (List.replicate 2 (.relay 0 (turningAway 429)))
  have fails : (before.runs[0]?.bind fun running => localFailure? running.past) =
      some ⟨.ofGateway 429 "busy" "", some (1, "m")⟩ := by
    decide +kernel
  obtain ⟨running, placed, failed⟩ := Option.bind_eq_some_iff.mp fails
  have same : current.toConcurrent = before.toConcurrent :=
    (harmless sampleGateway (firstTurnedAway 429) _ 0 running _ placed failed).core
  have cooling : current.toConcurrent.gateway.cooldowns.isCooling 1 "m" 0 = true := by decide +kernel
  have rested : before.toConcurrent.gateway.cooldowns.isCooling 1 "m" 0 = false := by decide +kernel
  rw [same, rested] at cooling
  cases cooling

end RelayGateway
