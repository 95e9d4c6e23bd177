import RelayGateway.Gateway.Relay
import RelayGateway.Proofs.Health.Interleaving
import RelayGateway.Proofs.Relay.Conduct

/-! # A gateway in traffic

* `Outside`: what the quota service, the upstreams and the clocks of a run reply in one step.
* `Traffic`: a gateway with health operations and runs of requests side by side; `Happening` is
  whatever can happen to it, and `Traffic.step`, `Traffic.run` let it happen.
* `Traffic.cools?`: the cooldown that a step asks for.
* `step_cooldowns`, `step_now`, `step_built`: what a step can do to the cooldowns, the clock, the table.
* `Traffic.Orderly`: every run under way has conducted itself, and will; it stays so (`Orderly.run`).

The clock of a gateway stands still between the happenings that let time pass, and never goes back.
-/

set_option autoImplicit false

namespace RelayGateway

/-! ## What can happen -/

/-- The replies from outside the gateway in one step of a run. -/
structure Outside where
  reserve : Charge → Except ServiceError Reservation
  dispatch : Channel → String → RelayRequest → Except DispatchFailure DispatchOutcome
  settle : Reservation → Usage → Bool → Except ServiceError Unit
  reverse : Reservation → Except ServiceError Unit
  elapsed : Nat
  draws : Draws

namespace Outside

/-- Partners that leave the gateway alone; what changes it at the same time happens by itself. -/
def partners : Partners Outside where
  reserve charge := fun (gateway, outside) => (outside.reserve charge, (gateway, outside))
  dispatch channel key request := fun (gateway, outside) =>
    (outside.dispatch channel key request, (gateway, outside))
  settle reservation usage stream := fun (gateway, outside) =>
    (outside.settle reservation usage stream, (gateway, outside))
  reverse reservation := fun (gateway, outside) => (outside.reverse reservation, (gateway, outside))
  elapsed outside := outside.elapsed
  draws outside := outside.draws

def answer (outside : Outside) (call : RelayCall) (gateway : Gateway) : RelayReply call × Gateway :=
  let (reply, (gateway, _)) := Gateway.answerRelay partners call (gateway, outside)
  (reply, gateway)

end Outside

/-- A run under way: what it has been told, and what is left of it. -/
structure Running where
  past : RelayTranscript
  rest : RelayProgram RelayResult

/-- A gateway with health operations and runs side by side. -/
structure Traffic extends Concurrent where
  runs : List Running

inductive Happening where
  | arrive (request : RelayRequest)
  | relay (run : Nat) (outside : Outside)
  /-- The health service takes up a failure that was reported to it. -/
  | lookInto (report : Nat)
  | order (order : HealthOrder)
  | health (caller : Nat)
  | registry (event : RegistryEvent)
  | reloadGroups
  | sweep
  /-- Somebody edits the store. -/
  | edit (store : Store)
  | pass (span : Nat)

/-- The steps of looking into a failure; what comes of it is left out. -/
def examine (classifier : Classifier) (channel : Channel) (err : UpstreamError) :
    HealthProgram Unit := do
  let _ ← processFailure classifier channel err
  return ()

namespace Traffic

def start (gateway : Gateway) : Traffic := ⟨⟨gateway, [], []⟩, []⟩

def step (traffic : Traffic) : Happening → Traffic
  | .arrive request =>
    { traffic with runs := traffic.runs ++ [⟨[], relay traffic.gateway.policy request⟩] }
  | .relay run outside =>
    match traffic.runs[run]? with
    | some ⟨past, .ask call next⟩ =>
      let (reply, gateway) := outside.answer call traffic.gateway
      { traffic with
        gateway := gateway
        runs := traffic.runs.set run ⟨past ++ [⟨call, reply⟩], next reply⟩ }
    | some ⟨_, .done _⟩ | none => traffic
  | .lookInto report =>
    match traffic.gateway.reports[report]? with
    | some (channel, err) =>
      { traffic with
        gateway := { traffic.gateway with reports := traffic.gateway.reports.eraseIdx report }
        callers := traffic.callers ++ [examine traffic.gateway.classifier channel err] }
    | none => traffic
  | .order order => { traffic with callers := traffic.callers ++ [order.program] }
  | .health caller => { traffic with toConcurrent := traffic.toConcurrent.step caller }
  | .registry event =>
    { traffic with gateway := { traffic.gateway with registry := traffic.gateway.registry.after event } }
  | .reloadGroups => { traffic with gateway := (Gateway.loadGroups traffic.gateway).2 }
  | .sweep =>
    { traffic with gateway :=
        { traffic.gateway with cooldowns := (traffic.gateway.cooldowns.sweep traffic.gateway.now).2 } }
  | .edit store => { traffic with gateway := { traffic.gateway with store } }
  | .pass span => { traffic with gateway := { traffic.gateway with now := traffic.gateway.now + span } }

def run (traffic : Traffic) (happenings : List Happening) : Traffic := happenings.foldl step traffic

/-- The cooldown that a step asks for. -/
def cools? (traffic : Traffic) : Happening → Option (ChannelId × String)
  | .relay run _ =>
    match traffic.runs[run]? with
    | some ⟨_, .ask (.cool id key) _⟩ => some (id, key)
    | _ => none
  | .arrive _ | .lookInto _ | .order _ | .health _ | .registry _ | .reloadGroups | .sweep | .edit _
  | .pass _ => none

variable {traffic : Traffic}

theorem run_append (traffic : Traffic) (earlier later : List Happening) :
    traffic.run (earlier ++ later) = (traffic.run earlier).run later :=
  List.foldl_append

/-- What every step keeps is kept by a whole run. -/
theorem run_keeps (Kept : Traffic → Prop)
    (keeps : ∀ traffic happening, Kept traffic → Kept (traffic.step happening))
    (h : Kept traffic) (happenings : List Happening) : Kept (traffic.run happenings) := by
  induction happenings generalizing traffic with
  | nil => exact h
  | cons happening happenings ih => exact ih (keeps traffic happening h)

theorem step_relay {run : Nat} {past : RelayTranscript} {call : RelayCall}
    {next : RelayReply call → RelayProgram RelayResult}
    (h : traffic.runs[run]? = some ⟨past, .ask call next⟩) (outside : Outside) :
    traffic.step (.relay run outside) =
      { traffic with
        gateway := (outside.answer call traffic.gateway).2
        runs := traffic.runs.set run
          ⟨past ++ [⟨call, (outside.answer call traffic.gateway).1⟩],
            next (outside.answer call traffic.gateway).1⟩ } := by
  rw [step, h]

/-! ## The gateway after a step -/

/-- A step of a run reports a failure, starts a cooldown, or leaves the gateway as it is. -/
theorem answer_cases (outside : Outside) (call : RelayCall) (gateway : Gateway) :
    (outside.answer call gateway).2 = gateway ∨
      (∃ id key, call = .cool id key ∧ (outside.answer call gateway).2 =
        { gateway with cooldowns := (gateway.cooldowns.set id key gateway.now).2 }) ∨
      ∃ channel err, call = .report channel err ∧ (outside.answer call gateway).2 =
        { gateway with reports := gateway.reports ++ [(channel, err)] } := by
  cases call with
  | cool id key =>
    refine .inr (.inl ⟨id, key, rfl, ?_⟩)
    show { gateway with cooldowns := (gateway.cooldowns.set id key (gateway.now + 0)).2 } = _
    rw [Int.add_zero]
  | report channel err => exact .inr (.inr ⟨channel, err, rfl, rfl⟩)
  | look => exact .inl rfl
  | elapsed => exact .inl rfl
  | storedChannel id => exact .inl rfl
  | reserve charge => exact .inl rfl
  | dispatch channel key request => exact .inl rfl
  | settle reservation usage stream => exact .inl rfl
  | reverse reservation => exact .inl rfl

/-- A step of a run has no part in groups, the routing table or time. -/
theorem answer_frame (outside : Outside) (call : RelayCall) (gateway : Gateway) :
    (outside.answer call gateway).2.groups = gateway.groups ∧
      (outside.answer call gateway).2.registry = gateway.registry ∧
      (outside.answer call gateway).2.now = gateway.now := by
  cases call <;> exact ⟨rfl, rfl, rfl⟩

/-- A step of a run, or nothing at all if there is none left to take. -/
theorem step_relay_cases (traffic : Traffic) (run : Nat) (outside : Outside) :
    (traffic.step (.relay run outside) = traffic ∧
        ∀ running, traffic.runs[run]? = some running → ∃ result, running.rest = .done result) ∨
      ∃ past call next, traffic.runs[run]? = some ⟨past, .ask call next⟩ := by
  cases hrun : traffic.runs[run]? with
  | none =>
    refine .inl ⟨by rw [step, hrun], ?_⟩
    intro running hrunning
    cases hrunning
  | some running =>
    obtain ⟨past, rest⟩ := running
    cases rest with
    | done value =>
      refine .inl ⟨by rw [step, hrun], ?_⟩
      intro running hrunning
      obtain rfl := Option.some.inj hrunning
      exact ⟨value, rfl⟩
    | ask call next => exact .inr ⟨past, call, next, rfl⟩

/-- A health operation has no part in cooldowns, reports or time. -/
theorem answerHealth_frame (call : HealthCall) (gateway : Gateway) :
    (Gateway.answerHealth call gateway).2.cooldowns = gateway.cooldowns ∧
      (Gateway.answerHealth call gateway).2.now = gateway.now ∧
      (Gateway.answerHealth call gateway).2.groups = gateway.groups ∧
      (Gateway.answerHealth call gateway).2.reports = gateway.reports := by
  cases call <;> exact ⟨rfl, rfl, rfl, rfl⟩

theorem health_cases (work : Concurrent) (caller : Nat) :
    work.step caller = work ∨ ∃ call next, work.callers[caller]? = some (.ask call next) ∧
      (work.step caller).gateway = (Gateway.answerHealth call work.gateway).2 ∧
      (work.step caller).callers =
        work.callers.set caller (next (Gateway.answerHealth call work.gateway).1) := by
  rcases work.step_cases caller with hsame | ⟨call, next, hcaller⟩
  · exact .inl hsame
  · refine .inr ⟨call, next, hcaller, ?_, ?_⟩
    · simp only [Concurrent.step, hcaller]
      rfl
    · simp only [Concurrent.step, hcaller]
      rfl

theorem health_frame (work : Concurrent) (caller : Nat) :
    (work.step caller).gateway.cooldowns = work.gateway.cooldowns ∧
      (work.step caller).gateway.now = work.gateway.now ∧
      (work.step caller).gateway.groups = work.gateway.groups ∧
      (work.step caller).gateway.reports = work.gateway.reports := by
  rcases health_cases work caller with h | ⟨call, next, _, hgateway, _⟩
  · rw [h]
    exact ⟨rfl, rfl, rfl, rfl⟩
  · rw [hgateway]
    exact answerHealth_frame call work.gateway

/-- A step starts the cooldown that it asks for, sweeps the table, or leaves it as it is. -/
theorem step_cooldowns (traffic : Traffic) (happening : Happening) :
    (traffic.step happening).gateway.cooldowns = traffic.gateway.cooldowns ∨
      (traffic.step happening).gateway.cooldowns =
        (traffic.gateway.cooldowns.sweep traffic.gateway.now).2 ∨
      ∃ id key, traffic.cools? happening = some (id, key) ∧
        (traffic.step happening).gateway.cooldowns =
          (traffic.gateway.cooldowns.set id key traffic.gateway.now).2 := by
  cases happening with
  | relay run outside =>
    rcases step_relay_cases traffic run outside with ⟨h, _⟩ | ⟨past, call, next, hrun⟩
    · exact .inl (by rw [h])
    rw [step_relay hrun]
    rcases answer_cases outside call traffic.gateway with h | ⟨id, key, rfl, h⟩ | ⟨_, _, _, h⟩
    · exact .inl (by rw [h])
    · refine .inr (.inr ⟨id, key, ?_, by rw [h]⟩)
      rw [cools?, hrun]
    · exact .inl (by rw [h])
  | sweep => exact .inr (.inl rfl)
  | health caller => exact .inl (health_frame traffic.toConcurrent caller).1
  | lookInto report =>
    rw [step]
    split <;> exact .inl rfl
  | arrive request => exact .inl rfl
  | order order => exact .inl rfl
  | registry event => exact .inl rfl
  | reloadGroups => exact .inl rfl
  | edit store => exact .inl rfl
  | pass span => exact .inl rfl

/-- The clock never goes back, and a step that asks for a cooldown takes no time. -/
theorem step_now (traffic : Traffic) (happening : Happening) :
    traffic.gateway.now ≤ (traffic.step happening).gateway.now ∧
      ((traffic.cools? happening).isSome = true →
        (traffic.step happening).gateway.now = traffic.gateway.now) := by
  have still : ∀ moment, moment = traffic.gateway.now → traffic.gateway.now ≤ moment ∧
      ((traffic.cools? happening).isSome = true → moment = traffic.gateway.now) := by
    rintro moment rfl
    exact ⟨Int.le_refl _, fun _ => rfl⟩
  cases happening with
  | relay run outside =>
    apply still
    rcases step_relay_cases traffic run outside with ⟨h, _⟩ | ⟨past, call, next, hrun⟩
    · rw [h]
    rw [step_relay hrun]
    exact (answer_frame outside call traffic.gateway).2.2
  | pass span =>
    refine ⟨?_, fun h => by cases h⟩
    exact Int.le_add_of_nonneg_right (Int.natCast_nonneg span)
  | health caller => exact still _ (health_frame traffic.toConcurrent caller).2.1
  | lookInto report =>
    apply still
    rw [step]
    split <;> rfl
  | sweep => exact still _ rfl
  | arrive request => exact still _ rfl
  | order order => exact still _ rfl
  | registry event => exact still _ rfl
  | reloadGroups => exact still _ rfl
  | edit store => exact still _ rfl

theorem run_now (traffic : Traffic) (happenings : List Happening) :
    traffic.gateway.now ≤ (traffic.run happenings).gateway.now := by
  refine run_keeps (fun later => traffic.gateway.now ≤ later.gateway.now) ?_ (Int.le_refl _)
    happenings
  intro later happening h
  exact Int.le_trans h (step_now later happening).1

theorem step_built (built : traffic.gateway.registry.Built) (happening : Happening) :
    (traffic.step happening).gateway.registry.Built := by
  cases happening with
  | relay run outside =>
    rcases step_relay_cases traffic run outside with ⟨h, _⟩ | ⟨past, call, next, hrun⟩
    · rw [h]
      exact built
    rw [step_relay hrun]
    show (outside.answer call traffic.gateway).2.registry.Built
    rw [(answer_frame outside call traffic.gateway).2.1]
    exact built
  | health caller =>
    show (traffic.toConcurrent.step caller).gateway.registry.Built
    rcases health_cases traffic.toConcurrent caller with h | ⟨call, next, _, hgateway, _⟩
    · rw [h]
      exact built
    · rw [hgateway]
      rcases answerHealth_registry call traffic.gateway with h | ⟨event, h⟩
      · rw [h]
        exact built
      · rw [h]
        exact Registry.built_after built event
  | registry event => exact Registry.built_after built event
  | lookInto report =>
    rw [step]
    split <;> exact built
  | sweep => exact built
  | arrive request => exact built
  | order order => exact built
  | reloadGroups => exact built
  | edit store => exact built
  | pass span => exact built

/-! ## The runs under way -/

/-- The table was built from channels, and every run conducts itself from here on. -/
structure Orderly (traffic : Traffic) : Prop where
  built : traffic.gateway.registry.Built
  abides : ∀ running ∈ traffic.runs,
    Program.Abides relayWatch Settled (ledgerOf running.past) running.rest

theorem Orderly.start {gateway : Gateway} (built : gateway.registry.Built) :
    (Traffic.start gateway).Orderly := by
  refine ⟨built, ?_⟩
  intro running hrunning
  cases hrunning

theorem Orderly.answered (h : traffic.Orderly) {past : RelayTranscript} {call : RelayCall}
    {next : RelayReply call → RelayProgram RelayResult}
    (abides : Program.Abides relayWatch Settled (ledgerOf past) (.ask call next))
    (outside : Outside) :
    Program.Abides relayWatch Settled
      (ledgerOf (past ++ [⟨call, (outside.answer call traffic.gateway).1⟩]))
      (next (outside.answer call traffic.gateway).1) := by
  rw [ledgerOf_append_singleton]
  apply abides.2
  intro sight hentry
  cases call with
  | look =>
    cases hentry
    exact h.built
  | _ => cases hentry

theorem Orderly.step (h : traffic.Orderly) (happening : Happening) :
    (traffic.step happening).Orderly := by
  refine ⟨step_built h.built happening, ?_⟩
  cases happening with
  | relay run outside =>
    rcases step_relay_cases traffic run outside with ⟨hsame, _⟩ | ⟨past, call, next, hrun⟩
    · rw [hsame]
      exact h.abides
    rw [step_relay hrun]
    intro running hrunning
    rcases List.mem_or_eq_of_mem_set hrunning with hold | rfl
    · exact h.abides running hold
    · exact h.answered (h.abides _ (List.mem_of_getElem? hrun)) outside
  | arrive request =>
    intro running hrunning
    rcases List.mem_append.mp hrunning with hold | hnew
    · exact h.abides running hold
    · rw [List.mem_singleton.mp hnew]
      exact abides_relay traffic.gateway.policy request
  | lookInto report =>
    rw [Traffic.step]
    split <;> exact h.abides
  | order order => exact h.abides
  | health caller => exact h.abides
  | registry event => exact h.abides
  | reloadGroups => exact h.abides
  | sweep => exact h.abides
  | edit store => exact h.abides
  | pass span => exact h.abides

theorem Orderly.run (h : traffic.Orderly) (happenings : List Happening) :
    (traffic.run happenings).Orderly :=
  run_keeps Orderly (fun _ happening orderly => orderly.step happening) h happenings

end Traffic

/-- Two channels serve the model of the sample request; the store has them too. -/
def sampleGateway : Gateway :=
  { Gateway.ofSettings {} [] { Store.fresh with
      rows := [{ (default : ChannelRow) with id := 1, statusCode := 1 },
        { (default : ChannelRow) with id := 2, statusCode := 1 }] } with
    registry := sampleSight.registry
    groups := ⟨[⟨"g", "g", .one, true, true⟩]⟩ }

end RelayGateway
