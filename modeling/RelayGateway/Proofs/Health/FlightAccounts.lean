import RelayGateway.Proofs.Health.FlightLog

/-! # The accounts of a run

* `FlightLog.Accounted`, `run_accounted`: leaders, operations, results and entries are kept in order,
  whoever gives up when.
* `overlap_abandoned`: an operation goes on beside a newer one for its key only after its leader has given
  up and left it to those who joined.
-/

set_option autoImplicit false

namespace RelayGateway.FlightLog

variable {κ ν : Type} [DecidableEq κ] {log : FlightLog κ ν}

/-- The accounts of leaders, operations, results and entries are in order. -/
structure Accounted (log : FlightLog κ ν) : Prop where
  /-- Every generation up to the last has one operation and one leader, for the same key. -/
  begun : ∀ generation < log.table.started, ∃ (flight : Flight κ ν) (leader : Waiter κ),
    log.table.flights.filter (·.generation == generation) = [flight] ∧
      log.records.filter (·.begins generation) = [.entered leader] ∧
      flight.leader = leader.caller ∧ flight.key = leader.key
  /-- Nobody enters any other generation, or calls for another key than that of its operation. -/
  boarded : ∀ waiter, .entered waiter ∈ log.records → ∃ flight ∈ log.table.flights,
    flight.generation = waiter.generation ∧ flight.key = waiter.key
  /-- Who returns has entered before, and brings the value with which the operation of that generation
  has ended. Only the result of its leader is not shared. -/
  returned : ∀ earlier waiter (landing : Landing ν) later,
    log.records = earlier ++ .returned waiter landing :: later →
      .entered waiter ∈ earlier ∧ .ended waiter.generation landing.value ∈ earlier ∧
        landing.caller = waiter.caller ∧ (landing.shared = false ↔ waiter.leads = true)
  /-- An operation ends with one value. -/
  ended : ∀ (generation : Nat) (value value' : ν), .ended generation value ∈ log.records →
    .ended generation value' ∈ log.records → value = value'
  /-- A key has one entry at most. -/
  once : (log.table.entries.map (·.1)).Nodup
  /-- There is an entry as long as the leader of its generation has neither returned nor given up. -/
  listed : ∀ (key : κ) (generation : Nat), (key, generation) ∈ log.table.entries ↔
    ∃ leader, .entered leader ∈ log.records ∧ leader.leads = true ∧ leader.key = key ∧
      leader.generation = generation ∧ ¬ log.HasLeft leader
  /-- An entry disappears when the leader of its generation leaves or gives up, and not otherwise. -/
  released : ∀ event, ∀ entry ∈ log.table.entries, entry ∉ (log.step event).table.entries →
    ∃ leader ∈ log.table.waiters, leader.leads = true ∧ entry = (leader.key, leader.generation) ∧
      (event = .leave leader.caller ∨ event = .cancel leader.caller)
  /-- A call that finds no entry for its key starts an operation. -/
  starts : ∀ (caller : String) (key : κ), log.table.waiter? caller = none →
    (∀ generation, (key, generation) ∉ log.table.entries) →
      let generation := log.table.started
      log.step (.call caller key) =
        ⟨{ entries := log.table.entries ++ [(key, generation)]
           flights := log.table.flights ++ [⟨key, generation, caller, none⟩]
           waiters := log.table.waiters ++ [⟨caller, key, generation, true⟩] },
          log.records ++ [.entered ⟨caller, key, generation, true⟩]⟩
  /-- A call that finds an entry for its key joins the operation of that generation. -/
  joins : ∀ (caller : String) (key : κ) (generation : Nat), log.table.waiter? caller = none →
    (key, generation) ∈ log.table.entries →
      log.step (.call caller key) =
        ⟨{ log.table with waiters := log.table.waiters ++ [⟨caller, key, generation, false⟩] },
          log.records ++ [.entered ⟨caller, key, generation, false⟩]⟩
  /-- When all who have entered are gone, nothing is in flight. -/
  settled : (∀ waiter, .entered waiter ∈ log.records → log.HasLeft waiter) → log.table.inFlight = 0

theorem Kept.accounted (kept : log.Kept) : log.Accounted := by
  constructor
  case begun =>
    intro generation hstarted
    have hplaced := List.getElem?_eq_getElem hstarted
    exact ⟨_, _, kept.sound.filter_flights hplaced, kept.begun generation _ hplaced, rfl, rfl⟩
  case boarded =>
    intro waiter hentered
    obtain ⟨flight, hflight, hkey⟩ := kept.boarded waiter hentered
    exact ⟨flight, List.mem_of_getElem? hflight, kept.sound.numbered _ flight hflight, hkey⟩
  case returned =>
    intro earlier waiter landing later hrecords
    obtain ⟨hentered, hended, hlanding⟩ := kept.returned earlier waiter landing later hrecords
    refine ⟨hentered, hended, congrArg Landing.caller hlanding, ?_⟩
    rw [congrArg Landing.shared hlanding, Bool.not_eq_false']
  case ended =>
    intro generation value value' hended hended'
    obtain ⟨flight, hflight, hvalue⟩ := (kept.ended generation value).mp hended
    obtain ⟨flight', hflight', hvalue'⟩ := (kept.ended generation value').mp hended'
    cases hflight.symm.trans hflight'
    exact Option.some.inj (hvalue.symm.trans hvalue')
  case once => exact kept.sound.once
  case listed =>
    intro key generation
    rw [kept.listed]
    constructor
    · rintro ⟨leader, hwaits⟩
      have hentered := kept.waiting _ hwaits
      exact ⟨_, hentered, rfl, rfl, rfl, (kept.leading _ rfl hentered).mp hwaits⟩
    · rintro ⟨⟨leader, _, _, _⟩, hentered, rfl, rfl, rfl, hstays⟩
      exact ⟨leader, (kept.leading _ rfl hentered).mpr hstays⟩
  case released =>
    intro event entry hentry hgone
    have hmoves := step_moves kept.sound event
    generalize log.step event = after at hmoves hgone
    cases hmoves with
    | stays | joins => exact absurd hentry hgone
    | starts => exact absurd (List.mem_append_left _ hentry) hgone
    | ends awaited =>
      rw [FlightTable.complete_eq awaited] at hgone
      exact absurd hentry hgone
    | @returns waiter _ _ waits =>
      obtain ⟨hleads, hown⟩ := FlightTable.entry_lost hentry hgone
      exact ⟨waiter, waits, hleads, hown, .inl rfl⟩
    | @givesUp waiter waits =>
      obtain ⟨hleads, hown⟩ := FlightTable.entry_lost hentry hgone
      exact ⟨waiter, waits, hleads, hown, .inr rfl⟩
  case starts =>
    intro caller key absent free
    refine step_call_unlisted absent (Option.eq_none_iff_forall_ne_some.mpr fun generation hfound => ?_)
    exact free generation (kept.sound.generation?_eq_some.mp hfound)
  case joins =>
    intro caller key generation absent listed
    exact step_call_listed kept.sound absent listed
  case settled =>
    intro hgone
    refine List.length_eq_zero_iff.mpr (List.eq_nil_iff_forall_not_mem.mpr ?_)
    rintro ⟨key, generation⟩ hentry
    obtain ⟨leader, hwaits⟩ := (kept.listed key generation).mp hentry
    have hentered := kept.waiting _ hwaits
    exact (kept.leading _ rfl hentered).mp hwaits (hgone _ hentered)

/-- Calls, ends of operations, returns and cancellations may follow each other in any order, by any
callers and for any keys. The accounts are in order at every moment. -/
theorem run_accounted {κ ν : Type} [DecidableEq κ] (events : List (FlightEvent κ ν)) :
    (run events).Accounted :=
  (kept_run events).accounted

/-! ## Operations side by side -/

/-- An operation goes on after a newer one for its key has started only if its leader has given up and
left it to callers who have joined. -/
theorem overlap_abandoned {κ ν : Type} [DecidableEq κ] (events : List (FlightEvent κ ν))
    (older newer : Nat) (flight flight' : Flight κ ν)
    (placed : (run events).table.flight? older = some flight)
    (placed' : (run events).table.flight? newer = some flight') (same : flight.key = flight'.key)
    (order : older < newer) (running : (run events).table.isRunning older = true) :
    .gaveUp ⟨flight.leader, flight.key, older, true⟩ ∈ (run events).records ∧
      (∃ waiter ∈ (run events).table.waiters, waiter.generation = older) ∧
      (∀ waiter ∈ (run events).table.waiters, waiter.generation = older → waiter.leads = false) ∧
      (flight.key, older) ∉ (run events).table.entries := by
  have kept := kept_run events
  rw [kept.sound.flight?_eq] at placed placed'
  obtain ⟨hawaited, flight'', hplaced, hvalue⟩ := (isRunning_iff kept.sound).mp running
  obtain rfl : flight = flight'' := Option.some.inj (placed.symm.trans hplaced)
  have hgone : (flight.key, older) ∉ (run events).table.entries :=
    kept.overtaken older newer flight flight' placed placed' same order
  have hentered : .entered ⟨flight.leader, flight.key, older, true⟩ ∈ (run events).records := by
    refine List.mem_of_mem_filter (p := (·.begins older)) ?_
    rw [kept.begun older flight placed]
    exact List.mem_singleton_self _
  have habsent : ⟨flight.leader, flight.key, older, true⟩ ∉ (run events).table.waiters :=
    fun hwaits => hgone ((kept.listed _ _).mpr ⟨_, hwaits⟩)
  refine ⟨?_, FlightTable.isAwaited_iff.mp hawaited, ?_, hgone⟩
  · rw [kept.leading _ rfl hentered, not_not] at habsent
    obtain ⟨record, hrecord, hleft⟩ := habsent
    cases record with
    | entered | ended => cases hleft
    | gaveUp => exact Option.some.inj hleft ▸ hrecord
    | returned waiter landing =>
      -- a result of the older operation would mean that it has ended
      obtain rfl := Option.some.inj hleft
      obtain ⟨earlier, later, hrecords⟩ := List.append_of_mem hrecord
      obtain ⟨_, hended, _⟩ := kept.returned earlier _ landing later hrecords
      have hended' := hrecords ▸ List.mem_append_left _ hended
      obtain ⟨_, hflight, hvalue'⟩ := (kept.ended older landing.value).mp hended'
      cases placed.symm.trans hflight
      cases hvalue.symm.trans hvalue'
  · intro waiter hwaits hgeneration
    rw [← Bool.not_eq_true]
    intro hleads
    have hsame := kept.one_leader (kept.waiting waiter hwaits) hleads hentered rfl hgeneration
    exact habsent (hsame ▸ hwaits)

/-- A leader gives up while another caller waits with it, and a third one calls. -/
def orphaning : List (FlightEvent String Nat) :=
  [.call "a" "k", .call "b" "k", .cancel "a", .call "c" "k"]

theorem orphaned_abandoned :
    (run orphaning).table.isRunning 0 = true ∧ (run orphaning).table.isRunning 1 = true ∧
      .gaveUp ⟨"a", "k", 0, true⟩ ∈ (run orphaning).records := by
  have running : (run orphaning).table.isRunning 0 = true := by decide
  obtain ⟨hgaveUp, _⟩ := overlap_abandoned orphaning 0 1 ⟨"k", 0, "a", none⟩ ⟨"k", 1, "c", none⟩
    rfl rfl rfl (by decide) running
  exact ⟨running, by decide, hgaveUp⟩

/-- Two operations for one key can be under way together. -/
theorem operations_overlap :
    ¬ ∀ (events : List (FlightEvent String Nat)) (older newer : Nat) (flight flight' : Flight String Nat),
      (run events).table.flight? older = some flight →
        (run events).table.flight? newer = some flight' → older ≠ newer →
          (run events).table.isRunning older = true → (run events).table.isRunning newer = true →
            flight.key ≠ flight'.key := by
  intro exclusive
  exact exclusive orphaning 0 1 ⟨"k", 0, "a", none⟩ ⟨"k", 1, "c", none⟩ rfl rfl (by decide)
    (by decide) (by decide) rfl

end RelayGateway.FlightLog
