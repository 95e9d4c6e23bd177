import RelayGateway.Proofs.Health.Flights

/-! # The log of a table of flights

* `FlightEvent`, `FlightLog.step`: a call, the end of an operation, a return or a cancellation, and what
  the table and the records are after it. Events may follow each other in any order.
* `FlightLog.Moves`: all that an event can do (`step_moves`).
* `FlightLog.Kept`: what the records tell of the table. Every step keeps it (`Kept.moves`), so it holds
  after every run (`kept_run`).
-/

set_option autoImplicit false

namespace RelayGateway

/-- What can happen next to the callers and the operations of a table. -/
inductive FlightEvent (κ ν : Type) where
  | call (caller : String) (key : κ)
  | finish (generation : Nat) (value : ν)
  | leave (caller : String)
  | cancel (caller : String)

inductive FlightRecord (κ ν : Type) where
  | entered (waiter : Waiter κ)
  | ended (generation : Nat) (value : ν)
  | returned (waiter : Waiter κ) (landing : Landing ν)
  | gaveUp (waiter : Waiter κ)

namespace FlightRecord

variable {κ ν : Type}

/-- Whether a caller has started the operation of a generation. -/
def begins (generation : Nat) : FlightRecord κ ν → Bool
  | .entered waiter => waiter.leads && waiter.generation == generation
  | .ended .. | .returned .. | .gaveUp _ => false

/-- The caller who has returned or given up. -/
def left? : FlightRecord κ ν → Option (Waiter κ)
  | .returned waiter _ | .gaveUp waiter => some waiter
  | .entered _ | .ended .. => none

end FlightRecord

/-- A table and all that has happened to it, oldest first. -/
structure FlightLog (κ ν : Type) where
  table : FlightTable κ ν
  records : List (FlightRecord κ ν)

/-- Whether an operation has not ended and somebody waits for it. -/
def FlightTable.isRunning {κ ν : Type} (table : FlightTable κ ν) (generation : Nat) : Bool :=
  table.isAwaited generation && (table.flight? generation).any fun flight => flight.value.isNone

section Entering

variable {κ ν : Type} [DecidableEq κ] {table : FlightTable κ ν} {key : κ}

theorem FlightTable.enter_listed {generation : Nat} (h : table.Sound)
    (listed : (key, generation) ∈ table.entries) (caller : String) :
    table.enter caller key =
      { table with waiters := table.waiters ++ [⟨caller, key, generation, false⟩] } := by
  unfold enter
  rw [h.generation?_eq_some.mpr listed]

theorem FlightTable.enter_unlisted (unlisted : table.generation? key = none) (caller : String) :
    table.enter caller key =
      { entries := table.entries ++ [(key, table.started)]
        flights := table.flights ++ [⟨key, table.started, caller, none⟩]
        waiters := table.waiters ++ [⟨caller, key, table.started, true⟩] } := by
  unfold enter
  rw [unlisted]

/-- A leader takes its own entry with it, and a caller who has joined takes none. -/
theorem FlightTable.mem_entriesWithout_iff {waiter : Waiter κ} {entry : κ × Nat} :
    entry ∈ table.entriesWithout waiter ↔
      entry ∈ table.entries ∧
        ¬ (waiter.leads = true ∧ entry = (waiter.key, waiter.generation)) := by
  unfold entriesWithout
  split
  · rename_i hleads
    rw [List.mem_filter, Bool.not_eq_true', ← Bool.not_eq_true, Bool.and_eq_true, decide_eq_true_eq,
      beq_iff_eq, Prod.ext_iff]
    simp only [hleads, true_and]
  · rename_i hjoined
    simp [hjoined]

theorem FlightTable.entry_lost {waiter : Waiter κ} {entry : κ × Nat} (listed : entry ∈ table.entries)
    (lost : entry ∉ table.entriesWithout waiter) :
    waiter.leads = true ∧ entry = (waiter.key, waiter.generation) := by
  rw [mem_entriesWithout_iff, not_and, not_not] at lost
  exact lost listed

end Entering

/-- When an operation ends, its flight has the value, and the others stay. -/
theorem FlightTable.complete_flights {κ ν : Type} {table : FlightTable κ ν} {generation : Nat}
    {flight : Flight κ ν} {value : ν} (awaited : table.isAwaited generation = true) (h : table.Sound)
    (placed : table.flights[generation]? = some flight) (running : flight.value = none)
    (number : Nat) : (table.complete generation value).flights[number]? =
      if number = generation then some { flight with value := some value }
      else table.flights[number]? := by
  rw [complete_eq awaited, List.getElem?_map]
  split
  · rename_i hsame
    rw [hsame, placed, Option.map_some, h.numbered generation flight placed, running]
    simp
  · rename_i hother
    cases hflight : table.flights[number]? with
    | none => rfl
    | some other =>
      rw [Option.map_some, h.numbered number other hflight]
      simp [hother]

theorem FlightTable.Sound.filter_flights {κ ν : Type} {table : FlightTable κ ν} (h : table.Sound)
    {generation : Nat} {flight : Flight κ ν} (placed : table.flights[generation]? = some flight) :
    table.flights.filter (·.generation == generation) = [flight] := by
  have distinct : table.flights.Nodup := by
    refine List.pairwise_iff_getElem.mpr fun i j hi hj hlt hsame => ?_
    have hi' := h.numbered i _ (List.getElem?_eq_getElem hi)
    have hj' := h.numbered j _ (List.getElem?_eq_getElem hj)
    rw [hsame, hj'] at hi'
    omega
  refine List.perm_singleton.mp ((List.perm_ext_iff_of_nodup (distinct.filter _)
    (List.nodup_singleton _)).mpr fun other => ?_)
  rw [List.mem_filter, beq_iff_eq, List.mem_singleton]
  constructor
  · rintro ⟨hother, hgeneration⟩
    obtain ⟨number, hnumber⟩ := List.getElem?_of_mem hother
    rw [← h.numbered number other hnumber, hgeneration, placed] at hnumber
    exact (Option.some.inj hnumber).symm
  · rintro rfl
    exact ⟨List.mem_of_getElem? placed, h.numbered _ _ placed⟩

namespace FlightLog

variable {κ ν : Type}

def empty : FlightLog κ ν := ⟨.empty, []⟩

/-- Whether a caller has returned or given up. -/
def HasLeft (log : FlightLog κ ν) (waiter : Waiter κ) : Prop :=
  ∃ record ∈ log.records, record.left? = some waiter

/-- A caller who waits already does not call, and an operation ends once and only under somebody's
eyes. Who has no result yet does not return. -/
def step [DecidableEq κ] (log : FlightLog κ ν) : FlightEvent κ ν → FlightLog κ ν
  | .call caller key =>
    if (log.table.waiter? caller).isSome then log
    else
      let table := log.table.enter caller key
      ⟨table, log.records ++ (table.waiter? caller).toList.map .entered⟩
  | .finish generation value =>
    if log.table.isRunning generation then
      ⟨log.table.complete generation value, log.records ++ [.ended generation value]⟩
    else log
  | .leave caller =>
    match log.table.waiter? caller, log.table.leave caller with
    | some waiter, (some landing, table) => ⟨table, log.records ++ [.returned waiter landing]⟩
    | _, _ => log
  | .cancel caller =>
    match log.table.waiter? caller with
    | some waiter => ⟨log.table.cancel caller, log.records ++ [.gaveUp waiter]⟩
    | none => log

def run [DecidableEq κ] (events : List (FlightEvent κ ν)) : FlightLog κ ν := events.foldl step empty

/-! ## What an event can do -/

variable {log : FlightLog κ ν} {caller : String} {key : κ} {generation : Nat}

theorem waiter?_append {waiters : List (Waiter κ)} (waiter : Waiter κ) (entries : List (κ × Nat))
    (flights : List (Flight κ ν)) (absent : ∀ other ∈ waiters, other.caller ≠ waiter.caller) :
    FlightTable.waiter? ⟨entries, flights, waiters ++ [waiter]⟩ waiter.caller = some waiter := by
  have hnone : (waiters.find? fun other => other.caller == waiter.caller) = none := by
    simpa using absent
  rw [FlightTable.waiter?, List.find?_append, hnone]
  simp

theorem isRunning_iff (h : log.table.Sound) : log.table.isRunning generation = true ↔
    log.table.isAwaited generation = true ∧
      ∃ flight, log.table.flights[generation]? = some flight ∧ flight.value = none := by
  rw [FlightTable.isRunning, Bool.and_eq_true, h.flight?_eq, Option.any_eq_true]
  simp only [Option.isNone_iff_eq_none]

section Moves

variable [DecidableEq κ]

inductive Moves (log : FlightLog κ ν) : FlightEvent κ ν → FlightLog κ ν → Prop
  | stays (event : FlightEvent κ ν) : Moves log event log
  | joins {caller : String} {key : κ} {generation : Nat}
      (absent : log.table.waiter? caller = none) (listed : (key, generation) ∈ log.table.entries) :
      Moves log (.call caller key)
        ⟨{ log.table with waiters := log.table.waiters ++ [⟨caller, key, generation, false⟩] },
          log.records ++ [.entered ⟨caller, key, generation, false⟩]⟩
  | starts {caller : String} {key : κ}
      (absent : log.table.waiter? caller = none) (unlisted : log.table.generation? key = none) :
      Moves log (.call caller key)
        ⟨{ entries := log.table.entries ++ [(key, log.table.started)]
           flights := log.table.flights ++ [⟨key, log.table.started, caller, none⟩]
           waiters := log.table.waiters ++ [⟨caller, key, log.table.started, true⟩] },
          log.records ++ [.entered ⟨caller, key, log.table.started, true⟩]⟩
  | ends {generation : Nat} {value : ν} {flight : Flight κ ν}
      (awaited : log.table.isAwaited generation = true)
      (placed : log.table.flights[generation]? = some flight) (running : flight.value = none) :
      Moves log (.finish generation value)
        ⟨log.table.complete generation value, log.records ++ [.ended generation value]⟩
  | returns {waiter : Waiter κ} {flight : Flight κ ν} {value : ν}
      (waits : waiter ∈ log.table.waiters)
      (placed : log.table.flights[waiter.generation]? = some flight)
      (ended : flight.value = some value) :
      Moves log (.leave waiter.caller)
        ⟨log.table.remove waiter,
          log.records ++ [.returned waiter ⟨waiter.caller, value, !waiter.leads⟩]⟩
  | givesUp {waiter : Waiter κ} (waits : waiter ∈ log.table.waiters) :
      Moves log (.cancel waiter.caller)
        ⟨log.table.remove waiter, log.records ++ [.gaveUp waiter]⟩

theorem step_call_listed (h : log.table.Sound) (absent : log.table.waiter? caller = none)
    (listed : (key, generation) ∈ log.table.entries) :
    log.step (.call caller key) =
      ⟨{ log.table with waiters := log.table.waiters ++ [⟨caller, key, generation, false⟩] },
        log.records ++ [.entered ⟨caller, key, generation, false⟩]⟩ := by
  have hfound := waiter?_append ⟨caller, key, generation, false⟩ log.table.entries
    log.table.flights (FlightTable.waiter?_eq_none.mp absent)
  unfold step
  dsimp only at hfound ⊢
  rw [absent, FlightTable.enter_listed h listed, hfound]
  rfl

theorem step_call_unlisted (absent : log.table.waiter? caller = none)
    (unlisted : log.table.generation? key = none) :
    log.step (.call caller key) =
      ⟨{ entries := log.table.entries ++ [(key, log.table.started)]
         flights := log.table.flights ++ [⟨key, log.table.started, caller, none⟩]
         waiters := log.table.waiters ++ [⟨caller, key, log.table.started, true⟩] },
        log.records ++ [.entered ⟨caller, key, log.table.started, true⟩]⟩ := by
  have hfound := waiter?_append ⟨caller, key, log.table.started, true⟩
    (log.table.entries ++ [(key, log.table.started)])
    (log.table.flights ++ [⟨key, log.table.started, caller, none⟩])
    (FlightTable.waiter?_eq_none.mp absent)
  unfold step
  dsimp only at hfound ⊢
  rw [absent, FlightTable.enter_unlisted unlisted, hfound]
  rfl

theorem step_moves (h : log.table.Sound) (event : FlightEvent κ ν) :
    Moves log event (log.step event) := by
  cases event with
  | call caller key =>
    cases habsent : log.table.waiter? caller with
    | some waiter =>
      have hstays : log.step (.call caller key) = log := by
        rw [step, habsent]
        rfl
      rw [hstays]
      exact .stays _
    | none =>
      cases hunlisted : log.table.generation? key with
      | some generation =>
        have hlisted := h.generation?_eq_some.mp hunlisted
        rw [step_call_listed h habsent hlisted]
        exact .joins habsent hlisted
      | none =>
        rw [step_call_unlisted habsent hunlisted]
        exact .starts habsent hunlisted
  | finish generation value =>
    unfold step
    dsimp only
    split
    · rename_i hrunning
      obtain ⟨hawaited, flight, hplaced, hvalue⟩ := (isRunning_iff h).mp hrunning
      exact .ends hawaited hplaced hvalue
    · exact .stays _
  | leave caller =>
    unfold step
    dsimp only
    split
    · rename_i waiter landing table hwaiter hleave
      obtain ⟨waiter', flight, hwaiter', hplaced, hvalue, hlanding, hremoved⟩ :=
        h.leave_cases (congrArg Prod.fst hleave)
      obtain rfl : waiter = waiter' := Option.some.inj (hwaiter.symm.trans hwaiter')
      obtain ⟨hwaits, rfl⟩ := FlightTable.waiter?_mem hwaiter
      obtain rfl : table = log.table.remove waiter := (congrArg Prod.snd hleave).symm.trans hremoved
      rw [hlanding]
      exact .returns hwaits hplaced hvalue
    · exact .stays _
  | cancel caller =>
    unfold step FlightTable.cancel
    dsimp only
    cases hwaiter : log.table.waiter? caller with
    | none => exact .stays _
    | some waiter =>
      obtain ⟨hwaits, rfl⟩ := FlightTable.waiter?_mem hwaiter
      exact .givesUp hwaits

end Moves

/-! ## What the records tell of the table -/

/-- What the records tell of the table. -/
structure Kept (log : FlightLog κ ν) : Prop where
  sound : log.table.Sound
  begun : ∀ (generation : Nat) (flight : Flight κ ν), log.table.flights[generation]? = some flight →
    log.records.filter (·.begins generation) =
      [.entered ⟨flight.leader, flight.key, generation, true⟩]
  boarded : ∀ waiter, .entered waiter ∈ log.records → ∃ flight : Flight κ ν,
    log.table.flights[waiter.generation]? = some flight ∧ flight.key = waiter.key
  waiting : ∀ waiter ∈ log.table.waiters, .entered waiter ∈ log.records
  left : ∀ waiter, log.HasLeft waiter → .entered waiter ∈ log.records
  leading : ∀ waiter, waiter.leads = true → .entered waiter ∈ log.records →
    (waiter ∈ log.table.waiters ↔ ¬ log.HasLeft waiter)
  listed : ∀ (key : κ) (generation : Nat), (key, generation) ∈ log.table.entries ↔
    ∃ leader, ⟨leader, key, generation, true⟩ ∈ log.table.waiters
  ended : ∀ (generation : Nat) (value : ν), .ended generation value ∈ log.records ↔
    ∃ flight : Flight κ ν, log.table.flights[generation]? = some flight ∧ flight.value = some value
  overtaken : ∀ (older newer : Nat) (flight flight' : Flight κ ν),
    log.table.flights[older]? = some flight → log.table.flights[newer]? = some flight' →
      flight.key = flight'.key → older < newer → (flight.key, older) ∉ log.table.entries
  returned : ∀ earlier waiter (landing : Landing ν) later,
    log.records = earlier ++ .returned waiter landing :: later →
      .entered waiter ∈ earlier ∧ .ended waiter.generation landing.value ∈ earlier ∧
        landing = ⟨waiter.caller, landing.value, !waiter.leads⟩

theorem kept_empty : (empty : FlightLog κ ν).Kept := by
  constructor
  case sound => exact FlightTable.sound_empty
  all_goals simp [empty, FlightTable.empty, HasLeft]

theorem hasLeft_append {log : FlightLog κ ν} {table : FlightTable κ ν} {record : FlightRecord κ ν}
    {waiter : Waiter κ} : HasLeft ⟨table, log.records ++ [record]⟩ waiter ↔
      log.HasLeft waiter ∨ record.left? = some waiter := by
  simp [HasLeft, or_and_right, exists_or]

theorem returned_append {records : List (FlightRecord κ ν)} {record : FlightRecord κ ν}
    {rightful : List (FlightRecord κ ν) → Waiter κ → Landing ν → Prop}
    (old : ∀ earlier waiter landing later, records = earlier ++ .returned waiter landing :: later →
      rightful earlier waiter landing)
    (new : ∀ waiter landing, record = .returned waiter landing → rightful records waiter landing) :
    ∀ earlier waiter landing later,
      records ++ [record] = earlier ++ .returned waiter landing :: later →
        rightful earlier waiter landing := by
  intro earlier waiter landing later hrecords
  rcases append_singleton_eq hrecords with ⟨rfl, hrecord, _⟩ | ⟨later', _, hold⟩
  · exact new waiter landing hrecord.symm
  · exact old earlier waiter landing later' hold

namespace Kept

variable {waiter : Waiter κ} (kept : log.Kept)
include kept

theorem one_leader {other : Waiter κ} (entered : .entered waiter ∈ log.records)
    (leads : waiter.leads = true) (entered' : .entered other ∈ log.records)
    (leads' : other.leads = true) (same : waiter.generation = other.generation) : waiter = other := by
  obtain ⟨flight, hflight, _⟩ := kept.boarded waiter entered
  have hbegun := kept.begun _ flight hflight
  have begins : ∀ w : Waiter κ, .entered w ∈ log.records → w.leads = true →
      w.generation = waiter.generation → w = ⟨flight.leader, flight.key, waiter.generation, true⟩ := by
    intro w hentered hleads hgeneration
    have hmem : .entered w ∈ log.records.filter (·.begins waiter.generation) := by
      rw [List.mem_filter]
      exact ⟨hentered, by simp [FlightRecord.begins, hleads, hgeneration]⟩
    rw [hbegun, List.mem_singleton] at hmem
    exact FlightRecord.entered.inj hmem
  rw [begins waiter entered leads rfl, begins other entered' leads' same.symm]

theorem waiting_append (new : Waiter κ) : ∀ waiter ∈ log.table.waiters ++ [new],
    .entered waiter ∈ log.records ++ [.entered new] := by
  intro waiter hwaits
  rcases List.mem_append.mp hwaits with hold | hnew
  · exact List.mem_append_left _ (kept.waiting waiter hold)
  · rw [List.mem_singleton.mp hnew]
    exact List.mem_append_right _ (List.mem_singleton_self _)

theorem left_append {table : FlightTable κ ν} {record : FlightRecord κ ν}
    (stays : record.left? = none) : ∀ waiter,
      HasLeft ⟨table, log.records ++ [record]⟩ waiter → .entered waiter ∈ log.records ++ [record] := by
  intro waiter hleft
  rcases hasLeft_append.mp hleft with hold | hnew
  · exact List.mem_append_left _ (kept.left waiter hold)
  · rw [stays] at hnew
    cases hnew

theorem joins [DecidableEq κ] (absent : log.table.waiter? caller = none)
    (listed : (key, generation) ∈ log.table.entries) :
    Kept ⟨{ log.table with waiters := log.table.waiters ++ [⟨caller, key, generation, false⟩] },
      log.records ++ [.entered ⟨caller, key, generation, false⟩]⟩ := by
  have not_leading : ∀ waiter : Waiter κ, waiter.leads = true →
      waiter ≠ ⟨caller, key, generation, false⟩ := by
    rintro waiter hleads rfl
    cases hleads
  constructor
  case sound =>
    have hentered : (log.table.enter caller key).Sound := kept.sound.enter absent
    rwa [FlightTable.enter_listed kept.sound listed] at hentered
  case begun =>
    intro number flight hflight
    rw [List.filter_append, kept.begun number flight hflight]
    rfl
  case boarded =>
    intro waiter hentered
    rcases List.mem_append.mp hentered with hold | hnew
    · exact kept.boarded waiter hold
    · cases List.mem_singleton.mp hnew
      exact kept.sound.entered key generation listed
  case waiting => exact kept.waiting_append _
  case left => exact kept.left_append rfl
  case leading =>
    intro waiter hleads hentered
    have hother := not_leading waiter hleads
    have hold : .entered waiter ∈ log.records := by simpa [hother] using hentered
    rw [hasLeft_append, List.mem_append, List.mem_singleton, kept.leading waiter hleads hold]
    simp [hother, FlightRecord.left?]
  case listed =>
    intro key' number
    rw [kept.listed]
    simp
  case ended =>
    intro number value
    rw [← kept.ended]
    simp
  case overtaken => exact kept.overtaken
  case returned =>
    refine returned_append kept.returned fun waiter landing hrecord => ?_
    cases hrecord

theorem not_started (entered : .entered waiter ∈ log.records) :
    waiter.generation ≠ log.table.started := by
  obtain ⟨flight, hflight, _⟩ := kept.boarded waiter entered
  obtain ⟨hlt, _⟩ := List.getElem?_eq_some_iff.mp hflight
  exact Nat.ne_of_lt hlt

theorem starts [DecidableEq κ] (absent : log.table.waiter? caller = none)
    (unlisted : log.table.generation? key = none) :
    Kept ⟨{ entries := log.table.entries ++ [(key, log.table.started)]
            flights := log.table.flights ++ [⟨key, log.table.started, caller, none⟩]
            waiters := log.table.waiters ++ [⟨caller, key, log.table.started, true⟩] },
      log.records ++ [.entered ⟨caller, key, log.table.started, true⟩]⟩ := by
  have sound' : (log.table.enter caller key).Sound := kept.sound.enter absent
  rw [FlightTable.enter_unlisted unlisted] at sound'
  have free : ∀ number, (key, number) ∉ log.table.entries := by
    intro number hentry
    rw [kept.sound.generation?_eq_some.mpr hentry] at unlisted
    cases unlisted
  constructor
  case sound => exact sound'
  case begun =>
    intro number flight hflight
    rw [List.filter_append]
    rcases getElem?_append_singleton hflight with hold | ⟨rfl, rfl⟩
    · have hother : log.table.started ≠ number :=
        Nat.ne_of_gt (List.getElem?_eq_some_iff.mp hold).1
      rw [kept.begun number flight hold]
      simp [FlightRecord.begins, hother]
    · have hnone : log.records.filter (·.begins log.table.flights.length) = [] := by
        refine List.filter_eq_nil_iff.mpr fun record hrecord hbegins => ?_
        cases record with
        | entered waiter =>
          rw [FlightRecord.begins, Bool.and_eq_true, beq_iff_eq] at hbegins
          exact kept.not_started hrecord hbegins.2
        | ended | returned | gaveUp => cases hbegins
      rw [hnone]
      simp [FlightRecord.begins, FlightTable.started]
  case boarded =>
    intro waiter hentered
    rcases List.mem_append.mp hentered with hold | hnew
    · obtain ⟨flight, hflight, hkey⟩ := kept.boarded waiter hold
      exact ⟨flight, getElem?_append_of_some hflight _, hkey⟩
    · cases List.mem_singleton.mp hnew
      exact ⟨_, List.getElem?_concat_length, rfl⟩
  case waiting => exact kept.waiting_append _
  case left => exact kept.left_append rfl
  case leading =>
    intro waiter hleads hentered
    rw [hasLeft_append, List.mem_append, List.mem_singleton]
    rcases List.mem_append.mp hentered with hold | hnew
    · have hother : waiter ≠ ⟨caller, key, log.table.started, true⟩ := by
        rintro rfl
        exact kept.not_started hold rfl
      rw [kept.leading waiter hleads hold]
      simp [hother, FlightRecord.left?]
    · have hsame := FlightRecord.entered.inj (List.mem_singleton.mp hnew)
      have hstays : ¬ log.HasLeft waiter := by
        intro hleft
        refine kept.not_started (kept.left waiter hleft) ?_
        rw [hsame]
      simp [hsame ▸ hstays, hsame, FlightRecord.left?]
  case listed =>
    intro key' number
    rw [List.mem_append, kept.listed]
    simp [exists_or, and_comm]
  case ended =>
    intro number value
    rw [List.mem_append, kept.ended]
    constructor
    · rintro (⟨flight, hflight, hvalue⟩ | hnew)
      · exact ⟨flight, getElem?_append_of_some hflight _, hvalue⟩
      · cases List.mem_singleton.mp hnew
    · rintro ⟨flight, hflight, hvalue⟩
      rcases getElem?_append_singleton hflight with hold | ⟨rfl, rfl⟩
      · exact .inl ⟨flight, hold, hvalue⟩
      · cases hvalue
  case overtaken =>
    intro older newer flight flight' hflight hflight' hkey holder hentry
    obtain ⟨hlt', _⟩ := List.getElem?_eq_some_iff.mp hflight'
    rw [List.length_append, List.length_singleton] at hlt'
    -- the older flight was there before, and a flight that starts finds no entry for its key
    rcases getElem?_append_singleton hflight with hold | ⟨rfl, _⟩
    · have hentry' : (flight.key, older) ∈ log.table.entries := by
        rcases List.mem_append.mp hentry with hentry | hnew
        · exact hentry
        · cases List.mem_singleton.mp hnew
          obtain ⟨hlt, _⟩ := List.getElem?_eq_some_iff.mp hold
          exact absurd hlt (Nat.lt_irrefl _)
      rcases getElem?_append_singleton hflight' with hold' | ⟨_, rfl⟩
      · exact kept.overtaken older newer flight flight' hold hold' hkey holder hentry'
      · rw [hkey] at hentry'
        exact free older hentry'
    · omega
  case returned =>
    refine returned_append kept.returned fun waiter landing hrecord => ?_
    cases hrecord

theorem ends {value : ν} {flight : Flight κ ν} (awaited : log.table.isAwaited generation = true)
    (placed : log.table.flights[generation]? = some flight) (running : flight.value = none) :
    Kept ⟨log.table.complete generation value, log.records ++ [.ended generation value]⟩ := by
  have hentries : (log.table.complete generation value).entries = log.table.entries := by
    rw [FlightTable.complete_eq awaited]
  have hwaiters : (log.table.complete generation value).waiters = log.table.waiters := by
    rw [FlightTable.complete_eq awaited]
  have hflights : ∀ number, (log.table.complete generation value).flights[number]? =
      if number = generation then some { flight with value := some value }
      else log.table.flights[number]? :=
    FlightTable.complete_flights awaited kept.sound placed running
  -- a flight keeps its key and its leader
  have before : ∀ {number : Nat} {after : Flight κ ν},
      (log.table.complete generation value).flights[number]? = some after →
        ∃ flight : Flight κ ν, log.table.flights[number]? = some flight ∧ flight.key = after.key ∧
          flight.leader = after.leader := by
    intro number after hafter
    rw [hflights] at hafter
    split at hafter
    · rename_i hsame
      cases hafter
      exact ⟨flight, hsame ▸ placed, rfl, rfl⟩
    · exact ⟨after, hafter, rfl, rfl⟩
  constructor
  case sound => exact kept.sound.complete value awaited
  case begun =>
    intro number after hafter
    obtain ⟨flight, hflight, hkey, hleader⟩ := before hafter
    rw [List.filter_append, kept.begun number flight hflight, hkey, hleader]
    rfl
  case boarded =>
    intro waiter hentered
    have hold : .entered waiter ∈ log.records := by simpa using hentered
    obtain ⟨other, hother, hkey⟩ := kept.boarded waiter hold
    rw [hflights]
    split
    · rename_i hsame
      rw [hsame, placed] at hother
      cases hother
      exact ⟨_, rfl, hkey⟩
    · exact ⟨other, hother, hkey⟩
  case waiting =>
    intro waiter hwaits
    rw [hwaiters] at hwaits
    exact List.mem_append_left _ (kept.waiting waiter hwaits)
  case left => exact kept.left_append rfl
  case leading =>
    intro waiter hleads hentered
    have hold : .entered waiter ∈ log.records := by simpa using hentered
    rw [hasLeft_append, hwaiters, kept.leading waiter hleads hold]
    simp [FlightRecord.left?]
  case listed =>
    intro key number
    rw [hentries, hwaiters, kept.listed]
  case ended =>
    intro number value'
    rw [List.mem_append, kept.ended, hflights]
    by_cases hsame : number = generation
    · subst hsame
      simp [placed, running, eq_comm]
    · simp [hsame]
  case overtaken =>
    intro older newer after after' hafter hafter' hkey holder
    obtain ⟨flight, hflight, hsame, _⟩ := before hafter
    obtain ⟨flight', hflight', hsame', _⟩ := before hafter'
    rw [hentries, ← hsame]
    exact kept.overtaken older newer flight flight' hflight hflight'
      (hsame.trans (hkey.trans hsame'.symm)) holder
  case returned =>
    refine returned_append kept.returned fun waiter landing hrecord => ?_
    cases hrecord

/-- A caller takes the entry of its own generation only, and only as its leader. -/
theorem leaves [DecidableEq κ] {record : FlightRecord κ ν} (waits : waiter ∈ log.table.waiters)
    (leaves : record.left? = some waiter)
    (rightful : ∀ waiter (landing : Landing ν), record = .returned waiter landing →
      .entered waiter ∈ log.records ∧ .ended waiter.generation landing.value ∈ log.records ∧
        landing = ⟨waiter.caller, landing.value, !waiter.leads⟩) :
    Kept ⟨log.table.remove waiter, log.records ++ [record]⟩ := by
  have not_entered : ∀ other : Waiter κ, .entered other ≠ record := by
    rintro other rfl
    cases leaves
  have not_ended : ∀ (generation : Nat) (value : ν), .ended generation value ≠ record := by
    rintro generation value rfl
    cases leaves
  have entered_iff : ∀ other : Waiter κ,
      .entered other ∈ log.records ++ [record] ↔ .entered other ∈ log.records := by
    intro other
    rw [List.mem_append, List.mem_singleton]
    exact or_iff_left (not_entered other)
  -- nobody else waits under the name of the one who goes
  have stays : ∀ other, other ∈ (log.table.remove waiter).waiters ↔
      other ∈ log.table.waiters ∧ other ≠ waiter := by
    intro other
    show other ∈ log.table.waiters.filter _ ↔ _
    rw [List.mem_filter, bne_iff_ne]
    refine and_congr_right fun hother => not_congr ⟨fun hcaller => ?_, fun hsame => hsame ▸ rfl⟩
    exact List.inj_on_of_nodup_map kept.sound.callers hother waits hcaller
  constructor
  case sound => exact kept.sound.remove waiter
  case begun =>
    intro number flight hflight
    have hbegins : record.begins number = false := by
      cases record with
      | entered other => exact absurd rfl (not_entered other)
      | ended | returned | gaveUp => rfl
    rw [List.filter_append, kept.begun number flight hflight, List.filter_cons_of_neg (by simp [hbegins])]
    rfl
  case boarded =>
    intro other hentered
    exact kept.boarded other ((entered_iff other).mp hentered)
  case waiting =>
    intro other hother
    exact (entered_iff other).mpr (kept.waiting other ((stays other).mp hother).1)
  case left =>
    intro other hleft
    rw [entered_iff]
    rcases hasLeft_append.mp hleft with hold | hnew
    · exact kept.left other hold
    · cases leaves.symm.trans hnew
      exact kept.waiting waiter waits
  case leading =>
    intro other hleads hentered
    rw [stays, hasLeft_append, leaves, kept.leading other hleads ((entered_iff other).mp hentered),
      Option.some_inj, not_or, ne_comm]
  case listed =>
    intro key number
    show (key, number) ∈ log.table.entriesWithout waiter ↔ _
    rw [FlightTable.mem_entriesWithout_iff, kept.listed]
    constructor
    · rintro ⟨⟨leader, hleader⟩, hother⟩
      refine ⟨leader, (stays _).mpr ⟨hleader, ?_⟩⟩
      rintro rfl
      exact hother ⟨rfl, rfl⟩
    · rintro ⟨leader, hleader⟩
      obtain ⟨hwaits, hother⟩ := (stays _).mp hleader
      refine ⟨⟨leader, hwaits⟩, ?_⟩
      rintro ⟨hleads, hentry⟩
      exact hother (kept.one_leader (kept.waiting _ hwaits) rfl (kept.waiting _ waits) hleads
        (congrArg Prod.snd hentry))
  case ended =>
    intro number value
    rw [List.mem_append, List.mem_singleton, or_iff_left (not_ended number value)]
    exact kept.ended number value
  case overtaken =>
    intro older newer flight flight' hflight hflight' hkey holder hentry
    exact kept.overtaken older newer flight flight' hflight hflight' hkey holder
      (FlightTable.mem_entriesWithout hentry)
  case returned => exact returned_append kept.returned rightful

theorem moves [DecidableEq κ] {event : FlightEvent κ ν} {after : FlightLog κ ν}
    (h : log.Moves event after) : after.Kept := by
  cases h with
  | stays => exact kept
  | joins absent listed => exact kept.joins absent listed
  | starts absent unlisted => exact kept.starts absent unlisted
  | ends awaited placed running => exact kept.ends awaited placed running
  | returns waits placed ended =>
    refine kept.leaves waits rfl fun waiter landing hrecord => ?_
    cases hrecord
    exact ⟨kept.waiting _ waits, (kept.ended _ _).mpr ⟨_, placed, ended⟩, rfl⟩
  | givesUp waits =>
    refine kept.leaves waits rfl fun waiter landing hrecord => ?_
    cases hrecord

end Kept

theorem kept_run [DecidableEq κ] (events : List (FlightEvent κ ν)) : (run events).Kept := by
  induction events using List.reverseRecOn with
  | nil => exact kept_empty
  | append_singleton events event ih =>
    rw [run, List.foldl_append]
    exact ih.moves (step_moves ih.sound event)

end FlightLog

end RelayGateway
