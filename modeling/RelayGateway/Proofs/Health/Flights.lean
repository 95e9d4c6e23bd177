import Mathlib.Data.List.Nodup
import RelayGateway.Health.Flight
import RelayGateway.Proofs.Program.Transcript
import RelayGateway.Proofs.Routing.Table

/-! # The flights of a table

* `FlightTable.Sound`: flights are numbered in order, every entry and every waiter belongs to a flight for
  its key, a key has one entry, and nobody waits twice.
* `FlightTable.Uninterrupted`: a flight that has not ended has its entry, and somebody waits for it. So it
  is as long as nobody gives up.
* `Uninterrupted.unique`: then one flight for a key is under way at most.
* `enter_cases`, `leave_cases`: what a caller who comes or goes does to the table.
-/

set_option autoImplicit false

namespace RelayGateway.FlightTable

variable {κ ν : Type}

structure Sound (table : FlightTable κ ν) : Prop where
  numbered : ∀ (generation : Nat) (flight : Flight κ ν), table.flights[generation]? = some flight →
    flight.generation = generation
  entered : ∀ (key : κ) (generation : Nat), (key, generation) ∈ table.entries →
    ∃ flight : Flight κ ν, table.flights[generation]? = some flight ∧ flight.key = key
  once : (table.entries.map (·.1)).Nodup
  boarded : ∀ waiter ∈ table.waiters,
    ∃ flight : Flight κ ν, table.flights[waiter.generation]? = some flight ∧ flight.key = waiter.key
  callers : (table.waiters.map (·.caller)).Nodup

structure Uninterrupted (table : FlightTable κ ν) : Prop where
  listed : ∀ (generation : Nat) (flight : Flight κ ν), table.flights[generation]? = some flight →
    flight.value = none → (flight.key, generation) ∈ table.entries
  awaited : ∀ (generation : Nat) (flight : Flight κ ν), table.flights[generation]? = some flight →
    flight.value = none → table.isAwaited generation = true

variable {table : FlightTable κ ν} {caller : String} {key : κ} {generation : Nat}

theorem sound_empty : (empty : FlightTable κ ν).Sound := by
  constructor <;> simp [empty]

theorem uninterrupted_empty : (empty : FlightTable κ ν).Uninterrupted := by
  constructor <;> simp [empty]

theorem isAwaited_iff : table.isAwaited generation = true ↔
    ∃ waiter ∈ table.waiters, waiter.generation = generation := by
  simp [isAwaited]

theorem Sound.flight?_eq (h : table.Sound) (generation : Nat) :
    table.flight? generation = table.flights[generation]? := by
  unfold flight?
  cases hfind : table.flights.find? fun flight => flight.generation == generation with
  | some flight =>
    obtain ⟨index, hindex⟩ := List.getElem?_of_mem (List.mem_of_find?_eq_some hfind)
    have hnumber : flight.generation = generation := by simpa using List.find?_some hfind
    rw [← hnumber, h.numbered index flight hindex, hindex]
  | none =>
    cases hindex : table.flights[generation]? with
    | none => rfl
    | some flight =>
      have hmiss := List.find?_eq_none.mp hfind flight (List.mem_of_getElem? hindex)
      simp [h.numbered generation flight hindex] at hmiss

theorem waiter?_mem {waiter : Waiter κ} (h : table.waiter? caller = some waiter) :
    waiter ∈ table.waiters ∧ waiter.caller = caller :=
  ⟨List.mem_of_find?_eq_some h, by simpa using List.find?_some h⟩

theorem waiter?_eq_none : table.waiter? caller = none ↔
    ∀ waiter ∈ table.waiters, waiter.caller ≠ caller := by
  simp [waiter?]

/-- Nobody waits twice. -/
theorem Sound.waiter?_eq (h : table.Sound) {waiter : Waiter κ} (waits : waiter ∈ table.waiters) :
    table.waiter? waiter.caller = some waiter := by
  unfold waiter?
  cases hfind : table.waiters.find? fun other => other.caller == waiter.caller with
  | none =>
    have hmiss := List.find?_eq_none.mp hfind waiter waits
    simp at hmiss
  | some other =>
    have hcaller : other.caller = waiter.caller := by simpa using List.find?_some hfind
    rw [List.inj_on_of_nodup_map h.callers (List.mem_of_find?_eq_some hfind) waits hcaller]

/-! ## A caller comes -/

theorem callers_append (h : table.Sound) (absent : table.waiter? caller = none)
    (generation : Nat) (leads : Bool) :
    ((table.waiters ++ [(⟨caller, key, generation, leads⟩ : Waiter κ)]).map (·.caller)).Nodup := by
  rw [List.map_append, List.nodup_append]
  refine ⟨h.callers, by simp, ?_⟩
  intro name hname other hother
  obtain ⟨waiter, hwaiter, rfl⟩ := List.mem_map.mp hname
  have hcaller : other = caller := by simpa using hother
  rw [hcaller]
  exact waiter?_eq_none.mp absent waiter hwaiter

section Keys

variable [DecidableEq κ]

theorem Sound.generation?_eq_some (h : table.Sound) :
    table.generation? key = some generation ↔ (key, generation) ∈ table.entries := by
  unfold generation?
  constructor
  · intro hgeneration
    obtain ⟨⟨key', generation'⟩, hfind, rfl⟩ := Option.map_eq_some_iff.mp hgeneration
    have hkey : key' = key := by simpa using List.find?_some hfind
    subst hkey
    exact List.mem_of_find?_eq_some hfind
  · intro hmem
    cases hfind : table.entries.find? fun entry => decide (entry.1 = key) with
    | none =>
      have hmiss := List.find?_eq_none.mp hfind _ hmem
      simp at hmiss
    | some entry =>
      have hkey : entry.1 = key := by simpa using List.find?_some hfind
      have hsame := List.inj_on_of_nodup_map h.once (List.mem_of_find?_eq_some hfind) hmem hkey
      rw [hsame]
      rfl

/-- A caller joins the flight of the entry for its key, or starts a flight. -/
theorem Sound.enter_cases (h : table.Sound) (caller : String) (key : κ) :
    (∃ generation, (key, generation) ∈ table.entries ∧ table.enter caller key =
        { table with waiters := table.waiters ++ [⟨caller, key, generation, false⟩] }) ∨
      (table.generation? key = none ∧ table.enter caller key =
        { entries := table.entries ++ [(key, table.started)]
          flights := table.flights ++ [⟨key, table.started, caller, none⟩]
          waiters := table.waiters ++ [⟨caller, key, table.started, true⟩] }) := by
  unfold enter
  cases hgeneration : table.generation? key with
  | some generation => exact .inl ⟨generation, h.generation?_eq_some.mp hgeneration, rfl⟩
  | none => exact .inr ⟨rfl, rfl⟩

theorem Sound.enter (h : table.Sound) (absent : table.waiter? caller = none) :
    (table.enter caller key).Sound := by
  rcases h.enter_cases caller key with ⟨generation, hentry, heq⟩ | ⟨hnew, heq⟩
  · rw [heq]
    constructor
    case numbered => exact h.numbered
    case entered => exact h.entered
    case once => exact h.once
    case boarded =>
      intro waiter hwaiter
      rcases List.mem_append.mp hwaiter with hold | hadded
      · exact h.boarded waiter hold
      · rw [List.mem_singleton.mp hadded]
        exact h.entered key generation hentry
    case callers => exact callers_append h absent generation false
  · rw [heq]
    constructor
    case numbered =>
      intro generation flight hflight
      rcases getElem?_append_singleton hflight with hold | ⟨rfl, rfl⟩
      · exact h.numbered generation flight hold
      · rfl
    case entered =>
      intro other generation hentry
      rcases List.mem_append.mp hentry with hold | hadded
      · obtain ⟨flight, hflight, hkey⟩ := h.entered other generation hold
        exact ⟨flight, getElem?_append_of_some hflight _, hkey⟩
      · cases List.mem_singleton.mp hadded
        exact ⟨_, List.getElem?_concat_length, rfl⟩
    case once =>
      rw [List.map_append, List.nodup_append]
      refine ⟨h.once, by simp, ?_⟩
      intro other hother new hadded
      obtain ⟨⟨_, generation⟩, hentry, rfl⟩ := List.mem_map.mp hother
      have hkey : new = key := by simpa using hadded
      rintro rfl
      subst hkey
      rw [h.generation?_eq_some.mpr hentry] at hnew
      cases hnew
    case boarded =>
      intro waiter hwaiter
      rcases List.mem_append.mp hwaiter with hold | hadded
      · obtain ⟨flight, hflight, hkey⟩ := h.boarded waiter hold
        exact ⟨flight, getElem?_append_of_some hflight _, hkey⟩
      · cases List.mem_singleton.mp hadded
        exact ⟨_, List.getElem?_concat_length, rfl⟩
    case callers => exact callers_append h absent table.started true

theorem Uninterrupted.enter (u : table.Uninterrupted) (h : table.Sound) :
    (table.enter caller key).Uninterrupted := by
  have grows : ∀ (waiters : List (Waiter κ)) (flights : List (Flight κ ν))
      (entries : List (κ × Nat)) (generation : Nat), table.isAwaited generation = true →
        FlightTable.isAwaited ⟨entries, flights, table.waiters ++ waiters⟩ generation = true := by
    intro waiters flights entries generation hawaited
    obtain ⟨waiter, hwaiter, hgeneration⟩ := isAwaited_iff.mp hawaited
    exact isAwaited_iff.mpr ⟨waiter, List.mem_append_left _ hwaiter, hgeneration⟩
  rcases h.enter_cases caller key with ⟨generation, _, heq⟩ | ⟨_, heq⟩
  · rw [heq]
    constructor
    case listed => exact u.listed
    case awaited =>
      intro other flight hflight hvalue
      exact grows _ _ _ other (u.awaited other flight hflight hvalue)
  · rw [heq]
    constructor
    case listed =>
      intro other flight hflight hvalue
      rcases getElem?_append_singleton hflight with hold | ⟨rfl, rfl⟩
      · exact List.mem_append_left _ (u.listed other flight hold hvalue)
      · exact List.mem_append_right _ (List.mem_singleton_self _)
    case awaited =>
      intro other flight hflight hvalue
      rcases getElem?_append_singleton hflight with hold | ⟨rfl, rfl⟩
      · exact grows _ _ _ other (u.awaited other flight hold hvalue)
      · exact isAwaited_iff.mpr ⟨_, List.mem_append_right _ (List.mem_singleton_self _), rfl⟩

end Keys

/-- As long as nobody gives up, two flights for a key are never under way together. -/
theorem Uninterrupted.unique (u : table.Uninterrupted) (h : table.Sound) {other : Nat}
    {flight flight' : Flight κ ν} (placed : table.flights[generation]? = some flight)
    (placed' : table.flights[other]? = some flight') (running : flight.value = none)
    (running' : flight'.value = none) (same : flight.key = flight'.key) : generation = other := by
  have hentry := u.listed generation flight placed running
  have hentry' := u.listed other flight' placed' running'
  have hsame := List.inj_on_of_nodup_map h.once hentry hentry' same
  exact congrArg Prod.snd hsame

/-! ## An operation ends -/

theorem complete_eq {value : ν} (awaited : table.isAwaited generation = true) :
    table.complete generation value =
      { table with flights := table.flights.map fun flight =>
          if flight.generation = generation ∧ flight.value.isNone then
            { flight with value := some value }
          else flight } := by
  unfold complete
  rw [if_pos awaited]

/-- A flight after an operation has ended is the flight as it was, or its own with the value. -/
theorem complete_cases {value : ν} (awaited : table.isAwaited generation = true) (h : table.Sound)
    {number : Nat} {flight : Flight κ ν}
    (placed : (table.complete generation value).flights[number]? = some flight) :
    ∃ before, table.flights[number]? = some before ∧ flight.key = before.key ∧
      flight.generation = before.generation ∧
      flight.value = if number = generation ∧ before.value = none then some value else before.value := by
  rw [complete_eq awaited, List.getElem?_map] at placed
  obtain ⟨before, hbefore, rfl⟩ := Option.map_eq_some_iff.mp placed
  have hnumber := h.numbered number before hbefore
  refine ⟨before, hbefore, ?_⟩
  by_cases hends : before.generation = generation ∧ before.value.isNone = true
  · have hvalue := Option.isNone_iff_eq_none.mp hends.2
    rw [if_pos hends, if_pos ⟨hnumber ▸ hends.1, hvalue⟩]
    exact ⟨rfl, rfl, rfl⟩
  · have hkept : ¬ (number = generation ∧ before.value = none) := by
      rintro ⟨hsame, hvalue⟩
      exact hends ⟨hnumber.trans hsame, Option.isNone_iff_eq_none.mpr hvalue⟩
    rw [if_neg hends, if_neg hkept]
    exact ⟨rfl, rfl, rfl⟩

theorem Sound.complete (h : table.Sound) (value : ν) (awaited : table.isAwaited generation = true) :
    (table.complete generation value).Sound := by
  have placed : ∀ (number : Nat) (flight : Flight κ ν), table.flights[number]? = some flight →
      ∃ after, (table.complete generation value).flights[number]? = some after ∧
        after.key = flight.key := by
    intro number flight hflight
    rw [complete_eq awaited, List.getElem?_map, hflight]
    refine ⟨_, rfl, ?_⟩
    dsimp only
    split <;> rfl
  have hentries : (table.complete generation value).entries = table.entries := by
    rw [complete_eq awaited]
  have hwaiters : (table.complete generation value).waiters = table.waiters := by
    rw [complete_eq awaited]
  constructor
  case numbered =>
    intro number flight hflight
    obtain ⟨before, hbefore, _, hgeneration, _⟩ := complete_cases awaited h hflight
    rw [hgeneration]
    exact h.numbered number before hbefore
  case entered =>
    intro key number hentry
    rw [hentries] at hentry
    obtain ⟨flight, hflight, hkey⟩ := h.entered key number hentry
    obtain ⟨after, hafter, hsame⟩ := placed number flight hflight
    exact ⟨after, hafter, hsame.trans hkey⟩
  case once =>
    rw [hentries]
    exact h.once
  case boarded =>
    intro waiter hwaiter
    rw [hwaiters] at hwaiter
    obtain ⟨flight, hflight, hkey⟩ := h.boarded waiter hwaiter
    obtain ⟨after, hafter, hsame⟩ := placed waiter.generation flight hflight
    exact ⟨after, hafter, hsame.trans hkey⟩
  case callers =>
    rw [hwaiters]
    exact h.callers

theorem Uninterrupted.complete (u : table.Uninterrupted) (h : table.Sound) (value : ν)
    (awaited : table.isAwaited generation = true) :
    (table.complete generation value).Uninterrupted := by
  have running : ∀ (number : Nat) (flight : Flight κ ν),
      (table.complete generation value).flights[number]? = some flight → flight.value = none →
        ∃ before, table.flights[number]? = some before ∧ flight.key = before.key ∧
          before.value = none := by
    intro number flight hflight hvalue
    obtain ⟨before, hbefore, hkey, _, hended⟩ := complete_cases awaited h hflight
    rw [hvalue] at hended
    split at hended
    · cases hended
    · exact ⟨before, hbefore, hkey, hended.symm⟩
  constructor
  case listed =>
    intro number flight hflight hvalue
    obtain ⟨before, hbefore, hkey, hrunning⟩ := running number flight hflight hvalue
    rw [complete_eq awaited, hkey]
    exact u.listed number before hbefore hrunning
  case awaited =>
    intro number flight hflight hvalue
    obtain ⟨before, hbefore, _, hrunning⟩ := running number flight hflight hvalue
    rw [complete_eq awaited]
    exact u.awaited number before hbefore hrunning

/-! ## A caller returns -/

theorem mem_entriesWithout [DecidableEq κ] {waiter : Waiter κ} {entry : κ × Nat}
    (h : entry ∈ table.entriesWithout waiter) : entry ∈ table.entries := by
  unfold entriesWithout at h
  split at h
  · exact List.mem_of_mem_filter h
  · exact h

section Returning

variable [DecidableEq κ] {landing : Landing ν}

/-- Who returns has waited for a flight that has ended, and returns with its value. -/
theorem Sound.leave_cases (h : table.Sound) (returns : (table.leave caller).1 = some landing) :
    ∃ waiter flight, table.waiter? caller = some waiter ∧
      table.flights[waiter.generation]? = some flight ∧ flight.value = some landing.value ∧
      landing = ⟨caller, landing.value, !waiter.leads⟩ ∧
      (table.leave caller).2 = table.remove waiter := by
  unfold leave at returns ⊢
  cases hwaiter : table.waiter? caller with
  | none =>
    rw [hwaiter] at returns
    cases returns
  | some waiter =>
    rw [hwaiter] at returns
    dsimp only at returns ⊢
    rw [h.flight?_eq] at returns ⊢
    obtain ⟨flight, hflight, _⟩ := h.boarded waiter (waiter?_mem hwaiter).1
    rw [hflight] at returns ⊢
    dsimp only [Option.bind_some] at returns ⊢
    cases hvalue : flight.value with
    | none =>
      rw [hvalue] at returns
      cases returns
    | some value =>
      rw [hvalue] at returns
      cases returns
      exact ⟨waiter, flight, rfl, hflight, hvalue, rfl, rfl⟩

/-- As soon as its flight has ended, a caller can return. -/
theorem Sound.leave_ended (h : table.Sound) {waiter : Waiter κ} {flight : Flight κ ν} {value : ν}
    (waits : waiter ∈ table.waiters) (placed : table.flights[waiter.generation]? = some flight)
    (ended : flight.value = some value) :
    table.leave waiter.caller =
      (some ⟨waiter.caller, value, !waiter.leads⟩, table.remove waiter) := by
  unfold leave
  rw [h.waiter?_eq waits]
  dsimp only
  rw [h.flight?_eq, placed]
  dsimp only [Option.bind_some]
  rw [ended]

theorem Sound.remove (h : table.Sound) (waiter : Waiter κ) : (table.remove waiter).Sound := by
  constructor
  case numbered => exact h.numbered
  case entered =>
    intro key generation hentry
    exact h.entered key generation (mem_entriesWithout hentry)
  case once =>
    refine h.once.sublist (List.Sublist.map _ ?_)
    unfold FlightTable.remove entriesWithout
    dsimp only
    split
    · exact List.filter_sublist
    · exact List.Sublist.refl _
  case boarded =>
    intro other hother
    exact h.boarded other (List.mem_of_mem_filter hother)
  case callers => exact h.callers.sublist ((List.filter_sublist).map _)

/-- A caller who returns takes neither the entry of a flight under way nor the last who waits for it. -/
theorem Uninterrupted.remove (u : table.Uninterrupted) (h : table.Sound) {waiter : Waiter κ}
    {flight : Flight κ ν} {value : ν} (waits : waiter ∈ table.waiters)
    (placed : table.flights[waiter.generation]? = some flight) (ended : flight.value = some value) :
    (table.remove waiter).Uninterrupted := by
  have other_flight : ∀ (generation : Nat) (other : Flight κ ν),
      table.flights[generation]? = some other → other.value = none →
        generation ≠ waiter.generation := by
    rintro generation other hother hvalue rfl
    cases hother.symm.trans placed
    cases hvalue.symm.trans ended
  constructor
  case listed =>
    intro generation other hother hvalue
    have hentry := u.listed generation other hother hvalue
    have hne := other_flight generation other hother hvalue
    show (other.key, generation) ∈ table.entriesWithout waiter
    unfold entriesWithout
    split
    · rw [List.mem_filter]
      exact ⟨hentry, by simp [hne]⟩
    · exact hentry
  case awaited =>
    intro generation other hother hvalue
    obtain ⟨stays, hstays, hgeneration⟩ :=
      isAwaited_iff.mp (u.awaited generation other hother hvalue)
    have hne := other_flight generation other hother hvalue
    refine isAwaited_iff.mpr ⟨stays, ?_, hgeneration⟩
    show stays ∈ table.waiters.filter fun w => w.caller != waiter.caller
    rw [List.mem_filter]
    refine ⟨hstays, ?_⟩
    rw [bne_iff_ne]
    intro hcaller
    have hsame := List.inj_on_of_nodup_map h.callers hstays waits hcaller
    rw [hsame] at hgeneration
    exact hne hgeneration.symm

end Returning

end RelayGateway.FlightTable
