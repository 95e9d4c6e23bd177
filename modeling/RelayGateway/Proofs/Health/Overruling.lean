import RelayGateway.Proofs.Health.Disabling

/-! # Who overrules an operator

An operator disables a channel while others disable it after failures.

* `exchangesOf`: what a caller has asked and been told. `HealthOrder.Writes` says which statuses an order
  writes in the light of it, and `HealthOrder.abides` that it writes no others.
* `statusAfter`: the status of a channel after the writes of a history.
* `InTurn`: what holds after every step of callers side by side. `InTurn.step` keeps it.
* `operator_overruled`: a manual disable is overwritten only by who has read the channel before it.
-/

set_option autoImplicit false

namespace RelayGateway

/-! ## What is read from the history -/

namespace Move

def exchange (move : Move) : Exchange HealthReply := ⟨move.call, move.reply⟩

/-- The status that a step writes for a channel. -/
def status? (move : Move) (id : ChannelId) : Option ChannelStatus :=
  match move.call with
  | .updateStatus other status => if other = id then some status else none
  | .storedChannel _ | .fetchEnabled | .install _ | .setEnabled .. | .notify _ => none

theorem status?_eq_some {move : Move} {id : ChannelId} {status : ChannelStatus} :
    move.status? id = some status ↔ move.call = .updateStatus id status := by
  unfold status?
  cases move.call with
  | updateStatus other written => simp [eq_comm]
  | storedChannel | fetchEnabled | install | setEnabled | notify => simp

theorem status?_isSome (move : Move) (id : ChannelId) :
    (move.status? id).isSome = move.writes id := by
  unfold status? writes
  cases move.call with
  | updateStatus other written => by_cases hsame : other = id <;> simp [hsame]
  | storedChannel | fetchEnabled | install | setEnabled | notify => rfl

end Move

def exchangesOf (history : List Move) (caller : Nat) : List (Exchange HealthReply) :=
  history.filterMap fun move => if move.caller = caller then some move.exchange else none

/-- The status of a channel after the writes of a history. -/
def statusAfter (id : ChannelId) (status : Option ChannelStatus) (history : List Move) :
    Option ChannelStatus :=
  history.foldl (fun status move => (move.status? id).or status) status

variable {history earlier later : List Move} {move : Move} {caller : Nat} {id : ChannelId}
  {status : Option ChannelStatus}

theorem exchangesOf_append (history later : List Move) (caller : Nat) :
    exchangesOf (history ++ later) caller =
      exchangesOf history caller ++ exchangesOf later caller := List.filterMap_append

theorem exchangesOf_own (own : move.caller = caller) :
    exchangesOf [move] caller = [move.exchange] := by
  simp [exchangesOf, own]

theorem exchangesOf_other (other : move.caller ≠ caller) : exchangesOf [move] caller = [] := by
  simp [exchangesOf, other]

theorem mem_exchangesOf {exchange : Exchange HealthReply} :
    exchange ∈ exchangesOf history caller ↔
      ∃ move ∈ history, move.caller = caller ∧ move.exchange = exchange := by
  simp [exchangesOf]

theorem exchangesOf_eq_append {before after : List (Exchange HealthReply)}
    {exchange : Exchange HealthReply}
    (h : exchangesOf history caller = before ++ exchange :: after) :
    ∃ earlier move later, history = earlier ++ move :: later ∧ move.caller = caller ∧
      move.exchange = exchange ∧ exchangesOf later caller = after := by
  obtain ⟨first, rest, rfl, _, hrest⟩ := List.filterMap_eq_append_iff.mp h
  obtain ⟨between, move, later, rfl, _, hmove, hlater⟩ := List.filterMap_eq_cons_iff.mp hrest
  have hown : move.caller = caller ∧ move.exchange = exchange := by
    simpa using hmove
  exact ⟨first ++ between, move, later, by simp, hown.1, hown.2, hlater⟩

theorem statusAfter_append (history later : List Move) :
    statusAfter id status (history ++ later) =
      statusAfter id (statusAfter id status history) later := List.foldl_append

/-- A channel that was disabled by order is disabled by order until it is written as something else. -/
theorem statusAfter_automatic
    (automatic : ∀ move ∈ later, ∀ status, move.status? id = some status → status = .autoDisabled) :
    statusAfter id (some .manuallyDisabled) later =
      some (if later.any (·.writes id) then .autoDisabled else .manuallyDisabled) := by
  induction later using List.reverseRecOn with
  | nil => rfl
  | append_singleton later move ih =>
    have ih := ih fun other hother => automatic other (List.mem_append_left _ hother)
    have hlast := automatic move (List.mem_append_right _ (List.mem_singleton_self _))
    have hwrites := move.status?_isSome id
    rw [statusAfter_append, ih, List.any_append, List.any_cons, List.any_nil, Bool.or_false, ← hwrites]
    show (move.status? id).or _ = _
    cases hstatus : move.status? id with
    | none => simp
    | some status =>
      rw [hlast status hstatus]
      simp

/-! ## What an order writes -/

/-- The statuses that an order writes, in the light of what its caller has been told. -/
def HealthOrder.Writes (told : List (Exchange HealthReply)) (id : ChannelId)
    (status : ChannelStatus) : HealthOrder → Prop
  | .load => False
  | .disable own _ _ _ => id = own ∧ status = .autoDisabled ∧ ∃ found : Channel,
      ⟨.storedChannel own, .ok (some found)⟩ ∈ told ∧ found.status.isDisabled = false
  | .disableManually own => id = own ∧ status = .manuallyDisabled
  | .enable own _ => id = own ∧ status = .enabled

def HealthOrder.watch (order : HealthOrder) : Watch HealthReply (List (Exchange HealthReply)) where
  after told exchange := told ++ [exchange]
  allows told call := ∀ id status, call = .updateStatus id status → order.Writes told id status
  possible _ := True

theorem abides_load :
    Program.Abides HealthOrder.load.watch (fun _ _ => True) [] HealthOrder.load.program := by
  refine ⟨nofun, fun fetched _ => ?_⟩
  match fetched with
  | .error _ => trivial
  | .ok _ => exact ⟨nofun, fun _ _ => trivial⟩

theorem abides_disable_order (name reason : String) (notify : Bool) :
    Program.Abides (HealthOrder.disable id name reason notify).watch (fun _ _ => True) []
      (HealthOrder.disable id name reason notify).program := by
  refine ⟨nofun, fun stored _ => ?_⟩
  match stored with
  | .error _ => trivial
  | .ok none => trivial
  | .ok (some found) =>
    show Program.Abides _ _ _ (Program.bind (if found.status.isDisabled then _ else _) _)
    split
    · exact ⟨nofun, fun _ _ => trivial⟩
    · rename_i henabled
      refine ⟨?_, fun updated _ => ?_⟩
      · rintro _ _ ⟨⟩
        exact ⟨rfl, rfl, found, List.mem_singleton_self _, by simpa using henabled⟩
      · match updated with
        | .error _ => trivial
        | .ok _ =>
          refine ⟨nofun, fun _ _ => ?_⟩
          cases notify with
          | false => trivial
          | true => exact ⟨nofun, fun _ _ => trivial⟩

theorem abides_disableManually :
    Program.Abides (HealthOrder.disableManually id).watch (fun _ _ => True) []
      (HealthOrder.disableManually id).program := by
  refine ⟨nofun, fun stored _ => ?_⟩
  match stored with
  | .error _ => trivial
  | .ok none => trivial
  | .ok (some found) =>
    refine ⟨?_, fun updated _ => ?_⟩
    · rintro _ _ ⟨⟩
      exact ⟨rfl, rfl⟩
    · match updated with
      | .error _ => trivial
      | .ok _ => exact ⟨nofun, fun _ _ => trivial⟩

theorem abides_enable (notify : Bool) :
    Program.Abides (HealthOrder.enable id notify).watch (fun _ _ => True) []
      (HealthOrder.enable id notify).program := by
  refine ⟨nofun, fun stored _ => ?_⟩
  match stored with
  | .error _ => trivial
  | .ok none => trivial
  | .ok (some found) =>
    refine ⟨?_, fun updated _ => ?_⟩
    · rintro _ _ ⟨⟩
      exact ⟨rfl, rfl⟩
    · match updated with
      | .error _ => trivial
      | .ok _ =>
        refine ⟨nofun, fun known _ => ?_⟩
        cases known with
        | true =>
          cases notify with
          | false => trivial
          | true => exact ⟨nofun, fun _ _ => trivial⟩
        | false =>
          refine ⟨nofun, fun fetched _ => ?_⟩
          match fetched with
          | .error _ => trivial
          | .ok _ =>
            refine ⟨nofun, fun _ _ => ?_⟩
            cases notify with
            | false => trivial
            | true => exact ⟨nofun, fun _ _ => trivial⟩

theorem HealthOrder.abides (order : HealthOrder) :
    Program.Abides order.watch (fun _ _ => True) [] order.program := by
  cases order with
  | load => exact abides_load
  | disable id name reason notify => exact abides_disable_order name reason notify
  | disableManually id => exact abides_disableManually
  | enable id notify => exact abides_enable notify

/-! ## What holds after every step -/

/-- What holds after every step of callers with the given orders, for a channel that had the status
`first`. -/
structure InTurn (orders : List HealthOrder) (id : ChannelId) (first : ChannelStatus)
    (work : Concurrent) : Prop where
  usable : work.gateway.store.Usable
  status : work.gateway.store.status? id = statusAfter id (some first) work.history
  known : id ∈ work.gateway.store.rows.map (·.id)
  abides : ∀ caller program, work.callers[caller]? = some program →
    ∃ order, orders[caller]? = some order ∧
      Program.Abides order.watch (fun _ _ => True) (exchangesOf work.history caller) program
  written : ∀ earlier move later, work.history = earlier ++ move :: later → ∀ other status,
    move.call = .updateStatus other status → ∃ order, orders[move.caller]? = some order ∧
      order.Writes (exchangesOf earlier move.caller) other status
  /-- Who reads the channel is told the status that it has. -/
  read : ∀ earlier move later, work.history = earlier ++ move :: later → ∀ found : Channel,
    move.exchange = ⟨.storedChannel id, .ok (some found)⟩ →
      some found.status = statusAfter id (some first) earlier

section Answers

variable {gateway : Gateway} {call : HealthCall}

theorem answer_status (usable : gateway.store.Usable) (known : id ∈ gateway.store.rows.map (·.id))
    (caller : Nat) (call : HealthCall) :
    (moveOf gateway caller call).after.store.status? id =
      ((moveOf gateway caller call).status? id).or (gateway.store.status? id) := by
  cases call with
  | storedChannel | fetchEnabled | install | setEnabled | notify => rfl
  | updateStatus other status =>
    show (gateway.store.updateStatus other status).2.status? id =
      (if other = id then some status else none).or (gateway.store.status? id)
    split
    · rename_i hsame
      subst hsame
      rw [Store.status?_updateStatus usable known, if_pos rfl]
      rfl
    · rename_i hother
      exact (Store.updateStatus_frame usable).2 id (Ne.symm hother)

theorem answer_read (usable : gateway.store.Usable) {found : Channel}
    (h : (moveOf gateway caller call).exchange = ⟨.storedChannel id, .ok (some found)⟩) :
    gateway.store.status? id = some found.status := by
  obtain rfl : call = .storedChannel id := congrArg Exchange.call h
  have hreply : gateway.store.channel? id = .ok (some found) := eq_of_heq (Exchange.mk.inj h).2
  rw [Store.channel?_eq usable] at hreply
  obtain ⟨row, hrow, rfl⟩ := Option.map_eq_some_iff.mp (Except.ok.inj hreply)
  exact Store.status?_of_row? hrow

end Answers

section Step

variable {orders : List HealthOrder} {first : ChannelStatus} {work : Concurrent} {call : HealthCall}
  {next : HealthReply call → HealthProgram Unit} (h : InTurn orders id first work)
include h

theorem InTurn.step_ask (asks : work.callers[caller]? = some (.ask call next)) :
    InTurn orders id first (work.step caller) := by
  obtain ⟨order, horder, hallowed, hnext⟩ := h.abides caller _ asks
  rw [Concurrent.step_ask asks]
  have hstatus : (moveOf work.gateway caller call).after.store.status? id =
      statusAfter id (some first) (work.history ++ [moveOf work.gateway caller call]) := by
    rw [answer_status h.usable h.known, statusAfter_append, ← h.status]
    rfl
  constructor
  case usable => exact answer_usable h.usable call
  case status => exact hstatus
  case known =>
    refine (Store.status?_isSome _ id).mp ?_
    rw [answer_status h.usable h.known, Option.isSome_or, (Store.status?_isSome _ id).mpr h.known,
      Bool.or_true]
  case abides =>
    intro other program hprogram
    dsimp only at hprogram ⊢
    rw [exchangesOf_append]
    by_cases hsame : caller = other
    · subst hsame
      rw [List.getElem?_set_self', asks] at hprogram
      cases hprogram
      have hown : exchangesOf [moveOf work.gateway caller call] caller =
          [(moveOf work.gateway caller call).exchange] := exchangesOf_own rfl
      rw [hown]
      exact ⟨order, horder, hnext _ trivial⟩
    · rw [List.getElem?_set_ne hsame] at hprogram
      rw [exchangesOf_other hsame, List.append_nil]
      exact h.abides other program hprogram
  case written =>
    intro earlier move later hhistory other status hcall
    rcases append_singleton_eq hhistory with ⟨rfl, rfl, _⟩ | ⟨later', _, hold⟩
    · exact ⟨order, horder, hallowed other status hcall⟩
    · exact h.written earlier move later' hold other status hcall
  case read =>
    intro earlier move later hhistory found hread
    rcases append_singleton_eq hhistory with ⟨rfl, rfl, _⟩ | ⟨later', _, hold⟩
    · rw [← h.status, answer_read h.usable hread]
    · exact h.read earlier move later' hold found hread

theorem InTurn.step (caller : Nat) : InTurn orders id first (work.step caller) := by
  rcases work.step_cases caller with hsame | ⟨call, next, hasks⟩
  · rw [hsame]
    exact h
  · exact h.step_ask hasks

theorem InTurn.run (schedule : List Nat) : InTurn orders id first (work.run schedule) := by
  induction schedule generalizing work with
  | nil => exact h
  | cons caller schedule ih => exact ih (h.step caller)

end Step

theorem InTurn.start {gateway : Gateway} (usable : gateway.store.Usable) {first : ChannelStatus}
    (stored : gateway.store.status? id = some first) (orders : List HealthOrder) :
    InTurn orders id first (.start gateway orders) := by
  have nothing : ∀ earlier later : List Move, ∀ move, [] ≠ earlier ++ move :: later := by simp
  constructor
  case usable => exact usable
  case status => exact stored
  case known => exact Store.known_of_status? stored
  case abides =>
    intro caller program hprogram
    rw [Concurrent.start, List.getElem?_map] at hprogram
    obtain ⟨order, horder, rfl⟩ := Option.map_eq_some_iff.mp hprogram
    exact ⟨order, horder, order.abides⟩
  case written => exact fun earlier move later h => absurd h (nothing earlier later move)
  case read => exact fun earlier move later h => absurd h (nothing earlier later move)

/-! ## An operator among others -/

theorem disableManually_ends {transcript : List (Exchange HealthReply)} {channel : Channel}
    (h : (disableManually id).Ends transcript (.ok channel)) :
    ∃ (stored : Exchange HealthReply) (found shown : Bool), transcript =
      [stored, ⟨.updateStatus id .manuallyDisabled, .ok found⟩, ⟨.setEnabled id false, shown⟩] := by
  obtain ⟨stored, rest, rfl, h⟩ := h
  match stored, h with
  | .error _, ⟨_, h⟩ => cases h
  | .ok none, ⟨_, h⟩ => cases h
  | .ok (some _), ⟨updated, rest, hrest, h⟩ =>
    match updated, h with
    | .error _, ⟨_, h⟩ => cases h
    | .ok found, ⟨shown, rest, hshown, hdone, _⟩ =>
      rw [hrest, hshown, hdone]
      exact ⟨_, found, shown, rfl⟩

section Operator

variable {orders : List HealthOrder} {first : ChannelStatus} {work : Concurrent} {operator : Nat}
  {written : Move} (h : InTurn orders id first work)
  (others : ∀ caller order, orders[caller]? = some order → caller ≠ operator →
    ∀ notify, order ≠ .enable id notify ∧ order ≠ .disableManually id)
include h others

/-- Who is not the operator writes the channel as disabled after a failure, having read that it was not
disabled. -/
theorem InTurn.written_automatically (placed : work.history = earlier ++ move :: later)
    (other : move.caller ≠ operator) {status : ChannelStatus}
    (writes : move.call = .updateStatus id status) :
    status = .autoDisabled ∧ ∃ seen ∈ earlier, seen.caller = move.caller ∧ ∃ found : Channel,
      seen.exchange = ⟨.storedChannel id, .ok (some found)⟩ ∧ found.status.isDisabled = false := by
  obtain ⟨order, horder, hwrites⟩ := h.written earlier move later placed id status writes
  obtain ⟨hnot_enable, hnot_manual⟩ := forall_and.mp (others move.caller order horder other)
  cases order with
  | load => cases hwrites
  | disable own =>
    obtain ⟨rfl, hstatus, found, htold, henabled⟩ := hwrites
    obtain ⟨seen, hseen, hcaller, hexchange⟩ := mem_exchangesOf.mp htold
    exact ⟨hstatus, seen, hseen, hcaller, found, hexchange, henabled⟩
  | disableManually own =>
    obtain ⟨rfl, _⟩ := hwrites
    exact absurd rfl (hnot_manual false)
  | enable own notify =>
    obtain ⟨rfl, _⟩ := hwrites
    exact absurd rfl (hnot_enable notify)

variable (placed : work.history = earlier ++ written :: later)
  (silent : ∀ move ∈ later, move.caller = operator → move.writes id = false)
include placed silent

/-- What is written later is written by others, who have read that the channel was not disabled. -/
theorem InTurn.automatic_later {before after : List Move} {status : ChannelStatus}
    (hlater : later = before ++ move :: after) (hstatus : move.status? id = some status) :
    status = .autoDisabled ∧ ∃ seen ∈ earlier ++ written :: before, seen.caller = move.caller ∧
      ∃ found : Channel, seen.exchange = ⟨.storedChannel id, .ok (some found)⟩ ∧
        found.status.isDisabled = false := by
  have hmove : move ∈ later := hlater ▸ List.mem_append_right _ List.mem_cons_self
  have hplaced : work.history = (earlier ++ written :: before) ++ move :: after := by
    rw [placed, hlater]
    simp
  refine h.written_automatically others hplaced ?_ (Move.status?_eq_some.mp hstatus)
  intro hown
  have hsilent := silent move hmove hown
  rw [← Move.status?_isSome, hstatus] at hsilent
  cases hsilent

variable (manual : written.call = .updateStatus id .manuallyDisabled)
include manual

theorem InTurn.statusAfter_written {before after : List Move} (hlater : later = before ++ after) :
    statusAfter id (some first) (earlier ++ written :: before) =
      some (if before.any (·.writes id) then .autoDisabled else .manuallyDisabled) := by
  have hwritten : written.status? id = some .manuallyDisabled := Move.status?_eq_some.mpr manual
  rw [statusAfter_append]
  show statusAfter id ((written.status? id).or _) before = _
  rw [hwritten]
  refine statusAfter_automatic fun move hmove status hstatus => ?_
  obtain ⟨before', between, rfl⟩ := List.append_of_mem hmove
  rw [List.append_assoc] at hlater
  exact (h.automatic_later others placed silent hlater hstatus).1

/-- Who overwrites a manual disable has read the channel before it. -/
theorem InTurn.overwritten (hmove : move ∈ later) (writes : move.writes id = true) :
    move.call = .updateStatus id .autoDisabled ∧ ∃ seen ∈ earlier, seen.caller = move.caller ∧
      ∃ found : Channel, seen.exchange = ⟨.storedChannel id, .ok (some found)⟩ ∧
        found.status.isDisabled = false := by
  rw [← Move.status?_isSome, Option.isSome_iff_exists] at writes
  obtain ⟨status, hstatus⟩ := writes
  obtain ⟨before, after, hlater⟩ := List.append_of_mem hmove
  obtain ⟨rfl, seen, hseen, hcaller, found, hexchange, henabled⟩ :=
    h.automatic_later others placed silent hlater hstatus
  refine ⟨Move.status?_eq_some.mp hstatus, seen, ?_, hcaller, found, hexchange, henabled⟩
  rcases List.mem_append.mp hseen with hearlier | hlate
  · exact hearlier
  · exfalso
    rcases List.mem_cons.mp hlate with rfl | hbefore
    · cases manual.symm.trans (congrArg Exchange.call hexchange)
    · -- after the write of the operator, everybody is told that the channel is disabled
      obtain ⟨before', between, rfl⟩ := List.append_of_mem hbefore
      have hread : work.history = (earlier ++ written :: before') ++ seen :: (between ++ move :: after) := by
        rw [placed, hlater]
        simp
      have hfound := h.read _ seen _ hread found hexchange
      have hsplit : later = before' ++ (seen :: between ++ move :: after) := by
        rw [hlater]
        simp
      rw [h.statusAfter_written others placed silent manual hsplit] at hfound
      rw [Option.some.inj hfound] at henabled
      split at henabled <;> cases henabled

end Operator

/-- An operator disables a channel while others disable it after failures, in any order of all steps.
Nobody enables it, and nobody else disables it by order. From the moment that the operator is told that
it is done, the channel is stored as disabled by order, unless somebody overwrites this who has read the
channel before and found it not disabled. Then it is stored as disabled after a failure. -/
theorem operator_overruled (gateway : Gateway) (usable : gateway.store.Usable) (id : ChannelId)
    (known : id ∈ gateway.store.rows.map (·.id)) (orders : List HealthOrder) (operator : Nat)
    (others : ∀ caller order, orders[caller]? = some order → caller ≠ operator →
      ∀ notify, order ≠ .enable id notify ∧ order ≠ .disableManually id)
    (schedule : List Nat) (channel : Channel)
    (returned : (disableManually id).Ends
      (exchangesOf ((Concurrent.start gateway orders).run schedule).history operator) (.ok channel)) :
    let work := (Concurrent.start gateway orders).run schedule
    ∃ earlier written later, work.history = earlier ++ written :: later ∧
      written.caller = operator ∧ written.call = .updateStatus id .manuallyDisabled ∧
      (∀ move ∈ later, move.writes id = true →
        move.call = .updateStatus id .autoDisabled ∧ ∃ seen ∈ earlier, seen.caller = move.caller ∧
          ∃ found : Channel, seen.exchange = ⟨.storedChannel id, .ok (some found)⟩ ∧
            found.status.isDisabled = false) ∧
      work.gateway.store.status? id =
        some (if later.any (·.writes id) then .autoDisabled else .manuallyDisabled) := by
  intro work
  obtain ⟨first, hfirst⟩ := Option.isSome_iff_exists.mp
    ((Store.status?_isSome gateway.store id).mpr known)
  have h : InTurn orders id first work := (InTurn.start usable hfirst orders).run schedule
  obtain ⟨stored, found, shown, htranscript⟩ := disableManually_ends returned
  rw [← List.singleton_append] at htranscript
  obtain ⟨earlier, written, later, placed, hown, hwritten, hrest⟩ := exchangesOf_eq_append htranscript
  have manual : written.call = .updateStatus id .manuallyDisabled := congrArg Exchange.call hwritten
  have silent : ∀ move ∈ later, move.caller = operator → move.writes id = false := by
    intro move hmove hmover
    have hmem : move.exchange ∈ exchangesOf later operator :=
      mem_exchangesOf.mpr ⟨move, hmove, hmover, rfl⟩
    rw [hrest, List.mem_singleton] at hmem
    have hcall : move.call = .setEnabled id false := congrArg Exchange.call hmem
    rw [Move.writes, hcall]
  refine ⟨earlier, written, later, placed, hown, manual, ?_, ?_⟩
  · intro move hmove writes
    exact h.overwritten others placed silent manual hmove writes
  · rw [h.status, placed]
    exact h.statusAfter_written others placed silent manual (List.append_nil later).symm

/-- A channel is disabled by order while somebody who has found it enabled has yet to disable it after a
failure. -/
def overruledOrder : Concurrent :=
  (Concurrent.start (Gateway.perform loadChannels lonelyGateway).2
    [.disable 1 "one" "down" true, .disableManually 1]).run [0, 1, 1, 1, 0, 0, 0]

theorem overruledOrder_returns :
    ∃ channel, (disableManually 1).Ends (exchangesOf overruledOrder.history 1) (.ok channel) :=
  ⟨_, _, _, rfl, _, _, rfl, _, _, rfl, rfl, rfl⟩

theorem overruledOrder_overwritten :
    lonelyGateway.store.Usable ∧ overruledOrder.isFinished = true ∧
      ∃ earlier written later, overruledOrder.history = earlier ++ written :: later ∧
        written.call = .updateStatus 1 .manuallyDisabled ∧ ∃ move ∈ later,
          move.call = .updateStatus 1 .autoDisabled ∧ ∃ seen ∈ earlier, seen.caller = move.caller ∧
            ∃ found : Channel, seen.exchange = ⟨.storedChannel 1, .ok (some found)⟩ ∧
              found.status.isDisabled = false := by
  have usable : lonelyGateway.store.Usable := ⟨rfl, rfl, by decide⟩
  have usable' : (Gateway.perform loadChannels lonelyGateway).2.store.Usable := by
    rw [(loaded_shown usable).1]
    exact usable
  have known : (1 : ChannelId) ∈
      (Gateway.perform loadChannels lonelyGateway).2.store.rows.map (·.id) := by
    rw [(loaded_shown usable).1]
    decide
  have others : ∀ caller order,
      [HealthOrder.disable 1 "one" "down" true, .disableManually 1][caller]? = some order →
        caller ≠ 1 → ∀ notify, order ≠ .enable 1 notify ∧ order ≠ .disableManually 1 := by
    intro caller order horder hother notify
    match caller, horder with
    | 0, horder =>
      cases horder
      exact ⟨nofun, nofun⟩
    | 1, _ => exact absurd rfl hother
  obtain ⟨channel, returned⟩ := overruledOrder_returns
  obtain ⟨earlier, written, later, placed, _, manual, hoverwrites, hstatus⟩ :=
    operator_overruled _ usable' 1 known _ 1 others [0, 1, 1, 1, 0, 0, 0] channel returned
  refine ⟨usable, by decide +kernel, earlier, written, later, placed, manual, ?_⟩
  have overwritten : later.any (·.writes 1) = true := by
    by_contra hnone
    rw [if_neg hnone] at hstatus
    have hstored : overruledOrder.gateway.store.status? 1 = some .autoDisabled := by decide +kernel
    cases hstored.symm.trans hstatus
  obtain ⟨move, hmove, hwrites⟩ := List.any_eq_true.mp overwritten
  exact ⟨move, hmove, hoverwrites move hmove hwrites⟩

/-- The order is done, but the channel is not stored as disabled by order. -/
theorem overruledOrder_lost :
    lonelyGateway.store.Usable ∧
      (∃ channel, (disableManually 1).Ends (exchangesOf overruledOrder.history 1) (.ok channel)) ∧
      overruledOrder.gateway.store.status? 1 = some .autoDisabled :=
  ⟨⟨rfl, rfl, by decide⟩, overruledOrder_returns, by decide +kernel⟩

end RelayGateway
