import RelayGateway.Proofs.Health.Effect
import RelayGateway.Proofs.Program.Transcript

/-! # When all callers are done

* `accountOf`: the account of a caller, read from the history.
* `LastWord history id seen between published later`: the last step that published a channel, and the
  last call of the store before it by the same caller.
* `AtWork`: what holds after every step of callers who started on a gateway that had just been loaded.
  `AtWork.step` keeps it.
* `AtWork.settled`: once all callers are done, every written status has been published since.
-/

set_option autoImplicit false

namespace RelayGateway

/-! ## What is read from the history -/

/-- The account of a caller. -/
def accountOf (history : List Move) (caller : Nat) : Account :=
  history.foldl (fun account move =>
    if move.caller = caller then account.afterMove move else account) .fresh

theorem accountOf_own (history : List Move) (gateway : Gateway) (caller : Nat) (call : HealthCall) :
    accountOf (history ++ [moveOf gateway caller call]) caller =
      (accountOf history caller).afterMove (moveOf gateway caller call) := by
  have own : (moveOf gateway caller call).caller = caller := rfl
  rw [accountOf, List.foldl_append, List.foldl_cons, List.foldl_nil, if_pos own]
  rfl

theorem accountOf_other (history : List Move) {move : Move} {caller : Nat}
    (h : move.caller ≠ caller) : accountOf (history ++ [move]) caller = accountOf history caller := by
  rw [accountOf, List.foldl_append, List.foldl_cons, List.foldl_nil, if_neg h]
  rfl

/-- `seen` is the last call of the store by a caller, and `later` are the steps of all callers since. -/
def LastStoreCall (history : List Move) (caller : Nat) (seen : Move) (later : List Move) : Prop :=
  (∃ earlier, history = earlier ++ seen :: later) ∧ seen.caller = caller ∧
    seen.isStoreCall = true ∧ ∀ move ∈ later, move.caller = caller → move.isStoreCall = false

/-- `published` is the last step that published a channel, and `seen` is the last call of the store
before it by the same caller. -/
structure LastWord (history : List Move) (id : ChannelId) (seen : Move) (between : List Move)
    (published : Move) (later : List Move) : Prop where
  placed : ∃ earlier, history = earlier ++ seen :: (between ++ published :: later)
  publishes : published.publishes id = true
  last : ∀ move ∈ later, move.publishes id = false
  own : seen.caller = published.caller
  stored : seen.isStoreCall = true
  only : ∀ move ∈ between, move.caller = published.caller → move.isStoreCall = false

/-- No step of a list writes the status of a channel. -/
def Unwritten (id : ChannelId) (moves : List Move) : Prop := ∀ move ∈ moves, move.writes id = false

theorem LastStoreCall.other {history later : List Move} {caller : Nat} {seen move : Move}
    (h : LastStoreCall history caller seen later)
    (hmove : move.caller = caller → move.isStoreCall = false) :
    LastStoreCall (history ++ [move]) caller seen (later ++ [move]) := by
  obtain ⟨⟨earlier, rfl⟩, hcaller, hstored, hlater⟩ := h
  refine ⟨⟨earlier, by simp⟩, hcaller, hstored, ?_⟩
  intro other hother
  rcases List.mem_append.mp hother with h | h
  · exact hlater other h
  · rw [List.mem_singleton.mp h]
    exact hmove

theorem LastWord.of_publishes {history between : List Move} {id : ChannelId} {seen move : Move}
    (h : LastStoreCall history move.caller seen between) (published : move.publishes id = true) :
    LastWord (history ++ [move]) id seen between move [] := by
  obtain ⟨⟨earlier, rfl⟩, hcaller, hstored, hbetween⟩ := h
  exact ⟨⟨earlier, by simp⟩, published, by simp, hcaller, hstored, hbetween⟩

theorem LastWord.other {history between later : List Move} {id : ChannelId}
    {seen published move : Move} (h : LastWord history id seen between published later)
    (hmove : move.publishes id = false) :
    LastWord (history ++ [move]) id seen between published (later ++ [move]) := by
  obtain ⟨⟨earlier, rfl⟩, hpublished, hlast, hown, hstored, honly⟩ := h
  refine ⟨⟨earlier, by simp⟩, hpublished, ?_, hown, hstored, honly⟩
  intro other hother
  rcases List.mem_append.mp hother with h | h
  · exact hlast other h
  · rw [List.mem_singleton.mp h]
    exact hmove

/-! ## What holds after every step -/

/-- What a caller goes by was right when it last called the store. -/
def Backed (ids : List ChannelId) (history : List Move) (caller : Nat) : Prop :=
  (accountOf history caller).basis = .nothing ∨
    ∃ seen later, LastStoreCall history caller seen later ∧
      (accountOf history caller).basis.Agrees ids seen.after.store

/-- What holds after every step of callers who started on the gateway `origin`. -/
structure AtWork (origin : Gateway) (work : Concurrent) : Prop where
  usable : work.gateway.store.Usable
  ids : work.gateway.store.rows.map (·.id) = origin.store.rows.map (·.id)
  careful : ∀ caller program, work.callers[caller]? = some program →
    Careful (accountOf work.history caller) program
  absent : ∀ caller, work.callers[caller]? = none → accountOf work.history caller = .fresh
  backed : ∀ caller, Backed (origin.store.rows.map (·.id)) work.history caller
  /-- A status stays until it is written. -/
  kept : ∀ id earlier move later, work.history = earlier ++ move :: later → Unwritten id later →
    work.gateway.store.isEnabled id = move.after.store.isEnabled id
  untouched : ∀ id, Unwritten id work.history →
    work.gateway.store.isEnabled id = origin.store.isEnabled id
  /-- A status that was written and not published since is owed by somebody. -/
  owed : ∀ id earlier move later, work.history = earlier ++ move :: later →
    move.writes id = true → (∀ other ∈ later, other.publishes id = false) →
    ∃ caller, (accountOf work.history caller).owes = some id
  shown : ∀ id, ((∀ move ∈ work.history, move.publishes id = false) ∧
      work.gateway.registry.isChannelEnabled id = origin.store.isEnabled id) ∨
    ∃ seen between published later, LastWord work.history id seen between published later ∧
      work.gateway.registry.isChannelEnabled id = seen.after.store.isEnabled id ∧
      (Unwritten id between →
        seen.after.store.isEnabled id = published.after.store.isEnabled id)

variable {origin : Gateway} {work : Concurrent} {caller : Nat} {call : HealthCall}
  {next : HealthReply call → HealthProgram Unit}

theorem Concurrent.step_ask (h : work.callers[caller]? = some (.ask call next)) :
    work.step caller =
      ⟨(moveOf work.gateway caller call).after,
        work.callers.set caller (next (Gateway.answerHealth call work.gateway).1),
        work.history ++ [moveOf work.gateway caller call]⟩ := by
  rw [Concurrent.step, h]
  rfl

theorem AtWork.known (h : AtWork origin work) (caller : Nat) :
    (accountOf work.history caller).basis.Known (work.gateway.store.rows.map (·.id)) := by
  rw [h.ids]
  rcases h.backed caller with hnothing | ⟨seen, later, _, hagrees⟩
  · rw [hnothing]
    trivial
  · exact hagrees.known

section Step

variable (h : AtWork origin work) (asks : work.callers[caller]? = some (.ask call next))
include h asks

theorem AtWork.allowed : (accountOf work.history caller).Allows call :=
  (h.careful caller _ asks).1

theorem AtWork.careful_step (other : Nat) (program : HealthProgram Unit)
    (hprogram : (work.step caller).callers[other]? = some program) :
    Careful (accountOf (work.step caller).history other) program := by
  rw [Concurrent.step_ask asks] at hprogram ⊢
  dsimp only at hprogram ⊢
  by_cases heq : caller = other
  · subst heq
    rw [List.getElem?_set_self', asks] at hprogram
    cases hprogram
    rw [accountOf_own]
    exact (h.careful caller _ asks).2 _ (answer_succeeds h.usable (h.allowed asks) (h.known caller))
  · rw [List.getElem?_set_ne heq] at hprogram
    rw [accountOf_other work.history heq]
    exact h.careful other program hprogram

theorem AtWork.absent_step (other : Nat) (habsent : (work.step caller).callers[other]? = none) :
    accountOf (work.step caller).history other = .fresh := by
  rw [Concurrent.step_ask asks] at habsent ⊢
  dsimp only at habsent ⊢
  have hnone : work.callers[other]? = none := by
    rw [List.getElem?_eq_none_iff] at habsent ⊢
    rwa [List.length_set] at habsent
  have heq : caller ≠ other := by
    rintro rfl
    rw [asks] at hnone
    cases hnone
  rw [accountOf_other work.history heq]
  exact h.absent other hnone

theorem AtWork.backed_step (other : Nat) :
    Backed (origin.store.rows.map (·.id)) (work.step caller).history other := by
  rw [Concurrent.step_ask asks]
  unfold Backed
  dsimp only
  by_cases heq : caller = other
  · subst heq
    rw [accountOf_own]
    cases hstored : (moveOf work.gateway caller call).isStoreCall with
    | true =>
      have hagrees := agrees_after h.usable (h.allowed asks) (h.known caller) hstored
      rw [h.ids] at hagrees
      exact .inr ⟨_, [], ⟨⟨work.history, rfl⟩, rfl, hstored, by simp⟩, hagrees⟩
    | false =>
      rw [basis_after hstored]
      rcases h.backed caller with hnothing | ⟨seen, later, hlast, hagrees⟩
      · exact .inl hnothing
      · exact .inr ⟨seen, _, hlast.other fun _ => hstored, hagrees⟩
  · rw [accountOf_other work.history heq]
    rcases h.backed other with hnothing | ⟨seen, later, hlast, hagrees⟩
    · exact .inl hnothing
    · exact .inr ⟨seen, _, hlast.other fun hcaller => absurd hcaller heq, hagrees⟩

theorem AtWork.kept_step (id : ChannelId) (earlier : List Move) (move : Move) (later : List Move)
    (hhistory : (work.step caller).history = earlier ++ move :: later)
    (hunwritten : Unwritten id later) :
    (work.step caller).gateway.store.isEnabled id = move.after.store.isEnabled id := by
  rw [Concurrent.step_ask asks] at hhistory ⊢
  rcases append_singleton_eq hhistory with ⟨_, rfl, _⟩ | ⟨later', rfl, hbefore⟩
  · rfl
  · have hlast := hunwritten _ (List.mem_append_right _ List.mem_cons_self)
    rw [← h.kept id earlier move later' hbefore fun other hother =>
      hunwritten other (List.mem_append_left _ hother)]
    exact answer_isEnabled h.usable (h.allowed asks) (h.known caller) hlast

theorem AtWork.untouched_step (id : ChannelId)
    (hunwritten : Unwritten id (work.step caller).history) :
    (work.step caller).gateway.store.isEnabled id = origin.store.isEnabled id := by
  rw [Concurrent.step_ask asks] at hunwritten ⊢
  have hlast := hunwritten _ (List.mem_append_right _ List.mem_cons_self)
  rw [← h.untouched id fun other hother => hunwritten other (List.mem_append_left _ hother)]
  exact answer_isEnabled h.usable (h.allowed asks) (h.known caller) hlast

theorem AtWork.owed_step (id : ChannelId) (earlier : List Move) (move : Move) (later : List Move)
    (hhistory : (work.step caller).history = earlier ++ move :: later)
    (hwrites : move.writes id = true) (hsilent : ∀ other ∈ later, other.publishes id = false) :
    ∃ debtor, (accountOf (work.step caller).history debtor).owes = some id := by
  rw [Concurrent.step_ask asks] at hhistory ⊢
  dsimp only at hhistory ⊢
  rcases append_singleton_eq hhistory with ⟨_, rfl, _⟩ | ⟨later', rfl, hbefore⟩
  · refine ⟨caller, ?_⟩
    rw [accountOf_own]
    exact owes_written h.usable (h.allowed asks) (h.known caller) hwrites
  · have hlast := hsilent _ (List.mem_append_right _ List.mem_cons_self)
    obtain ⟨debtor, howes⟩ := h.owed id earlier move later' hbefore hwrites fun other hother =>
      hsilent other (List.mem_append_left _ hother)
    refine ⟨debtor, ?_⟩
    by_cases heq : caller = debtor
    · subst heq
      rw [accountOf_own]
      exact owes_after (h.allowed asks) howes hlast
    · rw [accountOf_other work.history heq]
      exact howes

theorem AtWork.shown_step (id : ChannelId) :
    ((∀ move ∈ (work.step caller).history, move.publishes id = false) ∧
      (work.step caller).gateway.registry.isChannelEnabled id = origin.store.isEnabled id) ∨
    ∃ seen between published later,
      LastWord (work.step caller).history id seen between published later ∧
      (work.step caller).gateway.registry.isChannelEnabled id = seen.after.store.isEnabled id ∧
      (Unwritten id between →
        seen.after.store.isEnabled id = published.after.store.isEnabled id) := by
  rw [Concurrent.step_ask asks]
  dsimp only
  cases hpublished : (moveOf work.gateway caller call).publishes id with
  | true =>
    -- the new word rests on the last call of the store by its caller
    obtain ⟨seen, later, hlast, hagrees⟩ :=
      (h.backed caller).resolve_left (basis_ne_nothing (h.allowed asks) hpublished)
    refine .inr ⟨seen, later, _, [], LastWord.of_publishes hlast hpublished,
      published_agrees (h.allowed asks) hagrees hpublished, ?_⟩
    intro hunwritten
    obtain ⟨earlier, hhistory⟩ := hlast.1
    have hwrites : (moveOf work.gateway caller call).writes id = false := by
      rcases publishes_cases hpublished with ⟨channels, rfl⟩ | ⟨enabled, rfl, _⟩ <;> rfl
    rw [← h.kept id earlier seen later hhistory hunwritten]
    exact (answer_isEnabled h.usable (h.allowed asks) (h.known caller) hwrites).symm
  | false =>
    have hsame := answer_isChannelEnabled hpublished
    rcases h.shown id with ⟨hsilent, hshown⟩ | ⟨seen, between, published, later, hword, hshown, hkept⟩
    · refine .inl ⟨?_, hsame.trans hshown⟩
      intro move hmove
      rcases List.mem_append.mp hmove with hmem | hmem
      · exact hsilent move hmem
      · rw [List.mem_singleton.mp hmem]
        exact hpublished
    · exact .inr ⟨seen, between, published, _, hword.other hpublished, hsame.trans hshown, hkept⟩

/-- The next step of a caller keeps what holds after every step. -/
theorem AtWork.step_ask : AtWork origin (work.step caller) where
  usable := by
    rw [Concurrent.step_ask asks]
    exact answer_usable h.usable _
  ids := by
    rw [Concurrent.step_ask asks]
    exact (answer_ids h.usable (h.allowed asks) (h.known caller)).trans h.ids
  careful := h.careful_step asks
  absent := h.absent_step asks
  backed := h.backed_step asks
  kept := h.kept_step asks
  untouched := h.untouched_step asks
  owed := h.owed_step asks
  shown := h.shown_step asks

end Step

theorem AtWork.step (h : AtWork origin work) (caller : Nat) : AtWork origin (work.step caller) := by
  rcases work.step_cases caller with hsame | ⟨call, next, hasks⟩
  · rw [hsame]
    exact h
  · exact h.step_ask hasks

theorem AtWork.run (h : AtWork origin work) (schedule : List Nat) :
    AtWork origin (work.run schedule) := by
  induction schedule generalizing work with
  | nil => exact h
  | cons caller schedule ih => exact ih (h.step caller)

/-! ## The beginning and the end -/

/-- After a load from a store that works, the registry shows every channel as the store has it. -/
theorem loaded_shown {gateway : Gateway} (usable : gateway.store.Usable) :
    (Gateway.perform loadChannels gateway).2.store = gateway.store ∧
      ∀ id, (Gateway.perform loadChannels gateway).2.registry.isChannelEnabled id =
        gateway.store.isEnabled id := by
  have hfetched := Store.enabledChannels_eq usable
  rw [perform_loadChannels, hfetched]
  refine ⟨rfl, ?_⟩
  intro id
  rw [Bool.eq_iff_iff, Store.enabledChannels_iff usable hfetched]
  exact isChannelEnabled_install gateway.registry _ id

theorem AtWork.start {gateway : Gateway} (usable : gateway.store.Usable)
    (orders : List HealthOrder) :
    AtWork (Gateway.perform loadChannels gateway).2
      (.start (Gateway.perform loadChannels gateway).2 orders) := by
  obtain ⟨hstore, hshown⟩ := loaded_shown usable
  have nothing : ∀ earlier later : List Move, ∀ move, [] ≠ earlier ++ move :: later := by simp
  constructor
  case usable =>
    show (Gateway.perform loadChannels gateway).2.store.Usable
    rw [hstore]
    exact usable
  case ids => rfl
  case careful =>
    intro caller program hprogram
    obtain ⟨order, _, rfl⟩ := List.mem_map.mp (List.mem_of_getElem? hprogram)
    exact careful_program order
  case absent => exact fun _ _ => rfl
  case backed => exact fun _ => .inl rfl
  case kept => exact fun _ earlier move later h => absurd h (nothing earlier later move)
  case untouched => exact fun _ _ => rfl
  case owed => exact fun _ earlier move later h => absurd h (nothing earlier later move)
  case shown =>
    intro id
    refine .inl ⟨by simp [Concurrent.start], ?_⟩
    rw [hstore]
    exact hshown id

/-- When all callers are done, nobody owes anything, so that every written status has been published
since. -/
theorem AtWork.settled (h : AtWork origin work) (finished : work.isFinished = true)
    {id : ChannelId} {later : List Move} {earlier : List Move}
    (hhistory : work.history = earlier ++ later)
    (hsilent : ∀ move ∈ later, move.publishes id = false) : Unwritten id later := by
  have nothing_owed : ∀ caller, (accountOf work.history caller).owes = none := by
    intro caller
    cases hprogram : work.callers[caller]? with
    | none =>
      -- there is no such caller, so nobody took a step under this number
      rw [h.absent caller hprogram]
      rfl
    | some program =>
      have hcareful := h.careful caller program hprogram
      have hdone := List.all_eq_true.mp finished program (List.mem_of_getElem? hprogram)
      cases program with
      | done value => exact hcareful
      | ask call next => cases hdone
  intro move hmove
  by_contra hwrites
  rw [Bool.not_eq_false] at hwrites
  obtain ⟨before, after, rfl⟩ := List.append_of_mem hmove
  obtain ⟨caller, howes⟩ := h.owed id (earlier ++ before) move after (by rw [hhistory]; simp) hwrites
    fun other hother => hsilent other (List.mem_append_right _ (List.mem_cons_of_mem _ hother))
  rw [nothing_owed caller] at howes
  cases howes

/-- Callers are at work, in any order of their steps, on a gateway that has just been loaded from a
store that works. Once all are done, a channel that nobody has published is shown as the store has it.
Any other is shown as the store had it when the caller who published it last had last called the store,
and the store has it as it was when that caller published it. So the two agree unless the status was
written in between. -/
theorem flags_at_rest (gateway : Gateway) (usable : gateway.store.Usable)
    (orders : List HealthOrder) (schedule : List Nat) :
    let work := (Concurrent.start (Gateway.perform loadChannels gateway).2 orders).run schedule
    work.isFinished = true → ∀ id,
      ((∀ move ∈ work.history, move.publishes id = false) ∧
        work.gateway.registry.isChannelEnabled id = work.gateway.store.isEnabled id) ∨
      ∃ seen between published later, LastWord work.history id seen between published later ∧
        work.gateway.registry.isChannelEnabled id = seen.after.store.isEnabled id ∧
        work.gateway.store.isEnabled id = published.after.store.isEnabled id ∧
        (Unwritten id between →
          work.gateway.registry.isChannelEnabled id = work.gateway.store.isEnabled id) := by
  intro work finished id
  have h : AtWork _ work := (AtWork.start usable orders).run schedule
  rcases h.shown id with ⟨hsilent, hshown⟩ | ⟨seen, between, published, later, hword, hshown, hkept⟩
  · have hall : work.history = [] ++ work.history := rfl
    have hunwritten := h.settled finished hall hsilent
    rw [h.untouched id hunwritten]
    exact .inl ⟨hsilent, hshown⟩
  · obtain ⟨earlier, hhistory⟩ := hword.placed
    have hbefore : work.history = (earlier ++ seen :: between) ++ published :: later := by
      rw [hhistory]
      simp
    have hafter : work.history = (earlier ++ seen :: (between ++ [published])) ++ later := by
      rw [hhistory]
      simp
    have hunwritten := h.settled finished hafter hword.last
    have hstore := h.kept id _ published later hbefore hunwritten
    refine .inr ⟨seen, between, published, later, hword, hshown, hstore, ?_⟩
    intro hbetween
    rw [hshown, hstore]
    exact hkept hbetween

/-! ## A status written in between -/

/-- A gateway whose store has one enabled channel. -/
def lonelyGateway : Gateway :=
  .ofSettings {} []
    { Store.fresh with rows := [{ (default : ChannelRow) with id := 1, statusCode := 1 }] }

/-- A channel is disabled while a load that has fetched it has yet to install its table. -/
def overtakenLoad : Concurrent :=
  (Concurrent.start (Gateway.perform loadChannels lonelyGateway).2
    [.load, .disableManually 1]).run [0, 1, 1, 1, 0]

/-- A channel is disabled while somebody who has stored it as enabled has yet to clear its flag. -/
def overtakenEnable : Concurrent :=
  (Concurrent.start (Gateway.perform loadChannels lonelyGateway).2
    [.enable 1 false, .disableManually 1]).run [0, 0, 1, 1, 1, 0]

theorem overtaken_disable :
    lonelyGateway.store.Usable ∧
      (overtakenLoad.isFinished = true ∧
        overtakenLoad.gateway.registry.isChannelEnabled 1 = true ∧
        overtakenLoad.gateway.store.isEnabled 1 = false) ∧
      (overtakenEnable.isFinished = true ∧
        overtakenEnable.gateway.registry.isChannelEnabled 1 = true ∧
        overtakenEnable.gateway.store.isEnabled 1 = false) :=
  ⟨⟨rfl, rfl, by decide⟩, by decide +kernel, by decide +kernel⟩

theorem overtakenLoad_at_rest :
    lonelyGateway.store.Usable ∧ overtakenLoad.isFinished = true ∧
      ∃ seen between published later, LastWord overtakenLoad.history 1 seen between published later ∧
        seen.after.store.isEnabled 1 = true ∧ published.after.store.isEnabled 1 = false := by
  have usable : lonelyGateway.store.Usable := ⟨rfl, rfl, by decide⟩
  have finished : overtakenLoad.isFinished = true := by decide +kernel
  have hshown : overtakenLoad.gateway.registry.isChannelEnabled 1 = true := by decide +kernel
  have hstored : overtakenLoad.gateway.store.isEnabled 1 = false := by decide +kernel
  refine ⟨usable, finished, ?_⟩
  rcases flags_at_rest lonelyGateway usable [.load, .disableManually 1] [0, 1, 1, 1, 0] finished 1 with
    ⟨_, heq⟩ | ⟨seen, between, published, later, hword, hseen, hpublished, _⟩
  · have := hshown.symm.trans (heq.trans hstored)
    cases this
  · exact ⟨seen, between, published, later, hword, hseen.symm.trans hshown,
      hpublished.symm.trans hstored⟩

end RelayGateway
