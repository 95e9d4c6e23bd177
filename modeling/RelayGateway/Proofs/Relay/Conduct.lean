import RelayGateway.Proofs.Program.Watch
import RelayGateway.Proofs.Relay.Attempts
import RelayGateway.Proofs.Routing.Resolution

/-! # How a run conducts itself

What holds of a run that is not over yet.

* `Ledger`: the channels that a run has dispatched to, and what it owes. After a rate limit it owes the
  reversal of its reservation, and then a cooldown of the channel for the key.
* `relayWatch`: a run does nothing else as long as it owes something. It cools nothing that it does not
  owe, and reports only channels that it has dispatched to.
* `abides_relay`: every run conducts itself so, as long as it sees tables built from channels.
* `ledgerOf`: the ledger read from a transcript.
-/

set_option autoImplicit false

namespace RelayGateway

inductive Owed where
  | nothing
  | reversal (id : ChannelId) (key : String)
  | cooldown (id : ChannelId) (key : String)

structure Ledger where
  tried : List ChannelId
  owed : Owed

namespace Ledger

def after (ledger : Ledger) : Exchange RelayReply → Ledger
  | ⟨.dispatch channel key _, .error failure⟩ =>
    ⟨ledger.tried ++ [channel.id],
      if coolsDown failure.error then .reversal channel.id key else .nothing⟩
  | ⟨.dispatch channel _ _, .ok _⟩ => ⟨ledger.tried ++ [channel.id], .nothing⟩
  | ⟨.reverse _, _⟩ =>
    match ledger.owed with
    | .reversal id key => ⟨ledger.tried, .cooldown id key⟩
    | .nothing | .cooldown .. => ledger
  | ⟨.cool .., _⟩ => ⟨ledger.tried, .nothing⟩
  | ⟨.look, _⟩ | ⟨.elapsed, _⟩ | ⟨.storedChannel _, _⟩ | ⟨.reserve _, _⟩ | ⟨.settle .., _⟩
  | ⟨.report .., _⟩ => ledger

def Allows (ledger : Ledger) : RelayCall → Prop
  | .reverse _ => ∀ id key, ledger.owed ≠ .cooldown id key
  | .cool id key => ledger.owed = .cooldown id key ∧ id ∈ ledger.tried ∧ key ≠ ""
  | .report channel _ => ledger.owed = .nothing ∧ channel.id ∈ ledger.tried
  | .look | .elapsed | .storedChannel _ | .reserve _ | .dispatch .. | .settle .. =>
    ledger.owed = .nothing

/-- A step that is not a reversal or a cooldown needs that nothing is owed. -/
theorem Allows.pays {ledger : Ledger} {call : RelayCall} (allowed : ledger.Allows call) :
    ledger.owed = .nothing ∨
      (∃ reservation, call = .reverse reservation ∧ ∀ id key, ledger.owed ≠ .cooldown id key) ∨
      ∃ id key, call = .cool id key ∧ ledger.owed = .cooldown id key ∧ key ≠ "" := by
  cases call with
  | reverse reservation => exact .inr (.inl ⟨reservation, rfl, allowed⟩)
  | cool id key => exact .inr (.inr ⟨id, key, rfl, allowed.1, allowed.2.2⟩)
  | report channel err => exact .inl allowed.1
  | look => exact .inl allowed
  | elapsed => exact .inl allowed
  | storedChannel id => exact .inl allowed
  | reserve charge => exact .inl allowed
  | dispatch channel key request => exact .inl allowed
  | settle reservation usage stream => exact .inl allowed

theorem after_failed (ledger : Ledger) (channel : Channel) (key : String) (request : RelayRequest)
    (failure : DispatchFailure) :
    ledger.after ⟨.dispatch channel key request, .error failure⟩ =
      ⟨ledger.tried ++ [channel.id],
        if coolsDown failure.error then .reversal channel.id key else .nothing⟩ := rfl

end Ledger

/-- Tables that are seen were built from channels. -/
def relayWatch : Watch RelayReply Ledger where
  after := Ledger.after
  allows := Ledger.Allows
  possible entry := ∀ sight, entry = ⟨.look, sight⟩ → sight.registry.Built

/-- The run owes nothing. -/
def Settled {α : Type} (ledger : Ledger) (_ : α) : Prop := ledger.owed = .nothing

variable {policy : RelayPolicy} {plan : RelayPlan} {budget : RetryBudget} {channel : Channel}
  {ledger : Ledger}

/-- After a failed attempt, the cooldown is all that can be owed. -/
structure Ledger.Failing (plan : RelayPlan) (channel : Channel) (ledger : Ledger)
    (failure : AttemptFailure) : Prop where
  owed : ledger.owed =
    if coolsDown failure.error then .cooldown channel.id plan.key else .nothing
  tried : coolsDown failure.error = true ∨ failure.error.isLocal = false → channel.id ∈ ledger.tried

theorem abides_attempt (settled : ledger.owed = .nothing) :
    Program.Abides relayWatch (fun ledger result =>
        match result with
        | .ok _ => ledger.owed = .nothing
        | .error failure => ledger.Failing plan channel failure)
      ledger (attempt plan channel) := by
  refine ⟨settled, ?_⟩
  intro reserved _
  cases reserved with
  | error err =>
    refine ⟨settled, ?_⟩
    rintro (h | h) <;> cases h
  | ok reservation =>
    refine ⟨settled, ?_⟩
    intro dispatched _
    have tried : channel.id ∈ ledger.tried ++ [channel.id] := by simp
    cases dispatched with
    | ok outcome => exact ⟨rfl, fun _ _ => rfl⟩
    | error failure =>
      show Program.Abides relayWatch _
        (ledger.after ⟨.dispatch channel plan.key plan.request, .error failure⟩)
        (.ask (.reverse reservation) fun _ =>
          .done (Except.error (AttemptFailure.mk failure.error failure.committed)))
      rw [Ledger.after_failed]
      cases hcool : coolsDown failure.error with
      | true =>
        refine ⟨?_, fun reversal _ => ⟨?_, fun _ => tried⟩⟩
        · intro id key h
          cases h
        · show Owed.cooldown channel.id plan.key = _
          rw [if_pos hcool]
      | false =>
        refine ⟨?_, fun reversal _ => ⟨?_, fun _ => tried⟩⟩
        · intro id key h
          cases h
        · show Owed.nothing = _
          rw [hcool]
          rfl

theorem abides_followUp {failure : AttemptFailure} (named : plan.key ≠ "")
    (failing : ledger.Failing plan channel failure) :
    Program.Abides relayWatch Settled ledger (followUp plan channel failure.error) := by
  have reported : ∀ ledger : Ledger, ledger.owed = .nothing →
      (failure.error.isLocal = false → channel.id ∈ ledger.tried) →
      Program.Abides relayWatch Settled ledger (if (!failure.error.isLocal) = true then
        Program.request (RelayCall.report channel failure.error) else pure ()) := by
    intro ledger hsettled htried
    split
    · rename_i hforeign
      have hforeign : failure.error.isLocal = false := by simpa using hforeign
      exact ⟨⟨hsettled, htried hforeign⟩, fun _ _ => hsettled⟩
    · exact hsettled
  have howed := failing.owed
  unfold followUp
  dsimp only
  split
  · rename_i hcool
    rw [if_pos hcool] at howed
    apply Program.abides_bind
    apply Program.abides_request
    · exact ⟨howed, failing.tried (.inl hcool), named⟩
    · intro cooled _
      exact reported _ rfl fun hforeign => failing.tried (.inr hforeign)
  · rename_i hcool
    rw [if_neg hcool] at howed
    exact reported ledger howed fun hforeign => failing.tried (.inr hforeign)

theorem abides_afterFailure {failure : AttemptFailure} (named : plan.key ≠ "")
    (failing : ledger.Failing plan channel failure) :
    Program.Abides relayWatch Settled ledger (afterFailure policy plan budget channel failure) := by
  unfold afterFailure
  apply Program.abides_bind
  apply Program.abides_mono _ (abides_followUp named failing)
  intro ledger _ hsettled
  dsimp only
  split
  · exact hsettled
  · split
    · apply Program.abides_bind
      apply Program.abides_request hsettled
      intro elapsed _
      split
      · exact hsettled
      · apply Program.abides_bind
        apply Program.abides_request hsettled
        intro sight _
        split <;> exact hsettled
    · exact hsettled

theorem abides_turn (named : plan.key ≠ "") (settled : ledger.owed = .nothing) :
    Program.Abides relayWatch Settled ledger (turn policy plan budget channel) := by
  unfold turn
  apply Program.abides_bind
  apply Program.abides_mono _ (abides_attempt settled)
  intro ledger result hresult
  cases result with
  | ok answer => exact hresult
  | error failure => exact abides_afterFailure named hresult

theorem abides_attemptFrom (named : plan.key ≠ "") (settled : ledger.owed = .nothing) :
    Program.Abides relayWatch Settled ledger (attemptFrom policy plan budget channel) := by
  -- on the attempts that are left
  induction budget, channel using attemptFrom.induct generalizing ledger with
  | case1 budget channel ih =>
    rw [attemptFrom]
    apply Program.abides_bind
    apply Program.abides_mono _ (abides_turn named settled)
    intro ledger sequel hsettled
    cases sequel with
    | ended result => exact hsettled
    | another next chosen fewer => exact ih next chosen fewer hsettled

theorem abides_relayUnpinned (named : plan.key ≠ "") (settled : ledger.owed = .nothing) :
    Program.Abides relayWatch Settled ledger (relayUnpinned policy plan) := by
  unfold relayUnpinned
  apply Program.abides_bind
  apply Program.abides_request settled
  intro counted _
  apply Program.abides_bind
  apply Program.abides_request settled
  intro sight _
  split
  · exact settled
  · exact abides_attemptFrom named settled

theorem abides_relayPinned {id : ChannelId} (named : plan.key ≠ "") (settled : ledger.owed = .nothing) :
    Program.Abides relayWatch Settled ledger (relayPinned plan id) := by
  unfold relayPinned
  apply Program.abides_bind
  apply Program.abides_request settled
  intro stored _
  match stored with
  | .error err => exact settled
  | .ok none => exact settled
  | .ok (some channel) =>
    dsimp only
    split
    · apply Program.abides_bind
      apply Program.abides_mono _ (abides_attempt settled)
      intro ledger result hresult
      cases result with
      | ok answer => exact hresult
      | error failure =>
        apply Program.abides_bind
        apply Program.abides_mono _ (abides_followUp named hresult)
        intro ledger _ hsettled
        exact hsettled
    · exact settled

theorem planRequest_key {registry : Registry} {routed : RelayRequest}
    (h : planRequest policy registry routed = .ok plan) :
    registry.resolve routed.tokenGroup routed.model = .ok plan.key := by
  unfold planRequest at h
  split at h
  · cases h
  · rename_i key hkey
    split at h
    · cases h
    · cases h
      exact hkey

theorem abides_relay (policy : RelayPolicy) (request : RelayRequest) :
    Program.Abides relayWatch Settled ⟨[], .nothing⟩ (relay policy request) := by
  unfold relay
  apply Program.abides_bind
  apply Program.abides_request rfl
  intro arrival _
  split
  · rfl
  · rename_i routed _
    apply Program.abides_bind
    apply Program.abides_request rfl
    intro sight hbuilt
    split
    · rfl
    · rename_i plan hplan
      have named : plan.key ≠ "" :=
        Registry.resolve_ne_empty (hbuilt sight rfl) (planRequest_key hplan)
      split
      · exact abides_relayPinned named rfl
      · exact abides_relayUnpinned named rfl

/-! ## The ledger of a transcript -/

def ledgerOf (transcript : RelayTranscript) : Ledger := transcript.foldl Ledger.after ⟨[], .nothing⟩

theorem ledgerOf_append_singleton (transcript : RelayTranscript) (entry : Exchange RelayReply) :
    ledgerOf (transcript ++ [entry]) = (ledgerOf transcript).after entry := by
  unfold ledgerOf
  rw [List.foldl_append]
  rfl

theorem ledgerOf_tried (transcript : RelayTranscript) :
    (ledgerOf transcript).tried = dispatchedIds transcript := by
  induction transcript using List.reverseRecOn with
  | nil => rfl
  | append_singleton transcript entry ih =>
    rw [ledgerOf_append_singleton, dispatchedIds_append, ← ih]
    generalize ledgerOf transcript = ledger
    obtain ⟨call, reply⟩ := entry
    cases call with
    | dispatch channel key request => cases reply <;> rfl
    | reverse reservation =>
      rw [Ledger.after.eq_def]
      dsimp only
      split <;> simp [dispatchedIds, dispatchedId?]
    | look => exact (List.append_nil _).symm
    | elapsed => exact (List.append_nil _).symm
    | storedChannel id => exact (List.append_nil _).symm
    | reserve charge => exact (List.append_nil _).symm
    | settle reservation usage stream => exact (List.append_nil _).symm
    | cool id key => exact (List.append_nil _).symm
    | report channel err => exact (List.append_nil _).symm

/-- The channel and the key of an attempt that has just failed for a rate limit: its dispatch and its
reversal come last. -/
def rateLimited? (past : RelayTranscript) : Option (ChannelId × String) :=
  match past.reverse with
  | ⟨.reverse _, _⟩ :: ⟨.dispatch channel key _, .error failure⟩ :: _ =>
    if failure.error.status = 429 then some (channel.id, key) else none
  | _ => none

/-- After an attempt that was rate limited, the cooldown is owed. -/
theorem ledgerOf_limited {past : RelayTranscript} {id : ChannelId} {key : String}
    (h : rateLimited? past = some (id, key)) : (ledgerOf past).owed = .cooldown id key := by
  unfold rateLimited? at h
  split at h
  · rename_i reservation reversal channel key' request failure earlier hreverse
    split at h
    · rename_i hstatus
      cases h
      have hpast : past = earlier.reverse ++ [⟨.dispatch channel key request, .error failure⟩] ++
          [⟨.reverse reservation, reversal⟩] := by
        rw [← List.reverse_reverse past, hreverse]
        simp
      have limited : coolsDown failure.error = true := by
        rw [coolsDown, hstatus]
        rfl
      rw [hpast, ledgerOf_append_singleton, ledgerOf_append_singleton, Ledger.after_failed,
        if_pos limited]
      rfl
    · cases h
  · cases h

end RelayGateway
