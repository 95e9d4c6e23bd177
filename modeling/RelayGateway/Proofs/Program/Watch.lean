import RelayGateway.Proofs.Program.Transcript

/-! # Programs under watch

* `Watch`: somebody who keeps a state beside a program: how it follows the exchanges, which calls it
  allows, and which replies are possible.
* `Program.Abides`: as long as the replies are possible, every call is allowed, and the program ends in a
  state with a value as it should.

A rule for each way to put programs together; `abides_mono` weakens what holds at the end.
-/

set_option autoImplicit false

namespace RelayGateway

/-- A state kept beside a program. -/
structure Watch {Call : Type} (Reply : Call → Type) (σ : Type) where
  after : σ → Exchange Reply → σ
  allows : σ → Call → Prop
  possible : Exchange Reply → Prop

namespace Program

variable {Call : Type} {Reply : Call → Type} {σ α β : Type} {watch : Watch Reply σ} {state : σ}

def Abides (watch : Watch Reply σ) (ends : σ → α → Prop) : σ → Program Reply α → Prop
  | state, .done value => ends state value
  | state, .ask call next =>
    watch.allows state call ∧ ∀ reply, watch.possible ⟨call, reply⟩ →
      Abides watch ends (watch.after state ⟨call, reply⟩) (next reply)

theorem abides_request {call : Call} {ends : σ → Reply call → Prop}
    (allowed : watch.allows state call)
    (after : ∀ reply, watch.possible ⟨call, reply⟩ → ends (watch.after state ⟨call, reply⟩) reply) :
    Abides watch ends state (request call) :=
  ⟨allowed, after⟩

theorem abides_mono {ends ends' : σ → α → Prop} (weaker : ∀ state value, ends state value →
    ends' state value) {program : Program Reply α} (h : Abides watch ends state program) :
    Abides watch ends' state program := by
  induction program generalizing state with
  | done value => exact weaker state value h
  | ask call next ih =>
    obtain ⟨hallowed, hnext⟩ := h
    exact ⟨hallowed, fun reply hreply => ih reply (hnext reply hreply)⟩

theorem abides_bind {ends : σ → β → Prop} {program : Program Reply α}
    {after : α → Program Reply β}
    (h : Abides watch (fun state value => Abides watch ends state (after value)) state program) :
    Abides watch ends state (program >>= after) := by
  induction program generalizing state with
  | done value => exact h
  | ask call next ih =>
    obtain ⟨hallowed, hnext⟩ := h
    exact ⟨hallowed, fun reply hreply => ih reply (hnext reply hreply)⟩

end Program

end RelayGateway
