/-! # Programs that ask their surroundings

* `Program Reply α`: a computation that either is done with a value or asks for something and goes on
  with the reply. It has no state of its own besides what it has been told, and every path through it
  is finite.
* `Program.run`: a program in given surroundings.
* `Program.advance`: one question answered, so that several programs can take turns.
-/

set_option autoImplicit false

namespace RelayGateway

/-- A computation that asks calls, each with its own type of reply. -/
inductive Program {Call : Type} (Reply : Call → Type) (α : Type) where
  | done (value : α)
  | ask (call : Call) (next : Reply call → Program Reply α)

namespace Program

variable {Call : Type} {Reply : Call → Type} {α β : Type}

/-- Goes on with another program after this one is done. -/
def bind : Program Reply α → (α → Program Reply β) → Program Reply β
  | .done value, after => after value
  | .ask call next, after => .ask call fun reply => (next reply).bind after

instance : Monad (Program Reply) where
  pure := .done
  bind := bind

def request (call : Call) : Program Reply (Reply call) :=
  .ask call .done

/-- Runs a program in surroundings that answer every call. -/
def run {m : Type → Type} [Monad m] (answer : (call : Call) → m (Reply call)) :
    Program Reply α → m α
  | .done value => pure value
  | .ask call next => do
    let reply ← answer call
    (next reply).run answer

/-- Answers the next call of a program out of a state; a program that is done stays as it is. -/
def advance {σ : Type} (answer : (call : Call) → σ → Reply call × σ) :
    Program Reply α → σ → Program Reply α × σ
  | .done value, state => (.done value, state)
  | .ask call next, state =>
    let (reply, state) := answer call state
    (next reply, state)

def value? : Program Reply α → Option α
  | .done value => some value
  | .ask _ _ => none

end Program

end RelayGateway
