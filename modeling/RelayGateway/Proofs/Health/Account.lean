import RelayGateway.Proofs.Health.Interleaving
import RelayGateway.Proofs.Store.StoredStatus

/-! # What a caller goes by

* `Basis`: what the last call of the store told a caller; `Account` adds the channel whose status the
  caller has written but not yet published.
* `Careful account program`: as long as the store works, the program publishes only what it goes by, and
  it owes nothing when it is done.
* `careful_program`: every health operation is careful.
* `accountOf`: the account of a caller, read from the history.
-/

set_option autoImplicit false

namespace RelayGateway

/-- What the last call of the store told a caller, or did for it. -/
inductive Basis where
  | nothing
  | read (id : ChannelId) (channel : Option Channel)
  | wrote (id : ChannelId) (status : ChannelStatus)
  | fetched (channels : List Channel)

structure Account where
  basis : Basis
  /-- The channel whose status was written but not yet published. -/
  owes : Option ChannelId

/-- Whether the basis says that a channel is, or is not, enabled. -/
def Basis.tells : Basis → ChannelId → Bool → Prop
  | .read other (some channel), id, enabled => other = id ∧ (channel.status == .enabled) = enabled
  | .wrote other status, id, enabled => other = id ∧ (status == .enabled) = enabled
  | .nothing, _, _ | .read _ none, _, _ | .fetched _, _, _ => False

namespace Account

def fresh : Account := ⟨.nothing, none⟩

/-- The account after a step of its owner. -/
def after (account : Account) : (call : HealthCall) → HealthReply call → Account
  | .storedChannel id, .ok channel => { account with basis := .read id channel }
  | .updateStatus id status, .ok _ => ⟨.wrote id status, some id⟩
  | .fetchEnabled, .ok channels => { account with basis := .fetched channels }
  | .storedChannel _, .error _ | .updateStatus .., .error _ | .fetchEnabled, .error _ => account
  | .install _, _ => { account with owes := none }
  | .setEnabled _ enabled, found =>
    if found || !enabled then { account with owes := none } else account
  | .notify _, _ => account

/-- The steps that a careful caller takes. -/
def Allows (account : Account) : HealthCall → Prop
  | .storedChannel _ => account.owes = none
  | .updateStatus id _ => account.owes = none ∧ ∃ channel, account.basis = .read id (some channel)
  | .fetchEnabled | .notify _ => True
  | .install channels => account.basis = .fetched channels
  | .setEnabled id enabled => account.basis.tells id enabled ∧ ∀ owed ∈ account.owes, owed = id

end Account

/-- The replies of a store that works and has the channels that are written. -/
def Succeeds : (call : HealthCall) → HealthReply call → Prop
  | .storedChannel _, reply => ∃ channel, reply = .ok channel
  | .updateStatus .., reply => reply = .ok true
  | .fetchEnabled, reply => ∃ channels, reply = .ok channels
  | .install _, _ | .setEnabled .., _ | .notify _, _ => True

def Careful : Account → HealthProgram Unit → Prop
  | account, .done _ => account.owes = none
  | account, .ask call next =>
    account.Allows call ∧
      ∀ reply, Succeeds call reply → Careful (account.after call reply) (next reply)

/-! ## The operations -/

variable {α : Type} {id : ChannelId}

theorem careful_load : Careful .fresh (HealthOrder.program .load) := by
  refine ⟨trivial, ?_⟩
  rintro _ ⟨channels, rfl⟩
  exact ⟨rfl, fun summary _ => rfl⟩

theorem careful_disable (name reason : String) (notify : Bool) :
    Careful .fresh (HealthOrder.program (.disable id name reason notify)) := by
  refine ⟨rfl, ?_⟩
  rintro _ ⟨channel, rfl⟩
  cases channel with
  | none => exact rfl
  | some channel =>
    show Careful _ (Program.bind (if channel.status.isDisabled then _ else _) _)
    split
    · rename_i hdisabled
      refine ⟨⟨⟨rfl, ?_⟩, fun _ h => by cases h⟩, fun found _ => ?_⟩
      · revert hdisabled
        cases channel.status <;> decide
      · cases found <;> exact rfl
    · refine ⟨⟨rfl, channel, rfl⟩, ?_⟩
      rintro _ rfl
      refine ⟨⟨⟨rfl, rfl⟩, fun _ h => (Option.some.inj h).symm⟩, fun found _ => ?_⟩
      cases notify with
      | false => cases found <;> exact rfl
      | true => cases found <;> exact ⟨trivial, fun _ _ => rfl⟩

theorem careful_disableManually : Careful .fresh (HealthOrder.program (.disableManually id)) := by
  refine ⟨rfl, ?_⟩
  rintro _ ⟨channel, rfl⟩
  cases channel with
  | none => exact rfl
  | some channel =>
    refine ⟨⟨rfl, channel, rfl⟩, ?_⟩
    rintro _ rfl
    refine ⟨⟨⟨rfl, rfl⟩, fun _ h => (Option.some.inj h).symm⟩, fun found _ => ?_⟩
    cases found <;> exact rfl

theorem careful_enable (notify : Bool) :
    Careful .fresh (HealthOrder.program (.enable id notify)) := by
  refine ⟨rfl, ?_⟩
  rintro _ ⟨channel, rfl⟩
  cases channel with
  | none => exact rfl
  | some channel =>
    refine ⟨⟨rfl, channel, rfl⟩, ?_⟩
    rintro _ rfl
    refine ⟨⟨⟨rfl, rfl⟩, fun _ h => (Option.some.inj h).symm⟩, fun found _ => ?_⟩
    cases found with
    | true =>
      cases notify with
      | false => exact rfl
      | true => exact ⟨trivial, fun _ _ => rfl⟩
    | false =>
      refine ⟨trivial, ?_⟩
      rintro _ ⟨channels, rfl⟩
      refine ⟨rfl, fun summary _ => ?_⟩
      cases notify with
      | false => exact rfl
      | true => exact ⟨trivial, fun _ _ => rfl⟩

/-- Every health operation is careful. -/
theorem careful_program (order : HealthOrder) : Careful .fresh order.program := by
  cases order with
  | load => exact careful_load
  | disable id name reason notify => exact careful_disable name reason notify
  | disableManually id => exact careful_disableManually
  | enable id notify => exact careful_enable notify

end RelayGateway
