import RelayGateway.Proofs.Health.Account
import RelayGateway.Proofs.Routing.History

/-! # The effect of one step

The steps of a careful caller on a gateway whose store works.

* `Basis.Agrees`: the basis is right about a store.
* `answer_store`, `publishes_cases`: everything that a step can do to the store, and how it publishes.
* `answer_usable`, `answer_succeeds`, `answer_ids`: the store keeps working, and the step succeeds.
* `answer_isEnabled`, `answer_isChannelEnabled`: what a step does not touch.
* `agrees_after`: a call of the store makes the basis right about the store.
* `published_agrees`: after a step that publishes a channel, the registry shows it as the store had it
  when the basis was right.
* `owes_after`: what a caller owes it owes until it publishes.
-/

set_option autoImplicit false

namespace RelayGateway

/-- The basis is right about a store whose rows have the given ids. -/
def Basis.Agrees (ids : List ChannelId) (store : Store) : Basis → Prop
  | .nothing | .read _ none => True
  | .read id (some channel) => id ∈ ids ∧ store.isEnabled id = (channel.status == .enabled)
  | .wrote id status => store.isEnabled id = (status == .enabled)
  | .fetched channels => ∀ id, store.isEnabled id = true ↔
      ∃ channel ∈ channels, channel.status = .enabled ∧ channel.id = id

/-- A channel that a caller may write is one of the store. -/
def Basis.Known (ids : List ChannelId) : Basis → Prop
  | .read id (some _) => id ∈ ids
  | .nothing | .read _ none | .wrote .. | .fetched _ => True

theorem Basis.Agrees.known {ids : List ChannelId} {store : Store} {basis : Basis}
    (h : basis.Agrees ids store) : basis.Known ids := by
  match basis, h with
  | .read _ (some _), h => exact h.1
  | .nothing, _ | .read _ none, _ | .wrote .., _ | .fetched _, _ => trivial

theorem Basis.Agrees.isEnabled {ids : List ChannelId} {store : Store} {basis : Basis}
    {id : ChannelId} {enabled : Bool} (h : basis.Agrees ids store) (tells : basis.tells id enabled) :
    store.isEnabled id = enabled := by
  match basis, h, tells with
  | .read _ (some _), h, tells =>
    obtain ⟨rfl, rfl⟩ := tells
    exact h.2
  | .wrote _ _, h, tells =>
    obtain ⟨rfl, rfl⟩ := tells
    exact h

/-! ## The registry -/

theorem isChannelEnabled_install (registry : Registry) (channels : List Channel) (id : ChannelId) :
    (registry.install (registry.tableOf channels)).isChannelEnabled id = true ↔
      ∃ channel ∈ channels, channel.status = .enabled ∧ channel.id = id := by
  rw [← build_channel?_isSome channels registry.options.defaultWeight id]
  simp [Registry.isChannelEnabled, Registry.isDisabled, Registry.install, Registry.tableOf]

theorem isChannelEnabled_setEnabled (registry : Registry) (id : ChannelId) (enabled : Bool)
    (other : ChannelId) :
    (registry.setEnabled id enabled).2.isChannelEnabled other =
      if other = id then (registry.snapshot.channel? id).isSome && enabled
      else registry.isChannelEnabled other := by
  unfold Registry.isChannelEnabled
  rw [setEnabled_snapshot, isDisabled_setEnabled]
  by_cases hsame : other = id
  · subst hsame
    cases (registry.snapshot.channel? other).isSome <;> simp
  · simp [hsame]

/-! ## One step -/

variable {gateway : Gateway} {account : Account} {call : HealthCall} {id : ChannelId} {caller : Nat}

/-- The step that a call is for a caller. -/
def moveOf (gateway : Gateway) (caller : Nat) (call : HealthCall) : Move :=
  ⟨caller, call, (Gateway.answerHealth call gateway).1, (Gateway.answerHealth call gateway).2⟩

theorem written_known (allowed : account.Allows call)
    (known : account.basis.Known (gateway.store.rows.map (·.id))) {status : ChannelStatus}
    (h : call = .updateStatus id status) : id ∈ gateway.store.rows.map (·.id) := by
  subst h
  obtain ⟨_, channel, hbasis⟩ := allowed
  rw [hbasis] at known
  exact known

/-- A step writes a status or leaves the store as it is. -/
theorem answer_store (gateway : Gateway) (call : HealthCall) :
    (∃ id status, call = .updateStatus id status ∧
        (Gateway.answerHealth call gateway).2.store = (gateway.store.updateStatus id status).2) ∨
      (Gateway.answerHealth call gateway).2.store = gateway.store := by
  cases call with
  | updateStatus id status => exact .inl ⟨id, status, rfl, rfl⟩
  | storedChannel id => exact .inr rfl
  | fetchEnabled => exact .inr rfl
  | install channels => exact .inr rfl
  | setEnabled id enabled => exact .inr rfl
  | notify notice => exact .inr rfl

theorem answer_usable (usable : gateway.store.Usable) (call : HealthCall) :
    (Gateway.answerHealth call gateway).2.store.Usable := by
  rcases answer_store gateway call with ⟨id, status, _, hstore⟩ | hstore
  · rw [hstore]
    exact (Store.updateStatus_frame usable).1
  · rw [hstore]
    exact usable

/-- A step publishes a channel by a new table, or by a flag that is set or found. -/
theorem publishes_cases (h : (moveOf gateway caller call).publishes id = true) :
    (∃ channels, call = .install channels) ∨
      ∃ enabled, call = .setEnabled id enabled ∧
        ((gateway.registry.setEnabled id enabled).1 = true ∨ enabled = false) := by
  cases call with
  | install channels => exact .inl ⟨channels, rfl⟩
  | setEnabled other enabled =>
    have hmove : other = id ∧
        ((gateway.registry.setEnabled other enabled).1 = true ∨ enabled = false) := by
      simpa [moveOf, Move.publishes, Gateway.answerHealth] using h
    obtain ⟨rfl, hfound⟩ := hmove
    exact .inr ⟨enabled, rfl, hfound⟩
  | storedChannel id => cases h
  | updateStatus id status => cases h
  | fetchEnabled => cases h
  | notify notice => cases h

section Careful

variable (usable : gateway.store.Usable) (allowed : account.Allows call)
  (known : account.basis.Known (gateway.store.rows.map (·.id)))
include usable allowed known

theorem answer_succeeds : Succeeds call (Gateway.answerHealth call gateway).1 := by
  cases call with
  | storedChannel id => exact ⟨_, Store.channel?_eq usable id⟩
  | updateStatus id status =>
    exact Store.updateStatus_reply usable (written_known allowed known rfl) status
  | fetchEnabled => exact ⟨_, Store.enabledChannels_eq usable⟩
  | install channels => trivial
  | setEnabled id enabled => trivial
  | notify notice => trivial

theorem answer_ids : (Gateway.answerHealth call gateway).2.store.rows.map (·.id) =
    gateway.store.rows.map (·.id) := by
  rcases answer_store gateway call with ⟨id, status, hcall, hstore⟩ | hstore
  · rw [hstore, Store.updateStatus_eq usable (written_known allowed known hcall)]
    exact Store.restatus_ids gateway.store id status
  · rw [hstore]

/-- A status that is not written stays. -/
theorem answer_isEnabled (h : (moveOf gateway caller call).writes id = false) :
    (Gateway.answerHealth call gateway).2.store.isEnabled id = gateway.store.isEnabled id := by
  rcases answer_store gateway call with ⟨other, status, rfl, hstore⟩ | hstore
  · have hne : id ≠ other := by
      rintro rfl
      simp [moveOf, Move.writes] at h
    rw [hstore, Store.isEnabled_updateStatus usable (written_known allowed known rfl), if_neg hne]
  · rw [hstore]

end Careful

/-- What is not published stays as it is shown. -/
theorem answer_isChannelEnabled (h : (moveOf gateway caller call).publishes id = false) :
    (Gateway.answerHealth call gateway).2.registry.isChannelEnabled id =
      gateway.registry.isChannelEnabled id := by
  cases call with
  | install channels => cases h
  | setEnabled other enabled =>
    show (gateway.registry.setEnabled other enabled).2.isChannelEnabled id = _
    rw [isChannelEnabled_setEnabled]
    split
    · rename_i heq
      subst heq
      have hfound : (gateway.registry.setEnabled id enabled).1 = false ∧ enabled = true := by
        simpa [moveOf, Move.publishes, Gateway.answerHealth] using h
      rw [setEnabled_found] at hfound
      rw [Registry.isChannelEnabled, hfound.1]
      rfl
    · rfl
  | storedChannel id => rfl
  | updateStatus id status => rfl
  | fetchEnabled => rfl
  | notify notice => rfl

/-! ## The account after a step -/

/-- The account of a caller after its step. -/
def Account.afterMove (account : Account) (move : Move) : Account :=
  account.after move.call move.reply

theorem agrees_after (usable : gateway.store.Usable) (allowed : account.Allows call)
    (known : account.basis.Known (gateway.store.rows.map (·.id)))
    (stored : (moveOf gateway caller call).isStoreCall = true) :
    (account.afterMove (moveOf gateway caller call)).basis.Agrees
      (gateway.store.rows.map (·.id)) (Gateway.answerHealth call gateway).2.store := by
  unfold Account.afterMove moveOf
  cases call with
  | storedChannel id =>
    show (account.after (.storedChannel id) (gateway.store.channel? id)).basis.Agrees _ gateway.store
    have heq := Store.channel?_eq usable id
    cases hrow : gateway.store.row? id with
    | none =>
      rw [heq, hrow]
      trivial
    | some row =>
      rw [heq, hrow]
      exact ⟨Store.known_of_row? hrow,
        Store.isEnabled_of_status? usable (Store.status?_of_row? hrow)⟩
  | updateStatus id status =>
    have hid := written_known allowed known rfl
    have hstatus : (gateway.store.updateStatus id status).2.isEnabled id = (status == .enabled) := by
      rw [Store.isEnabled_updateStatus usable hid, if_pos rfl]
    show (account.after (.updateStatus id status) (gateway.store.updateStatus id status).1).basis.Agrees
      _ (gateway.store.updateStatus id status).2
    rw [Store.updateStatus_eq usable hid] at hstatus ⊢
    exact hstatus
  | fetchEnabled =>
    show (account.after .fetchEnabled gateway.store.enabledChannels).basis.Agrees _ gateway.store
    have heq := Store.enabledChannels_eq usable
    rw [heq]
    exact Store.enabledChannels_iff usable heq
  | install channels => cases stored
  | setEnabled id enabled => cases stored
  | notify notice => cases stored

/-- Other steps leave the basis as it is. -/
theorem basis_after (stored : (moveOf gateway caller call).isStoreCall = false) :
    (account.afterMove (moveOf gateway caller call)).basis = account.basis := by
  unfold Account.afterMove moveOf
  cases call with
  | storedChannel id => cases stored
  | updateStatus id status => cases stored
  | fetchEnabled => cases stored
  | install channels => rfl
  | setEnabled id enabled =>
    dsimp only [Account.after]
    split <;> rfl
  | notify notice => rfl

theorem basis_ne_nothing (allowed : account.Allows call)
    (published : (moveOf gateway caller call).publishes id = true) : account.basis ≠ .nothing := by
  intro hbasis
  rcases publishes_cases published with ⟨channels, rfl⟩ | ⟨enabled, rfl, _⟩
  · have hfetched : account.basis = .fetched channels := allowed
    rw [hbasis] at hfetched
    cases hfetched
  · have htells := allowed.1
    rw [hbasis] at htells
    exact htells

/-- A channel is published as the store had it when the basis was right. -/
theorem published_agrees {ids : List ChannelId} {seen : Store} (allowed : account.Allows call)
    (agrees : account.basis.Agrees ids seen)
    (published : (moveOf gateway caller call).publishes id = true) :
    (Gateway.answerHealth call gateway).2.registry.isChannelEnabled id = seen.isEnabled id := by
  rcases publishes_cases published with ⟨channels, rfl⟩ | ⟨enabled, rfl, hfound⟩
  · have hbasis : account.basis = .fetched channels := allowed
    rw [hbasis] at agrees
    rw [Bool.eq_iff_iff, agrees id]
    exact isChannelEnabled_install gateway.registry channels id
  · rw [agrees.isEnabled allowed.1]
    show (gateway.registry.setEnabled id enabled).2.isChannelEnabled id = enabled
    rw [isChannelEnabled_setEnabled, if_pos rfl]
    rcases hfound with hfound | rfl
    · rw [← setEnabled_found gateway.registry id enabled, hfound, Bool.true_and]
    · exact Bool.and_false _

theorem owes_written (usable : gateway.store.Usable) (allowed : account.Allows call)
    (known : account.basis.Known (gateway.store.rows.map (·.id)))
    (h : (moveOf gateway caller call).writes id = true) :
    (account.afterMove (moveOf gateway caller call)).owes = some id := by
  cases call with
  | updateStatus other status =>
    have heq : other = id := by simpa [moveOf, Move.writes] using h
    subst heq
    have hreply := answer_succeeds usable allowed known
    have hreply : (Gateway.answerHealth (.updateStatus other status) gateway).1 = .ok true := hreply
    unfold Account.afterMove moveOf
    dsimp only
    rw [hreply]
    rfl
  | storedChannel id => cases h
  | fetchEnabled => cases h
  | install channels => cases h
  | setEnabled id enabled => cases h
  | notify notice => cases h

/-- What a caller owes it owes until it publishes. -/
theorem owes_after (allowed : account.Allows call) (owed : account.owes = some id)
    (h : (moveOf gateway caller call).publishes id = false) :
    (account.afterMove (moveOf gateway caller call)).owes = some id := by
  cases call with
  | storedChannel other =>
    have : account.owes = none := allowed
    rw [owed] at this
    cases this
  | updateStatus other status =>
    have := allowed.1
    rw [owed] at this
    cases this
  | fetchEnabled =>
    unfold Account.afterMove moveOf
    cases (Gateway.answerHealth .fetchEnabled gateway).1 with
    | ok channels => exact owed
    | error err => exact owed
  | install channels => cases h
  | setEnabled other enabled =>
    have heq : id = other := allowed.2 id (by rw [owed]; rfl)
    subst heq
    have hfound : ((gateway.registry.setEnabled id enabled).1 || !enabled) = false := by
      simpa [moveOf, Move.publishes, Gateway.answerHealth] using h
    unfold Account.afterMove moveOf
    show (if (gateway.registry.setEnabled id enabled).1 || !enabled then _ else account).owes = some id
    rw [hfound]
    exact owed
  | notify notice => exact owed

end RelayGateway
