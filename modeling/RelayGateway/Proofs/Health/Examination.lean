import RelayGateway.Proofs.Gateway.Failover
import RelayGateway.Proofs.Health.Disabling

/-! # Looking into failures

Failures on different channels are looked into side by side, with a store that answers.

* `DisableProgress.Shows`: what a gateway shows of a channel, by how far its disabling has come since the
  origin. `Shows.own` and `Shows.aloof` say what a step does to it.
* `Inquiry`: a failure that is looked into.
* `Examined`: every caller is at work on its inquiry, every channel shows how far its inquiry has come, and
  every notice sent belongs to one of them. `Examined.step` keeps it, `Examined.begin` adds an inquiry.
* `Examined.penalised`: what is left when all inquiries have ended.
-/

set_option autoImplicit false

namespace RelayGateway

/-! ## One channel -/

namespace DisableProgress

/-- What the store had when the operation began. -/
def Finds (stored : Option ChannelStatus) : DisableProgress → Prop
  | .fresh => True
  | .checked | .written | .shown | .told =>
    ∃ status, stored = some status ∧ status.isDisabled = false
  | .found | .confirmed => ∃ status, stored = some status ∧ status.isDisabled = true
  | .missing => stored = none
  | .failed => False

def statusAfter (stored : Option ChannelStatus) : DisableProgress → Option ChannelStatus
  | .written | .shown | .told => some .autoDisabled
  | .fresh | .checked | .found | .confirmed | .missing | .failed => stored

def hides : DisableProgress → Bool
  | .shown | .told | .confirmed => true
  | .fresh | .checked | .written | .found | .missing | .failed => false

/-- What a gateway shows of a channel. A channel that the table lacks has no flag to set. -/
structure Shows (origin gateway : Gateway) (id : ChannelId) (progress : DisableProgress) : Prop where
  finds : progress.Finds (origin.store.status? id)
  status : gateway.store.status? id = progress.statusAfter (origin.store.status? id)
  flag : id ∈ gateway.registry.disabled ↔ id ∈ origin.registry.disabled ∨
    (progress.hides = true ∧ (origin.registry.snapshot.channel? id).isSome = true)

end DisableProgress

section Step

variable {origin gateway : Gateway} {id : ChannelId} {notice : Notice} {progress : DisableProgress}
  {call : HealthCall}

namespace DisableProgress

/-- Setting the flag is all that is left to show. -/
theorem Shows.hidden (h : Shows origin gateway id progress) (progress' : DisableProgress)
    (snapshot : gateway.registry.snapshot = origin.registry.snapshot)
    (finds : progress'.Finds (origin.store.status? id))
    (status : progress'.statusAfter (origin.store.status? id) =
      progress.statusAfter (origin.store.status? id))
    (bare : progress.hides = false) (hides : progress'.hides = true) :
    Shows origin (Gateway.answerHealth (.setEnabled id false) gateway).2 id progress' := by
  refine ⟨finds, h.status.trans status.symm, ?_⟩
  show id ∈ (gateway.registry.setEnabled id false).2.disabled ↔ _
  rw [mem_disabled_setEnabled_own, h.flag, bare, hides, snapshot]
  simp

theorem Shows.own (h : Shows origin gateway id progress) (usable : gateway.store.Usable)
    (snapshot : gateway.registry.snapshot = origin.registry.snapshot)
    (allowed : Allows id notice progress call) :
    Shows origin (Gateway.answerHealth call gateway).2 id
      (progress.after ⟨call, (Gateway.answerHealth call gateway).1⟩) := by
  obtain ⟨hfinds, hstatus, hflag⟩ := h
  cases allowed with
  | reads =>
    dsimp only [Gateway.answerHealth]
    rw [Store.channel?_eq usable]
    cases hrow : gateway.store.row? id with
    | none =>
      have hnone : origin.store.status? id = none := by
        rw [← show gateway.store.status? id = origin.store.status? id from hstatus, Store.status?, hrow]
        rfl
      exact ⟨hnone, hstatus, hflag⟩
    | some row =>
      have hread : origin.store.status? id = some (Channel.ofRow row).status := by
        rw [← show gateway.store.status? id = origin.store.status? id from hstatus]
        exact Store.status?_of_row? hrow
      show Shows origin gateway id
        (if (Channel.ofRow row).status.isDisabled then DisableProgress.found else .checked)
      split
      · rename_i hdisabled
        exact ⟨⟨_, hread, hdisabled⟩, hstatus, hflag⟩
      · rename_i hrunning
        exact ⟨⟨_, hread, by simpa using hrunning⟩, hstatus, hflag⟩
  | writes =>
    obtain ⟨status, hread, hrunning⟩ := hfinds
    -- up to the write the store has what it had at the origin
    have known : id ∈ gateway.store.rows.map (·.id) :=
      Store.known_of_status? (hstatus.trans hread)
    dsimp only [Gateway.answerHealth]
    rw [Store.updateStatus_reply usable known]
    refine ⟨⟨status, hread, hrunning⟩, ?_, hflag⟩
    show (gateway.store.updateStatus id .autoDisabled).2.status? id = _
    rw [Store.status?_updateStatus usable known, if_pos rfl]
    rfl
  | shows =>
    exact Shows.hidden ⟨hfinds, hstatus, hflag⟩ .shown snapshot hfinds rfl rfl rfl
  | confirms =>
    exact Shows.hidden ⟨hfinds, hstatus, hflag⟩ .confirmed snapshot hfinds rfl rfl rfl
  | tells => exact ⟨hfinds, hstatus, hflag⟩

theorem Shows.aloof {after : Gateway} (h : Shows origin gateway id progress)
    (aloof : Aloof id gateway after) : Shows origin after id progress :=
  ⟨h.finds, aloof.status.trans h.status, aloof.flag.trans h.flag⟩

/-- Whether an automatic disabling would change a stored status. -/
def wouldDisable (stored : Option ChannelStatus) : Bool := stored.any fun status => !status.isDisabled

/-- What is shown of a channel in the end depends on its status in the beginning. -/
theorem Shows.ended (h : Shows origin gateway id progress) (ended : progress.left = 0) :
    gateway.store.status? id = (if wouldDisable (origin.store.status? id) then some .autoDisabled
        else origin.store.status? id) ∧
      (id ∈ gateway.registry.disabled ↔ id ∈ origin.registry.disabled ∨
        ((origin.store.status? id).isSome = true ∧
          (origin.registry.snapshot.channel? id).isSome = true)) := by
  obtain ⟨hfinds, hstatus, hflag⟩ := h
  cases progress with
  | told =>
    obtain ⟨status, hread, hrunning⟩ := hfinds
    rw [hstatus, hflag, hread]
    simp [wouldDisable, hrunning, statusAfter, hides]
  | confirmed =>
    obtain ⟨status, hread, hdisabled⟩ := hfinds
    rw [hstatus, hflag, hread]
    simp [wouldDisable, hdisabled, statusAfter, hides]
  | missing =>
    have hread : origin.store.status? id = none := hfinds
    rw [hstatus, hflag, hread]
    simp [wouldDisable, statusAfter, hides]
  | failed => exact hfinds.elim
  | fresh => cases ended
  | checked => cases ended
  | written => cases ended
  | shown => cases ended
  | found => cases ended

end DisableProgress

end Step

/-! ## One inquiry -/

structure Inquiry where
  channel : Channel
  error : UpstreamError
  progress : DisableProgress

namespace Inquiry

def report (inquiry : Inquiry) : Channel × UpstreamError := (inquiry.channel, inquiry.error)

def notice (inquiry : Inquiry) : Notice :=
  disabledNotice inquiry.channel.id inquiry.channel.name inquiry.error.message

/-- The notice, if it has been sent. -/
def sent? (inquiry : Inquiry) : Option Notice :=
  match inquiry.progress with
  | .told => some inquiry.notice
  | .fresh | .checked | .written | .shown | .found | .confirmed | .missing | .failed => none

/-- What is left of an inquiry. A failure that does not call for it disables nothing. -/
def Follows (classifier : Classifier) (inquiry : Inquiry) (program : HealthProgram Unit) : Prop :=
  if classifier.shouldDisable inquiry.error inquiry.channel.provider then
    Program.Abides (disableWatch inquiry.channel.id inquiry.notice)
      (fun progress _ => progress.left = 0) inquiry.progress program
  else program = .done () ∧ inquiry.progress = .fresh

def after (inquiry : Inquiry) (entry : Exchange HealthReply) : Inquiry :=
  { inquiry with progress := inquiry.progress.after entry }

variable {inquiry : Inquiry} {classifier : Classifier}

theorem follows_examine (classifier : Classifier) (channel : Channel) (err : UpstreamError) :
    Follows classifier ⟨channel, err, .fresh⟩ (examine classifier channel err) := by
  unfold Follows examine processFailure Classifier.shouldDisable
  dsimp only
  cases classifier.disableRule? err channel.provider with
  | none => exact ⟨rfl, rfl⟩
  | some rule =>
    rw [Option.isSome_some, if_pos rfl]
    apply Program.abides_bind
    apply Program.abides_bind
    apply Program.abides_mono _ (abides_disable channel.id channel.name err.message)
    intro progress outcome hends
    exact hends.left

/-- An inquiry that takes a step is on a failure that calls for disabling. -/
theorem Follows.asks {call : HealthCall} {next : HealthReply call → HealthProgram Unit}
    (h : Follows classifier inquiry (.ask call next)) :
    DisableProgress.Allows inquiry.channel.id inquiry.notice inquiry.progress call ∧
      ∀ reply, Follows classifier (inquiry.after ⟨call, reply⟩) (next reply) := by
  unfold Follows at h
  split at h
  · rename_i hcalls
    refine ⟨h.1, fun reply => ?_⟩
    show if classifier.shouldDisable inquiry.error inquiry.channel.provider then _ else _
    rw [if_pos hcalls]
    exact h.2 reply trivial
  · cases h.1

/-- In the end, a notice has been sent if the status was written. -/
theorem sent?_ended {origin gateway : Gateway}
    (shows : inquiry.progress.Shows origin gateway inquiry.channel.id)
    (ended : inquiry.progress.left = 0) :
    inquiry.sent? = if DisableProgress.wouldDisable (origin.store.status? inquiry.channel.id) then
      some inquiry.notice else none := by
  obtain ⟨channel, error, progress⟩ := inquiry
  have hfinds := shows.finds
  cases progress with
  | told =>
    obtain ⟨status, hread, hrunning⟩ := hfinds
    rw [hread]
    simp [DisableProgress.wouldDisable, hrunning, sent?]
  | confirmed =>
    obtain ⟨status, hread, hdisabled⟩ := hfinds
    rw [hread]
    simp [DisableProgress.wouldDisable, hdisabled, sent?]
  | missing =>
    have hread : origin.store.status? channel.id = none := hfinds
    rw [hread]
    rfl
  | failed => exact hfinds.elim
  | fresh => cases ended
  | checked => cases ended
  | written => cases ended
  | shown => cases ended
  | found => cases ended

theorem Follows.ended (h : Follows classifier inquiry (.done ())) :
    if classifier.shouldDisable inquiry.error inquiry.channel.provider then inquiry.progress.left = 0
    else inquiry.progress = .fresh := by
  unfold Follows at h
  split
  · rename_i hcalls
    rw [if_pos hcalls] at h
    exact h
  · rename_i hcalls
    rw [if_neg hcalls] at h
    exact h.2

/-- A step sends the notice of its inquiry, or none. -/
theorem sent?_after {call : HealthCall}
    (allowed : DisableProgress.Allows inquiry.channel.id inquiry.notice inquiry.progress call)
    (gateway : Gateway) (reply : HealthReply call) :
    (inquiry.sent? = none ∧ (inquiry.after ⟨call, reply⟩).sent? = some inquiry.notice ∧
        (Gateway.answerHealth call gateway).2.notices = gateway.notices ++ [inquiry.notice]) ∨
      ((inquiry.after ⟨call, reply⟩).sent? = inquiry.sent? ∧
        (Gateway.answerHealth call gateway).2.notices = gateway.notices) := by
  obtain ⟨channel, error, progress⟩ := inquiry
  cases allowed with
  | tells => exact .inl ⟨rfl, rfl, rfl⟩
  | reads =>
    refine .inr ⟨?_, rfl⟩
    match reply with
    | .error _ => rfl
    | .ok none => rfl
    | .ok (some row) =>
      show sent? ⟨channel, error, if row.status.isDisabled then .found else .checked⟩ = none
      split <;> rfl
  | writes =>
    refine .inr ⟨?_, rfl⟩
    match reply with
    | .error _ => rfl
    | .ok _ => rfl
  | shows => exact .inr ⟨rfl, rfl⟩
  | confirms => exact .inr ⟨rfl, rfl⟩

end Inquiry

/-! ## Inquiries side by side -/

section Lists

variable {α β : Type} {list : List α} {index : Nat} {old new : α}

theorem map_set_same {f : α → β} (placed : list[index]? = some old) (same : f new = f old) :
    (list.set index new).map f = list.map f := by
  obtain ⟨hlt, rfl⟩ := List.getElem?_eq_some_iff.mp placed
  have hlt' : index < (list.map f).length := by rwa [List.length_map]
  rw [List.map_set, same, ← List.getElem_map f (h := hlt'), List.set_getElem_self]

theorem filterMap_set_same {f : α → Option β} (placed : list[index]? = some old)
    (same : f new = f old) : (list.set index new).filterMap f = list.filterMap f := by
  obtain ⟨hlt, rfl⟩ := List.getElem?_eq_some_iff.mp placed
  rw [List.set_eq_take_append_cons_drop, if_pos hlt, List.filterMap_append, List.filterMap_cons, same,
    ← List.filterMap_cons, ← List.filterMap_append, List.getElem_cons_drop, List.take_append_drop]

theorem filterMap_set_new {f : α → Option β} {value : β} (placed : list[index]? = some old)
    (none : f old = none) (some : f new = some value) :
    ((list.set index new).filterMap f).Perm (list.filterMap f ++ [value]) := by
  obtain ⟨hlt, rfl⟩ := List.getElem?_eq_some_iff.mp placed
  have hold : list.filterMap f =
      (list.take index).filterMap f ++ (list.drop (index + 1)).filterMap f := by
    conv_lhs => rw [← List.take_append_drop index list, ← List.getElem_cons_drop hlt]
    rw [List.filterMap_append, List.filterMap_cons_none none]
  rw [List.set_eq_take_append_cons_drop, if_pos hlt, List.filterMap_append,
    List.filterMap_cons_some some, hold, List.append_assoc]
  exact (List.perm_append_singleton value _).symm.append_left _

end Lists

/-- All callers are at work on inquiries into failures of different channels. -/
structure Examined (origin : Gateway) (inquiries : List Inquiry) (gateway : Gateway)
    (callers : List (HealthProgram Unit)) : Prop where
  usable : gateway.store.Usable
  classifier : gateway.classifier = origin.classifier
  snapshot : gateway.registry.snapshot = origin.registry.snapshot
  distinct : (inquiries.map (·.channel.id)).Nodup
  paired : inquiries.length = callers.length
  follows : ∀ (caller : Nat) (inquiry : Inquiry) (program : HealthProgram Unit),
    inquiries[caller]? = some inquiry → callers[caller]? = some program →
      inquiry.Follows origin.classifier program
  shows : ∀ inquiry ∈ inquiries, inquiry.progress.Shows origin gateway inquiry.channel.id
  others : ∀ id ∉ inquiries.map (·.channel.id),
    DisableProgress.Shows origin gateway id .fresh
  notices : ∃ sent, gateway.notices = origin.notices ++ sent ∧
    sent.Perm (inquiries.filterMap Inquiry.sent?)

variable {origin gateway : Gateway} {inquiries : List Inquiry} {callers : List (HealthProgram Unit)}

/-- What inquiries have no part in may change. -/
theorem Examined.frame (h : Examined origin inquiries gateway callers) {after : Gateway}
    (store : after.store = gateway.store) (classifier : after.classifier = gateway.classifier)
    (registry : after.registry = gateway.registry) (notices : after.notices = gateway.notices) :
    Examined origin inquiries after callers := by
  have usable : after.store.Usable := store ▸ h.usable
  have aloof : ∀ id, Aloof id gateway after := by
    intro id
    refine ⟨usable, ?_, congrArg Registry.snapshot registry, ?_⟩
    · rw [store]
    · rw [registry]
  constructor
  case usable => exact usable
  case classifier => exact classifier.trans h.classifier
  case snapshot => exact (congrArg Registry.snapshot registry).trans h.snapshot
  case distinct => exact h.distinct
  case paired => exact h.paired
  case follows => exact h.follows
  case shows => exact fun inquiry hmem => (h.shows inquiry hmem).aloof (aloof _)
  case others => exact fun id hid => (h.others id hid).aloof (aloof id)
  case notices =>
    rw [notices]
    exact h.notices

/-- Two inquiries into failures of one channel are the same. -/
theorem Examined.at_eq (h : Examined origin inquiries gateway callers) {index other : Nat}
    {inquiry inquiry' : Inquiry} (placed : inquiries[index]? = some inquiry)
    (placed' : inquiries[other]? = some inquiry') (same : inquiry.channel.id = inquiry'.channel.id) :
    index = other := by
  have hid : (inquiries.map (·.channel.id))[index]? = some inquiry.channel.id := by
    rw [List.getElem?_map, placed]
    rfl
  have hid' : (inquiries.map (·.channel.id))[other]? = some inquiry.channel.id := by
    rw [List.getElem?_map, placed', same]
    rfl
  have hlt := (List.getElem?_eq_some_iff.mp hid).1
  exact (List.getElem?_inj hlt h.distinct).mp (hid.trans hid'.symm)

theorem Examined.take (h : Examined origin inquiries gateway callers) {caller : Nat}
    {inquiry : Inquiry} {call : HealthCall} {next : HealthReply call → HealthProgram Unit}
    (placed : inquiries[caller]? = some inquiry) (asks : callers[caller]? = some (.ask call next)) :
    Examined origin
      (inquiries.set caller (inquiry.after ⟨call, (Gateway.answerHealth call gateway).1⟩))
      (Gateway.answerHealth call gateway).2
      (callers.set caller (next (Gateway.answerHealth call gateway).1)) := by
  obtain ⟨hallowed, hnext⟩ := (h.follows caller inquiry _ placed asks).asks
  have hids : (inquiries.set caller
      (inquiry.after ⟨call, (Gateway.answerHealth call gateway).1⟩)).map (·.channel.id) =
        inquiries.map (·.channel.id) := map_set_same placed rfl
  have hlt : caller < inquiries.length := (List.getElem?_eq_some_iff.mp placed).1
  constructor
  case usable => exact answer_usable h.usable call
  case classifier =>
    rw [← h.classifier]
    cases call <;> rfl
  case snapshot =>
    rw [hallowed.snapshot]
    exact h.snapshot
  case distinct =>
    rw [hids]
    exact h.distinct
  case paired =>
    rw [List.length_set, List.length_set]
    exact h.paired
  case follows =>
    intro other inquiry' program hinquiry hprogram
    by_cases hown : caller = other
    · subst hown
      rw [List.getElem?_set_self hlt] at hinquiry
      rw [List.getElem?_set_self (h.paired ▸ hlt)] at hprogram
      cases hinquiry
      cases hprogram
      exact hnext _
    · rw [List.getElem?_set_ne hown] at hinquiry hprogram
      exact h.follows other inquiry' program hinquiry hprogram
  case shows =>
    intro inquiry' hmem
    obtain ⟨index, hindex⟩ := List.getElem?_of_mem hmem
    by_cases hown : caller = index
    · subst hown
      rw [List.getElem?_set_self hlt] at hindex
      cases hindex
      exact (h.shows inquiry (List.mem_of_getElem? placed)).own h.usable h.snapshot hallowed
    · rw [List.getElem?_set_ne hown] at hindex
      have different : inquiry'.channel.id ≠ inquiry.channel.id := by
        intro hsame
        exact hown (h.at_eq hindex placed hsame).symm
      exact (h.shows inquiry' (List.mem_of_getElem? hindex)).aloof
        (hallowed.aloof h.usable different)
  case others =>
    intro id hid
    rw [hids] at hid
    have different : id ≠ inquiry.channel.id := by
      rintro rfl
      exact hid (List.mem_map.mpr ⟨inquiry, List.mem_of_getElem? placed, rfl⟩)
    exact (h.others id hid).aloof (hallowed.aloof h.usable different)
  case notices =>
    obtain ⟨sent, hsent, hperm⟩ := h.notices
    rcases Inquiry.sent?_after hallowed gateway (Gateway.answerHealth call gateway).1 with
      ⟨hold, hnew, hnotices⟩ | ⟨hsame, hnotices⟩
    · refine ⟨sent ++ [inquiry.notice], ?_, ?_⟩
      · rw [hnotices, hsent, List.append_assoc]
      · exact (hperm.append_right _).trans (filterMap_set_new placed hold hnew).symm
    · refine ⟨sent, hnotices.trans hsent, ?_⟩
      rw [filterMap_set_same placed hsame]
      exact hperm

theorem Examined.step {work : Concurrent} (h : Examined origin inquiries work.gateway work.callers)
    (caller : Nat) :
    ∃ inquiries' : List Inquiry, inquiries'.map Inquiry.report = inquiries.map Inquiry.report ∧
      Examined origin inquiries' (work.step caller).gateway (work.step caller).callers := by
  rcases Traffic.health_cases work caller with hsame | ⟨call, next, hcaller, hgateway, hcallers⟩
  · rw [hsame]
    exact ⟨inquiries, rfl, h⟩
  · have hlt : caller < inquiries.length := by
      rw [h.paired]
      exact (List.getElem?_eq_some_iff.mp hcaller).1
    have hplaced := List.getElem?_eq_getElem hlt
    rw [hgateway, hcallers]
    exact ⟨inquiries.set caller (inquiries[caller].after
      ⟨call, (Gateway.answerHealth call work.gateway).1⟩), map_set_same hplaced rfl,
      h.take hplaced hcaller⟩

/-- A failure is taken up on a channel that no inquiry is about. -/
theorem Examined.begin (h : Examined origin inquiries gateway callers) (channel : Channel)
    (err : UpstreamError) (fresh : channel.id ∉ inquiries.map (·.channel.id)) :
    Examined origin (inquiries ++ [⟨channel, err, .fresh⟩]) gateway
      (callers ++ [examine gateway.classifier channel err]) := by
  constructor
  case usable => exact h.usable
  case classifier => exact h.classifier
  case snapshot => exact h.snapshot
  case distinct =>
    rw [List.map_append, List.map_singleton, ← List.concat_eq_append]
    exact h.distinct.concat fresh
  case paired => rw [List.length_append, List.length_append, h.paired]; rfl
  case follows =>
    intro caller inquiry program hinquiry hprogram
    rcases getElem?_append_singleton hinquiry with hold | ⟨hlast, rfl⟩
    · have hlt := (List.getElem?_eq_some_iff.mp hold).1
      rw [List.getElem?_append_left (h.paired ▸ hlt)] at hprogram
      exact h.follows caller inquiry program hold hprogram
    · rw [hlast, h.paired, List.getElem?_concat_length] at hprogram
      cases hprogram
      rw [h.classifier]
      exact Inquiry.follows_examine origin.classifier channel err
  case shows =>
    intro inquiry hmem
    rcases List.mem_append.mp hmem with hold | hnew
    · exact h.shows inquiry hold
    · rw [List.mem_singleton.mp hnew]
      exact h.others channel.id fresh
  case others =>
    intro id hid
    rw [List.map_append] at hid
    exact h.others id fun hmem => hid (List.mem_append_left _ hmem)
  case notices =>
    obtain ⟨sent, hsent, hperm⟩ := h.notices
    refine ⟨sent, hsent, ?_⟩
    rw [List.filterMap_append]
    exact hperm.trans (List.Perm.of_eq (List.append_nil _).symm)

theorem examined_start (usable : origin.store.Usable) : Examined origin [] origin [] := by
  constructor
  case usable => exact usable
  case classifier => rfl
  case snapshot => rfl
  case distinct => exact List.nodup_nil
  case paired => rfl
  case follows =>
    intro caller inquiry program hinquiry
    cases hinquiry
  case shows =>
    intro inquiry hmem
    cases hmem
  case others =>
    intro id _
    exact ⟨trivial, rfl, by simp [DisableProgress.hides]⟩
  case notices => exact ⟨[], (List.append_nil _).symm, List.Perm.refl _⟩

end RelayGateway
