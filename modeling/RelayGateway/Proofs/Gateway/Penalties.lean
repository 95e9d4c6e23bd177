import RelayGateway.Proofs.Gateway.Solitude

/-! # What a run costs the channels

* `Gateway.offences`, `Gateway.sentences`: the failures that call for disabling their channels, and those
  for which a status is written.
* `Solitary.offence_shown`, `Solitary.innocent_shown`: what the gateway shows of a channel in the end.
* `Penalised`: what has become of the channels when all is over.
* `penalties_earned`: the run has penalised the channels that have earned it, and no others.
-/

set_option autoImplicit false

namespace RelayGateway

variable {origin : Gateway} {request : RelayRequest} {running : Running} {inquiries : List Inquiry}
  {traffic : Traffic}

/-! ## When all is over -/

def FailedDispatch.notice (failed : FailedDispatch) : Notice :=
  disabledNotice failed.channel.id failed.channel.name failed.error.message

/-- The failures that call for disabling their channels. -/
def Gateway.offences (gateway : Gateway) (failures : List FailedDispatch) : List FailedDispatch :=
  failures.filter fun failed => !failed.error.isLocal &&
    gateway.classifier.shouldDisable failed.error failed.channel.provider

/-- Those for which a status is written: the store has the channel, and not as a disabled one. -/
def Gateway.sentences (gateway : Gateway) (failures : List FailedDispatch) : List FailedDispatch :=
  (gateway.offences failures).filter fun failed =>
    DisableProgress.wouldDisable (gateway.store.status? failed.channel.id)

/-- The notice that a reported failure calls for. -/
def Gateway.notice? (gateway : Gateway) (report : Channel × UpstreamError) : Option Notice :=
  if gateway.classifier.shouldDisable report.2 report.1.provider then
    if DisableProgress.wouldDisable (gateway.store.status? report.1.id) then
      some (disabledNotice report.1.id report.1.name report.2.message)
    else none
  else none

/-- What has become of the channels. Beyond what is said here, no status, no flag and no notice is new. -/
structure Penalised (origin after : Gateway) (failures : List FailedDispatch) : Prop where
  distinct : ((origin.offences failures).map (·.channel.id)).Nodup
  status : ∀ id, after.store.status? id =
    if id ∈ (origin.sentences failures).map (·.channel.id) then some .autoDisabled
    else origin.store.status? id
  table : after.registry.snapshot = origin.registry.snapshot
  flags : ∀ id, id ∈ after.registry.disabled ↔ id ∈ origin.registry.disabled ∨
    (id ∈ (origin.offences failures).map (·.channel.id) ∧
      (origin.store.status? id).isSome = true ∧
      (origin.registry.snapshot.channel? id).isSome = true)
  hidden : ∀ failed ∈ origin.offences failures,
    (origin.store.status? failed.channel.id).isSome = true →
      after.registry.isChannelEnabled failed.channel.id = false
  notices : ∃ sent, after.notices = origin.notices ++ sent ∧
    sent.Perm ((origin.sentences failures).map FailedDispatch.notice)

section Over

variable {result : RelayResult} {failures : List FailedDispatch} {failed : FailedDispatch}
  {id : ChannelId}

theorem Gateway.mem_offences : failed ∈ origin.offences failures ↔ failed ∈ failures ∧
    failed.error.isLocal = false ∧
    origin.classifier.shouldDisable failed.error failed.channel.provider = true := by
  rw [Gateway.offences, List.mem_filter, Bool.and_eq_true, Bool.not_eq_true']

/-- A status is written for an offence if its channel has one that it would change. -/
theorem Gateway.mem_sentences_ids : id ∈ (origin.sentences failures).map (·.channel.id) ↔
    id ∈ (origin.offences failures).map (·.channel.id) ∧
      DisableProgress.wouldDisable (origin.store.status? id) = true := by
  simp only [List.mem_map, Gateway.sentences, List.mem_filter]
  constructor
  · rintro ⟨failed, ⟨hoffence, hchanges⟩, rfl⟩
    exact ⟨⟨failed, hoffence, rfl⟩, hchanges⟩
  · rintro ⟨⟨failed, hoffence, rfl⟩, hchanges⟩
    exact ⟨failed, ⟨hoffence, hchanges⟩, rfl⟩

/-- The failures of a run that are not the gateway's own have their inquiries, and there are no others. -/
theorem Solitary.inquired (h : Solitary origin request running inquiries traffic)
    (ends : (relay origin.policy request).Ends running.past result)
    (quiet : traffic.gateway.reports = []) :
    (inquiries.map Inquiry.report).Perm
      (((failedDispatches running.past).filter fun failed => !failed.error.isLocal).map
        FailedDispatch.report) := by
  have hreported := h.reported
  rw [quiet, List.append_nil] at hreported
  rcases relay_accounted ends with huneventful | ⟨plan, _, haccounted⟩
  · rw [huneventful.reports] at hreported
    rw [huneventful.failures]
    exact hreported
  · rw [haccounted.reported] at hreported
    exact hreported

/-- Every inquiry has ended, those that the failure called for with nothing left to do. -/
theorem Solitary.ended (h : Solitary origin request running inquiries traffic)
    (finished : traffic.isFinished = true) {inquiry : Inquiry} (hmem : inquiry ∈ inquiries) :
    if origin.classifier.shouldDisable inquiry.error inquiry.channel.provider then
      inquiry.progress.left = 0
    else inquiry.progress = .fresh := by
  obtain ⟨caller, hplaced⟩ := List.getElem?_of_mem hmem
  have hlt : caller < traffic.callers.length := by
    rw [← h.examined.paired]
    exact (List.getElem?_eq_some_iff.mp hplaced).1
  have hcaller := List.getElem?_eq_getElem hlt
  have hdone := List.all_eq_true.mp finished _ (List.getElem_mem hlt)
  have hfollows := h.examined.follows caller inquiry _ hplaced hcaller
  cases hprogram : traffic.callers[caller] with
  | done value =>
    rw [hprogram] at hfollows
    exact hfollows.ended
  | ask call next =>
    rw [hprogram] at hdone
    cases hdone

theorem Solitary.offence_shown (h : Solitary origin request running inquiries traffic)
    (ends : (relay origin.policy request).Ends running.past result)
    (quiet : traffic.gateway.reports = []) (finished : traffic.isFinished = true)
    (offence : failed ∈ origin.offences (failedDispatches running.past)) :
    ∃ progress : DisableProgress, progress.left = 0 ∧
      progress.Shows origin traffic.gateway failed.channel.id := by
  obtain ⟨hfailed, hforeign, hcalls⟩ := Gateway.mem_offences.mp offence
  have hreported : failed.report ∈ inquiries.map Inquiry.report := by
    rw [(h.inquired ends quiet).mem_iff]
    refine List.mem_map.mpr ⟨failed, List.mem_filter.mpr ⟨hfailed, ?_⟩, rfl⟩
    rw [hforeign]
    rfl
  obtain ⟨inquiry, hmem, hreport⟩ := List.mem_map.mp hreported
  obtain ⟨hchannel, herror⟩ := Prod.mk.inj hreport
  have hended := h.ended finished hmem
  rw [hchannel, herror, if_pos hcalls] at hended
  exact ⟨inquiry.progress, hended, hchannel ▸ h.examined.shows inquiry hmem⟩

/-- A channel without an offence is as it was. -/
theorem Solitary.innocent_shown (h : Solitary origin request running inquiries traffic)
    (ends : (relay origin.policy request).Ends running.past result)
    (quiet : traffic.gateway.reports = []) (finished : traffic.isFinished = true)
    (innocent : id ∉ (origin.offences (failedDispatches running.past)).map (·.channel.id)) :
    DisableProgress.Shows origin traffic.gateway id .fresh := by
  by_cases hid : id ∈ inquiries.map (·.channel.id)
  · obtain ⟨inquiry, hmem, rfl⟩ := List.mem_map.mp hid
    have hreport : inquiry.report ∈ ((failedDispatches running.past).filter fun failed =>
        !failed.error.isLocal).map FailedDispatch.report := by
      rw [← (h.inquired ends quiet).mem_iff]
      exact List.mem_map_of_mem hmem
    obtain ⟨failed, hfailed, heq⟩ := List.mem_map.mp hreport
    obtain ⟨hfailed, hforeign⟩ := List.mem_filter.mp hfailed
    obtain ⟨hchannel, herror⟩ := Prod.mk.inj heq
    have spared : ¬ origin.classifier.shouldDisable inquiry.error inquiry.channel.provider = true := by
      intro hcalls
      refine innocent (List.mem_map.mpr ⟨failed, Gateway.mem_offences.mpr ⟨hfailed, ?_, ?_⟩, ?_⟩)
      · simpa using hforeign
      · rw [hchannel, herror]
        exact hcalls
      · rw [hchannel]
    have hended := h.ended finished hmem
    rw [if_neg spared] at hended
    have hshows := h.examined.shows inquiry hmem
    rw [hended] at hshows
    exact hshows
  · exact h.examined.others id hid

/-- The notices are those of the inquiries that have written a status. -/
theorem Solitary.noticed (h : Solitary origin request running inquiries traffic)
    (ends : (relay origin.policy request).Ends running.past result)
    (quiet : traffic.gateway.reports = []) (finished : traffic.isFinished = true) :
    (inquiries.filterMap Inquiry.sent?).Perm
      ((origin.sentences (failedDispatches running.past)).map FailedDispatch.notice) := by
  have sent : inquiries.filterMap Inquiry.sent? =
      (inquiries.map Inquiry.report).filterMap origin.notice? := by
    rw [List.filterMap_map]
    refine List.filterMap_congr fun inquiry hmem => ?_
    have hended := h.ended finished hmem
    show inquiry.sent? =
      if origin.classifier.shouldDisable inquiry.error inquiry.channel.provider then _ else none
    split
    · rename_i hcalls
      rw [if_pos hcalls] at hended
      exact Inquiry.sent?_ended (h.examined.shows inquiry hmem) hended
    · rename_i hspared
      rw [if_neg hspared] at hended
      rw [Inquiry.sent?, hended]
  have due : (origin.sentences (failedDispatches running.past)).map FailedDispatch.notice =
      (((failedDispatches running.past).filter fun failed => !failed.error.isLocal).map
        FailedDispatch.report).filterMap origin.notice? := by
    rw [Gateway.sentences, Gateway.offences, List.filterMap_map, List.filterMap_filter,
      ← List.filterMap_eq_map, List.filterMap_filter, List.filterMap_filter]
    refine List.filterMap_congr fun failed _ => ?_
    show _ = if !failed.error.isLocal then
      (if origin.classifier.shouldDisable failed.error failed.channel.provider then _ else none) else none
    cases failed.error.isLocal <;>
      cases origin.classifier.shouldDisable failed.error failed.channel.provider <;> rfl
  rw [sent, due]
  exact (h.inquired ends quiet).filterMap origin.notice?

theorem Solitary.penalised (h : Solitary origin request running inquiries traffic)
    (ends : (relay origin.policy request).Ends running.past result)
    (quiet : traffic.gateway.reports = []) (finished : traffic.isFinished = true) :
    Penalised origin traffic.gateway (failedDispatches running.past) := by
  have flags : ∀ id, id ∈ traffic.gateway.registry.disabled ↔ id ∈ origin.registry.disabled ∨
      (id ∈ (origin.offences (failedDispatches running.past)).map (·.channel.id) ∧
        (origin.store.status? id).isSome = true ∧
        (origin.registry.snapshot.channel? id).isSome = true) := by
    intro id
    by_cases hoffence : id ∈ (origin.offences (failedDispatches running.past)).map (·.channel.id)
    · obtain ⟨failed, hmem, rfl⟩ := List.mem_map.mp hoffence
      obtain ⟨progress, hended, hshows⟩ := h.offence_shown ends quiet finished hmem
      rw [(hshows.ended hended).2]
      simp [hoffence]
    · rw [(h.innocent_shown ends quiet finished hoffence).flag]
      simp [hoffence, DisableProgress.hides]
  constructor
  case distinct =>
    have hdistinct := (dispatchedIds_distinct ends).sublist (failedDispatches_sublist running.past)
    exact hdistinct.sublist (List.filter_sublist.map _)
  case status =>
    intro id
    by_cases hoffence : id ∈ (origin.offences (failedDispatches running.past)).map (·.channel.id)
    · obtain ⟨failed, hmem, rfl⟩ := List.mem_map.mp hoffence
      obtain ⟨progress, hended, hshows⟩ := h.offence_shown ends quiet finished hmem
      rw [(hshows.ended hended).1]
      refine if_congr (Iff.trans ?_ Gateway.mem_sentences_ids.symm) rfl rfl
      simp [hoffence]
    · rw [(h.innocent_shown ends quiet finished hoffence).status,
        if_neg fun hsentence => hoffence (Gateway.mem_sentences_ids.mp hsentence).1]
      rfl
  case table => exact h.examined.snapshot
  case flags => exact flags
  case hidden =>
    intro failed hmem hstored
    unfold Registry.isChannelEnabled
    rw [h.examined.snapshot]
    cases htable : (origin.registry.snapshot.channel? failed.channel.id).isSome with
    | false => rfl
    | true =>
      have hflag : failed.channel.id ∈ traffic.gateway.registry.disabled :=
        (flags failed.channel.id).mpr (.inr ⟨List.mem_map_of_mem hmem, hstored, htable⟩)
      rw [Registry.isDisabled, List.contains_iff_mem.mpr hflag]
      rfl
  case notices =>
    obtain ⟨sent, hsent, hperm⟩ := h.examined.notices
    exact ⟨sent, hsent, hperm.trans (h.noticed ends quiet finished)⟩

end Over

/-! ## The law of penalties -/

/-- A run penalises the channels that have earned it, and no others. A request, pinned or not, arrives at a
gateway whose store answers. Whatever the upstreams and the quota service reply, and in whatever order
the run and the background take their steps, as long as nothing else changes the gateway: when all is
over, only pairs of the plan's key and a channel that was rate limited have other deadlines, each of them
cooling as soon as its attempt was reversed; and statuses, flags and notices are those that the failures
call for. -/
theorem penalties_earned (origin : Gateway) (built : origin.registry.Built)
    (usable : origin.store.Usable) (idle : origin.reports = []) (request : RelayRequest)
    (happenings : List Happening) (internal : ∀ happening ∈ happenings, happening.IsInternal) :
    let start := Traffic.alone origin request
    let traffic := start.run happenings
    ∃ running, traffic.runs = [running] ∧ ∀ result, running.rest = .done result →
      let failures := failedDispatches running.past
      (∀ id key,
        traffic.gateway.cooldowns.deadline? id key ≠ origin.cooldowns.deadline? id key →
          (plan? origin.policy request running.past).map (·.key) = some key ∧
            ∃ failed ∈ failures, failed.channel.id = id ∧ failed.error.status = 429) ∧
        (∀ failed ∈ failures, failed.error.status = 429 →
          start.CoolsDuring happenings failed.channel.id failed.key) ∧
        (traffic.gateway.reports = [] → traffic.isFinished = true →
          Penalised origin traffic.gateway failures) := by
  intro start traffic
  obtain ⟨running, inquiries, h, cooled⟩ :=
    solitary_run built usable idle request happenings internal
  refine ⟨running, h.runs, ?_⟩
  intro result hdone failures
  have ends : (relay origin.policy request).Ends running.past result := by
    have hleads := h.leads [] result
    rw [hdone, List.append_nil] at hleads
    exact hleads ⟨rfl, rfl⟩
  have settled : (ledgerOf running.past).owed = .nothing := by
    have habides := h.orderly.abides running (by rw [h.runs]; simp)
    rw [hdone] at habides
    exact habides
  refine ⟨?_, ?_, h.penalised ends⟩
  · intro id key hchanged
    have hcooled : (id, key) ∈ coolingsOf running.past := by
      by_contra hnever
      exact hchanged (h.deadlines id key hnever)
    rcases relay_accounted ends with huneventful | ⟨plan, hplan, haccounted⟩
    · rw [huneventful.coolings] at hcooled
      cases hcooled
    · rw [haccounted.cooled, List.mem_map] at hcooled
      obtain ⟨failed, hmem, hpair⟩ := hcooled
      obtain ⟨hfailed, hlimited⟩ := List.mem_filter.mp hmem
      obtain ⟨rfl, rfl⟩ := Prod.mk.inj hpair
      refine ⟨?_, failed, hfailed, rfl, beq_iff_eq.mp hlimited⟩
      rw [hplan, haccounted.keyed failed hfailed]
      rfl
  · intro failed hfailed hstatus
    exact cooled.settled settled hfailed (beq_iff_eq.mpr hstatus)

/-- The first channel has lost its credentials, the second one limits the rate. -/
def failing : Outside where
  reserve charge := .ok ⟨charge, 1⟩
  dispatch channel _ _ :=
    if channel.id = 1 then .error ⟨.upstream 401 "unauthorized" "", false⟩
    else .error ⟨.upstream 429 "slow down" "", false⟩
  settle _ _ _ := .ok ()
  reverse _ := .ok ()
  elapsed := 0
  draws := []

/-- The first failure is looked into while the run goes on, the second one when it is over. -/
def bothFail : List Happening :=
  List.replicate 8 (.relay 0 failing) ++ [.lookInto 0, .health 0, .relay 0 failing, .health 0] ++
    List.replicate 16 (.relay 0 failing) ++ [.pass 10, .health 0, .lookInto 0, .health 0]

def afterBothFail : Traffic := (Traffic.alone sampleGateway sampleRequest).run bothFail

theorem bothFail_penalised :
    sampleGateway.store.Usable ∧ afterBothFail.gateway.reports = [] ∧
      afterBothFail.isFinished = true ∧
      afterBothFail.gateway.notices = [disabledNotice 1 "" "unauthorized"] ∧
      ∃ running, afterBothFail.runs = [running] ∧ (∃ result, running.rest = .done result) ∧
        (failedDispatches running.past).map (fun failed => (failed.pair, failed.error.status)) =
          [((1, "m"), 401), ((2, "m"), 429)] ∧
        Penalised sampleGateway afterBothFail.gateway (failedDispatches running.past) ∧
        (Traffic.alone sampleGateway sampleRequest).CoolsDuring bothFail 2 "m" := by
  have usable : sampleGateway.store.Usable := ⟨rfl, rfl, by decide⟩
  have built : sampleGateway.registry.Built := ⟨_, _, rfl⟩
  have internal : ∀ happening ∈ bothFail, happening.IsInternal := by
    intro happening hmem
    simp only [bothFail, List.mem_append, List.mem_replicate, List.mem_cons, List.not_mem_nil,
      or_false] at hmem
    rcases hmem with ((⟨_, rfl⟩ | rfl | rfl | rfl | rfl) | ⟨_, rfl⟩) | rfl | rfl | rfl | rfl <;> trivial
  obtain ⟨running, hruns, hlaw⟩ :=
    penalties_earned sampleGateway built usable rfl sampleRequest bothFail internal
  have hruns : afterBothFail.runs = [running] := hruns
  have quiet : afterBothFail.gateway.reports = [] := by decide +kernel
  have finished : afterBothFail.isFinished = true := by decide +kernel
  have noticed : afterBothFail.gateway.notices = [disabledNotice 1 "" "unauthorized"] := by
    decide +kernel
  have stopped : afterBothFail.runs.all (fun running => running.rest.value?.isSome) = true := by
    decide +kernel
  have failed : afterBothFail.runs.map (fun running =>
      (failedDispatches running.past).map fun failed => (failed.pair, failed.error.status)) =
        [[((1, "m"), 401), ((2, "m"), 429)]] := by decide +kernel
  rw [hruns] at stopped failed
  have failed : (failedDispatches running.past).map (fun failed => (failed.pair, failed.error.status)) =
      [((1, "m"), 401), ((2, "m"), 429)] := (List.cons.inj failed).1
  have done : ∃ result, running.rest = .done result := by
    cases hrest : running.rest with
    | done result => exact ⟨result, rfl⟩
    | ask call next => simp [hrest, Program.value?] at stopped
  obtain ⟨result, hdone⟩ := done
  obtain ⟨_, hcools, hpenalised⟩ := hlaw result hdone
  have limited : ((2, "m"), 429) ∈ (failedDispatches running.past).map fun failed =>
      (failed.pair, failed.error.status) := by
    rw [failed]
    decide
  obtain ⟨second, hsecond, heq⟩ := List.mem_map.mp limited
  obtain ⟨hpair, hstatus⟩ := Prod.mk.inj heq
  obtain ⟨hid, hkey⟩ := Prod.mk.inj hpair
  have hcooled := hcools second hsecond hstatus
  rw [hid, hkey] at hcooled
  exact ⟨usable, quiet, finished, noticed, running, hruns, ⟨result, hdone⟩, failed,
    hpenalised quiet finished, hcooled⟩

end RelayGateway
