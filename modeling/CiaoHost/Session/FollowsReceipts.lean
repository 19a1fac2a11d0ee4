import CiaoHost.Session.Follows

/-! The copy follows a session through the receipts it publishes. -/

namespace CiaoHost.Session

open Protocol Lib Lib.Checks Lib.Saturating Lib.KeyedList

namespace LiveSession

variable {id : String} {s : LiveSession} {now : ℕ} {commands : List String} {receipt : CommandReceipt}

lemma upsertReceipt_receiptsWith {snapshot : AgentSessionSnapshot} (howns : snapshot.ownsReceipt receipt)
    (hlate : ∀ r ∈ snapshot.latestCommandReceipts, r.commandId = receipt.commandId → r.updatedAt ≤ receipt.updatedAt)
    (hevidence : receipt.state = "applied" → receipt.applicationEvidence ≠ none) :
    snapshot.upsertReceipt receipt = ({ snapshot with
      latestCommandReceipts := receiptsWith snapshot.latestCommandReceipts receipt }, .ok ()) := by
  rw [AgentSessionSnapshot.upsertReceipt, if_neg (not_not.mpr howns), receiptsWith]
  cases hfound : snapshot.latestCommandReceipts.find? (·.commandId = receipt.commandId) with
  | some existing =>
    have hmem := List.mem_of_find?_eq_some hfound
    have hid : existing.commandId = receipt.commandId := by simpa using List.find?_some hfound
    have hany : snapshot.latestCommandReceipts.any (·.commandId = receipt.commandId) :=
      List.any_eq_true.mpr ⟨existing, hmem, by simpa using hid⟩
    dsimp only
    rw [if_neg fun hambiguous => hevidence hambiguous.2.1 hambiguous.2.2, if_pos (hlate existing hmem hid), if_pos hany]
  | none =>
    have hany : ¬ snapshot.latestCommandReceipts.any (·.commandId = receipt.commandId) := by
      simpa [List.find?_eq_none] using hfound
    rw [if_neg hany]

structure Answerable (id : String) (now : ℕ) (commands : List String) (n : ℕ) (s : LiveSession) : Prop where
  sound : s.Sound id
  settled : s.snapshot.Settled
  room : s.snapshot.revision + n ≤ u64Max
  late : ∀ r ∈ s.snapshot.latestCommandReceipts, r.commandId ∈ commands → r.updatedAt ≤ now

lemma Answerable.publishReceipt {n : ℕ} (h : s.Answerable id now commands (n + 1)) (hr : receipt.validate = .ok ())
    (howns : s.snapshot.ownsReceipt receipt) (hnow : receipt.updatedAt = now) (hmem : receipt.commandId ∈ commands)
    (hevidence : receipt.state = "applied" → receipt.applicationEvidence ≠ none) :
    Follows s.snapshot (s.publishReceipt now receipt) ∧ (s.publishReceipt now receipt).1.Answerable id now commands n := by
  have hroom : s.snapshot.revision < u64Max := by
    have hle := h.room
    omega
  have hreduced := upsertReceipt_receiptsWith howns (fun r hr' hid => hnow ▸ h.late r hr' (hid ▸ hmem)) hevidence
  constructor
  · show Follows s.snapshot (s.publishChange now (fun snapshot => { snapshot with
      latestCommandReceipts := receiptsWith snapshot.latestCommandReceipts receipt }) fun _ => [.commandReceipt receipt])
    apply publishChange_follows h.sound hroom
    · exact fun _ => ⟨rfl, rfl, rfl, rfl⟩
    · simp
    · simp
    · exact List.forall_mem_singleton.mpr hr
    · simp only [List.foldl_cons, List.foldl_nil, AgentSessionSnapshot.applyProof, AgentSessionSnapshot.applyChanges,
        AgentSessionSnapshot.applyChange, hreduced]
      rfl
    · exact ⟨h.settled.blocked, h.settled.continuity, h.settled.managed⟩
  · refine ⟨h.sound.publishReceipt hr, ⟨h.settled.blocked, h.settled.continuity, h.settled.managed⟩, ?_, ?_⟩
    · have hnext : (s.publishReceipt now receipt).1.snapshot.revision = s.snapshot.revision + 1 := bump_eq hroom
      have hle := h.room
      omega
    · intro r hr' hcommand
      rcases mem_receiptsWith hr' with rfl | hr'
      · exact hnow.le
      · exact h.late r hr' hcommand

lemma Answerable.persistAndPublishReceipt {n : ℕ} (h : s.Answerable id now commands (n + 1))
    (hr : receipt.validate = .ok ()) (howns : s.snapshot.ownsReceipt receipt) (hnow : receipt.updatedAt = now)
    (hmem : receipt.commandId ∈ commands) (hevidence : receipt.state = "applied" → receipt.applicationEvidence ≠ none)
    (store : MetadataStore) (disk : Except String Unit) :
    Follows s.snapshot ((s.persistAndPublishReceipt store now disk receipt).1.session,
      (s.persistAndPublishReceipt store now disk receipt).1.frames) := by
  cases disk with
  | ok => exact (h.publishReceipt hr howns hnow hmem hevidence).1
  | error e => exact .quiet s

lemma Answerable.abandonInFlight {env : Env} {rest : List String} (hnow : env.now ≠ 0)
    (h : s.Answerable id env.now commands (rest.length + 1)) (hrest : rest ⊆ commands)
    (hids : ∀ c ∈ rest, validOpaqueId c = .ok ()) (index : ℕ) (store : MetadataStore) :
    Follows s.snapshot ((abandonInFlight id env index s store rest).session,
        (abandonInFlight id env index s store rest).frames) ∧
      (abandonInFlight id env index s store rest).session.Answerable id env.now commands 1 := by
  induction rest generalizing index s store with
  | nil => exact ⟨.quiet s, h⟩
  | cons commandId rest ih =>
    have hid : validOpaqueId commandId = .ok () := hids commandId List.mem_cons_self
    have hr := h.sound.ambiguousReceipt_valid hnow hid (show validToken "bridge_disconnected" = .ok () by decide)
    have howns : s.snapshot.ownsReceipt (s.ambiguousReceipt id env.now "bridge_disconnected" commandId) :=
      ⟨h.sound.key.symm, rfl, rfl⟩
    obtain ⟨hfollows, hnext⟩ := h.publishReceipt hr howns rfl (hrest List.mem_cons_self)
      fun happlied => absurd (show "outcome_unknown" = "applied" from happlied) (by decide)
    rw [LiveSession.abandonInFlight, persistOrPublishReceipt_eq]
    obtain ⟨htail, hanswered⟩ := ih hnext (fun c hc => hrest (List.mem_cons_of_mem _ hc))
      (fun c hc => hids c (List.mem_cons_of_mem _ hc)) (index + 1) (store.upsertReceipt _ env.now (env.disk index)).1
    exact ⟨hfollows.trans htail, hanswered⟩

lemma downgradeSession_follows (h : s.Answerable id now commands 1) {reason : String}
    (hreason : validToken reason = .ok ()) (hfree : ¬ s.snapshot.hasUnresolvedBlocking)
    (htopology : s.snapshot.topology ≠ "adopted") : Follows s.snapshot (s.downgradeSession now reason) := by
  have hroom : s.snapshot.revision < u64Max := h.room
  have hended : { s with openRun := none }.Sound id := h.sound.withOpenRun (by simp)
  have hform := withdrawSession_wellFormed h.sound.snapshot htopology hreason
  apply publishChange_follows hended hroom
  · exact fun _ => ⟨rfl, rfl, rfl, rfl⟩
  · simp
  · simp
  · intro c hc
    simp only [List.mem_cons, List.not_mem_nil, or_false] at hc
    rcases hc with rfl | rfl | rfl | rfl
    · exact hform.observation
    · exact hform.fallback
    · exact hform.capabilities
    · exact hform.turn
  · rfl
  · exact ⟨fun hblocking => absurd hblocking hfree, rfl, fun _ => rfl⟩

lemma disconnected_follows {env : Env} (hnow : env.now ≠ 0) {store : MetadataStore}
    (h : s.Answerable id env.now s.inFlightCommands (s.inFlightCommands.length + 1))
    (hfree : ¬ s.snapshot.hasUnresolvedBlocking) (htopology : s.snapshot.topology ≠ "adopted") :
    Follows s.snapshot ((s.disconnected id store env).session, (s.disconnected id store env).frames) := by
  have hunplugged : { s with bridgeSender := none, adapterActive := false, inFlightCommands := [] }.Answerable id env.now
      s.inFlightCommands (s.inFlightCommands.length + 1) :=
    ⟨{ h.sound with inFlight := by simp }, h.settled, h.room, h.late⟩
  obtain ⟨hfollows, hanswered⟩ := hunplugged.abandonInFlight hnow (List.Subset.refl _) h.sound.inFlight 0 store
  obtain ⟨revision, receipts, now, hr⟩ := (abandonInFlight_issued
    { s with bridgeSender := none, adapterActive := false, inFlightCommands := [] } store id env 0
    s.inFlightCommands).receipted
  have hkept : (abandonInFlight id env 0 { s with bridgeSender := none, adapterActive := false, inFlightCommands := [] }
      store s.inFlightCommands).session.snapshot.topology ≠ "adopted" := by
    rw [hr]
    exact htopology
  simp only [LiveSession.disconnected]
  rw [if_neg hkept]
  apply hfollows.trans
  apply downgradeSession_follows hanswered (by decide) _ hkept
  rw [hr]
  exact hfree

section

variable (h : s.Answerable id now commands 1)

include h

lemma observedEnd_follows (hfree : ¬ s.snapshot.hasUnresolvedBlocking)
    (htopology : s.snapshot.topology ≠ "adopted") : Follows s.snapshot (s.observedEnd now) := by
  have hended : { s with adapterActive := false, routeId := none }.Answerable id now commands 1 :=
    ⟨{ h.sound with }, h.settled, h.room, h.late⟩
  exact downgradeSession_follows hended (by decide) hfree htopology

lemma downgradeRoute_follows {reason : String}
    (hreason : validToken reason = .ok ()) (htopology : s.snapshot.topology ≠ "adopted") :
    Follows s.snapshot (s.downgradeRoute now reason) := by
  have hform := withdrawRoute_wellFormed h.sound.snapshot htopology hreason
  apply publishChange_follows h.sound h.room
  · exact fun _ => ⟨rfl, rfl, rfl, rfl⟩
  · simp
  · simp
  · intro c hc
    rcases List.mem_pair.mp hc with rfl | rfl
    · exact hform.fallback
    · exact hform.capabilities
  · rfl
  · exact ⟨h.settled.blocked, rfl, fun _ => rfl⟩

lemma installRoute_follows {proof : Option AgentRouteProof} {routeId : String}
    (hroute : validOpaqueId routeId = .ok ()) (htopology : s.snapshot.topology ≠ "adopted")
    (hproof : proof.isSome → s.snapshot.topology ≠ "managed") : Follows s.snapshot (s.installRoute now proof routeId) := by
  have hafter : (s.installRoute now proof routeId).1.Sound id := h.sound.installRoute htopology hroute
  have hrouted : { s with routeId := proof.map fun _ => routeId }.Sound id := { h.sound with }
  simp only [LiveSession.installRoute] at hafter ⊢
  apply publishChange_follows hrouted h.room
  · exact fun _ => ⟨rfl, rfl, rfl, rfl⟩
  · simp
  · simp
  · intro c hc
    rcases List.mem_pair.mp hc with rfl | rfl
    · exact hafter.snapshot.fallback
    · exact hafter.snapshot.capabilities
  · rfl
  · refine ⟨h.settled.blocked, rfl, fun hmanaged => ?_⟩
    cases proof with
    | none => rfl
    | some proof => exact absurd hmanaged (hproof rfl)

end

lemma rejectedReceipt_owned {command : AgentCommand} (hid : s.snapshot.sessionId = command.sessionId)
    (hcurrent : command.snapshotEpoch = s.snapshot.snapshotEpoch ∧
      command.expectedGeneration = s.snapshot.processGeneration) (state reason : String) :
    s.snapshot.ownsReceipt (rejectedReceipt command state reason now) :=
  ⟨hid.symm, hcurrent.2, hcurrent.1⟩

lemma takeCommand_follows {command : AgentCommand} (hnow : now ≠ 0) (hc : command.validate = .ok ())
    (hid : command.sessionId = id) (h : s.Answerable id now [command.commandId] 2)
    (hcurrent : command.snapshotEpoch = s.snapshot.snapshotEpoch ∧
      command.expectedGeneration = s.snapshot.processGeneration) (store : MetadataStore) (disk : Except String Unit) :
    Follows s.snapshot ((s.takeCommand store command now now disk).1.session,
      (s.takeCommand store command now now disk).1.frames) := by
  have hkey := h.sound.key.trans hid.symm
  have hanswer : ∀ receipt, receipt.validate = .ok () → s.snapshot.ownsReceipt receipt → receipt.updatedAt = now →
      receipt.commandId = command.commandId → receipt.state ≠ "applied" →
      Follows s.snapshot ((s.persistAndPublishReceipt store now disk receipt).1.session,
        (s.persistAndPublishReceipt store now disk receipt).1.frames) := by
    intro receipt hr howns hat hcommand hstate
    exact h.persistAndPublishReceipt hr howns hat (by simp [hcommand]) (fun happlied => absurd happlied hstate) store disk
  have hsend := hanswer (sendingReceipt command now) (sendingReceipt_valid hc hnow)
    ⟨hkey.symm, hcurrent.2, hcurrent.1⟩ rfl rfl (show "sending" ≠ "applied" by decide)
  simp only [LiveSession.takeCommand]
  split
  · exact hanswer _ (rejectedReceipt_valid hc hnow (by decide) (by decide) (by decide))
      (s.rejectedReceipt_owned hkey hcurrent _ _) rfl rfl (show "stale" ≠ "applied" by decide)
  · split
    · exact hanswer _ (rejectedReceipt_valid hc hnow (by decide) (by decide) (by decide))
        (s.rejectedReceipt_owned hkey hcurrent _ _) rfl rfl (show "unavailable" ≠ "applied" by decide)
    · split
      · next heq =>
        rw [heq] at hsend
        exact hsend
      · next heq =>
        rw [heq] at hsend
        exact hsend

lemma undelivered_follows {command : AgentCommand} {sender : Option ℕ} {effect : Effect} {reason : String}
    {store : MetadataStore} {disk disk' : Except String Unit} (hnow : now ≠ 0) (hc : command.validate = .ok ())
    (hid : command.sessionId = id) (h : s.Answerable id now [command.commandId] 2)
    (htaken : s.takeCommand store command now now disk = (effect, .admitted sender receipt))
    (hreason : validToken reason = .ok ()) :
    Follows s.snapshot ((effect.session.landUnknown effect.store command reason now disk').session,
      effect.frames ++ (effect.session.landUnknown effect.store command reason now disk').frames) := by
  obtain ⟨hcurrent, -, -, rfl, rfl⟩ := takeCommand_admitted htaken
  simp only [isStale, not_or, not_not] at hcurrent
  have howns : s.snapshot.ownsReceipt (sendingReceipt command now) :=
    ⟨hid.trans h.sound.key.symm, hcurrent.2.1, hcurrent.1⟩
  obtain ⟨hfirst, hsent⟩ := h.publishReceipt (sendingReceipt_valid hc hnow) howns rfl List.mem_cons_self
    fun happlied => absurd (show "sending" = "applied" from happlied) (by decide)
  rw [landUnknown, persistOrPublishReceipt_eq]
  apply Follows.trans (s := (s.publishReceipt now (sendingReceipt command now)).1) hfirst
  exact (hsent.publishReceipt (rejectedReceipt_valid hc hnow (by decide) (by decide) hreason) howns rfl
    List.mem_cons_self fun happlied => absurd (show "outcome_unknown" = "applied" from happlied) (by decide)).1

lemma landReceipt_follows {env : Env} (h : s.Answerable id env.now [receipt.commandId] 1)
    (hr : receipt.validate = .ok ()) (howns : s.snapshot.ownsReceipt receipt) (hat : receipt.updatedAt = env.now)
    (hevidence : receipt.state = "applied" → receipt.applicationEvidence ≠ none) (store : MetadataStore) :
    Follows s.snapshot ((s.landReceipt store env receipt).1.session, (s.landReceipt store env receipt).1.frames) := by
  have hwritten : Follows s.snapshot ((s.persistAndPublishReceipt store env.now (env.disk 0) receipt).1.session,
      (s.persistAndPublishReceipt store env.now (env.disk 0) receipt).1.frames) :=
    h.persistAndPublishReceipt hr howns hat List.mem_cons_self hevidence store (env.disk 0)
  rw [landReceipt]
  split
  · next heq =>
    rw [heq] at hwritten
    exact hwritten
  · next heq =>
    rw [heq] at hwritten
    dsimp only
    split <;> exact hwritten

end LiveSession

end CiaoHost.Session
