import CiaoHost.Session.Run

/-! What an operation can do to one session that stays: every case with the checks it has passed. -/

namespace CiaoHost.Session

open Protocol Lib Lib.Checks

namespace LiveSession

variable {s s' s'' : LiveSession}

def Receipted (s s' : LiveSession) : Prop :=
  ∃ revision receipts now, s' = { s with
    snapshot := { s.snapshot with revision := revision, latestCommandReceipts := receipts }
    updatedAt := now }

lemma Receipted.refl (s : LiveSession) : s.Receipted s := ⟨_, _, _, rfl⟩

lemma Receipted.trans (h : s.Receipted s') (h' : s'.Receipted s'') : s.Receipted s'' := by
  obtain ⟨revision, receipts, now, rfl⟩ := h
  obtain ⟨revision', receipts', now', rfl⟩ := h'
  exact ⟨revision', receipts', now', rfl⟩

lemma publishReceipt_receipted (s : LiveSession) (now : ℕ) (receipt : CommandReceipt) :
    s.Receipted (s.publishReceipt now receipt).1 := ⟨_, _, _, rfl⟩

/-- Receipts of a kind, written and published one after another; a write that fails may end them. -/
inductive Issued (now : ℕ) (kind : LiveSession → CommandReceipt → Prop) :
    LiveSession → MetadataStore → Effect → Prop
  | none (s : LiveSession) (store : MetadataStore) : Issued now kind s store ⟨s, [], store⟩
  | unwritten {s : LiveSession} {store : MetadataStore} {receipt : CommandReceipt} (disk : Except String Unit)
      (h : kind s receipt) : Issued now kind s store ⟨s, [], (store.upsertReceipt receipt now disk).1⟩
  | next {s : LiveSession} {store : MetadataStore} {receipt : CommandReceipt} {rest : Effect}
      (disk : Except String Unit) (h : kind s receipt)
      (hrest : Issued now kind (s.publishReceipt now receipt).1 (store.upsertReceipt receipt now disk).1 rest) :
    Issued now kind s store ⟨rest.session, (s.publishReceipt now receipt).2 ++ rest.frames, rest.store⟩

def Ambiguous (sessionId : String) (now : ℕ) (reason : String) (commands : List String) (s : LiveSession)
    (receipt : CommandReceipt) : Prop :=
  ∃ commandId ∈ commands, receipt = s.ambiguousReceipt sessionId now reason commandId

section

variable {now : ℕ} {kind kind' : LiveSession → CommandReceipt → Prop} {store : MetadataStore} {effect : Effect}
  {receipt : CommandReceipt}

lemma Issued.one (disk : Except String Unit) (h : kind s receipt) :
    Issued now kind s store ⟨(s.publishReceipt now receipt).1, (s.publishReceipt now receipt).2,
      (store.upsertReceipt receipt now disk).1⟩ := by
  simpa only [List.append_nil] using Issued.next disk h (.none _ _)

section

variable (h : Issued now kind s store effect)

include h

lemma Issued.mono (hkind : ∀ s receipt, kind s receipt → kind' s receipt) :
    Issued now kind' s store effect := by
  induction h with
  | none s store => exact .none s store
  | unwritten disk h => exact .unwritten disk (hkind _ _ h)
  | next disk h _ ih => exact .next disk (hkind _ _ h) ih

lemma Issued.keeps {P : LiveSession → MetadataStore → Prop}
    (hwrite : ∀ s store receipt disk, kind s receipt → P s store → P s (store.upsertReceipt receipt now disk).1)
    (hpublish : ∀ s store receipt, kind s receipt → P s store → P (s.publishReceipt now receipt).1 store)
    (hp : P s store) : P effect.session effect.store := by
  induction h with
  | none s store => exact hp
  | unwritten disk h => exact hwrite _ _ _ disk h hp
  | next disk h _ ih => exact ih (hpublish _ _ _ h (hwrite _ _ _ disk h hp))

lemma Issued.receipted : s.Receipted effect.session :=
  h.keeps (P := fun s' _ => s.Receipted s') (fun _ _ _ _ _ hr => hr)
    (fun s' _ receipt _ hr => hr.trans (s'.publishReceipt_receipted now receipt)) (.refl s)

end

end

variable (s) (store : MetadataStore) (now : ℕ) (disk : Except String Unit) (receipt : CommandReceipt)

lemma persistAndPublishReceipt_issued :
    Issued now (fun _ r => r = receipt) s store (s.persistAndPublishReceipt store now disk receipt).1 := by
  cases disk with
  | error e => exact .unwritten (.error e) rfl
  | ok u => exact .one (.ok u) rfl

lemma persistOrPublishReceipt_eq : s.persistOrPublishReceipt store now disk receipt =
    ⟨(s.publishReceipt now receipt).1, (s.publishReceipt now receipt).2,
      (store.upsertReceipt receipt now disk).1⟩ := by
  cases disk <;> rfl

lemma persistOrPublishReceipt_issued :
    Issued now (fun _ r => r = receipt) s store (s.persistOrPublishReceipt store now disk receipt) := by
  rw [persistOrPublishReceipt_eq]
  exact .one disk rfl

/-- An entry that is shown cuts to the bound, may end a latched attention, and says when the start went. -/
lemma publishEntry_keeps {P : LiveSession → Prop} (canonical : TimelineEntry)
    (h : P ({ s with toTimeline := s.toTimeline.enforceHistoryBound.1 }.bumpRevision now).refreshSnapshotWindow)
    (hclear : ∀ s, s.snapshot.pendingInteractions = [] → P s → P { s with
      snapshot := { s.snapshot with turn := s.openRun.getD (.unknown "awaiting_agent_state") } })
    (hcover : ∀ s, P s → P (s.setHistoryCoverage false).1) (hbump : ∀ s, P s → P (s.bumpRevision now)) :
    P (s.publishEntry now canonical).1 := by
  have hcleared : ∀ s, P s → P s.clearHookAttention.1 := by
    intro s hs
    rw [clearHookAttention]
    split
    · exact hs
    · next hnone => exact hclear s (not_not.mp (not_or.mp hnone).2) hs
  have hstart : ∀ s startEvicted, P s → P (s.publishEvictedStart now startEvicted).1 := by
    intro s startEvicted hs
    have hcovered := hcover s hs
    rw [publishEvictedStart]
    split
    · split <;> rename_i heq <;> rw [heq] at hcovered
      · exact hbump _ hcovered
      · exact hcovered
    · exact hs
  exact hstart _ _ (hcleared _ h)

inductive Rowed : LiveSession × List AgentServerFrame → Prop
  | quiet (t : Timeline) : Rowed ({ s with toTimeline := t }, [])
  | row (t : Timeline) (canonical : TimelineEntry) : Rowed ({ s with toTimeline := t }.publishEntry now canonical)

lemma upsertEntry_rowed (freshId : String) (e : NormalizedTimelineEntry) : Rowed s now (s.upsertEntry now freshId e) := by
  rw [upsertEntry]
  dsimp only
  split
  · split
    · exact .quiet _
    · exact .row _ _
  · exact .row _ _

lemma appendText_rowed (freshId : String) (d : NormalizedTextDelta) : Rowed s now (s.appendText now freshId d).1 := by
  have hkept : Rowed s now (s, []) := .quiet s.toTimeline
  rw [appendText]
  split
  · exact hkept
  · split
    · split
      · exact hkept
      · split
        · exact hkept
        · split
          · exact .row _ _
          · exact hkept
    · exact .row _ _

variable (sessionId : String) (env : Env) (index : ℕ) (commands : List String)

lemma abandonInFlight_issued : Issued env.now (Ambiguous sessionId env.now "bridge_disconnected" commands) s store
    (abandonInFlight sessionId env index s store commands) := by
  induction commands generalizing index s store with
  | nil => exact .none s store
  | cons commandId rest ih =>
    rw [abandonInFlight, persistOrPublishReceipt_eq]
    exact .next (env.disk index) ⟨commandId, List.mem_cons_self, rfl⟩
      ((ih _ _ (index + 1)).mono fun _ _ ⟨c, hc, heq⟩ => ⟨c, List.mem_cons_of_mem _ hc, heq⟩)

lemma supersedeInFlight_issued : Issued env.now (Ambiguous sessionId env.now "bridge_superseded" commands) s store
    (supersedeInFlight sessionId env index s store commands).1 := by
  induction commands generalizing index s store with
  | nil => exact .none s store
  | cons commandId rest ih =>
    rw [supersedeInFlight]
    cases hdisk : env.disk index with
    | error e => exact .unwritten (.error e) ⟨commandId, List.mem_cons_self, rfl⟩
    | ok u =>
      exact .next (.ok u) ⟨commandId, List.mem_cons_self, rfl⟩
        ((ih _ _ (index + 1)).mono fun _ _ ⟨c, hc, heq⟩ => ⟨c, List.mem_cons_of_mem _ hc, heq⟩)

lemma takeCommand_issued (command : AgentCommand) (clock : ℕ) : ∃ effect flight,
    Issued clock (fun _ r => r = s.admissionReceipt command now) s store effect ∧
      (s.takeCommand store command now clock disk).1 =
        { effect with session := { effect.session with inFlightCommands := flight } } ∧
      (flight = s.inFlightCommands ∨ flight = s.inFlightCommands.insert command.commandId ∧
        s.admissionReceipt command now = sendingReceipt command now) := by
  have hissued := s.persistAndPublishReceipt_issued store clock disk
  rw [takeCommand, admissionReceipt]
  dsimp only
  split
  · exact ⟨_, _, hissued _, by cases disk <;> rfl, .inl rfl⟩
  · split
    · exact ⟨_, _, hissued _, by cases disk <;> rfl, .inl rfl⟩
    · cases disk with
      | error e => exact ⟨_, _, hissued _, rfl, .inl rfl⟩
      | ok u => exact ⟨_, _, hissued _, rfl, .inr ⟨rfl, rfl⟩⟩

lemma landReceipt_issued : ∃ effect flight, Issued env.now (fun _ r => r = receipt) s store effect ∧
    (s.landReceipt store env receipt).1 =
      { effect with session := { effect.session with inFlightCommands := flight } } ∧
    (flight = s.inFlightCommands ∧ (env.disk 0 = .ok () → ¬ Supervisor.isFinal receipt.state) ∨
      flight = s.inFlightCommands.erase receipt.commandId ∧ Supervisor.isFinal receipt.state) := by
  have hissued := s.persistAndPublishReceipt_issued store env.now (env.disk 0) receipt
  rw [landReceipt]
  cases hdisk : env.disk 0 with
  | error e =>
    rw [hdisk] at hissued
    exact ⟨_, _, hissued, rfl, .inl ⟨rfl, nofun⟩⟩
  | ok u =>
    rw [hdisk] at hissued
    cases hfinal : Supervisor.isFinal receipt.state with
    | true => exact ⟨_, _, hissued, rfl, .inr ⟨rfl, rfl⟩⟩
    | false => exact ⟨_, _, hissued, rfl, .inl ⟨rfl, fun _ => Bool.false_ne_true⟩⟩

/-- A rewrite fences moved numbers, cuts to the bound, says what is covered and publishes, as far as it
comes to each. -/
lemma rewriteTo_keeps {P : Effect → Prop} (rewritten : Timeline) (complete : Option Bool) (visible : Bool)
    (reason : String) (h : P ⟨{ s with toTimeline := rewritten }, [], store⟩)
    (hfence : ∀ s store, P ⟨s, [], store⟩ → P ⟨{ s with snapshot := { s.snapshot with
        snapshotEpoch := fenceEpoch s.snapshot.snapshotEpoch env.epoch, latestCommandReceipts := [] } }, [],
      (store.updateEpoch s.snapshot.sessionId (fenceEpoch s.snapshot.snapshotEpoch env.epoch) env.now
        (env.disk 0)).1⟩)
    (hbound : ∀ s store, P ⟨s, [], store⟩ → P ⟨{ s with toTimeline := s.toTimeline.enforceHistoryBound.1 }, [], store⟩)
    (hcover : ∀ s store complete, P ⟨s, [], store⟩ → P ⟨(s.setHistoryCoverage complete).1, [], store⟩)
    (hpublish : ∀ s store reason, P ⟨s, [], store⟩ → P (s.publishRewrite store env reason).1) :
    P (s.rewriteTo store env rewritten complete visible reason).1 := by
  have hfenced : P ({ s with toTimeline := rewritten }.fenceRewrittenHistory store s.heldSequences env).1 ∧
      ({ s with toTimeline := rewritten }.fenceRewrittenHistory store s.heldSequences env).1.frames = [] := by
    have hwritten := hfence _ _ h
    rw [fenceRewrittenHistory]
    split
    · dsimp only
      split <;> rename_i heq <;> rw [heq] at hwritten <;> exact ⟨hwritten, rfl⟩
    · exact ⟨h, rfl⟩
  rw [rewriteTo]
  split
  · next heq =>
    rw [heq] at hfenced
    exact hfenced.1
  · next fenced moved heq =>
    obtain ⟨fenced, frames, written⟩ := fenced
    rw [heq] at hfenced
    obtain ⟨hfenced, rfl⟩ : P ⟨fenced, frames, written⟩ ∧ frames = [] := hfenced
    have hkept := hbound _ _ hfenced
    have hcovered : ∀ cut, P ⟨({ fenced with
        toTimeline := fenced.toTimeline.enforceHistoryBound.1 }.coverAfter complete cut).1, [], written⟩ := by
      intro cut
      rw [coverAfter.eq_def]
      split
      · exact hcover _ _ _ hkept
      · split
        · exact hcover _ _ _ hkept
        · exact hkept
    dsimp only
    split
    · exact hpublish _ _ _ (hcovered _)
    · exact hcovered _

variable {s store env} in
/-- A read against history leaves the session as it is, or rewrites it by a plan. -/
lemma reconcileHistory_keeps {P : Effect → Prop} {generation : Option ℕ} {authority : List NormalizedTimelineEntry}
    {mode : ReconcileMode} {stem : Option String} {scope : TurnScope} (h : P ⟨s, [], store⟩)
    (hrewrite : ∀ plan complete visible reason,
      (Alignment.mk s.heldEntries authority (s.resolveMode mode scope) stem).planReconcile = some plan →
      P (s.rewriteTo store env (s.toTimeline.applyReconcilePlan env.ids plan authority).1 complete visible reason).1) :
    P (s.reconcileHistory store env generation authority mode stem scope).1 := by
  rw [reconcileHistory]
  split
  · exact h
  · dsimp only
    split
    · exact h
    · next plan hplan => exact hrewrite plan _ _ _ hplan

end LiveSession

def MetadataStore.quietly (store : MetadataStore) (result : LiveSession × List AgentServerFrame) : Effect :=
  ⟨result.1, result.2, store⟩

section

variable (store : MetadataStore) (carried : Option (List TimelineEntry)) (env : Env) (id : String)
  (s : LiveSession)

inductive Moved : Op → Effect → Prop
  | permissionMode (mode : String) :
    Moved (.updatePermissionMode id mode) (store.quietly (s.updatePermissionMode env.now mode))
  | model (model : String) : Moved (.updateModel id model) (store.quietly (s.updateModel env.now model))
  | effort (effort : String) :
    Moved (.updateEffort id effort) (store.quietly (s.updateEffort env.now effort))
  | catalogue (models : List AgentModelOption) :
    Moved (.updateModelCatalogue id models) (store.quietly (s.updateModelCatalogue env.now models))
  | commands (offered : CommandCapabilities) :
    Moved (.updateCommands id offered) (store.quietly (s.updateCommands env.now offered))
  | turn (turn : TurnState) : Moved (.noteTurn id turn) (store.quietly (s.noteTurn env.now turn))
  | latch (kind : String) (h : Supervisor.classifyAttentionKind kind = .latches) :
    Moved (.noteAttention id kind) (store.quietly (s.latchAttention env.now))
  | idle (kind : String) (h : Supervisor.classifyAttentionKind kind = .reportsIdle) :
    Moved (.noteAttention id kind) (store.quietly (s.idleReport env.now))
  | expire : Moved .expireTurnClaims (store.quietly (s.expireTurnClaim env.now))
  | interaction (i : PendingInteraction) (h : i.validate = .ok ()) :
    Moved (.upsertInteraction id i) (store.quietly (s.upsertInteraction env.now i).1)
  | resolution (interactionId resolution : String) (hid : validOpaqueId interactionId = .ok ())
      (h : validToken resolution = .ok ()) :
    Moved (.resolveInteraction id interactionId resolution)
      (store.quietly (s.resolveInteraction env.now interactionId resolution))
  | entry (e : NormalizedTimelineEntry) (h : e.validate = .ok ()) :
    Moved (.upsertEntry id e) (store.quietly (s.upsertEntry env.now (env.ids 0) e))
  | text (d : NormalizedTextDelta) (h : d.validate = .ok ()) :
    Moved (.appendText id d) (store.quietly (s.appendText env.now (env.ids 0) d).1)
  | snapshot (entries : List NormalizedTimelineEntry) (complete : Option Bool)
      (h : ∀ e ∈ entries, e.validate = .ok ()) :
    Moved (.replaceSnapshot id entries complete) (s.replaceSnapshot store env carried entries complete).1
  | backfill (generation : Option ℕ) (entries : List NormalizedTimelineEntry) (complete : Bool)
      (stem : Option String) (h : ∀ e ∈ entries, e.validate = .ok ()) :
    Moved (.backfill id generation entries complete stem)
      (s.reconcileHistory store env generation entries (.backfill complete) stem ⟨false, none⟩).1
  | turnRead (generation : Option ℕ) (entries : List NormalizedTimelineEntry) (stem : Option String)
      (scope : LiveSession.TurnScope) (h : ∀ e ∈ entries, e.validate = .ok ()) :
    Moved (.reconcileTurn id generation entries stem scope)
      (s.reconcileHistory store env generation entries (.turn false none) stem scope).1
  | answered (command : AgentCommand) (receipt : CommandReceipt) (hcommand : command.validate = .ok ())
      (hid : command.sessionId = id) (hnew : store.receipt command.commandId = none)
      (h : (s.takeCommand store command env.now env.now (env.disk 0)).2 = .answered receipt) :
    Moved (.submit command) (s.takeCommand store command env.now env.now (env.disk 0)).1
  | delivered (command : AgentCommand) (sender : ℕ) (receipt : CommandReceipt)
      (hcommand : command.validate = .ok ()) (hid : command.sessionId = id)
      (hnew : store.receipt command.commandId = none)
      (h : (s.takeCommand store command env.now env.now (env.disk 0)).2 = .admitted (some sender) receipt) :
    Moved (.submit command) (s.takeCommand store command env.now env.now (env.disk 0)).1
  | undelivered (command : AgentCommand) (sender : Option ℕ) (receipt : CommandReceipt) (reason : String)
      (effect : Effect) (hcommand : command.validate = .ok ()) (hid : command.sessionId = id)
      (hnew : store.receipt command.commandId = none)
      (h : s.takeCommand store command env.now env.now (env.disk 0) = (effect, .admitted sender receipt))
      (hreason : validToken reason = .ok ()) :
    Moved (.submit command)
      { effect.session.landUnknown effect.store command reason env.now (env.disk 1) with
        frames := effect.frames ++
          (effect.session.landUnknown effect.store command reason env.now (env.disk 1)).frames }
  | receipt (commandId state : String) (evidence reasonCode : Option String)
      (h : ¬ Supervisor.receiptRefused commandId state evidence reasonCode)
      (hflight : commandId ∈ s.inFlightCommands) :
    Moved (.recordReceipt id commandId state evidence reasonCode)
      (s.landReceipt store env (s.bridgeReceipt id env.now commandId state evidence reasonCode)).1
  | disconnect (token : String) (h : s.bridgeDisconnectToken = token) :
    Moved (.disconnect id token false) (s.disconnected id store env)
  | observedEnd (h : s.bridgeSender = none) :
    Moved (.endObserved id s.snapshot.processGeneration) (store.quietly (s.observedEnd env.now))
  | adoptedEnd (reason : String) (h : s.snapshot.topology = "adopted") :
    Moved (.endAdopted id s.snapshot.processGeneration reason)
      (store.quietly (s.adoptedEnd env.now reason))
  | route (proof : Option AgentRouteProof) (h : s.adapterActive ∧ s.snapshot.topology ≠ "adopted") :
    Moved (.refreshRoute id proof) (store.quietly (s.installRoute env.now proof (env.ids 0)))
  | routeLost (routeId reason : String) (h : s.routeId = some routeId) :
    Moved (.downgradeRoute routeId id s.snapshot.processGeneration reason)
      (store.quietly ({ s with routeId := none }.downgradeRoute env.now reason))
  | observed (r : NormalizedRegistration) (hr : r.validate = .ok ())
      (hnone : r.capabilities.commands = .none)
      (h : store.mappingForProcess r.upstreamIdentity r.processNonce =
        some (id, s.snapshot.processGeneration, s.snapshot.snapshotEpoch)) :
    Moved (.registerObserver r) ⟨(s.observe env r).1, (s.observe env r).2,
      if (s.observe env r).2 = [] then store
      else (store.updateRevision id (s.observe env r).1.snapshot.revision env.now (env.disk 0)).1⟩
  | fenced (op : Op) (r : NormalizedRegistration) (sender : Option ℕ) (e : String)
      (hop : op.registration = some (r, sender)) (hr : r.validate = .ok ())
      (hmapped : (store.mappingFor r.upstreamIdentity).map (·.sessionId) = some id)
      (h : (LiveSession.supersedeInFlight id env 1 s store s.inFlightCommands).2 = .error e) :
    Moved op (LiveSession.supersedeInFlight id env 1 s store s.inFlightCommands).1
  | unassigned (op : Op) (r : NormalizedRegistration) (sender : Option ℕ) (e : String) (effect : Effect)
      (hop : op.registration = some (r, sender)) (hr : r.validate = .ok ())
      (hmapped : (store.mappingFor r.upstreamIdentity).map (·.sessionId) = some id)
      (h : LiveSession.supersedeInFlight id env 1 s store s.inFlightCommands = (effect, .ok ()))
      (hassign : (effect.store.assign env r (some effect.session.snapshot.revision)).2 = .error e) :
    Moved op ⟨{ effect.session with inFlightCommands := [] }, effect.frames,
      (effect.store.assign env r (some effect.session.snapshot.revision)).1⟩

end

end CiaoHost.Session
