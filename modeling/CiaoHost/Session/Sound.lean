import CiaoHost.Session.SoundStore
import CiaoHost.Session.Moves

/-! Each part of a session is well formed after every operation. Nothing is asked of the order of
operations; what the parts say about each other is another matter. -/

namespace CiaoHost.Session

open Protocol Lib Lib.Checks Lib.Text Lib.Saturating Lib.KeyedList

namespace LiveSession

structure Sound (id : String) (s : LiveSession) : Prop where
  snapshot : s.snapshot.WellFormed
  key : s.snapshot.sessionId = id
  openRun : ∀ turn, s.openRun = some turn → turn.validate = .ok ()
  inFlight : ∀ commandId ∈ s.inFlightCommands, validOpaqueId commandId = .ok ()
  timeline : s.toTimeline.Sound

variable {id : String} {s : LiveSession}

variable {snapshot : AgentSessionSnapshot} {change : AgentSessionSnapshot → AgentSessionSnapshot}
  {i : PendingInteraction} {receipts : List CommandReceipt} {receipt : CommandReceipt} {effect : Effect}
  {command : AgentCommand} {reason : String}

lemma Sound.withSnapshot (h : s.Sound id) (hform : snapshot.WellFormed)
    (hid : snapshot.sessionId = s.snapshot.sessionId) : { s with snapshot := snapshot }.Sound id :=
  { h with snapshot := hform, key := hid.trans h.key }

lemma Sound.withOpenRun (h : s.Sound id) {openRun : Option TurnState}
    (hrun : ∀ turn, openRun = some turn → turn.validate = .ok ()) : { s with openRun := openRun }.Sound id :=
  { h with openRun := hrun }

lemma Sound.bumped (h : s.Sound id) : { s.snapshot with revision := bump s.snapshot.revision }.WellFormed :=
  { h.snapshot with revision := (bump_pos _).ne' }

lemma Sound.bumpRevision (h : s.Sound id) (now : ℕ) : (s.bumpRevision now).Sound id :=
  { h with snapshot := h.bumped, key := h.key }

variable {now : ℕ}

lemma Sound.publishChange (h : s.Sound id) {changes : AgentSessionSnapshot → List AgentDeltaChange}
    (hform : ∀ snapshot : AgentSessionSnapshot, snapshot.WellFormed →
      snapshot.topology = s.snapshot.topology → (change snapshot).WellFormed)
    (hid : ∀ snapshot, (change snapshot).sessionId = snapshot.sessionId) :
    (s.publishChange now change changes).1.Sound id :=
  (h.bumpRevision now).withSnapshot (hform _ h.bumped rfl) (hid _)

lemma Sound.report {α : Type} [DecidableEq α] (h : s.Sound id) {current : Option α} {value : α}
    {published : AgentDeltaChange}
    (hform : ∀ snapshot : AgentSessionSnapshot, snapshot.WellFormed → (change snapshot).WellFormed)
    (hid : ∀ snapshot, (change snapshot).sessionId = snapshot.sessionId) :
    (s.report now current value change published).1.Sound id := by
  unfold LiveSession.report
  split
  · exact h
  · exact h.publishChange (fun snapshot hs _ => hform snapshot hs) hid

lemma Sound.updatePermissionMode (h : s.Sound id) {mode : String} (hmode : validPermissionMode mode) :
    (s.updatePermissionMode now mode).1.Sound id :=
  h.report (fun _ hs => { hs with permissionMode := fun _ heq => Option.some.inj heq ▸ hmode })
    fun _ => rfl

lemma Sound.updateModel (h : s.Sound id) {model : String} (hmodel : validModelId model = .ok ()) :
    (s.updateModel now model).1.Sound id :=
  h.report (fun _ hs => { hs with model := fun _ heq => Option.some.inj heq ▸ hmodel })
    fun _ => rfl

lemma Sound.updateEffort (h : s.Sound id) {effort : String} (heffort : validToken effort = .ok ()) :
    (s.updateEffort now effort).1.Sound id :=
  h.report (fun _ hs => { hs with effort := fun _ heq => Option.some.inj heq ▸ heffort })
    fun _ => rfl

lemma Sound.updateModelCatalogue (h : s.Sound id) {models : List AgentModelOption}
    (hmodels : validateModelCatalogue models = .ok ()) : (s.updateModelCatalogue now models).1.Sound id :=
  h.report (fun _ hs => { hs with models := fun _ heq => Option.some.inj heq ▸ hmodels })
    fun _ => rfl

lemma setCommands_wellFormed (h : snapshot.WellFormed)
    (commands : CommandCapabilities) : (setCommands commands snapshot).WellFormed :=
  { h with
    capabilities := by simpa [setCommands, AgentCapabilities.validate] using h.capabilities
    continuity := h.continuity }

lemma Sound.updateCommands (h : s.Sound id) (commands : CommandCapabilities) :
    (s.updateCommands now commands).1.Sound id := by
  have hs : { s with offeredCommands := commands }.Sound id := { h with }
  unfold LiveSession.updateCommands
  dsimp only
  split
  · exact hs
  · exact hs.publishChange (fun _ hsnap _ => setCommands_wellFormed hsnap _) fun _ => rfl

variable {turn : TurnState}

section

variable (h : s.Sound id)

include h

lemma Sound.publishTurn (hturn : turn.validate = .ok ()) : (s.publishTurn now turn).1.Sound id :=
  h.publishChange (fun _ hs _ => { hs with turn := hturn }) fun _ => rfl

lemma Sound.noteTurn (hturn : turn.validate = .ok ()) : (s.noteTurn now turn).1.Sound id := by
  have hs : { s with openRun := if NormalizedRegistration.isWorking turn then some turn else none }.Sound id :=
    h.withOpenRun fun turn' heq => by
      split at heq
      · exact Option.some.inj heq ▸ hturn
      · cases heq
  unfold LiveSession.noteTurn
  dsimp only
  split
  · exact hs
  · exact hs.publishTurn hturn

lemma Sound.latchAttention : (s.latchAttention now).1.Sound id := by
  unfold LiveSession.latchAttention
  split
  · exact h
  · exact h.publishTurn (by decide)

lemma Sound.idleReport : (s.idleReport now).1.Sound id := by
  unfold LiveSession.idleReport
  split
  · exact (h.withOpenRun (by simp)).publishTurn (by decide)
  · exact h

lemma Sound.expireTurnClaim : (s.expireTurnClaim now).1.Sound id := by
  unfold LiveSession.expireTurnClaim
  split
  · exact h
  · exact (h.withOpenRun (by simp)).publishTurn (by decide)

lemma Sound.publishInteraction
    {pending : List PendingInteraction} (hcount : pending.length ≤ maxPendingInteractions)
    (hpending : ∀ i ∈ pending, i.validate = .ok ()) : (s.publishInteraction now i pending).1.Sound id :=
  h.publishChange
    (fun _ hs _ => { hs with turn := rfl, pendingCount := hcount, interactions := hpending })
    fun _ => rfl

lemma Sound.upsertInteraction (hi : i.validate = .ok ()) :
    (s.upsertInteraction now i).1.1.Sound id := by
  unfold LiveSession.upsertInteraction
  dsimp only
  split
  · split
    · exact h
    · refine h.publishInteraction (by simpa using h.snapshot.pendingCount) fun i' hi' => ?_
      rcases mem_of_mem_replaceFirst hi' with rfl | hi'
      · exact hi
      · exact h.snapshot.interactions i' hi'
  · split
    · exact h
    · refine h.publishInteraction ?_ fun i' hi' => ?_
      · simp only [List.length_append, List.length_singleton]
        omega
      · rcases List.mem_append.mp hi' with hi' | hi'
        · exact h.snapshot.interactions i' hi'
        · exact List.mem_singleton.mp hi' ▸ hi

lemma Sound.turnAfterResolution (pending : List PendingInteraction) :
    (s.turnAfterResolution pending).validate = .ok () := by
  unfold LiveSession.turnAfterResolution
  split
  · decide
  · cases hrun : s.openRun with
    | none => decide
    | some turn => exact h.openRun turn hrun

lemma Sound.resolveInteraction (interactionId resolution : String) :
    (s.resolveInteraction now interactionId resolution).1.Sound id := by
  unfold LiveSession.resolveInteraction
  dsimp only
  split
  · exact h.publishChange (fun snapshot hs _ => { hs with
      turn := h.turnAfterResolution _
      pendingCount := (List.length_filter_le _ _).trans h.snapshot.pendingCount
      interactions := fun i hi => h.snapshot.interactions i (List.mem_filter.mp hi).1 }) fun _ => rfl
  · exact h

end

lemma length_boundReceipts (h : receipts.length ≤ maxCommandReceipts + 1) :
    (AgentSessionSnapshot.boundReceipts receipts).length ≤ maxCommandReceipts := by
  unfold AgentSessionSnapshot.boundReceipts
  split
  · rw [List.length_tail]
    omega
  · omega

lemma mem_boundReceipts {r : CommandReceipt}
    (h : r ∈ AgentSessionSnapshot.boundReceipts receipts) : r ∈ receipts := by
  unfold AgentSessionSnapshot.boundReceipts at h
  split at h
  · exact List.mem_of_mem_tail h
  · exact h

lemma mem_receiptsWith {r : CommandReceipt} (h : r ∈ receiptsWith receipts receipt) : r = receipt ∨ r ∈ receipts := by
  unfold receiptsWith at h
  split at h
  · exact mem_of_mem_replaceFirst h
  · rcases List.mem_append.mp (mem_boundReceipts h) with h | h
    · exact .inr h
    · exact .inl (List.mem_singleton.mp h)

lemma length_receiptsWith (receipt : CommandReceipt)
    (h : receipts.length ≤ maxCommandReceipts) : (receiptsWith receipts receipt).length ≤ maxCommandReceipts := by
  unfold receiptsWith
  split
  · simpa using h
  · refine length_boundReceipts ?_
    simpa using h

lemma Sound.publishReceipt (h : s.Sound id) (hr : receipt.validate = .ok ()) :
    (s.publishReceipt now receipt).1.Sound id := by
  have hform : ∀ snapshot : AgentSessionSnapshot, snapshot.WellFormed → { snapshot with
      latestCommandReceipts := receiptsWith snapshot.latestCommandReceipts receipt }.WellFormed := by
    intro snapshot hs
    refine { hs with
      receiptCount := length_receiptsWith receipt hs.receiptCount
      receipts := fun r hmem => ?_ }
    rcases mem_receiptsWith hmem with rfl | hmem
    · exact hr
    · exact hs.receipts r hmem
  exact (h.bumpRevision now).withSnapshot (hform _ h.bumped) rfl

lemma Issued.sound {kind : LiveSession → CommandReceipt → Prop} {store : MetadataStore}
    (h : Issued now kind s store effect) (hs : s.Sound id) (hstore : store.Sound)
    (hkind : ∀ s r, s.Sound id → kind s r → r.validate = .ok ()) : effect.session.Sound id ∧ effect.store.Sound :=
  h.keeps (P := fun s store => s.Sound id ∧ store.Sound)
    (fun s _ r _ hk hp => ⟨hp.1, hp.2.upsertReceipt (hkind s r hp.1 hk)⟩)
    (fun s _ r hk hp => ⟨hp.1.publishReceipt (hkind s r hp.1 hk), hp.2⟩) ⟨hs, hstore⟩

lemma rejectedReceipt_valid (hc : command.validate = .ok ()) (hnow : now ≠ 0)
    {state : String} (hstate : validToken state = .ok ()) (happlied : state ≠ "applied")
    (hreason : validToken reason = .ok ()) : (rejectedReceipt command state reason now).validate = .ok () := by
  simp only [AgentCommand.validate, bind_ok, refuseIf_ok, not_or] at hc
  obtain ⟨-, hid, hsession, ⟨hepoch, hgen⟩, -⟩ := hc
  exact (CommandReceipt.validate_ok _).mpr ⟨hid, hsession, hstate, ⟨hgen, hepoch, hnow⟩,
    fun _ heq => Option.some.inj heq ▸ hreason, by simp [rejectedReceipt], fun h => absurd h happlied⟩

lemma sendingReceipt_valid (hc : command.validate = .ok ()) (hnow : now ≠ 0) :
    (sendingReceipt command now).validate = .ok () := by
  have hstate : validToken "sending" = .ok () := by decide
  have hr := rejectedReceipt_valid hc hnow hstate (by decide) hstate
  rw [CommandReceipt.validate_ok] at hr ⊢
  exact ⟨hr.1, hr.2.1, hr.2.2.1, hr.2.2.2.1, by simp [sendingReceipt], hr.2.2.2.2.2⟩

lemma Sound.ambiguousReceipt_valid (h : s.Sound id) (hnow : now ≠ 0) {commandId : String}
    (hid : validOpaqueId commandId = .ok ()) (hreason : validToken reason = .ok ()) :
    (s.ambiguousReceipt id now reason commandId).validate = .ok () := by
  have hsession : validOpaqueId id = .ok () := h.key ▸ h.snapshot.sessionId
  have hstate : validToken "outcome_unknown" = .ok () := by decide
  exact (CommandReceipt.validate_ok _).mpr ⟨hid, hsession, hstate,
    ⟨h.snapshot.generation, h.snapshot.epoch, hnow⟩, fun _ heq => Option.some.inj heq ▸ hreason,
    by simp [ambiguousReceipt], by simp [ambiguousReceipt]⟩

lemma admissionReceipt_valid (hc : command.validate = .ok ()) (hnow : now ≠ 0) :
    (s.admissionReceipt command now).validate = .ok () := by
  rw [admissionReceipt]
  split
  · exact rejectedReceipt_valid hc hnow (by decide) (by decide) (by decide)
  · split
    · exact rejectedReceipt_valid hc hnow (by decide) (by decide) (by decide)
    · exact sendingReceipt_valid hc hnow

section

variable {store : MetadataStore} (h : s.Sound id) (hstore : store.Sound)

include h hstore

lemma Sound.takeCommand (hc : command.validate = .ok ()) (hnow : now ≠ 0) (clock : ℕ)
    (disk : Except String Unit) : (s.takeCommand store command now clock disk).1.session.Sound id ∧
      (s.takeCommand store command now clock disk).1.store.Sound := by
  obtain ⟨effect, flight, hissued, heq, hflight⟩ := s.takeCommand_issued store now disk command clock
  obtain ⟨hs, hstore⟩ := hissued.sound h hstore fun _ r _ hr => hr ▸ admissionReceipt_valid hc hnow
  rw [heq]
  refine ⟨{ hs with inFlight := fun c hmem => ?_ }, hstore⟩
  rcases hflight with rfl | ⟨rfl, -⟩
  · exact h.inFlight c hmem
  · rcases List.mem_insert_iff.mp hmem with rfl | hmem
    · simp only [AgentCommand.validate, bind_ok] at hc
      exact hc.2.1
    · exact h.inFlight c hmem

lemma Sound.landUnknown (hc : command.validate = .ok ())
    (hreason : validToken reason = .ok ()) (hnow : now ≠ 0) {disk : Except String Unit} :
    (s.landUnknown store command reason now disk).session.Sound id ∧
      (s.landUnknown store command reason now disk).store.Sound := by
  have hs : { s with inFlightCommands := s.inFlightCommands.erase command.commandId }.Sound id :=
    { h with inFlight := fun c hmem => h.inFlight c (List.mem_of_mem_erase hmem) }
  exact (persistOrPublishReceipt_issued ..).sound hs hstore fun _ r _ hr =>
    hr ▸ rejectedReceipt_valid hc hnow (by decide) (by decide) hreason

lemma Sound.landReceipt {env : Env} (hr : receipt.validate = .ok ()) :
    (s.landReceipt store env receipt).1.session.Sound id ∧ (s.landReceipt store env receipt).1.store.Sound := by
  obtain ⟨effect, flight, hissued, heq, hflight⟩ := s.landReceipt_issued store receipt env
  obtain ⟨hs, hstore⟩ := hissued.sound h hstore fun _ r _ heq => heq ▸ hr
  rw [heq]
  refine ⟨{ hs with inFlight := fun c hmem => h.inFlight c ?_ }, hstore⟩
  rcases hflight with ⟨rfl, -⟩ | ⟨rfl, -⟩
  · exact hmem
  · exact List.mem_of_mem_erase hmem

end

lemma Sound.bridgeReceipt_valid (h : s.Sound id) (hnow : now ≠ 0) {commandId state : String}
    {evidence reasonCode : Option String} (hr : ¬ Supervisor.receiptRefused commandId state evidence reasonCode) :
    (s.bridgeReceipt id now commandId state evidence reasonCode).validate = .ok () := by
  have hsession : validOpaqueId id = .ok () := h.key ▸ h.snapshot.sessionId
  simp only [Supervisor.receiptRefused, not_or, not_not, not_exists, not_and] at hr
  obtain ⟨hid, hstate, hevidence, hreason, -, happlied⟩ := hr
  exact (CommandReceipt.validate_ok _).mpr ⟨hid, hsession, hstate,
    ⟨h.snapshot.generation, h.snapshot.epoch, hnow⟩, hreason, hevidence, happlied⟩

lemma Issued.sound_ambiguous {env : Env} {commands : List String} {store : MetadataStore}
    (hissued : Issued env.now (Ambiguous id env.now reason commands) s store effect) (h : s.Sound id)
    (hstore : store.Sound) (hnow : env.now ≠ 0) (hreason : validToken reason = .ok ())
    (hcommands : ∀ c ∈ commands, validOpaqueId c = .ok ()) : effect.session.Sound id ∧ effect.store.Sound := by
  apply hissued.sound h hstore
  rintro s r hs ⟨c, hc, rfl⟩
  exact hs.ambiguousReceipt_valid hnow (hcommands c hc) hreason

end LiveSession

end CiaoHost.Session
