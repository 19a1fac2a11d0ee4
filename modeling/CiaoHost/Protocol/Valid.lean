import CiaoHost.Protocol.Snapshot

/-! What the snapshot check accepts, in two halves: each part of a snapshot on its own, and the
agreement of the parts with each other. -/

namespace CiaoHost.Protocol

open Lib.Checks Lib.Text

namespace TimelineWindow

structure WellFormed (w : TimelineWindow) : Prop where
  count : w.entries.length ≤ maxTimelineEntriesInSnapshot
  boundary : ∀ token ∈ w.historyBoundary, validToken token = .ok ()
  entries : ∀ e ∈ w.entries, e.validate = .ok ()
  oldest : w.oldestSequence = w.entries.head?.map TimelineEntry.sequence
  newest : w.newestSequence = w.entries.getLast?.map TimelineEntry.sequence

lemma endpoints_ok (w : TimelineWindow) :
    ((∀ first, w.entries.head? = some first → ¬ w.oldestSequence ≠ some first.sequence) ∧
      (∀ last, w.entries.getLast? = some last → ¬ w.newestSequence ≠ some last.sequence) ∧
      ¬ (w.entries = [] ∧ (w.oldestSequence.isSome ∨ w.newestSequence.isSome))) ↔
    w.oldestSequence = w.entries.head?.map TimelineEntry.sequence ∧
      w.newestSequence = w.entries.getLast?.map TimelineEntry.sequence := by
  cases hentries : w.entries with
  | nil => simp
  | cons entry rest =>
    have hlast : (entry :: rest).getLast? = some ((entry :: rest).getLast (by simp)) :=
      List.getLast?_eq_getLast_of_ne_nil (by simp)
    simp [hlast]

lemma validate_ok (w : TimelineWindow) :
    w.validate = .ok () ↔ w.WellFormed ∧ w.entries.Pairwise (·.sequence < ·.sequence) := by
  simp only [validate, bind_ok, refuseIf_ok, whenSome_ok, validateEntries_ok, not_lt]
  have hends := w.endpoints_ok
  constructor
  · rintro ⟨hcount, hboundary, ⟨hentries, -, hsorted⟩, hfirst, hlast, hempty⟩
    obtain ⟨hold, hnew⟩ := hends.mp ⟨hfirst, hlast, hempty⟩
    exact ⟨⟨hcount, hboundary, hentries, hold, hnew⟩, hsorted⟩
  · rintro ⟨h, hsorted⟩
    obtain ⟨hfirst, hlast, hempty⟩ := hends.mpr ⟨h.oldest, h.newest⟩
    exact ⟨h.count, h.boundary, ⟨h.entries, by simp, hsorted⟩, hfirst, hlast, hempty⟩

end TimelineWindow

namespace AgentSessionSnapshot

structure WellFormed (s : AgentSessionSnapshot) : Prop where
  version : s.v = agentProtocolVersion
  sessionId : validOpaqueId s.sessionId = .ok ()
  epoch : s.snapshotEpoch ≠ 0
  revision : s.revision ≠ 0
  generation : s.processGeneration ≠ 0
  adapter : s.adapter.validate = .ok ()
  topology : validToken s.topology = .ok ()
  presence : s.presence = "live"
  storedReason : s.storedReason = none
  controlOwner : validToken s.controlOwner = .ok ()
  observation : s.observation.validate = .ok ()
  turn : s.turn.validate = .ok ()
  permissionMode : ∀ mode, s.permissionMode = some mode → validPermissionMode mode
  model : ∀ model, s.model = some model → validModelId model = .ok ()
  effort : ∀ effort, s.effort = some effort → validToken effort = .ok ()
  models : ∀ models, s.models = some models → validateModelCatalogue models = .ok ()
  drift : ∀ drift, s.drift = some drift → drift.validate = .ok ()
  capabilities : s.capabilities.validate = .ok ()
  pendingCount : s.pendingInteractions.length ≤ maxPendingInteractions
  receiptCount : s.latestCommandReceipts.length ≤ maxCommandReceipts
  interactions : ∀ i ∈ s.pendingInteractions, i.validate = .ok ()
  receipts : ∀ r ∈ s.latestCommandReceipts, r.validate = .ok ()
  window : s.timelineWindow.WellFormed
  fallback : s.terminalFallback.validate = .ok ()
  continuity : s.capabilities.terminalContinuity = s.terminalFallback.continuity
  adopted : s.topology = "adopted" → s.capabilities.terminalContinuity = "resumable_session"

structure Coherent (s : AgentSessionSnapshot) : Prop where
  receipts : ∀ r ∈ s.latestCommandReceipts, s.ownsReceipt r
  sorted : s.timelineWindow.entries.Pairwise (·.sequence < ·.sequence)
  awaiting : s.hasUnresolvedBlocking → s.turn.isAwaiting
  managed : s.topology = "managed" → s.capabilities.terminalContinuity = "unavailable"

structure Parts (s : AgentSessionSnapshot) : Prop where
  version : s.v = agentProtocolVersion
  sessionId : validOpaqueId s.sessionId = .ok ()
  epoch : s.snapshotEpoch ≠ 0
  generation : s.processGeneration ≠ 0
  adapter : s.adapter.validate = .ok ()
  topology : validToken s.topology = .ok ()
  presence : validToken s.presence = .ok ()
  controlOwner : validToken s.controlOwner = .ok ()
  observation : s.observation.validate = .ok ()
  turn : s.turn.validate = .ok ()
  permissionMode : ∀ mode, s.permissionMode = some mode → validPermissionMode mode
  model : ∀ model, s.model = some model → validModelId model = .ok ()
  effort : ∀ effort, s.effort = some effort → validToken effort = .ok ()
  models : ∀ models, s.models = some models → validateModelCatalogue models = .ok ()
  drift : ∀ drift, s.drift = some drift → drift.validate = .ok ()
  capabilities : s.capabilities.validate = .ok ()
  pendingCount : s.pendingInteractions.length ≤ maxPendingInteractions
  receiptCount : s.latestCommandReceipts.length ≤ maxCommandReceipts
  interactions : ∀ i ∈ s.pendingInteractions, i.validate = .ok ()
  receipts : ∀ r ∈ s.latestCommandReceipts, r.validate = .ok () ∧ s.ownsReceipt r
  window : s.timelineWindow.WellFormed
  fallback : s.terminalFallback.validate = .ok ()

def RowsInOrder (s : AgentSessionSnapshot) : Prop :=
  s.timelineWindow.entries.Pairwise (·.sequence < ·.sequence)

def Dormant (s : AgentSessionSnapshot) : Prop :=
  s.presence = "stored" → s.pendingInteractions = [] ∧ s.turn.isMidTurn = false ∧
    s.capabilities.commands = .none ∧ s.capabilities.interactions = .none

structure Placed (s : AgentSessionSnapshot) : Prop where
  reason : ∀ reason, s.storedReason = some reason → validToken reason = .ok () ∧ s.presence = "stored"
  stored : s.presence = "stored" → s.topology = "managed"
  adopted : s.topology = "adopted" → s.presence = "live"

structure Routed (s : AgentSessionSnapshot) : Prop where
  managed : s.topology = "managed" → s.terminalFallback.continuity ≠ "unavailable" →
    s.presence = "stored" ∧ s.storedReason = some "released" ∧
      s.terminalFallback.continuity = "resumable_session"
  adopted : s.topology = "adopted" → s.terminalFallback.continuity = "resumable_session"

variable {s : AgentSessionSnapshot}

lemma validate_ok_iff : s.validate = .ok () ↔ s.Parts ∧ s.revision ≠ 0 ∧ s.RowsInOrder ∧
    s.capabilities.terminalContinuity = s.terminalFallback.continuity ∧
    (s.hasUnresolvedBlocking → s.turn.isAwaiting) ∧ s.Dormant ∧ s.Placed ∧ s.Routed := by
  simp only [validate, validateTopologyPresence, bind_ok, refuseIf_ok, whenSome_ok, each_ok,
    TimelineWindow.validate_ok, requireVersion, ne_eq, not_or, not_and, not_not, not_lt,
    Bool.not_eq_true, Bool.not_eq_false, Classical.not_imp]
  constructor
  · rintro ⟨hv, hid, ⟨hepoch, hrev, hgen⟩, hadapter, htop, hpres, howner, hobs, hturn, hmode, hmodel, heffort,
      hmodels, hdrift, hcaps, ⟨hpending, hkept⟩, hints, hrecs, ⟨hwindow, hsorted⟩, hfallback, ⟨hcont, hawaiting⟩,
      ⟨hreason, hstored, hmanaged, hadopted⟩, hempty⟩
    rw [hcont] at hmanaged hadopted
    exact ⟨⟨hv, hid, hepoch, hgen, hadapter, htop, hpres, howner, hobs, hturn, hmode, hmodel, heffort, hmodels,
        hdrift, hcaps, hpending, hkept, hints, hrecs, hwindow, hfallback⟩, hrev, hsorted, hcont, hawaiting,
      fun hp => ⟨hempty hp, (hstored hp).2⟩, ⟨hreason, fun hp => (hstored hp).1, fun ha => (hadopted ha).1⟩,
      hmanaged, fun ha => (hadopted ha).2⟩
  · rintro ⟨h, hrev, hsorted, hcont, hawaiting, hdormant, hplaced, hrouted⟩
    rw [hcont]
    exact ⟨h.version, h.sessionId, ⟨h.epoch, hrev, h.generation⟩, h.adapter, h.topology, h.presence,
      h.controlOwner, h.observation, h.turn, h.permissionMode, h.model, h.effort, h.models, h.drift,
      h.capabilities, ⟨h.pendingCount, h.receiptCount⟩, h.interactions, h.receipts, ⟨h.window, hsorted⟩,
      h.fallback, ⟨rfl, hawaiting⟩, ⟨hplaced.reason, fun hp => ⟨hplaced.stored hp, (hdormant hp).2⟩,
        hrouted.managed, fun ha => ⟨hplaced.adopted ha, hrouted.adopted ha⟩⟩, fun hp => (hdormant hp).1⟩

lemma WellFormed.parts (h : s.WellFormed) (howned : ∀ r ∈ s.latestCommandReceipts, s.ownsReceipt r) : s.Parts :=
  { h with
    presence := by rw [h.presence]; decide
    receipts := fun r hr => ⟨h.receipts r hr, howned r hr⟩ }

theorem WellFormed.validate_ok (h : s.WellFormed) : s.validate = .ok () ↔ s.Coherent := by
  have hlive : s.presence ≠ "stored" := by
    rw [h.presence]
    decide
  rw [validate_ok_iff]
  constructor
  · rintro ⟨hparts, -, hsorted, -, hawaiting, -, -, hrouted⟩
    refine ⟨fun r hr => (hparts.receipts r hr).2, hsorted, hawaiting, fun hm => ?_⟩
    rw [h.continuity]
    by_contra hne
    exact hlive (hrouted.managed hm hne).1
  · intro hc
    refine ⟨h.parts hc.receipts, h.revision, hc.sorted, h.continuity, hc.awaiting, fun hp => absurd hp hlive,
      ⟨by simp [h.storedReason], fun hp => absurd hp hlive, fun _ => h.presence⟩, fun hm hne => ?_, fun ha => ?_⟩
    · exact absurd (h.continuity.symm.trans (hc.managed hm)) hne
    · exact h.continuity.symm.trans (h.adopted ha)

end AgentSessionSnapshot

end CiaoHost.Protocol
