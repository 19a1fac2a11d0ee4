import CiaoHost.Protocol.Snapshot
import CiaoHost.Lib.KeyedList

/-! Deltas and the canonical reducer that applies them to a copy of a snapshot. -/

namespace CiaoHost.Protocol

open Lib.Checks Lib.KeyedList

inductive AgentDeltaChange where
  | upsertEntry (entry : TimelineEntry)
  | observation (observation : Observation)
  | turn (turn : TurnState)
  | capabilities (capabilities : AgentCapabilities)
  | permissionMode (permissionMode : String)
  | model (model : String)
  | effort (effort : String)
  | modelCatalogue (models : List AgentModelOption)
  | terminalFallback (terminalFallback : TerminalFallback)
  | upsertInteraction (interaction : PendingInteraction)
  | removeInteraction (interactionId resolution : String)
  | commandReceipt (receipt : CommandReceipt)
  | unknown
  deriving DecidableEq, Repr

def AgentDeltaChange.validate : AgentDeltaChange → Checked
  | .upsertEntry entry => entry.validate
  | .observation reported => reported.validate
  | .turn reported => reported.validate
  | .capabilities offered => offered.validate
  | .permissionMode mode => refuseIf .invalidValue (¬ validPermissionMode mode)
  | .model value => validModelId value
  | .effort level => validToken level
  | .modelCatalogue models => validateModelCatalogue models
  | .terminalFallback fallback => fallback.validate
  | .upsertInteraction interaction => interaction.validate
  | .removeInteraction interactionId resolution => do
    validOpaqueId interactionId
    validToken resolution
  | .commandReceipt receipt => receipt.validate
  | .unknown => .ok ()

structure AgentSessionDelta where
  v : ℕ
  sessionId : String
  snapshotEpoch : ℕ
  processGeneration : ℕ
  baseRevision : ℕ
  revision : ℕ
  changes : List AgentDeltaChange
  deriving DecidableEq, Repr

def AgentSessionDelta.validate (d : AgentSessionDelta) : Checked := do
  requireVersion d.v
  validOpaqueId d.sessionId
  refuseIf .invalidValue (d.snapshotEpoch = 0 ∨ d.processGeneration = 0 ∨ d.baseRevision = 0 ∨
    d.revision ≤ d.baseRevision ∨ d.changes = [] ∨ 64 < d.changes.length)
  each AgentDeltaChange.validate d.changes

inductive ReduceOutcome where
  | applied
  | duplicate
  | stale
  | resyncRequired (reason : String)
  deriving DecidableEq, Repr

namespace TimelineWindow

def upsertEntry (w : TimelineWindow) (entry : TimelineEntry) : TimelineWindow :=
  let upserted := match w.entries.find? (·.entryId = entry.entryId) with
    | some existing =>
      if existing.entryRevision < entry.entryRevision then
        { w with entries := replaceFirst TimelineEntry.entryId entry w.entries }
      else w
    | none =>
      let entries := sortByKey TimelineEntry.sequence (w.entries ++ [entry])
      if maxTimelineEntriesInSnapshot < entries.length then
        { w with entries := entries.tail, hasOlder := true, truncated := true }
      else { w with entries := entries }
  { upserted with
    oldestSequence := upserted.entries.head?.map TimelineEntry.sequence
    newestSequence := upserted.entries.getLast?.map TimelineEntry.sequence }

end TimelineWindow

namespace AgentSessionSnapshot

def upsertInteraction (s : AgentSessionSnapshot) (interaction : PendingInteraction) :
    AgentSessionSnapshot × Checked :=
  match s.pendingInteractions.find? (·.interactionId = interaction.interactionId) with
  | some existing =>
    if existing.interactionRevision < interaction.interactionRevision then
      ({ s with pendingInteractions :=
          replaceFirst PendingInteraction.interactionId interaction s.pendingInteractions }, .ok ())
    else (s, .ok ())
  | none =>
    if maxPendingInteractions ≤ s.pendingInteractions.length then (s, .error .invalidValue)
    else ({ s with pendingInteractions := s.pendingInteractions ++ [interaction] }, .ok ())

def boundReceipts (receipts : List CommandReceipt) : List CommandReceipt :=
  if maxCommandReceipts < receipts.length then receipts.tail else receipts

def upsertReceipt (s : AgentSessionSnapshot) (receipt : CommandReceipt) :
    AgentSessionSnapshot × Checked :=
  if ¬ s.ownsReceipt receipt then (s, .ok ())
  else match s.latestCommandReceipts.find? (·.commandId = receipt.commandId) with
    | some existing =>
      -- Ambiguous delivery cannot become applied without explicit adapter evidence.
      if existing.state = "outcome_unknown" ∧ receipt.state = "applied" ∧
          receipt.applicationEvidence = none then (s, .error .invalidValue)
      else if existing.updatedAt ≤ receipt.updatedAt then
        ({ s with latestCommandReceipts :=
            replaceFirst CommandReceipt.commandId receipt s.latestCommandReceipts }, .ok ())
      else (s, .ok ())
    | none =>
      ({ s with latestCommandReceipts := boundReceipts (s.latestCommandReceipts ++ [receipt]) }, .ok ())

def enforceReducerInvariants (s : AgentSessionSnapshot) : AgentSessionSnapshot × Checked :=
  let s := if s.hasUnresolvedBlocking then { s with turn := .awaitingInteraction none } else s
  let s := { s with capabilities :=
    { s.capabilities with terminalContinuity := s.terminalFallback.continuity } }
  (s, refuseIf .invalidValue (s.topology = "managed" ∧ s.terminalFallback.continuity ≠ "unavailable"))

def applyProof (s : AgentSessionSnapshot) : AgentDeltaChange → AgentSessionSnapshot
  | .terminalFallback fallback =>
    { s with
      terminalFallback := fallback
      capabilities := { s.capabilities with terminalContinuity := fallback.continuity } }
  | .capabilities offered => { s with capabilities := offered }
  | _ => s

def applyChange (s : AgentSessionSnapshot) : AgentDeltaChange → AgentSessionSnapshot × Checked
  | .upsertEntry entry => ({ s with timelineWindow := s.timelineWindow.upsertEntry entry }, .ok ())
  | .observation reported => ({ s with observation := reported }, .ok ())
  | .turn reported => ({ s with turn := reported }, .ok ())
  | .permissionMode mode => ({ s with permissionMode := some mode }, .ok ())
  | .model value => ({ s with model := some value }, .ok ())
  | .effort level => ({ s with effort := some level }, .ok ())
  | .modelCatalogue models => ({ s with models := some models }, .ok ())
  | .upsertInteraction interaction => s.upsertInteraction interaction
  | .removeInteraction interactionId _ =>
    ({ s with pendingInteractions :=
        s.pendingInteractions.filter (·.interactionId ≠ interactionId) }, .ok ())
  | .commandReceipt receipt => s.upsertReceipt receipt
  | .unknown => ({ s with turn := .unknown "unsupported_delta" }, .ok ())
  | .capabilities _ | .terminalFallback _ => (s, .ok ())

def applyChanges (s : AgentSessionSnapshot) : List AgentDeltaChange → AgentSessionSnapshot × Checked
  | [] => (s, .ok ())
  | change :: rest =>
    match s.applyChange change with
    | (s', .ok ()) => s'.applyChanges rest
    | (s', .error e) => (s', .error e)

end AgentSessionSnapshot

def applyDelta (s : AgentSessionSnapshot) (d : AgentSessionDelta) :
    AgentSessionSnapshot × Except AgentProtocolError ReduceOutcome :=
  match d.validate with
  | .error e => (s, .error e)
  | .ok () =>
    if d.sessionId ≠ s.sessionId ∨ d.snapshotEpoch ≠ s.snapshotEpoch ∨
        d.processGeneration ≠ s.processGeneration then (s, .ok (.resyncRequired "identity_fence"))
    else if d.revision ≤ s.revision then
      (s, .ok (if d.revision = s.revision then .duplicate else .stale))
    else if d.baseRevision ≠ s.revision ∨ d.revision ≠ s.revision + 1 then
      (s, .ok (.resyncRequired "revision_gap"))
    else match (d.changes.foldl AgentSessionSnapshot.applyProof s).applyChanges d.changes with
      | (s', .error e) => (s', .error e)
      | (s', .ok ()) =>
        match { s' with revision := d.revision }.enforceReducerInvariants with
        | (s'', .error e) => (s'', .error e)
        | (s'', .ok ()) => (s'', .ok .applied)

end CiaoHost.Protocol
