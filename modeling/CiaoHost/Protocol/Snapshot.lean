import CiaoHost.Protocol.Interaction
import CiaoHost.Protocol.Timeline

/-! The snapshot of a session and the cross-field predicate a phone checks it with. -/

namespace CiaoHost.Protocol

open Lib.Checks Lib.Text

structure DriftNote where
  state : String
  vendorVersion : String
  tested : String
  gaps : ℕ
  fix : Option String
  deriving DecidableEq, Repr

def DriftNote.validate (d : DriftNote) : Checked := do
  refuseIf .invalidValue (d.state ∉ ["ahead", "carried", "unsupported"])
  refuseIf .invalidValue (d.state = "unsupported" ∧ d.fix = none)
  validToken d.vendorVersion
  validToken d.tested
  refuseIf .invalidValue (4096 < d.gaps)
  whenSome validToken d.fix

structure AgentAdapterMetadata where
  family : String
  version : String
  compatibility : String
  deriving DecidableEq, Repr

def AgentAdapterMetadata.validate (a : AgentAdapterMetadata) : Checked := do
  validToken a.family
  validToken a.version
  validToken a.compatibility

structure AgentSessionSnapshot where
  v : ℕ
  sessionId : String
  snapshotEpoch : ℕ
  revision : ℕ
  processGeneration : ℕ
  adapter : AgentAdapterMetadata
  topology : String
  presence : String
  storedReason : Option String
  controlOwner : String
  observation : Observation
  turn : TurnState
  permissionMode : Option String
  model : Option String
  effort : Option String
  models : Option (List AgentModelOption)
  drift : Option DriftNote
  capabilities : AgentCapabilities
  pendingInteractions : List PendingInteraction
  timelineWindow : TimelineWindow
  terminalFallback : TerminalFallback
  latestCommandReceipts : List CommandReceipt
  deriving DecidableEq, Repr

namespace AgentSessionSnapshot

def hasUnresolvedBlocking (s : AgentSessionSnapshot) : Bool :=
  s.pendingInteractions.any PendingInteraction.isUnresolvedBlocking

def ownsReceipt (s : AgentSessionSnapshot) (r : CommandReceipt) : Prop :=
  r.sessionId = s.sessionId ∧ r.processGeneration = s.processGeneration ∧
    r.snapshotEpoch = s.snapshotEpoch

instance (s : AgentSessionSnapshot) (r : CommandReceipt) : Decidable (s.ownsReceipt r) := by
  unfold ownsReceipt
  infer_instance

def validate (s : AgentSessionSnapshot) : Checked := do
  requireVersion s.v
  validOpaqueId s.sessionId
  refuseIf .invalidValue (s.snapshotEpoch = 0 ∨ s.revision = 0 ∨ s.processGeneration = 0)
  s.adapter.validate
  validToken s.topology
  validToken s.presence
  validToken s.controlOwner
  s.observation.validate
  s.turn.validate
  whenSome (fun mode => refuseIf .invalidValue (¬ validPermissionMode mode)) s.permissionMode
  whenSome validModelId s.model
  whenSome validToken s.effort
  whenSome validateModelCatalogue s.models
  whenSome DriftNote.validate s.drift
  s.capabilities.validate
  refuseIf .invalidValue (maxPendingInteractions < s.pendingInteractions.length ∨
    maxCommandReceipts < s.latestCommandReceipts.length)
  each PendingInteraction.validate s.pendingInteractions
  each (fun receipt => do
    receipt.validate
    refuseIf .invalidValue (¬ s.ownsReceipt receipt)) s.latestCommandReceipts
  s.timelineWindow.validate
  s.terminalFallback.validate
  refuseIf .invalidValue (s.capabilities.terminalContinuity ≠ s.terminalFallback.continuity ∨
    (s.hasUnresolvedBlocking ∧ ¬ s.turn.isAwaiting))
  validateTopologyPresence s.topology s.presence s.storedReason s.turn s.capabilities
  refuseIf .invalidValue (s.presence = "stored" ∧ s.pendingInteractions ≠ [])

end AgentSessionSnapshot

end CiaoHost.Protocol
