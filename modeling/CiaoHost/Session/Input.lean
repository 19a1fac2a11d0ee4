import CiaoHost.Protocol.Snapshot

/-! What an adapter hands the supervisor, and the checks it passes first (agent_session.rs). -/

namespace CiaoHost.Session

open Protocol Lib.Checks Lib.Text

def maxUpstreamSourceIdBytes : ℕ := 128

def validSourceId : String → Checked :=
  validWord maxUpstreamSourceIdBytes fun c => c.isAlphanum || c ∈ ['.', '_', '-', ':']

structure TerminalBinding where
  tuiPid : ℕ
  tuiIdentity : String
  serverPid : ℕ
  serverIdentity : String
  generation : ℕ
  threadId : String
  statusDirectory : String
  deriving DecidableEq, Repr

structure NormalizedRegistration where
  historyBoundary : Option String
  upstreamIdentity : String
  processNonce : String
  processId : ℕ
  terminalBinding : Option TerminalBinding
  adapterFamily : String
  adapterVersion : String
  topology : String
  compatible : Bool
  versionState : String
  testedVersion : String
  workspaceDisplay : String
  observation : Observation
  turn : TurnState
  capabilities : AgentCapabilities
  controlOwner : String
  deriving DecidableEq, Repr

namespace NormalizedRegistration

def bindingRefused (r : NormalizedRegistration) (binding : TerminalBinding) : Prop :=
  r.adapterFamily ≠ "Codex" ∨ ¬ r.compatible ∨ r.topology ≠ "attached" ∨
    binding.tuiPid ≠ r.processId ∨ binding.threadId ≠ r.upstreamIdentity ∨
    r.capabilities.commands ≠ .none

instance (r : NormalizedRegistration) (binding : TerminalBinding) :
    Decidable (r.bindingRefused binding) :=
  inferInstanceAs (Decidable (_ ∨ _))

def isWorking : TurnState → Bool
  | .running .. => true
  | _ => false

def validate (r : NormalizedRegistration) : Checked := do
  validSourceId r.upstreamIdentity
  validOpaqueId r.processNonce
  validToken r.adapterFamily
  validToken r.adapterVersion
  validToken r.controlOwner
  r.observation.validate
  r.turn.validate
  r.capabilities.validate
  validToken r.testedVersion
  refuseIf .invalidValue (r.processId = 0 ∨ r.workspaceDisplay = "" ∨ 256 < byteLen r.workspaceDisplay ∨
    r.topology ∉ ["attached", "managed", "adopted"] ∨
    r.versionState ∉ ["grounded", "carried", "ahead", "unsupported"] ∨
    (r.versionState = "unsupported" ↔ r.compatible) ∨
    (r.topology ∈ ["managed", "adopted"] ∧ r.controlOwner ≠ "none") ∨
    r.capabilities.terminalContinuity ≠ "unavailable" ∨
    (r.observation.coverage ≠ "authoritative" ∧ isWorking r.turn) ∨
    (¬ r.compatible ∧ r.capabilities.commands ≠ .none) ∨
    ∃ binding ∈ r.terminalBinding, r.bindingRefused binding)

end NormalizedRegistration

/-- `body_available` is the host's claim to make, never an adapter's. -/
def refuseAdapterBodyAvailable (t : Truncation) : Checked :=
  refuseIf .invalidValue (t.reasonCode = some truncationBodyAvailable)

structure NormalizedTimelineEntry where
  sourceId : String
  sourceRevision : ℕ
  timestamp : ℕ
  state : String
  kind : String
  body : TimelineBody
  truncation : Truncation
  deriving DecidableEq, Repr

def NormalizedTimelineEntry.validate (e : NormalizedTimelineEntry) : Checked := do
  validSourceId e.sourceId
  validToken e.state
  validToken e.kind
  e.body.validateWithin maxRetainedTextBytes
  e.truncation.validate
  refuseAdapterBodyAvailable e.truncation
  refuseIf .invalidValue (e.sourceRevision = 0 ∨ e.timestamp = 0)

structure NormalizedTextDelta where
  sourceId : String
  sourceRevision : ℕ
  timestamp : ℕ
  kind : String
  delta : String
  finalChunk : Bool
  truncation : Truncation
  deriving DecidableEq, Repr

def NormalizedTextDelta.validate (d : NormalizedTextDelta) : Checked := do
  validSourceId d.sourceId
  validToken d.kind
  d.truncation.validate
  refuseAdapterBodyAvailable d.truncation
  refuseIf .invalidValue (d.sourceRevision = 0 ∨ d.timestamp = 0 ∨ maxRetainedTextBytes < byteLen d.delta)

end CiaoHost.Session
