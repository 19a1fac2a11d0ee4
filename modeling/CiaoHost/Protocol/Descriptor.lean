import CiaoHost.Protocol.Snapshot

/-! The row a session is listed by, and the predicate a phone checks it with (agent_protocol.rs). -/

namespace CiaoHost.Protocol

open Lib.Checks Lib.Text

def maxWorkspaceDisplayBytes : ℕ := 256
def maxRecentPromptBytes : ℕ := 200

structure AgentSessionDescriptor where
  v : ℕ
  sessionId : String
  adapterFamily : String
  adapterVersion : String
  topology : String
  presence : String
  storedReason : Option String
  processGeneration : ℕ
  observation : Observation
  turn : TurnState
  capabilities : AgentCapabilities
  workspaceDisplay : String
  terminalFallback : TerminalFallback
  recentPrompt : Option String
  managedSessionId : Option String
  takeover : Option String
  drift : Option DriftNote
  revision : ℕ
  updatedAt : ℕ
  deriving DecidableEq, Repr

def AgentSessionDescriptor.validate (d : AgentSessionDescriptor) : Checked := do
  requireVersion d.v
  validOpaqueId d.sessionId
  validToken d.adapterFamily
  validToken d.adapterVersion
  validToken d.topology
  validToken d.presence
  refuseIf .invalidValue (d.processGeneration = 0 ∨ d.revision = 0 ∨ d.updatedAt = 0 ∨
    d.workspaceDisplay = "" ∨ maxWorkspaceDisplayBytes < byteLen d.workspaceDisplay)
  whenSome (fun prompt => refuseIf .invalidValue (prompt = "" ∨ maxRecentPromptBytes < byteLen prompt)) d.recentPrompt
  whenSome (fun verb => do
    validToken verb
    refuseIf .invalidValue (d.topology ≠ "attached")) d.takeover
  whenSome DriftNote.validate d.drift
  d.observation.validate
  d.turn.validate
  d.capabilities.validate
  d.terminalFallback.validate
  refuseIf .invalidValue (d.capabilities.terminalContinuity ≠ d.terminalFallback.continuity)
  validateTopologyPresence d.topology d.presence d.storedReason d.turn d.capabilities

structure AgentSessionDescriptor.Valid (d : AgentSessionDescriptor) : Prop where
  version : d.v = agentProtocolVersion
  sessionId : validOpaqueId d.sessionId = .ok ()
  family : validToken d.adapterFamily = .ok ()
  adapterVersion : validToken d.adapterVersion = .ok ()
  topology : validToken d.topology = .ok ()
  presence : validToken d.presence = .ok ()
  generation : d.processGeneration ≠ 0
  revision : d.revision ≠ 0
  updatedAt : d.updatedAt ≠ 0
  display : d.workspaceDisplay ≠ "" ∧ byteLen d.workspaceDisplay ≤ maxWorkspaceDisplayBytes
  prompt : ∀ prompt, d.recentPrompt = some prompt → prompt ≠ "" ∧ byteLen prompt ≤ maxRecentPromptBytes
  takeover : ∀ verb, d.takeover = some verb → validToken verb = .ok () ∧ d.topology = "attached"
  drift : ∀ drift, d.drift = some drift → drift.validate = .ok ()
  observation : d.observation.validate = .ok ()
  turn : d.turn.validate = .ok ()
  capabilities : d.capabilities.validate = .ok ()
  fallback : d.terminalFallback.validate = .ok ()
  continuity : d.capabilities.terminalContinuity = d.terminalFallback.continuity
  placed : validateTopologyPresence d.topology d.presence d.storedReason d.turn d.capabilities = .ok ()

lemma AgentSessionDescriptor.validate_iff {d : AgentSessionDescriptor} : d.validate = .ok () ↔ d.Valid := by
  simp only [validate, requireVersion, bind_ok, whenSome_ok, refuseIf_ok, not_or, not_lt, not_not, ne_eq]
  constructor
  · rintro ⟨hv, hid, hfamily, hversion, htop, hpres, ⟨hgen, hrev, hat, hdisplay⟩, hprompt, hverb, hdrift, hobs, hturn,
      hcaps, hfallback, hcont, hplaced⟩
    exact ⟨hv, hid, hfamily, hversion, htop, hpres, hgen, hrev, hat, hdisplay, hprompt, hverb, hdrift, hobs, hturn,
      hcaps, hfallback, hcont, hplaced⟩
  · intro h
    exact ⟨h.version, h.sessionId, h.family, h.adapterVersion, h.topology, h.presence,
      ⟨h.generation, h.revision, h.updatedAt, h.display⟩, h.prompt, h.takeover, h.drift, h.observation, h.turn,
      h.capabilities, h.fallback, h.continuity, h.placed⟩

end CiaoHost.Protocol
