import CiaoHost.Protocol.Tokens

/-! What a session advertises: coverage, turn, commands, interactions and its way back to a terminal. -/

namespace CiaoHost.Protocol

open Lib.Checks Lib.Text

structure Observation where
  coverage : String
  reasonCode : String
  lastAuthoritativeAt : Option ℕ
  deriving DecidableEq, Repr

def Observation.validate (o : Observation) : Checked := do
  validToken o.coverage
  validToken o.reasonCode

inductive InteractionAnswer where
  | choices (choiceIds : List String)
  | questions (answers : List (String × List String × Option String))
  | freeText (text : String)
  | unknown
  deriving DecidableEq, Repr

inductive AgentCommandKind where
  | prompt (text : String)
  | steer (text : String)
  | followUp (text : String)
  | interrupt
  | interactionResponse (interactionId : String) (interactionRevision : ℕ) (answer : InteractionAnswer)
  | setPermissionMode (mode : String)
  | setModel (model : String)
  | setEffort (effort : String)
  | unknown
  deriving DecidableEq, Repr

def validateAnswer : InteractionAnswer → Checked
  | .choices choiceIds => do
    refuseIf .invalidValue (choiceIds = [] ∨ maxOptionsPerQuestion < choiceIds.length)
    each validOpaqueId choiceIds
  | .questions answers => do
    refuseIf .invalidValue (answers = [] ∨ maxQuestions < answers.length)
    each (fun (questionId, choiceIds, text) => do
      validOpaqueId questionId
      refuseIf .invalidValue
        (maxOptionsPerQuestion < choiceIds.length ∨ ∃ t ∈ text, maxPromptBytes < byteLen t)
      each validOpaqueId choiceIds) answers
  | .freeText text => refuseIf .invalidValue (maxPromptBytes < byteLen text)
  | .unknown => .error .invalidValue

def AgentCommandKind.validate : AgentCommandKind → Checked
  | .prompt text | .steer text | .followUp text =>
    refuseIf .invalidValue (text = "" ∨ maxPromptBytes < byteLen text)
  | .interrupt => .ok ()
  | .interactionResponse interactionId interactionRevision answer => do
    validOpaqueId interactionId
    refuseIf .invalidValue (interactionRevision = 0)
    validateAnswer answer
  | .setPermissionMode mode => refuseIf .invalidValue (¬ validPermissionMode mode)
  | .setModel model => validModelId model
  | .setEffort effort => validToken effort
  | .unknown => .error .invalidValue

structure AgentCommand where
  v : ℕ
  commandId : String
  sessionId : String
  snapshotEpoch : ℕ
  expectedGeneration : ℕ
  expectedRevision : Option ℕ
  kind : AgentCommandKind
  deriving DecidableEq, Repr

def AgentCommand.validate (c : AgentCommand) : Checked := do
  requireVersion c.v
  validOpaqueId c.commandId
  validOpaqueId c.sessionId
  refuseIf .invalidValue (c.snapshotEpoch = 0 ∨ c.expectedGeneration = 0)
  c.kind.validate

structure CommandCapabilities where
  prompt : Bool
  steer : Bool
  followUp : Bool
  interrupt : Bool
  permissionMode : Bool
  model : Bool
  effort : Bool
  deriving DecidableEq, Repr

def CommandCapabilities.none : CommandCapabilities := ⟨false, false, false, false, false, false, false⟩

def CommandCapabilities.permits (c : CommandCapabilities) : AgentCommandKind → Bool
  | .prompt _ => c.prompt
  | .steer _ => c.steer
  | .followUp _ => c.followUp
  | .interrupt => c.interrupt
  | .setPermissionMode _ => c.permissionMode
  | .setModel _ => c.model
  | .setEffort _ => c.effort
  | .interactionResponse .. | .unknown => false

structure InteractionCapability where
  enabled : Bool
  maxQuestions : ℕ
  maxOptionsPerQuestion : ℕ
  allowsFreeText : Bool
  deriving DecidableEq, Repr

def InteractionCapability.validate (c : InteractionCapability) : Checked :=
  refuseIf .invalidValue (Protocol.maxQuestions < c.maxQuestions ∨
    Protocol.maxOptionsPerQuestion < c.maxOptionsPerQuestion ∨
    (¬ c.enabled ∧ (c.maxQuestions ≠ 0 ∨ c.maxOptionsPerQuestion ≠ 0 ∨ c.allowsFreeText)))

def InteractionCapability.disabled : InteractionCapability := ⟨false, 0, 0, false⟩

structure InteractionCapabilities where
  permission : InteractionCapability
  question : InteractionCapability
  planDecision : InteractionCapability
  reviewDecision : InteractionCapability
  elicitation : InteractionCapability
  genericChoice : InteractionCapability
  deriving DecidableEq, Repr

namespace InteractionCapabilities

def all (c : InteractionCapabilities) : List InteractionCapability :=
  [c.permission, c.question, c.planDecision, c.reviewDecision, c.elicitation, c.genericChoice]

def validate (c : InteractionCapabilities) : Checked := each InteractionCapability.validate c.all

def none : InteractionCapabilities :=
  ⟨.disabled, .disabled, .disabled, .disabled, .disabled, .disabled⟩

def anyEnabled (c : InteractionCapabilities) : Bool := c.all.any InteractionCapability.enabled

lemma none_validate : none.validate = .ok () := by decide

end InteractionCapabilities

structure AgentCapabilities where
  history : String
  commands : CommandCapabilities
  interactions : InteractionCapabilities
  pendingRehydration : String
  terminalContinuity : String
  deriving DecidableEq, Repr

def AgentCapabilities.validate (c : AgentCapabilities) : Checked := do
  validToken c.history
  validToken c.pendingRehydration
  validToken c.terminalContinuity
  c.interactions.validate

def AgentCapabilities.permits (c : AgentCapabilities) : AgentCommandKind → Bool
  | .interactionResponse .. => c.interactions.anyEnabled
  | other => c.commands.permits other

structure TerminalFallback where
  continuity : String
  routeId : Option String
  availabilityReason : Option String
  handbackSession : Option String
  resumeCommand : Option String
  deriving DecidableEq, Repr

def TerminalFallback.routeAgrees (f : TerminalFallback) : Checked :=
  let hasRouteId := f.routeId.isSome
  let hasHandback := f.handbackSession.isSome
  let hasResume := f.resumeCommand.isSome
  if f.continuity = "exact_live" ∨ f.continuity = "workspace_only" then
    refuseIf .invalidValue (¬ hasRouteId ∨ hasHandback ∨ hasResume)
  else if f.continuity = "resumable_session" then
    refuseIf .invalidValue ((hasRouteId ∧ hasHandback) ∨ ¬ (hasRouteId ∨ hasHandback ∨ hasResume))
  else
    -- "unavailable" and every continuity this build does not know
    refuseIf .invalidValue (hasRouteId ∨ hasHandback ∨ hasResume)

def TerminalFallback.validate (f : TerminalFallback) : Checked := do
  validToken f.continuity
  whenSome validOpaqueId f.routeId
  whenSome (fun session => refuseIf .invalidValue (¬ validSessionName session)) f.handbackSession
  whenSome validToken f.availabilityReason
  whenSome validResumeCommand f.resumeCommand
  f.routeAgrees

inductive TurnState where
  | idle
  | running (runId activity : String)
  | awaitingInteraction (runId : Option String)
  | stopping (runId : String)
  | completed (runId : Option String)
  | interrupted (runId : Option String)
  | failed (runId : Option String) (category : String)
  | unknown (reasonCode : String)
  | unsupported
  deriving DecidableEq, Repr

namespace TurnState

def validate : TurnState → Checked
  | running runId activity => do
    validOpaqueId runId
    validToken activity
  | awaitingInteraction runId | completed runId | interrupted runId => whenSome validOpaqueId runId
  | stopping runId => validOpaqueId runId
  | failed runId category => do
    whenSome validOpaqueId runId
    validToken category
  | unknown reasonCode => validToken reasonCode
  | idle | unsupported => .ok ()

def isAwaiting : TurnState → Bool
  | awaitingInteraction _ => true
  | _ => false

def isMidTurn : TurnState → Bool
  | running .. | awaitingInteraction _ | stopping _ => true
  | _ => false

end TurnState

structure AgentModelOption where
  value : String
  displayName : String
  supportsEffort : Bool
  supportedEffortLevels : List String
  deriving DecidableEq, Repr

def AgentModelOption.validate (m : AgentModelOption) : Checked := do
  validModelId m.value
  refuseIf .invalidValue (m.displayName = "" ∨ maxModelDisplayNameBytes < byteLen m.displayName ∨
    maxEffortLevelsPerModel < m.supportedEffortLevels.length)
  each validToken m.supportedEffortLevels

def validateModelCatalogue (models : List AgentModelOption) : Checked := do
  refuseIf .invalidValue (maxModelCatalogueEntries < models.length)
  each AgentModelOption.validate models

def validateTopologyPresence (topology presence : String) (storedReason : Option String)
    (turn : TurnState) (capabilities : AgentCapabilities) : Checked := do
  whenSome (fun reason => do
    validToken reason
    refuseIf .invalidValue (presence ≠ "stored")) storedReason
  refuseIf .invalidValue (presence = "stored" ∧ (topology ≠ "managed" ∨ turn.isMidTurn ∨
    capabilities.commands ≠ .none ∨ capabilities.interactions ≠ .none))
  refuseIf .invalidValue (topology = "managed" ∧ capabilities.terminalContinuity ≠ "unavailable" ∧
    ¬ (presence = "stored" ∧ storedReason = some "released" ∧
      capabilities.terminalContinuity = "resumable_session"))
  refuseIf .invalidValue (topology = "adopted" ∧
    (presence ≠ "live" ∨ capabilities.terminalContinuity ≠ "resumable_session"))

end CiaoHost.Protocol
