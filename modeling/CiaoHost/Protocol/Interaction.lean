import CiaoHost.Protocol.Capabilities

/-! Pending interactions and the receipts of commands. -/

namespace CiaoHost.Protocol

open Lib.Checks Lib.Text

structure ResponseChoice where
  choiceId : String
  label : String
  description : Option String
  scope : Option String
  deriving DecidableEq, Repr

def ResponseChoice.validate (c : ResponseChoice) : Checked := do
  validOpaqueId c.choiceId
  refuseIf .invalidValue (c.label = "" ∨ 1024 < byteLen c.label)
  refuseIf .invalidValue (∃ d ∈ c.description, d = "" ∨ maxInteractionTextBytes < byteLen d)
  whenSome validToken c.scope

structure CanonicalQuestion where
  questionId : String
  prompt : String
  responseKind : String
  required : Bool
  header : Option String
  options : List ResponseChoice
  maxTextBytes : Option ℕ
  deriving DecidableEq, Repr

def CanonicalQuestion.validate (q : CanonicalQuestion) : Checked := do
  validOpaqueId q.questionId
  validToken q.responseKind
  refuseIf .invalidValue (∃ h ∈ q.header, h = "" ∨ maxInteractionTextBytes < byteLen h)
  refuseIf .invalidValue (q.prompt = "" ∨ maxInteractionTextBytes < byteLen q.prompt ∨
    maxOptionsPerQuestion < q.options.length ∨ ∃ n ∈ q.maxTextBytes, n = 0 ∨ maxPromptBytes < n)
  each ResponseChoice.validate q.options

inductive ResponseSchema where
  | choices (minimum maximum : ℕ) (choices : List ResponseChoice)
  | questions (questions : List CanonicalQuestion)
  | freeText (maximumBytes : ℕ)
  | unsupported
  | unknown
  deriving DecidableEq, Repr

def ResponseSchema.validate : ResponseSchema → Checked
  | .choices minimum maximum offered => do
    refuseIf .invalidValue (offered = [] ∨ maxOptionsPerQuestion < offered.length ∨
      maximum < minimum ∨ offered.length < maximum)
    each ResponseChoice.validate offered
  | .questions asked => do
    refuseIf .invalidValue (asked = [] ∨ maxQuestions < asked.length)
    each CanonicalQuestion.validate asked
  | .freeText maximumBytes =>
    refuseIf .invalidValue (maximumBytes = 0 ∨ maxPromptBytes < maximumBytes)
  | .unsupported | .unknown => .ok ()

structure PendingInteraction where
  interactionId : String
  interactionRevision : ℕ
  kind : String
  blocking : Bool
  createdAt : ℕ
  expiresAt : Option ℕ
  title : Option String
  body : String
  responseSchema : ResponseSchema
  terminalFallback : TerminalFallback
  state : String
  deriving DecidableEq, Repr

namespace PendingInteraction

def validate (i : PendingInteraction) : Checked := do
  validOpaqueId i.interactionId
  validToken i.kind
  validToken i.state
  refuseIf .invalidValue (i.interactionRevision = 0 ∨ i.createdAt = 0 ∨
    (∃ t ∈ i.expiresAt, t < i.createdAt) ∨
    (∃ t ∈ i.title, maxInteractionTextBytes < byteLen t) ∨ maxInteractionTextBytes < byteLen i.body)
  i.responseSchema.validate
  i.terminalFallback.validate

def isUnresolvedBlocking (i : PendingInteraction) : Bool :=
  i.blocking && i.state ∈ ["pending", "submitting"]

end PendingInteraction

structure CommandReceipt where
  commandId : String
  sessionId : String
  processGeneration : ℕ
  snapshotEpoch : ℕ
  state : String
  updatedAt : ℕ
  reasonCode : Option String
  applicationEvidence : Option String
  deriving DecidableEq, Repr

def CommandReceipt.validate (r : CommandReceipt) : Checked := do
  validOpaqueId r.commandId
  validOpaqueId r.sessionId
  validToken r.state
  refuseIf .invalidValue (r.processGeneration = 0 ∨ r.snapshotEpoch = 0 ∨ r.updatedAt = 0)
  whenSome validToken r.reasonCode
  whenSome validToken r.applicationEvidence
  refuseIf .invalidValue (r.state = "applied" ∧ r.applicationEvidence = none)

lemma CommandReceipt.validate_ok (r : CommandReceipt) : r.validate = .ok () ↔
    validOpaqueId r.commandId = .ok () ∧ validOpaqueId r.sessionId = .ok () ∧ validToken r.state = .ok () ∧
      (r.processGeneration ≠ 0 ∧ r.snapshotEpoch ≠ 0 ∧ r.updatedAt ≠ 0) ∧
      (∀ reason, r.reasonCode = some reason → validToken reason = .ok ()) ∧
      (∀ evidence, r.applicationEvidence = some evidence → validToken evidence = .ok ()) ∧
      (r.state = "applied" → r.applicationEvidence ≠ none) := by
  simp [validate]

end CiaoHost.Protocol
