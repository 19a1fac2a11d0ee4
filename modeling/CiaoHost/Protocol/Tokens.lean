import CiaoHost.Lib.Checks
import CiaoHost.Lib.Text
import CiaoHost.Lib.Hex

/-! Bounds of the agent protocol and the grammars of its words (agent_protocol.rs). -/

namespace CiaoHost.Protocol

open Lib.Checks Lib.Text

def agentProtocolVersion : ℕ := 1
def maxAgentFrameBytes : ℕ := 64 * 1024
def maxPromptBytes : ℕ := 32 * 1024
def maxPendingInteractions : ℕ := 16
def maxQuestions : ℕ := 8
def maxOptionsPerQuestion : ℕ := 16
def maxToolInputPreviewBytes : ℕ := 16 * 1024
def maxToolResultPreviewBytes : ℕ := 32 * 1024
def maxCommandReceipts : ℕ := 128
def maxTokenBytes : ℕ := 64
def maxOpaqueIdBytes : ℕ := 64
def maxResumeCommandBytes : ℕ := 128
def maxModelCatalogueEntries : ℕ := 16
def maxModelIdBytes : ℕ := 64
def maxModelDisplayNameBytes : ℕ := 48
def maxEffortLevelsPerModel : ℕ := 8
def maxInteractionTextBytes : ℕ := 32 * 1024
def maxTimelineTextBytes : ℕ := 48 * 1024
def maxRetainedTextBytes : ℕ := 1024 * 1024
def maxTimelineEntriesInSnapshot : ℕ := 64
def maxSessionNameBytes : ℕ := 64
def truncationBodyAvailable : String := "body_available"

inductive AgentProtocolError where
  | unsupportedVersion
  | invalidValue
  deriving DecidableEq, Repr

abbrev Checked := Except AgentProtocolError Unit

def requireVersion (v : ℕ) : Checked :=
  refuseIf .unsupportedVersion (v ≠ agentProtocolVersion)

/-- A nonempty word of at most `limit` bytes over an alphabet. -/
def validWord (limit : ℕ) (allowed : Char → Bool) (value : String) : Checked :=
  refuseIf .invalidValue (value = "" ∨ limit < byteLen value ∨ ¬ value.toList.all allowed)

def tokenChar (c : Char) : Bool := c.isAlphanum || c ∈ ['.', '_', '-']

def validToken : String → Checked := validWord maxTokenBytes tokenChar

def validOpaqueId : String → Checked := validWord maxOpaqueIdBytes tokenChar

def validModelId : String → Checked :=
  validWord maxModelIdBytes fun c => c.isAlphanum || c ∈ ['.', '_', '-', '[', ']']

def validResumeCommand (value : String) : Checked := do
  refuseIf .invalidValue (value.toList.head? = some ' ' ∨ value.toList.getLast? = some ' ')
  validWord maxResumeCommandBytes (fun c => c.isAlphanum || c ∈ ['.', '_', '-', ' ']) value

def validSessionName (name : String) : Bool :=
  name ≠ "" && byteLen name ≤ maxSessionNameBytes &&
    name.toList.head?.any Char.isAlphanum && name.toList.all fun c => c.isAlphanum || c ∈ ['_', '-']

def knownPermissionModes : List String :=
  ["default", "acceptEdits", "bypassPermissions", "plan", "dontAsk", "auto"]

def validPermissionMode (mode : String) : Bool := mode ∈ knownPermissionModes

lemma validWord_ok (limit : ℕ) (allowed : Char → Bool) (value : String) :
    validWord limit allowed value = .ok () ↔
      value ≠ "" ∧ byteLen value ≤ limit ∧ ∀ c ∈ value.toList, allowed c := by
  simp [validWord, not_or]

lemma validOpaqueId_hex32 {lead : String} (hlead : ∀ c ∈ lead.toList, tokenChar c) (hlength : byteLen lead ≤ 32) (n : ℕ) :
    validOpaqueId (lead ++ Lib.Hex.hex32 n) = .ok () := by
  have hdigits := Lib.Hex.byteLen_hex32 n
  rw [validOpaqueId, validWord_ok]
  refine ⟨fun hempty => ?_, ?_, fun c hc => ?_⟩
  · have hbytes := congrArg byteLen hempty
    rw [byteLen_append, byteLen_empty] at hbytes
    omega
  · rw [byteLen_append, maxOpaqueIdBytes]
    omega
  · rw [String.toList_append] at hc
    rcases List.mem_append.mp hc with hc | hc
    · exact hlead c hc
    · rw [tokenChar, Lib.Hex.isAlphanum_of_mem_hex32 hc, Bool.true_or]

end CiaoHost.Protocol
