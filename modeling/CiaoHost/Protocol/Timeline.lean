import CiaoHost.Protocol.Tokens

/-! Timeline rows, the window a snapshot shows of them, and their validation. -/

namespace CiaoHost.Protocol

open Lib.Checks Lib.Text

structure ToolTimelineBody where
  name : String
  status : String
  inputPreview : Option String
  resultPreview : Option String
  deriving DecidableEq, Repr

def ToolTimelineBody.validate (t : ToolTimelineBody) : Checked := do
  validToken t.name
  validToken t.status
  refuseIf .invalidValue ((∃ p ∈ t.inputPreview, maxToolInputPreviewBytes < byteLen p) ∨
    ∃ p ∈ t.resultPreview, maxToolResultPreviewBytes < byteLen p)

inductive TimelineBody where
  | text (text : String)
  | tool (tool : ToolTimelineBody)
  | unsupported (reasonCode : String)
  | unknown
  deriving DecidableEq, Repr

namespace TimelineBody

def validateWithin (textBytes : ℕ) : TimelineBody → Checked
  | text t => refuseIf .invalidValue (¬ byteLen t ≤ textBytes)
  | tool t => t.validate
  | unsupported reasonCode => validToken reasonCode
  | unknown => .ok ()

def validate : TimelineBody → Checked := validateWithin maxTimelineTextBytes

def decodedBytes : TimelineBody → ℕ
  | text t => byteLen t
  | tool t => byteLen t.name + byteLen t.status + (t.inputPreview.elim 0 byteLen) +
      (t.resultPreview.elim 0 byteLen)
  | unsupported reasonCode => byteLen reasonCode
  | unknown => 0

end TimelineBody

structure Truncation where
  truncated : Bool
  reasonCode : Option String
  originalBytes : Option ℕ
  deriving DecidableEq, Repr

def Truncation.validate (t : Truncation) : Checked := do
  whenSome validToken t.reasonCode
  refuseIf .invalidValue (t.truncated ≠ t.reasonCode.isSome)

structure TimelineEntry where
  entryId : String
  entryRevision : ℕ
  sequence : ℕ
  timestamp : ℕ
  state : String
  kind : String
  body : TimelineBody
  truncation : Truncation
  deriving DecidableEq, Repr

namespace TimelineEntry

def validatePromise (e : TimelineEntry) : Checked :=
  if e.truncation.reasonCode = some truncationBodyAvailable then
    match e.body, e.truncation.originalBytes with
    | .text t, some whole =>
      refuseIf .invalidValue (whole ≤ byteLen t ∨ maxRetainedTextBytes < whole)
    | _, _ => .error .invalidValue
  else .ok ()

def validate (e : TimelineEntry) : Checked := do
  validOpaqueId e.entryId
  refuseIf .invalidValue (e.entryRevision = 0 ∨ e.sequence = 0 ∨ e.timestamp = 0)
  validToken e.state
  validToken e.kind
  e.body.validate
  e.truncation.validate
  e.validatePromise

def decodedBytes (e : TimelineEntry) : ℕ :=
  byteLen e.entryId + byteLen e.state + byteLen e.kind + e.body.decodedBytes

end TimelineEntry

structure TimelineWindow where
  entries : List TimelineEntry
  hasOlder : Bool
  historyBoundary : Option String
  oldestSequence : Option ℕ
  newestSequence : Option ℕ
  truncated : Bool
  deriving DecidableEq, Repr

namespace TimelineWindow

def validateEntries : Option ℕ → List TimelineEntry → Checked
  | _, [] => .ok ()
  | last, entry :: rest => do
    entry.validate
    refuseIf .invalidValue (∃ sequence ∈ last, entry.sequence ≤ sequence)
    validateEntries (some entry.sequence) rest

def validate (w : TimelineWindow) : Checked := do
  refuseIf .invalidValue (maxTimelineEntriesInSnapshot < w.entries.length)
  whenSome validToken w.historyBoundary
  validateEntries none w.entries
  whenSome (fun first => refuseIf .invalidValue (w.oldestSequence ≠ some first.sequence)) w.entries.head?
  whenSome (fun last => refuseIf .invalidValue (w.newestSequence ≠ some last.sequence)) w.entries.getLast?
  refuseIf .invalidValue (w.entries = [] ∧ (w.oldestSequence.isSome ∨ w.newestSequence.isSome))

lemma validateEntries_ok (last : Option ℕ) (entries : List TimelineEntry) :
    validateEntries last entries = .ok () ↔ (∀ e ∈ entries, e.validate = .ok ()) ∧
      (∀ sequence ∈ last, ∀ e ∈ entries, sequence < e.sequence) ∧
      entries.Pairwise (·.sequence < ·.sequence) := by
  induction entries generalizing last with
  | nil => simp [validateEntries]
  | cons entry rest ih =>
    simp only [validateEntries, bind_ok, refuseIf_ok, ih, List.forall_mem_cons, List.pairwise_cons]
    constructor
    · rintro ⟨hentry, hlast, hrest, hafter, hsorted⟩
      refine ⟨⟨hentry, hrest⟩, fun sequence hs => ?_, hafter _ rfl, hsorted⟩
      have hlt : sequence < entry.sequence := by
        by_contra hle
        exact hlast ⟨sequence, hs, not_lt.mp hle⟩
      exact ⟨hlt, fun e he => hlt.trans (hafter _ rfl e he)⟩
    · rintro ⟨⟨hentry, hrest⟩, hlast, hafter, hsorted⟩
      refine ⟨hentry, ?_, hrest, ?_, hsorted⟩
      · rintro ⟨sequence, hs, hle⟩
        exact absurd (hlast sequence hs).1 (not_lt.mpr hle)
      · rintro _ ⟨⟩
        exact hafter

end TimelineWindow

end CiaoHost.Protocol
