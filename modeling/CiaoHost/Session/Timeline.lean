import CiaoHost.Session.Input
import CiaoHost.Protocol.Fit
import CiaoHost.Lib.KeyedMap

/-! The retained history of a session: its rows, the adapter sources that name them, the host
bound and the window shown of it. -/

namespace CiaoHost.Session

open Protocol Lib Lib.Text Lib.Saturating Lib.KeyedList

def maxHostTimelineBytes : ℕ := 4 * 1024 * 1024
def maxHostTimelineEntries : ℕ := 4096
def maxTimelinePageEntries : ℕ := 64

structure SourceEntryMapping where
  entryId : String
  sequence : ℕ
  settled : Bool
  deriving DecidableEq, Repr

structure Timeline where
  sourceEntries : KeyedMap String SourceEntryMapping
  history : List TimelineEntry
  nextSequence : ℕ

namespace Timeline

def empty : Timeline := ⟨∅, [], 1⟩

def row (t : Timeline) (entryId : String) : Option TimelineEntry :=
  t.history.find? (·.entryId = entryId)

def previousSourceRevision (t : Timeline) (sourceId : String) : Option ℕ := do
  let mapping ← t.sourceEntries.lookup sourceId
  let entry ← t.row mapping.entryId
  return entry.entryRevision

def normalizedRow (entry : NormalizedTimelineEntry) (mapping : SourceEntryMapping) : TimelineEntry where
  entryId := mapping.entryId
  entryRevision := entry.sourceRevision
  sequence := mapping.sequence
  timestamp := entry.timestamp
  state := entry.state
  kind := entry.kind
  body := entry.body
  truncation := entry.truncation

def normalizeEntry (t : Timeline) (freshId : String) (entry : NormalizedTimelineEntry) :
    Timeline × TimelineEntry :=
  match t.sourceEntries.lookup entry.sourceId with
  | some mapping => (t, normalizedRow entry mapping)
  | none =>
    let mapping : SourceEntryMapping := ⟨freshId, t.nextSequence, false⟩
    ({ t with
        sourceEntries := t.sourceEntries.insert entry.sourceId mapping
        nextSequence := bump t.nextSequence },
      normalizedRow entry mapping)

def insertRow (t : Timeline) (entry : TimelineEntry) : Timeline :=
  { t with history := sortByKey TimelineEntry.sequence (t.history ++ [entry]) }

def replaceRow (t : Timeline) (entry : TimelineEntry) : Timeline :=
  { t with history := replaceFirst TimelineEntry.entryId entry t.history }

def decodedBytes (history : List TimelineEntry) : ℕ := (history.map TimelineEntry.decodedBytes).sum

def overBound (bytes : ℕ) (history : List TimelineEntry) : Prop :=
  maxHostTimelineBytes < bytes ∨ maxHostTimelineEntries < history.length

instance (bytes : ℕ) (history : List TimelineEntry) : Decidable (overBound bytes history) :=
  inferInstanceAs (Decidable (_ ∨ _))

def evictionIndex (history : List TimelineEntry) : ℕ :=
  (history.findIdx? (·.state ≠ "streaming")).getD 0

def removeAt (t : Timeline) (index : ℕ) (removed : TimelineEntry) : Timeline :=
  { t with
    history := t.history.eraseIdx index
    sourceEntries := t.sourceEntries.retain fun _ mapping => mapping.entryId ≠ removed.entryId }

/-- One row goes in each round, so as many rounds as there are rows are enough. -/
def evict : ℕ → ℕ → Timeline → Timeline
  | 0, _, t => t
  | fuel + 1, bytes, t =>
    if overBound bytes t.history then
      match t.history[evictionIndex t.history]? with
      | none => t
      | some removed =>
        evict fuel (bytes - removed.decodedBytes) (t.removeAt (evictionIndex t.history) removed)
    else t

def enforceHistoryBound (t : Timeline) : Timeline × Bool :=
  (t.evict t.history.length (decodedBytes t.history), overBound (decodedBytes t.history) t.history)

def heldSequences (t : Timeline) : KeyedMap String ℕ :=
  t.history.foldl (fun held entry => held.insert entry.entryId entry.sequence) ∅

def rewritten (before after : KeyedMap String ℕ) : Bool :=
  let renumbered := before.entries.any fun held =>
    (after.lookup held.1).any (· ≠ held.2)
  let survivors := (before.entries.filter fun held => (after.lookup held.1).isSome).map fun held => held.2
  let removedFromTheMiddle := before.entries.any fun held =>
    (after.lookup held.1).isNone && survivors.min?.any (· < held.2)
  renumbered || removedFromTheMiddle

end Timeline

def stillSizedFor (wire entry : TimelineEntry) : Bool :=
  wire.state = entry.state && wire.kind = entry.kind && wire.timestamp = entry.timestamp &&
    match wire.body, entry.body with
    | .text head, .text t =>
      if wire.truncation.reasonCode = some truncationBodyAvailable then
        wire.truncation.originalBytes = some (byteLen t) && head.toList.isPrefixOf t.toList
      else wire.truncation = entry.truncation && head = t
    | _, _ => wire = entry

def wireRow (sized : List TimelineEntry) (entry : TimelineEntry) : TimelineEntry :=
  match sized.reverse.find? fun wire => wire.entryId = entry.entryId ∧
      wire.entryRevision = entry.entryRevision ∧ wire.sequence = entry.sequence with
  | some wire => if stillSizedFor wire entry then wire else fitEntryAlone entry
  | none => fitEntryAlone entry

def refreshWindow (window : TimelineWindow) (history : List TimelineEntry) : TimelineWindow :=
  let entries := ((history.reverse.take maxTimelinePageEntries).map (wireRow window.entries)).reverse
  { entries := entries
    hasOlder := entries.length < history.length
    historyBoundary := window.historyBoundary
    oldestSequence := entries.head?.map TimelineEntry.sequence
    newestSequence := entries.getLast?.map TimelineEntry.sequence
    truncated := entries.length < history.length }

end CiaoHost.Session
