import CiaoHost.Session.State

/-! The live tail: one row upserted or one text grown, kept within the host bound, shown in the
window and published as a delta sized against its own frame. -/

namespace CiaoHost.Session

open Protocol Lib Lib.Text Lib.Saturating

/-- The `history` capability and the window boundary a read supports. -/
def historyCoverage (complete : Bool) : String × Option String :=
  if complete then ("full", none) else ("live_tail", some "resume")

namespace LiveSession

def setHistoryCoverage (s : LiveSession) (complete : Bool) : LiveSession × Bool :=
  let (history, boundary) := historyCoverage complete
  let changed := s.snapshot.capabilities.history ≠ history ||
    s.snapshot.timelineWindow.historyBoundary ≠ boundary
  ({ s with snapshot :=
      { s.snapshot with
        capabilities := { s.snapshot.capabilities with history := history }
        timelineWindow := { s.snapshot.timelineWindow with historyBoundary := boundary } } },
    changed)

def publishEvictedStart (s : LiveSession) (now : ℕ) (startEvicted : Bool) :
    LiveSession × List AgentServerFrame :=
  if startEvicted then
    match s.setHistoryCoverage false with
    | (s, true) => let s := s.bumpRevision now; (s, [s.resync "history_bounded"])
    | (s, false) => (s, [])
  else (s, [])

def clearHookAttention (s : LiveSession) : LiveSession × Option AgentDeltaChange :=
  if ¬ s.snapshot.turn.isAwaiting ∨ s.snapshot.pendingInteractions ≠ [] then (s, none)
  else
    let turn := s.openRun.getD (.unknown "awaiting_agent_state")
    ({ s with snapshot := { s.snapshot with turn := turn } }, some (.turn turn))

def entryDelta (s : LiveSession) (baseRevision : ℕ) (entry : TimelineEntry)
    (also : Option AgentDeltaChange) : AgentServerFrame :=
  let frame := fun entry => s.delta baseRevision (.upsertEntry entry :: also.toList)
  frame (fitEntryToFrame entry fun candidate => encodedFrameLen (frame candidate))

def publishEntry (s : LiveSession) (now : ℕ) (canonical : TimelineEntry) :
    LiveSession × List AgentServerFrame :=
  let (kept, startEvicted) := s.toTimeline.enforceHistoryBound
  let shown := ({ s with toTimeline := kept }.bumpRevision now).refreshSnapshotWindow
  let (cleared, attention) := shown.clearHookAttention
  let frame := cleared.entryDelta s.snapshot.revision canonical attention
  let (bounded, resyncs) := cleared.publishEvictedStart now startEvicted
  (bounded, frame :: resyncs)

def upsertEntry (s : LiveSession) (now : ℕ) (freshId : String) (entry : NormalizedTimelineEntry) :
    LiveSession × List AgentServerFrame :=
  let (t, canonical) := s.toTimeline.normalizeEntry freshId entry
  match t.row canonical.entryId with
  | some existing =>
    if canonical.entryRevision ≤ existing.entryRevision then ({ s with toTimeline := t }, [])
    else { s with toTimeline := t.replaceRow canonical }.publishEntry now canonical
  | none => { s with toTimeline := t.insertRow canonical }.publishEntry now canonical

end LiveSession

def chunkState (finalChunk : Bool) : String := if finalChunk then "complete" else "streaming"

def growText (existing : TimelineEntry) (shown : String) (d : NormalizedTextDelta) : TimelineEntry :=
  let gap := d.sourceRevision ≠ satAdd existing.entryRevision 1
  let originalBytes := satAdd (existing.truncation.originalBytes.getD (byteLen shown)) (byteLen d.delta)
  let grown := shown ++ d.delta
  let marked :=
    if existing.truncation.truncated then existing.truncation
    else if gap then ⟨true, some "adapter_delta_gap", some originalBytes⟩
    else if d.truncation.truncated then d.truncation
    else existing.truncation
  { existing with
    body := .text (cut grown maxRetainedTextBytes)
    truncation :=
      if maxRetainedTextBytes < byteLen grown then ⟨true, some "adapter_bound", some originalBytes⟩
      else marked
    entryRevision := d.sourceRevision
    timestamp := d.timestamp
    state := chunkState d.finalChunk }

def openText (d : NormalizedTextDelta) : NormalizedTimelineEntry where
  sourceId := d.sourceId
  sourceRevision := d.sourceRevision
  timestamp := d.timestamp
  state := chunkState d.finalChunk
  kind := d.kind
  body := .text d.delta
  truncation :=
    if d.sourceRevision ≠ 1 ∧ ¬ d.truncation.truncated then
      ⟨true, some "adapter_delta_gap", some (byteLen d.delta)⟩
    else d.truncation

namespace LiveSession

def appendText (s : LiveSession) (now : ℕ) (freshId : String) (d : NormalizedTextDelta) :
    (LiveSession × List AgentServerFrame) × Except String Unit :=
  if (s.previousSourceRevision d.sourceId).any (d.sourceRevision ≤ ·) ∨
      (s.sourceEntries.lookup d.sourceId).any (·.settled) then ((s, []), .ok ())
  else match s.sourceEntries.lookup d.sourceId with
    | some mapping =>
      match s.row mapping.entryId with
      | none => ((s, []), .error "adapter source mapping has no timeline entry")
      | some existing =>
        if existing.kind ≠ d.kind then ((s, []), .error "adapter text delta changed entry kind")
        else match existing.body with
          | .text shown =>
            let grown := growText existing shown d
            ({ s with toTimeline := s.toTimeline.replaceRow grown }.publishEntry now grown, .ok ())
          | _ => ((s, []), .error "adapter text delta targeted a non-text entry")
    | none =>
      let (t, canonical) := s.toTimeline.normalizeEntry freshId (openText d)
      let t := if (t.row canonical.entryId).isSome then t else t.insertRow canonical
      ({ s with toTimeline := t }.publishEntry now canonical, .ok ())

end LiveSession

end CiaoHost.Session
