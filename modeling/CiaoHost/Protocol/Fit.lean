import CiaoHost.Protocol.Encoding

/-! Cutting wire copies of rows and snapshots until their encoded frame fits. -/

namespace CiaoHost.Protocol

open Lib.Text Lib.Saturating

def cutToHead (wire : TimelineEntry) (whole limit : ℕ) : TimelineEntry :=
  match wire.body with
  | .text t =>
    { wire with
      body := .text (cut t limit)
      truncation := ⟨true, some truncationBodyAvailable, some whole⟩ }
  | _ => wire

def dropPreview (wire : TimelineEntry) (tool : ToolTimelineBody) : TimelineEntry :=
  let tool := if tool.resultPreview.isSome then { tool with resultPreview := none }
    else { tool with inputPreview := none }
  { wire with
    body := .tool tool
    truncation := if wire.truncation.truncated then wire.truncation
      else ⟨true, some "preview_bounded", none⟩ }

/-- The measuring loop. Each round shortens the text or drops a preview, so `shrinkSteps`
rounds are enough. -/
def fitLoop (frameLen : TimelineEntry → ℕ) (whole : ℕ) : ℕ → TimelineEntry → TimelineEntry
  | 0, wire => wire
  | fuel + 1, wire =>
    if frameLen wire ≤ maxAgentFrameBytes then wire
    else match wire.body with
      | .text t =>
        if t = "" then wire
        else
          let envelope := frameLen wire - jsonLen t
          let keep := jsonPrefixWithin t (maxAgentFrameBytes - envelope)
          fitLoop frameLen whole fuel (cutToHead wire whole keep)
      | .tool tool =>
        if tool.resultPreview.isSome ∨ tool.inputPreview.isSome then
          fitLoop frameLen whole fuel (dropPreview wire tool)
        else wire
      | _ => wire

def shrinkSteps : TimelineBody → ℕ
  | .text t => t.toList.length + 1
  | .tool _ => 3
  | _ => 1

def wholeBytes (entry : TimelineEntry) : ℕ :=
  match entry.body with
  | .text t =>
    if entry.truncation.reasonCode = some truncationBodyAvailable then
      entry.truncation.originalBytes.getD (byteLen t)
    else byteLen t
  | _ => 0

def wireHead (entry : TimelineEntry) : TimelineEntry :=
  let wire := match entry.body with
    | .text t =>
      if maxTimelineTextBytes < byteLen t then { entry with body := .text (cut t maxTimelineTextBytes) }
      else entry
    | _ => entry
  if maxTimelineTextBytes < wholeBytes entry then
    cutToHead wire (wholeBytes entry) maxTimelineTextBytes
  else wire

def fitEntryToFrame (entry : TimelineEntry) (frameLen : TimelineEntry → ℕ) : TimelineEntry :=
  let wire := wireHead entry
  fitLoop frameLen (wholeBytes entry) (shrinkSteps wire.body) wire

def envelopeSlack : ℕ := 4 * 1024

def widestDelta (entry : TimelineEntry) : AgentServerFrame :=
  .sessionDelta agentProtocolVersion
    { v := agentProtocolVersion
      sessionId := String.ofList (List.replicate maxOpaqueIdBytes 's')
      snapshotEpoch := u64Max
      processGeneration := u64Max
      baseRevision := u64Max
      revision := u64Max
      changes := [.upsertEntry entry] }

def fitEntryAlone (entry : TimelineEntry) : TimelineEntry :=
  if entry.decodedBytes * 6 + envelopeSlack ≤ maxAgentFrameBytes then entry
  else fitEntryToFrame entry fun candidate => encodedFrameLen (widestDelta candidate)

namespace AgentSessionSnapshot

def withEntries (s : AgentSessionSnapshot) (entries : List TimelineEntry) : AgentSessionSnapshot :=
  { s with timelineWindow := { s.timelineWindow with entries := entries } }

def dropOldest (s : AgentSessionSnapshot) (rest : List TimelineEntry) : AgentSessionSnapshot :=
  { s with timelineWindow :=
    { s.timelineWindow with
      entries := rest
      hasOlder := true
      truncated := true
      oldestSequence := rest.head?.map TimelineEntry.sequence } }

def dropToFit (frameLen : AgentSessionSnapshot → ℕ) (s : AgentSessionSnapshot) :
    List TimelineEntry → AgentSessionSnapshot
  | [] => s
  | [newest] =>
    if frameLen s ≤ maxAgentFrameBytes then s
    else s.withEntries [fitEntryToFrame newest fun candidate => frameLen (s.withEntries [candidate])]
  | _ :: next :: rest =>
    if frameLen s ≤ maxAgentFrameBytes then s
    else dropToFit frameLen (s.dropOldest (next :: rest)) (next :: rest)

def fitWithEnvelope (s : AgentSessionSnapshot) (frameLen : AgentSessionSnapshot → ℕ) :
    AgentSessionSnapshot :=
  let entries := s.timelineWindow.entries.map fitEntryAlone
  dropToFit frameLen (s.withEntries entries) entries

def fitToFrame (s : AgentSessionSnapshot) : AgentSessionSnapshot :=
  s.fitWithEnvelope fun s => encodedFrameLen (.sessionSnapshot agentProtocolVersion s)

end AgentSessionSnapshot

end CiaoHost.Protocol
