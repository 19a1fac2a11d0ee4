import CiaoHost.Session.Input
import CiaoHost.Lib.KeyedMap

/-! Codex thread items as timeline rows: streamed by an adopted conversation, and read back from
its record (codex_adopted.rs, codex_history.rs, hook_common.rs). -/

namespace CiaoHost.Codex

open Protocol Session Lib Lib.Checks Lib.Text

def maxHistoryEntries : ℕ := 4096

/-- A vendor document: its bounded preview under a limit, and its encoded size. -/
structure Document where
  preview : ℕ → Option String × Bool
  encodedLen : ℕ

/-- The fields of an item that the two mappers read; `request` is its command, else its query. -/
structure ThreadItem where
  id : Option String
  kind : Option String
  content : List String
  text : Option String
  request : Option Document
  aggregatedOutput : Option Document
  status : Option String
  whole : Document
  functionOutput : Bool → Option (ToolTimelineBody × Truncation)

structure ThreadTurn where
  id : Option String
  startedAt : Option ℕ
  items : List ThreadItem

def noTruncation : Truncation := ⟨false, none, none⟩

def boundedText (value : String) (maximumBytes : ℕ) : String × Truncation :=
  if byteLen value ≤ maximumBytes then (value, noTruncation)
  else (cut value maximumBytes, ⟨true, some "adapter_bound", some (byteLen value)⟩)

def boundedPreview (document : Option Document) (limit : ℕ) : Option String × Bool :=
  document.elim (none, false) (·.preview limit)

def previewTruncation (clipped : Bool) (documents : List (Option Document)) : Truncation :=
  if clipped then
    ⟨true, some "preview_bounded", some ((documents.reduceOption.map Document.encodedLen).sum)⟩
  else noTruncation

def contentText (item : ThreadItem) : String := "\n".intercalate item.content

def toolKinds : List String :=
  ["commandExecution", "fileChange", "mcpToolCall", "dynamicToolCall", "collabAgentToolCall", "webSearch"]

section

-- the keyed hash of a domain, a namespace and a value
variable (keyedDigest : String → String → String → String)

def codexAdoptedDomain : String := "ciao-codex-adopted-v1\x00"
def codexHistoryDomain : String := "ciao-codex-history-v1\x00"
def codexDigestDomain : String := "ciao-codex-hook-v1\x00"

def codexRunId (turnId : String) : String := "codex.turn." ++ keyedDigest codexDigestDomain "turn" turnId

def promptSourceId (turnId : String) : String := "codex.prompt." ++ keyedDigest codexDigestDomain "prompt" turnId

def codexConversationSessionId (threadId : String) : String :=
  "codex-adopted-" ++ keyedDigest codexAdoptedDomain "conversation" threadId

def entrySourceId (itemId : String) : String := "codex.item." ++ keyedDigest codexAdoptedDomain "item" itemId

def historySourceId (kind turnId itemId : String) (index : ℕ) : String :=
  "codex.history." ++ keyedDigest codexHistoryDomain kind (turnId ++ "\x00" ++ itemId ++ "\x00" ++ toString index)

def nextRevision (revisions : KeyedMap String ℕ) (sourceId : String) : KeyedMap String ℕ × ℕ :=
  let revision := (revisions.lookup sourceId).getD 0 + 1
  (revisions.insert sourceId revision, revision)

def liveToolName : String → String
  | "commandExecution" => "shell"
  | "fileChange" => "apply_patch"
  | "webSearch" => "web_search"
  | other => other

def liveToolBody (item : ThreadItem) (kind : String) (complete : Bool) : TimelineBody × Truncation :=
  let (inputPreview, inputTruncated) := boundedPreview item.request maxToolInputPreviewBytes
  let (resultPreview, resultTruncated) :=
    if complete then boundedPreview item.aggregatedOutput maxToolResultPreviewBytes else (none, false)
  let status := if complete then (if item.status = some "failed" then "failed" else "completed") else "running"
  (.tool ⟨liveToolName kind, status, inputPreview, resultPreview⟩,
    previewTruncation (inputTruncated || resultTruncated)
      [item.request, if complete then item.aggregatedOutput else none])

def liveItemBody (item : ThreadItem) (kind : String) (complete : Bool) : Option (String × TimelineBody × Truncation) :=
  match kind, if kind = "functionCallOutput" then item.functionOutput complete else none with
  | _, some (tool, truncation) => some ("tool", .tool tool, truncation)
  | kind, none =>
    if kind = "userMessage" then
      let text := if contentText item = "" then item.text.getD "" else contentText item
      let (text, truncation) := boundedText text maxRetainedTextBytes
      some ("user_message", .text text, truncation)
    else if kind = "agentMessage" then
      if complete then
        let (text, truncation) := boundedText (item.text.getD "") maxRetainedTextBytes
        some ("assistant_message", .text text, truncation)
      else none
    else if kind ∈ toolKinds then some ("tool", liveToolBody item kind complete)
    else some ("unsupported", .unsupported "codex_item_unsupported", noTruncation)

def liveItemEntry (revisions : KeyedMap String ℕ) (item : ThreadItem) (complete : Bool) (now : ℕ) :
    KeyedMap String ℕ × Option NormalizedTimelineEntry :=
  match item.id with
  | none => (revisions, none)
  | some itemId =>
    let sourceId := entrySourceId keyedDigest itemId
    let (revisions, revision) := nextRevision revisions sourceId
    (revisions, do
      let kind ← item.kind
      let (kind, body, truncation) ← liveItemBody item kind complete
      some ⟨sourceId, revision, now, if complete then "complete" else "streaming", kind, body, truncation⟩)

def historyItemBody (item : ThreadItem) (kind : String) : String × TimelineBody × Truncation :=
  match if kind = "functionCallOutput" then item.functionOutput true else none with
  | some (tool, truncation) => ("tool", .tool tool, truncation)
  | none =>
    if kind = "userMessage" then
      let (text, truncation) := boundedText (contentText item) maxRetainedTextBytes
      ("user_message", .text text, truncation)
    else if kind = "agentMessage" then
      let (text, truncation) := boundedText (item.text.getD "") maxRetainedTextBytes
      ("assistant_message", .text text, truncation)
    else if kind ∈ toolKinds then
      let (inputPreview, clipped) := boundedPreview (some item.whole) maxToolInputPreviewBytes
      ("tool", .tool ⟨kind, "completed", inputPreview, none⟩, previewTruncation clipped [some item.whole])
    else ("unsupported", .unsupported "codex_history_item", noTruncation)

def mapItem (item : ThreadItem) (turnId : String) (index timestamp : ℕ) : Option NormalizedTimelineEntry := do
  let itemKind ← item.kind
  let (kind, body, truncation) := historyItemBody item itemKind
  let entry : NormalizedTimelineEntry :=
    ⟨historySourceId keyedDigest itemKind turnId (item.id.getD "") index, 1, timestamp, "complete", kind, body, truncation⟩
  if entry.validate = .ok () then some entry else none

def mapItems (turnId : String) (timestamp : ℕ) :
    List NormalizedTimelineEntry → List ThreadItem → List NormalizedTimelineEntry
  | entries, [] => entries
  | entries, item :: rest =>
    match mapItem keyedDigest item turnId entries.length timestamp with
    | some entry => mapItems turnId timestamp (entries ++ [entry]) rest
    | none => mapItems turnId timestamp entries rest

structure ThreadHistory where
  entries : List NormalizedTimelineEntry
  complete : Bool
  liveTurnPrompt : Option String

def mapTurns (liveRunId : String) : List NormalizedTimelineEntry × Option String → List ThreadTurn →
    List NormalizedTimelineEntry × Option String
  | mapped, [] => mapped
  | (entries, prompt), turn :: rest =>
    let turnId := turn.id.getD ""
    -- the turn that the live tail owns is left to it
    if codexRunId keyedDigest turnId = liveRunId then
      mapTurns liveRunId (entries, some (promptSourceId keyedDigest turnId)) rest
    else
      mapTurns liveRunId (mapItems keyedDigest turnId (max (turn.startedAt.getD 1) 1) entries turn.items, prompt) rest

/-- `turns` is `none` when the response is not a thread. -/
def mapThreadHistory (turns : Option (List ThreadTurn)) (liveRunId : String) : ThreadHistory :=
  let (entries, prompt) := mapTurns keyedDigest liveRunId ([], none) (turns.getD [])
  if maxHistoryEntries < entries.length then ⟨entries.drop (entries.length - maxHistoryEntries), false, prompt⟩
  else ⟨entries, turns.isSome, prompt⟩

end

end CiaoHost.Codex
