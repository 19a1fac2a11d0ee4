import CiaoHost.Protocol.Reducer
import CiaoHost.Lib.JsonSize

/-! The number of bytes serde_json writes for each value of the protocol. -/

namespace CiaoHost.Protocol

open Lib.JsonSize

def Observation.size (o : Observation) : ℕ :=
  obj ([("coverage", str o.coverage), ("reason_code", str o.reasonCode)] ++
    opt "last_authoritative_at" (o.lastAuthoritativeAt.map num))

def CommandCapabilities.size (c : CommandCapabilities) : ℕ :=
  obj [("prompt", bool c.prompt), ("steer", bool c.steer), ("follow_up", bool c.followUp),
    ("interrupt", bool c.interrupt), ("permission_mode", bool c.permissionMode),
    ("model", bool c.model), ("effort", bool c.effort)]

def InteractionCapability.size (c : InteractionCapability) : ℕ :=
  obj [("enabled", bool c.enabled), ("max_questions", num c.maxQuestions),
    ("max_options_per_question", num c.maxOptionsPerQuestion),
    ("allows_free_text", bool c.allowsFreeText)]

def InteractionCapabilities.size (c : InteractionCapabilities) : ℕ :=
  obj [("permission", c.permission.size), ("question", c.question.size),
    ("plan_decision", c.planDecision.size), ("review_decision", c.reviewDecision.size),
    ("elicitation", c.elicitation.size), ("generic_choice", c.genericChoice.size)]

def AgentCapabilities.size (c : AgentCapabilities) : ℕ :=
  obj [("history", str c.history), ("commands", c.commands.size),
    ("interactions", c.interactions.size), ("pending_rehydration", str c.pendingRehydration),
    ("terminal_continuity", str c.terminalContinuity)]

def TerminalFallback.size (f : TerminalFallback) : ℕ :=
  obj ([("continuity", str f.continuity)] ++ opt "route_id" (f.routeId.map str) ++
    opt "availability_reason" (f.availabilityReason.map str) ++
    opt "handback_session" (f.handbackSession.map str) ++
    opt "resume_command" (f.resumeCommand.map str))

def TurnState.size : TurnState → ℕ
  | idle => obj [("state", str "idle")]
  | running runId activity =>
    obj [("state", str "running"), ("run_id", str runId), ("activity", str activity)]
  | awaitingInteraction runId =>
    obj ([("state", str "awaiting_interaction")] ++ opt "run_id" (runId.map str))
  | stopping runId => obj [("state", str "stopping"), ("run_id", str runId)]
  | completed runId => obj ([("state", str "completed")] ++ opt "run_id" (runId.map str))
  | interrupted runId => obj ([("state", str "interrupted")] ++ opt "run_id" (runId.map str))
  | failed runId category =>
    obj ([("state", str "failed")] ++ opt "run_id" (runId.map str) ++ [("category", str category)])
  | unknown reasonCode => obj [("state", str "unknown"), ("reason_code", str reasonCode)]
  | unsupported => obj [("state", str "unsupported")]

def AgentModelOption.size (m : AgentModelOption) : ℕ :=
  obj ([("value", str m.value), ("display_name", str m.displayName),
      ("supports_effort", bool m.supportsEffort)] ++
    if m.supportedEffortLevels = [] then []
    else [("supported_effort_levels", arr (m.supportedEffortLevels.map str))])

def ToolTimelineBody.size (t : ToolTimelineBody) : ℕ :=
  obj ([("name", str t.name), ("status", str t.status)] ++
    opt "input_preview" (t.inputPreview.map str) ++ opt "result_preview" (t.resultPreview.map str))

def TimelineBody.size : TimelineBody → ℕ
  | text t => obj [("type", str "text"), ("text", str t)]
  | tool t => obj [("type", str "tool"), ("tool", t.size)]
  | unsupported reasonCode => obj [("type", str "unsupported"), ("reason_code", str reasonCode)]
  | unknown => obj [("type", str "unknown")]

def Truncation.size (t : Truncation) : ℕ :=
  obj ([("truncated", bool t.truncated)] ++ opt "reason_code" (t.reasonCode.map str) ++
    opt "original_bytes" (t.originalBytes.map num))

def TimelineEntry.size (e : TimelineEntry) : ℕ :=
  obj [("entry_id", str e.entryId), ("entry_revision", num e.entryRevision),
    ("sequence", num e.sequence), ("timestamp", num e.timestamp), ("state", str e.state),
    ("kind", str e.kind), ("body", e.body.size), ("truncation", e.truncation.size)]

def TimelineWindow.size (w : TimelineWindow) : ℕ :=
  obj ([("entries", arr (w.entries.map TimelineEntry.size)), ("has_older", bool w.hasOlder)] ++
    opt "history_boundary" (w.historyBoundary.map str) ++
    opt "oldest_sequence" (w.oldestSequence.map num) ++
    opt "newest_sequence" (w.newestSequence.map num) ++ [("truncated", bool w.truncated)])

def ResponseChoice.size (c : ResponseChoice) : ℕ :=
  obj ([("choice_id", str c.choiceId), ("label", str c.label)] ++
    opt "description" (c.description.map str) ++ opt "scope" (c.scope.map str))

def CanonicalQuestion.size (q : CanonicalQuestion) : ℕ :=
  obj ([("question_id", str q.questionId), ("prompt", str q.prompt),
      ("response_kind", str q.responseKind), ("required", bool q.required)] ++
    opt "header" (q.header.map str) ++ [("options", arr (q.options.map ResponseChoice.size))] ++
    opt "max_text_bytes" (q.maxTextBytes.map num))

def ResponseSchema.size : ResponseSchema → ℕ
  | .choices minimum maximum offered =>
    obj [("type", str "choices"), ("minimum", num minimum), ("maximum", num maximum),
      ("choices", arr (offered.map ResponseChoice.size))]
  | .questions asked =>
    obj [("type", str "questions"), ("questions", arr (asked.map CanonicalQuestion.size))]
  | .freeText maximumBytes => obj [("type", str "free_text"), ("maximum_bytes", num maximumBytes)]
  | .unsupported => obj [("type", str "unsupported")]
  | .unknown => obj [("type", str "unknown")]

def PendingInteraction.size (i : PendingInteraction) : ℕ :=
  obj ([("interaction_id", str i.interactionId), ("interaction_revision", num i.interactionRevision),
      ("kind", str i.kind), ("blocking", bool i.blocking), ("created_at", num i.createdAt)] ++
    opt "expires_at" (i.expiresAt.map num) ++ opt "title" (i.title.map str) ++
    [("body", str i.body), ("response_schema", i.responseSchema.size),
      ("terminal_fallback", i.terminalFallback.size), ("state", str i.state)])

def CommandReceipt.size (r : CommandReceipt) : ℕ :=
  obj ([("command_id", str r.commandId), ("session_id", str r.sessionId),
      ("process_generation", num r.processGeneration), ("snapshot_epoch", num r.snapshotEpoch),
      ("state", str r.state), ("updated_at", num r.updatedAt)] ++
    opt "reason_code" (r.reasonCode.map str) ++
    opt "application_evidence" (r.applicationEvidence.map str))

def DriftNote.size (d : DriftNote) : ℕ :=
  obj ([("state", str d.state), ("vendor_version", str d.vendorVersion), ("tested", str d.tested),
    ("gaps", num d.gaps)] ++ opt "fix" (d.fix.map str))

def AgentAdapterMetadata.size (a : AgentAdapterMetadata) : ℕ :=
  obj [("family", str a.family), ("version", str a.version), ("compatibility", str a.compatibility)]

def AgentSessionSnapshot.size (s : AgentSessionSnapshot) : ℕ :=
  obj ([("v", num s.v), ("session_id", str s.sessionId), ("snapshot_epoch", num s.snapshotEpoch),
      ("revision", num s.revision), ("process_generation", num s.processGeneration),
      ("adapter", s.adapter.size), ("topology", str s.topology), ("presence", str s.presence)] ++
    opt "stored_reason" (s.storedReason.map str) ++
    [("control_owner", str s.controlOwner), ("observation", s.observation.size),
      ("turn", s.turn.size)] ++
    opt "permission_mode" (s.permissionMode.map str) ++ opt "model" (s.model.map str) ++
    opt "effort" (s.effort.map str) ++
    opt "models" (s.models.map fun models => arr (models.map AgentModelOption.size)) ++
    opt "drift" (s.drift.map DriftNote.size) ++
    [("capabilities", s.capabilities.size),
      ("pending_interactions", arr (s.pendingInteractions.map PendingInteraction.size)),
      ("timeline_window", s.timelineWindow.size), ("terminal_fallback", s.terminalFallback.size),
      ("latest_command_receipts", arr (s.latestCommandReceipts.map CommandReceipt.size))])

def AgentDeltaChange.size : AgentDeltaChange → ℕ
  | .upsertEntry entry => obj [("type", str "upsert_entry"), ("entry", entry.size)]
  | .observation reported => obj [("type", str "observation"), ("observation", reported.size)]
  | .turn reported => obj [("type", str "turn"), ("turn", reported.size)]
  | .capabilities offered => obj [("type", str "capabilities"), ("capabilities", offered.size)]
  | .permissionMode mode => obj [("type", str "permission_mode"), ("permission_mode", str mode)]
  | .model value => obj [("type", str "model"), ("model", str value)]
  | .effort level => obj [("type", str "effort"), ("effort", str level)]
  | .modelCatalogue models =>
    obj [("type", str "model_catalogue"), ("models", arr (models.map AgentModelOption.size))]
  | .terminalFallback fallback =>
    obj [("type", str "terminal_fallback"), ("terminal_fallback", fallback.size)]
  | .upsertInteraction interaction =>
    obj [("type", str "upsert_interaction"), ("interaction", interaction.size)]
  | .removeInteraction interactionId resolution =>
    obj [("type", str "remove_interaction"), ("interaction_id", str interactionId),
      ("resolution", str resolution)]
  | .commandReceipt receipt => obj [("type", str "command_receipt"), ("receipt", receipt.size)]
  | .unknown => obj [("type", str "unknown")]

def AgentSessionDelta.size (d : AgentSessionDelta) : ℕ :=
  obj [("v", num d.v), ("session_id", str d.sessionId), ("snapshot_epoch", num d.snapshotEpoch),
    ("process_generation", num d.processGeneration), ("base_revision", num d.baseRevision),
    ("revision", num d.revision), ("changes", arr (d.changes.map AgentDeltaChange.size))]

inductive AgentServerFrame where
  | sessionSnapshot (v : ℕ) (snapshot : AgentSessionSnapshot)
  | sessionDelta (v : ℕ) (delta : AgentSessionDelta)
  | commandReceipt (v : ℕ) (receipt : CommandReceipt)
  | resyncRequired (v : ℕ) (sessionId reasonCode : String)
  deriving DecidableEq, Repr

def AgentServerFrame.isDelta : AgentServerFrame → Bool
  | .sessionDelta .. => true
  | _ => false

def AgentServerFrame.isResync : AgentServerFrame → Bool
  | .resyncRequired .. => true
  | _ => false

def encodedFrameLen : AgentServerFrame → ℕ
  | .sessionSnapshot v snapshot =>
    obj [("type", str "session_snapshot"), ("v", num v), ("snapshot", snapshot.size)]
  | .sessionDelta v delta => obj [("type", str "session_delta"), ("v", num v), ("delta", delta.size)]
  | .commandReceipt v receipt =>
    obj [("type", str "command_receipt"), ("v", num v), ("receipt", receipt.size)]
  | .resyncRequired v sessionId reasonCode =>
    obj [("type", str "resync_required"), ("v", num v), ("session_id", str sessionId),
      ("reason_code", str reasonCode)]

end CiaoHost.Protocol
