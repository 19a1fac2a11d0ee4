import CiaoHost.Session.Run

/-! What an adapter's dialect can say and be told, and what one of its events does to the
supervisor (agent_adapter.rs, agent_bridge.rs). -/

namespace CiaoHost.Bridge

open Protocol Session Lib Lib.Checks Lib.Saturating

def maxAdapterSnapshotBytes : ℕ := 4 * 1024 * 1024
def maxAdapterSnapshotEntries : ℕ := 4096

inductive Codec where
  | pi
  | claude
  | claudeManaged
  | codex
  deriving DecidableEq, Repr

inductive WhereaboutsDelivery where
  | hookAcknowledgement
  | bridgeQuery
  | promptCommand
  deriving DecidableEq, Repr

namespace Codec

def isTransient : Codec → Bool
  | claude | codex => true
  | pi | claudeManaged => false

def requiresTuiProcess : Codec → Bool
  | claude | codex => true
  | pi | claudeManaged => false

def whereaboutsDelivery : Codec → WhereaboutsDelivery
  | pi => .bridgeQuery
  | claudeManaged => .promptCommand
  | claude | codex => .hookAcknowledgement

def pinnedEffortLevels : List String := ["low", "medium", "high", "xhigh", "max"]

def mapsCommand : Codec → AgentCommand → Bool
  | claude, _ | codex, _ => false
  | pi, command =>
    command.validate = .ok () &&
      match command.kind with
      | .prompt _ | .steer _ | .followUp _ | .interrupt => true
      | .interactionResponse .. | .setPermissionMode _ | .setModel _ | .setEffort _ | .unknown => false
  | claudeManaged, command =>
    match command.kind with
    | .prompt _ | .interrupt | .setPermissionMode _ | .setModel _ => true
    | .interactionResponse _ _ (.choices choiceIds) => choiceIds.length = 1
    | .interactionResponse _ _ (.questions _) => true
    | .interactionResponse .. => false
    | .setEffort effort => effort ∈ pinnedEffortLevels
    | .steer _ | .followUp _ | .unknown => false

def notes (codec : Codec) (command : AgentCommand) : Bool :=
  codec.whereaboutsDelivery = .promptCommand &&
    match command.kind with
    | .prompt _ | .steer _ | .followUp _ => true
    | _ => false

end Codec

inductive AdapterEvent where
  | registration
  | snapshotStart
  | snapshotEntry (entry : NormalizedTimelineEntry)
  | snapshotEnd (historyComplete : Option Bool)
  | upsertEntry (entry : NormalizedTimelineEntry)
  | appendText (delta : NormalizedTextDelta)
  | heartbeat
  | contextReset
  | whereaboutsQuery (queryId : String)
  | sessionEnded
  | commandCapabilities (commands : CommandCapabilities)
  | permissionMode (mode : String)
  | model (model : String)
  | effort (effort : String)
  | modelCatalogue (models : List AgentModelOption)
  | commandReceipt (commandId state : String) (evidence reasonCode : Option String)
  | vendorSession (vendorSessionId : String)
  | turn (turn : TurnState)
  | upsertInteraction (interaction : PendingInteraction)
  | resolveInteraction (interactionId resolution : String)
  | shutdown (processExited : Bool)
  | notification (kind : String)
  | unknown

/-- What a bridge keeps between events: the snapshot being paged in, the count of frames it could
not name, and the query it owes an answer. -/
structure EventContext where
  snapshotEntries : List NormalizedTimelineEntry
  snapshotBytes : ℕ
  snapshotOpen : Bool
  unknownSequence : ℕ
  reply : Option String

def EventContext.start : EventContext := ⟨[], 0, false, 0, none⟩

inductive EventOutcome where
  | proceed
  | finish (processExited : Bool)
  deriving DecidableEq, Repr

def unsupportedEntry (sequence now : ℕ) : NormalizedTimelineEntry where
  sourceId := "unsupported:" ++ toString sequence
  sourceRevision := 1
  timestamp := now
  state := "complete"
  kind := "unsupported"
  body := .unsupported "unknown_adapter_event"
  truncation := ⟨false, none, none⟩

structure Applied where
  supervisor : Supervisor
  context : EventContext
  outcome : Except String EventOutcome

namespace Applied

def answered {α : Type} (context : EventContext) (result : Supervisor × Except String α) : Applied :=
  ⟨result.1, context, result.2.map fun _ => .proceed⟩

def refused (sv : Supervisor) (context : EventContext) (message : String) : Applied := ⟨sv, context, .error message⟩

def proceeds (sv : Supervisor) (context : EventContext) : Applied := ⟨sv, context, .ok .proceed⟩

end Applied

def outOfOrder : String := "agent bridge frame order was invalid"

/-- `apply_adapter_event`: timeline content waits for an open snapshot to end, session facts do not. -/
def applyAdapterEvent (codec : Codec) (sv : Supervisor) (env : Env) (sessionId : String) (ctx : EventContext) :
    AdapterEvent → Applied
  | .registration => .refused sv ctx "agent bridge registered twice"
  | .snapshotStart => .proceeds sv { ctx with snapshotEntries := [], snapshotBytes := 0, snapshotOpen := true }
  | .snapshotEntry entry =>
    if ¬ ctx.snapshotOpen then .refused sv ctx outOfOrder
    else
      let bytes := ctx.snapshotBytes + entry.body.decodedBytes
      if maxAdapterSnapshotBytes < bytes ∨ maxAdapterSnapshotEntries ≤ ctx.snapshotEntries.length then
        .refused sv { ctx with snapshotBytes := bytes } "agent bridge snapshot exceeded its bound"
      else .proceeds sv { ctx with snapshotEntries := ctx.snapshotEntries ++ [entry], snapshotBytes := bytes }
  | .snapshotEnd historyComplete =>
    if ¬ ctx.snapshotOpen then .refused sv ctx outOfOrder
    else
      .answered { ctx with snapshotEntries := [], snapshotOpen := false }
        (sv.replaceBridgeSnapshotCovering env sessionId ctx.snapshotEntries historyComplete)
  | .upsertEntry entry =>
    if ctx.snapshotOpen then .refused sv ctx outOfOrder
    else .answered ctx (sv.upsertBridgeEntry env sessionId entry)
  | .appendText delta =>
    if ctx.snapshotOpen then .refused sv ctx outOfOrder
    else .answered ctx (sv.appendBridgeText env sessionId delta)
  | .heartbeat | .contextReset => if ctx.snapshotOpen then .refused sv ctx outOfOrder else .proceeds sv ctx
  | .whereaboutsQuery queryId =>
    if codec.whereaboutsDelivery ≠ .bridgeQuery then
      .refused sv ctx "agent bridge asked for whereabouts it does not query for"
    else if validOpaqueId queryId ≠ .ok () then .refused sv ctx "agent value violates a protocol bound"
    else .proceeds sv { ctx with reply := some queryId }
  | .turn turn => .answered ctx (sv.noteBridgeTurn env sessionId turn)
  | .commandCapabilities commands => .proceeds (sv.updateBridgeCommands env sessionId commands) ctx
  | .permissionMode mode => .proceeds (sv.updateBridgePermissionMode env sessionId mode) ctx
  | .model model => .proceeds (sv.updateBridgeModel env sessionId model) ctx
  | .effort effort => .proceeds (sv.updateBridgeEffort env sessionId effort) ctx
  | .modelCatalogue models => .proceeds (sv.updateBridgeModelCatalogue env sessionId models) ctx
  | .commandReceipt commandId state evidence reasonCode =>
    .proceeds (sv.recordBridgeReceipt env sessionId commandId state evidence reasonCode).1 ctx
  | .vendorSession _ => .proceeds sv ctx
  | .upsertInteraction interaction => .answered ctx (sv.upsertBridgeInteraction env sessionId interaction)
  | .resolveInteraction interactionId resolution =>
    .answered ctx (sv.resolveBridgeInteraction env sessionId interactionId resolution)
  | .sessionEnded => ⟨sv, ctx, .ok (.finish false)⟩
  | .shutdown processExited => ⟨sv, ctx, .ok (.finish processExited)⟩
  | .notification kind => .proceeds (sv.noteBridgeAttention env sessionId kind).1 ctx
  | .unknown =>
    if ctx.snapshotOpen then .refused sv ctx outOfOrder
    else
      let sequence := max (bump ctx.unknownSequence) 1
      .answered { ctx with unknownSequence := sequence }
        (sv.upsertBridgeEntry env sessionId (unsupportedEntry sequence env.now))

end CiaoHost.Bridge
