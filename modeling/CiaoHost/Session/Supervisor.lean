import CiaoHost.Session.Rewrite
import CiaoHost.Session.Publish
import Mathlib.Data.List.MinMax

/-! The supervisor's operations on sessions that are already registered. -/

namespace CiaoHost.Session

open Protocol Lib Lib.Checks

def maxEndedVerdicts : ℕ := 256

def unavailable : String := "registered session is unavailable"

def boundVerdicts : ℕ → KeyedMap String ℕ → KeyedMap String ℕ
  | 0, ended => ended
  | fuel + 1, ended =>
    if maxEndedVerdicts < ended.entries.length then
      match ended.entries.argmin fun verdict => verdict.2 with
      | some oldest => boundVerdicts fuel (ended.erase oldest.1)
      | none => ended
    else ended

def recordEndedVerdict (ended : KeyedMap String ℕ) (sessionId : String) (now : ℕ) : KeyedMap String ℕ :=
  let ended := ended.insert sessionId now
  boundVerdicts ended.entries.length ended

namespace Supervisor

variable (sv : Supervisor)

def put (sessionId : String) (result : LiveSession × List AgentServerFrame) : Supervisor :=
  { sv with
    sessions := sv.sessions.insert sessionId result.1
    published := sv.published ++ result.2.map fun frame => (sessionId, frame) }

def putEffect (sessionId : String) (effect : Effect) : Supervisor :=
  { sv.put sessionId (effect.session, effect.frames) with metadata := effect.store }

def onSession (sessionId : String) (f : LiveSession → LiveSession × List AgentServerFrame) : Supervisor :=
  match sv.sessions.lookup sessionId with
  | none => sv
  | some s => sv.put sessionId (f s)

def withSession {α : Type} (sessionId : String)
    (f : LiveSession → (LiveSession × List AgentServerFrame) × Except String α) :
    Supervisor × Except String α :=
  match sv.sessions.lookup sessionId with
  | none => (sv, .error unavailable)
  | some s => let (result, answer) := f s; (sv.put sessionId result, answer)

def withEffect (sessionId : String) (f : LiveSession → Effect × Except String Unit) :
    Supervisor × Except String Unit :=
  match sv.sessions.lookup sessionId with
  | none => (sv, .error unavailable)
  | some s => let (effect, answer) := f s; (sv.putEffect sessionId effect, answer)

def guarded (check : Checked) (refusal : String) (act : Supervisor × Except String Unit) :
    Supervisor × Except String Unit :=
  match check with
  | .ok () => act
  | .error _ => (sv, .error refusal)

def updateBridgePermissionMode (env : Env) (sessionId mode : String) : Supervisor :=
  sv.onSession sessionId (·.updatePermissionMode env.now mode)

def updateBridgeModel (env : Env) (sessionId model : String) : Supervisor :=
  sv.onSession sessionId (·.updateModel env.now model)

def updateBridgeEffort (env : Env) (sessionId effort : String) : Supervisor :=
  sv.onSession sessionId (·.updateEffort env.now effort)

def updateBridgeModelCatalogue (env : Env) (sessionId : String) (models : List AgentModelOption) :
    Supervisor :=
  sv.onSession sessionId (·.updateModelCatalogue env.now models)

def updateBridgeCommands (env : Env) (sessionId : String) (commands : CommandCapabilities) : Supervisor :=
  sv.onSession sessionId (·.updateCommands env.now commands)

def timelineForHandover (sessionId : String) : List TimelineEntry :=
  ((sv.sessions.lookup sessionId).map (·.history)).getD []

def carryHistoryInto (sessionId : String) (history : List TimelineEntry) : Supervisor :=
  if history = [] then sv
  else { sv with carriedHistory := sv.carriedHistory.insert sessionId history }

def replaceBridgeSnapshotCovering (env : Env) (sessionId : String)
    (entries : List NormalizedTimelineEntry) (historyComplete : Option Bool) :
    Supervisor × Except String Unit :=
  if maxHostTimelineEntries < entries.length then
    (sv, .error "bridge snapshot entry count exceeds the host memory bound")
  else
    let taken := { sv with carriedHistory := sv.carriedHistory.erase sessionId }
    sv.guarded (each NormalizedTimelineEntry.validate entries) "normalized bridge entry is invalid"
      (taken.withEffect sessionId fun s =>
        s.replaceSnapshot sv.metadata env (sv.carriedHistory.lookup sessionId) entries historyComplete)

def reconcileBridgeHistory (env : Env) (sessionId : String) (processGeneration : Option ℕ)
    (authority : List NormalizedTimelineEntry) (mode : ReconcileMode) (liveOnlyPrefix : Option String)
    (scope : LiveSession.TurnScope) : Supervisor × Except String Unit :=
  if maxHostTimelineEntries < authority.length then
    (sv, .error "bridge history entry count exceeds the host memory bound")
  else
    sv.guarded (each NormalizedTimelineEntry.validate authority)
      "normalized bridge history entry is invalid"
      (sv.withEffect sessionId fun s =>
        s.reconcileHistory sv.metadata env processGeneration authority mode liveOnlyPrefix scope)

def backfillBridgeHistory (env : Env) (sessionId : String) (processGeneration : Option ℕ)
    (entries : List NormalizedTimelineEntry) (complete : Bool) (liveOnlyPrefix : Option String) :
    Supervisor × Except String Unit :=
  sv.reconcileBridgeHistory env sessionId processGeneration entries (.backfill complete) liveOnlyPrefix
    ⟨false, none⟩

def reconcileBridgeTurn (env : Env) (sessionId : String) (processGeneration : Option ℕ)
    (entries : List NormalizedTimelineEntry) (liveOnlyPrefix : Option String)
    (scope : LiveSession.TurnScope) : Supervisor × Except String Unit :=
  sv.reconcileBridgeHistory env sessionId processGeneration entries (.turn false none) liveOnlyPrefix
    scope

def upsertBridgeEntry (env : Env) (sessionId : String) (entry : NormalizedTimelineEntry) :
    Supervisor × Except String Unit :=
  sv.guarded entry.validate "normalized bridge entry is invalid"
    (sv.withSession sessionId fun s => (s.upsertEntry env.now (env.ids 0) entry, .ok ()))

def appendBridgeText (env : Env) (sessionId : String) (delta : NormalizedTextDelta) :
    Supervisor × Except String Unit :=
  sv.guarded delta.validate "normalized adapter text delta is invalid"
    (sv.withSession sessionId fun s => s.appendText env.now (env.ids 0) delta)

def upsertBridgeInteraction (env : Env) (sessionId : String) (interaction : PendingInteraction) :
    Supervisor × Except String Unit :=
  sv.guarded interaction.validate "normalized bridge interaction is invalid"
    (sv.withSession sessionId fun s => s.upsertInteraction env.now interaction)

def resolveBridgeInteraction (env : Env) (sessionId interactionId resolution : String) :
    Supervisor × Except String Unit :=
  sv.guarded (do validOpaqueId interactionId; validToken resolution)
    "normalized bridge resolution is invalid"
    (sv.withSession sessionId fun s => (s.resolveInteraction env.now interactionId resolution, .ok ()))

def noteBridgeTurn (env : Env) (sessionId : String) (turn : TurnState) :
    Supervisor × Except String Bool :=
  sv.withSession sessionId fun s => (s.noteTurn env.now turn, .ok (s.snapshot.turn ≠ turn))

inductive AttentionKind where
  | latches
  | reportsIdle
  | informational
  | unrecognized
  deriving DecidableEq, Repr

def classifyAttentionKind (kind : String) : AttentionKind :=
  if kind = "permission_prompt" ∨ kind = "agent_needs_input" then .latches
  else if kind = "idle_prompt" then .reportsIdle
  else if kind = "auth_success" ∨ kind = "agent_completed" ∨ kind = "unspecified" then .informational
  else .unrecognized

def noteBridgeAttention (env : Env) (sessionId kind : String) : Supervisor × Except String Unit :=
  match classifyAttentionKind kind with
  | .latches => sv.withSession sessionId fun s => (s.latchAttention env.now, .ok ())
  | .reportsIdle => sv.withSession sessionId fun s => (s.idleReport env.now, .ok ())
  | .informational | .unrecognized => (sv, .ok ())

def expireStaleTurnClaims (env : Env) : Supervisor :=
  { sv with
    sessions := sv.sessions.mapValues fun s => (s.expireTurnClaim env.now).1
    published := sv.published ++ sv.sessions.entries.flatMap fun entry =>
      (entry.2.expireTurnClaim env.now).2.map fun frame => (entry.1, frame) }

def snapshot (sessionId : String) : Option AgentSessionSnapshot :=
  (sv.sessions.lookup sessionId).map fun s => s.snapshot.fitToFrame

def removeSession (now : ℕ) (sessionId : String) : Supervisor :=
  match sv.sessions.lookup sessionId with
  | none => sv
  | some old =>
    { sv with
      sessions := sv.sessions.erase sessionId
      routes := old.routeId.elim sv.routes sv.routes.erase
      ended := recordEndedVerdict sv.ended sessionId now }

def removeTerminalBindingIfCurrent (env : Env) (sessionId : String) (binding : TerminalBinding) :
    Supervisor :=
  if (sv.sessions.lookup sessionId).any (·.terminalBinding = some binding) then
    sv.removeSession env.now sessionId
  else sv

def sweepDeadSessions (env : Env) : Supervisor :=
  ((sv.sessions.entries.filter fun entry => ¬ env.processExists entry.2.processId).map
    (·.1)).foldl (removeSession · env.now) sv

end Supervisor

end CiaoHost.Session
