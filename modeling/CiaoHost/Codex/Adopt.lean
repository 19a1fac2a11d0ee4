import CiaoHost.Codex.Adoptions
import CiaoHost.Codex.Versions

/-! Picking a conversation up: `adopt` in codex_adopted.rs, cut where it waits for the vendor or
touches what it shares with others. -/

namespace CiaoHost.Codex

open Protocol Session Lib Lib.Checks

def adoptedCompatible (version : String) : Bool :=
  versionMajorMatches version pinnedCodexVersion || (parseVersion version).isNone

def firstCodexWithTurnContext : ℕ × ℕ × ℕ := (0, 163, 0)

def atLeast (version other : ℕ × ℕ × ℕ) : Bool :=
  other.1 < version.1 || (other.1 = version.1 &&
    (other.2.1 < version.2.1 || (other.2.1 = version.2.1 && other.2.2 ≤ version.2.2)))

def carriesWhereabouts (version : String) : Bool :=
  (parseVersion version).any (atLeast · firstCodexWithTurnContext)

/-! What the vendor offers. -/

structure ModelRow where
  hidden : Option Bool
  id : Option String
  displayName : Option String
  supportedReasoningEfforts : Option (List (Option String))

def modelOption (row : ModelRow) : Option AgentModelOption := do
  let value ← row.id
  let levels := (row.supportedReasoningEfforts.getD []).filterMap id
  let option : AgentModelOption := ⟨value, row.displayName.getD value, levels ≠ [], levels⟩
  if option.validate = .ok () then some option else none

/-- `data` is `none` when the answer has no list. -/
def catalogueFromModelList (data : Option (List ModelRow)) : List AgentModelOption :=
  (((data.getD []).filter fun row => !row.hidden.getD false).filterMap modelOption).take maxModelCatalogueEntries

def modelSurface (model effort : Option String) (data : Option (List ModelRow)) : ModelSurface where
  current := model.filter (validModelId · = .ok ())
  effort := effort.filter (validToken · = .ok ())
  catalogue := catalogueFromModelList data

structure AdoptParams where
  threadId : String
  workspaceDisplay : String
  adapterVersion : String

inductive AdoptRefusal where
  | alreadyPickedUp
  | noContent
  | terminalHolds
  | vendor
  deriving DecidableEq, Repr

def AdoptRefusal.reasonCode : AdoptRefusal → String
  | alreadyPickedUp => "already_live"
  | noContent => "no_content"
  | terminalHolds => "terminal_holds_conversation"
  | vendor => "adoption_failed"

section

variable (keyedDigest : String → String → String → String) (daemon : ℕ)

def adoptedCapabilities (compatible : Bool) (models : ModelSurface) : AgentCapabilities where
  history := "live_tail"
  commands :=
    if compatible then
      ⟨true, true, false, true, false, models.catalogue ≠ [], models.catalogue.any (·.supportsEffort)⟩
    else .none
  interactions := if compatible then { InteractionCapabilities.none with permission := ⟨true, 1, 4, false⟩ } else .none
  pendingRehydration := if compatible then "current_process" else "none"
  terminalContinuity := "unavailable"

def adoptedRegistration (params : AdoptParams) (models : ModelSurface) (now : ℕ) : NormalizedRegistration :=
  let compatible := adoptedCompatible params.adapterVersion
  { historyBoundary := none
    upstreamIdentity := codexConversationSessionId keyedDigest params.threadId
    processNonce := keyedDigest codexAdoptedDomain "nonce" params.threadId
    processId := daemon
    terminalBinding := none
    adapterFamily := "Codex"
    adapterVersion := params.adapterVersion
    topology := "adopted"
    compatible := compatible
    versionState := if compatible then "grounded" else "unsupported"
    testedVersion := pinnedCodexVersion
    workspaceDisplay := params.workspaceDisplay
    observation :=
      ⟨"authoritative", if compatible then "adopted_stream" else "adapter_version_unsupported", some now⟩
    turn := .idle
    capabilities := adoptedCapabilities compatible models
    controlOwner := "none" }

inductive AdoptPhase where
  | probing
  | connecting
  | resuming (childPid : Option ℕ)
  | listing (childPid : Option ℕ) (history : ThreadHistory) (model effort : Option String)
  | registering (childPid : Option ℕ) (history : ThreadHistory) (models : ModelSurface) (r : NormalizedRegistration)
  | filling (childPid : Option ℕ) (history : ThreadHistory) (models : ModelSurface)
      (registered : RegisteredAgentSession)
  | publishing (childPid : Option ℕ) (models : ModelSurface) (registered : RegisteredAgentSession) (ops : List Op)
  | refused (refusal : AdoptRefusal)
  | adopted (sessionId : String)

namespace AdoptPhase

def inProgress : AdoptPhase → Bool
  | refused _ | adopted _ => false
  | _ => true

def registered : AdoptPhase → Option RegisteredAgentSession
  | filling _ _ _ registered | publishing _ _ registered _ => some registered
  | _ => none

end AdoptPhase

structure AdoptCall where
  params : AdoptParams
  phase : AdoptPhase

inductive AdoptSignal where
  | holders (sample : HolderSample)
  | connected (childPid : Option ℕ)
  | resumed (turns : Option (List ThreadTurn)) (model effort : Option String)
  | failed
  | modelList (data : Option (List ModelRow))
  | proceed

inductive AdoptEffect where
  | supervisor (op : Op)
  | claim (threadId : String) (childPid : Option ℕ) (h : Hold)

def surfaceUpdates (sessionId : String) (models : ModelSurface) : List Op :=
  (models.current.map (Op.updateModel sessionId)).toList ++ (models.effort.map (Op.updateEffort sessionId)).toList ++
    if models.catalogue = [] then [] else [.updateModelCatalogue sessionId models.catalogue]

def fillOp (registered : RegisteredAgentSession) (history : ThreadHistory) : Op :=
  .backfill registered.sessionId (some registered.processGeneration) history.entries history.complete none

/-- One wake of a call; `channel` names the command channel it makes. -/
def AdoptCall.wake (a : Adoptions) (channel : ℕ) (env : Env) (params : AdoptParams) :
    AdoptPhase → AdoptSignal → AdoptPhase × Option AdoptEffect
  | .probing, .holders (.error _) => (.refused .vendor, none)
  | .probing, .holders (.ok []) => (.connecting, none)
  | .probing, .holders (.ok (_ :: _)) => (.refused .terminalHolds, none)
  | .connecting, .connected childPid => (.resuming childPid, none)
  | .connecting, .failed => (.refused .vendor, none)
  | .resuming childPid, .resumed turns model effort =>
    -- no live tail to leave out: the empty run id matches no turn
    (.listing childPid (mapThreadHistory keyedDigest turns "") model effort, none)
  | .resuming _, .failed => (.refused .vendor, none)
  | .listing childPid history model effort, .modelList data =>
    let models := modelSurface model effort data
    (.registering childPid history models (adoptedRegistration keyedDigest daemon params models env.now), none)
  | .registering childPid history models r, .proceed =>
    match (a.supervisor.registerNew env r (some channel)).2 with
    | .error _ => (.refused .vendor, some (.supervisor (.register r channel)))
    | .ok registered => (.filling childPid history models registered, some (.supervisor (.register r channel)))
  | .filling childPid history models registered, .proceed =>
    match (a.supervisor.backfillBridgeHistory env registered.sessionId (some registered.processGeneration)
      history.entries history.complete none).2 with
    | .error _ => (.refused .vendor, some (.supervisor (fillOp registered history)))
    | .ok () =>
      (.publishing childPid models registered (surfaceUpdates registered.sessionId models),
        some (.supervisor (fillOp registered history)))
  | .publishing childPid models registered (op :: ops), .proceed =>
    (.publishing childPid models registered ops, some (.supervisor op))
  | .publishing childPid models registered [], .proceed =>
    match a.registry.lookup params.threadId with
    | some _ => (.refused .alreadyPickedUp, none)
    | none =>
      (.adopted registered.sessionId, some (.claim params.threadId childPid
        (.spawn registered.sessionId registered.processGeneration params.threadId childPid channel
          (carriesWhereabouts params.adapterVersion) models)))
  | phase, _ => (phase, none)

structure Adopting where
  adoptions : Adoptions
  calls : List AdoptCall

namespace Adopting

def start (digest : String → String) : Adopting := ⟨⟨.empty digest, ∅, []⟩, []⟩

inductive Event where
  | adopt (params : AdoptParams) (rolloutExists : Bool)
  | answer (call : ℕ) (env : Env) (signal : AdoptSignal)
  | wake (i : ℕ) (env : Env) (signal : Signal)
  | release (threadId : String) (reason : ReleaseReason)
  | elsewhere (env : Env) (op : Op)

def carryOut (a : Adoptions) (env : Env) : AdoptEffect → Adoptions
  | .supervisor op => { a with supervisor := a.supervisor.step env op }
  | .claim threadId childPid h => a.claim threadId childPid h

def firstPhase (a : Adoptions) (params : AdoptParams) (rolloutExists : Bool) : AdoptPhase :=
  if (a.registry.lookup params.threadId).isSome then .refused .alreadyPickedUp
  else if rolloutExists then .probing
  else .refused .noContent

def step (s : Adopting) : Event → Adopting
  | .adopt params rolloutExists =>
    { s with calls := s.calls ++ [⟨params, firstPhase s.adoptions params rolloutExists⟩] }
  | .answer i env signal =>
    match s.calls[i]? with
    | none => s
    | some call =>
      let (phase, effect) := AdoptCall.wake keyedDigest daemon s.adoptions i env call.params call.phase signal
      { adoptions := effect.elim s.adoptions (carryOut s.adoptions env)
        calls := s.calls.set i { call with phase := phase } }
  | .wake i env signal => { s with adoptions := s.adoptions.wake keyedDigest i env signal }
  | .release threadId reason => { s with adoptions := s.adoptions.requestRelease threadId reason }
  | .elsewhere env op => { s with adoptions := { s.adoptions with supervisor := s.adoptions.supervisor.step env op } }

end Adopting

end

end CiaoHost.Codex
