import CiaoHost.Session.Register
import CiaoHost.Lib.Runs

/-! Whole runs of the supervisor: its operations, what their callers guarantee, and the world they
run in. -/

namespace CiaoHost.Session

open Protocol Lib Lib.Checks Lib.Saturating

inductive Op where
  | register (r : NormalizedRegistration) (sender : ℕ)
  | registerObserver (r : NormalizedRegistration)
  | carryHistory (source target : String)
  | replaceSnapshot (sessionId : String) (entries : List NormalizedTimelineEntry) (complete : Option Bool)
  | backfill (sessionId : String) (generation : Option ℕ) (entries : List NormalizedTimelineEntry)
      (complete : Bool) (liveOnlyPrefix : Option String)
  | reconcileTurn (sessionId : String) (generation : Option ℕ) (entries : List NormalizedTimelineEntry)
      (liveOnlyPrefix : Option String) (scope : LiveSession.TurnScope)
  | upsertEntry (sessionId : String) (entry : NormalizedTimelineEntry)
  | appendText (sessionId : String) (delta : NormalizedTextDelta)
  | upsertInteraction (sessionId : String) (interaction : PendingInteraction)
  | resolveInteraction (sessionId interactionId resolution : String)
  | noteTurn (sessionId : String) (turn : TurnState)
  | noteAttention (sessionId kind : String)
  | updatePermissionMode (sessionId mode : String)
  | updateModel (sessionId model : String)
  | updateEffort (sessionId effort : String)
  | updateModelCatalogue (sessionId : String) (models : List AgentModelOption)
  | updateCommands (sessionId : String) (commands : CommandCapabilities)
  | submit (command : AgentCommand)
  | recordReceipt (sessionId commandId state : String) (evidence reasonCode : Option String)
  | disconnect (sessionId token : String) (processExited : Bool)
  | endObserved (sessionId : String) (generation : ℕ)
  | endAdopted (sessionId : String) (generation : ℕ) (reason : String)
  | expireTurnClaims
  | refreshRoute (sessionId : String) (proof : Option AgentRouteProof)
  | downgradeRoute (routeId sessionId : String) (generation : ℕ) (reason : String)
  | removeBinding (sessionId : String) (binding : TerminalBinding)
  | sweep

namespace Supervisor

def empty (digest : String → String) : Supervisor where
  sessions := ∅
  routes := ∅
  carriedHistory := ∅
  ended := ∅
  metadata := ⟨digest, [], []⟩
  published := []
  delivered := []

def step (sv : Supervisor) (env : Env) : Op → Supervisor
  | .register r sender => (sv.registerNew env r (some sender)).1
  | .registerObserver r => (sv.registerObserver env r).1
  | .carryHistory source target => sv.carryHistoryInto target (sv.timelineForHandover source)
  | .replaceSnapshot id entries complete => (sv.replaceBridgeSnapshotCovering env id entries complete).1
  | .backfill id generation entries complete stem =>
    (sv.backfillBridgeHistory env id generation entries complete stem).1
  | .reconcileTurn id generation entries stem scope =>
    (sv.reconcileBridgeTurn env id generation entries stem scope).1
  | .upsertEntry id entry => (sv.upsertBridgeEntry env id entry).1
  | .appendText id delta => (sv.appendBridgeText env id delta).1
  | .upsertInteraction id interaction => (sv.upsertBridgeInteraction env id interaction).1
  | .resolveInteraction id interactionId resolution =>
    (sv.resolveBridgeInteraction env id interactionId resolution).1
  | .noteTurn id turn => (sv.noteBridgeTurn env id turn).1
  | .noteAttention id kind => (sv.noteBridgeAttention env id kind).1
  | .updatePermissionMode id mode => sv.updateBridgePermissionMode env id mode
  | .updateModel id model => sv.updateBridgeModel env id model
  | .updateEffort id effort => sv.updateBridgeEffort env id effort
  | .updateModelCatalogue id models => sv.updateBridgeModelCatalogue env id models
  | .updateCommands id commands => sv.updateBridgeCommands env id commands
  | .submit command => (sv.submitCommand env command).1
  | .recordReceipt id commandId state evidence reasonCode =>
    (sv.recordBridgeReceipt env id commandId state evidence reasonCode).1
  | .disconnect id token processExited => sv.bridgeDisconnected env id token processExited
  | .endObserved id generation => sv.endObservedSession env id generation
  | .endAdopted id generation reason => sv.endAdoptedSession env id generation reason
  | .expireTurnClaims => sv.expireStaleTurnClaims env
  | .refreshRoute id proof => sv.refreshRoute env id proof
  | .downgradeRoute routeId id generation reason => sv.downgradeIfCurrent env routeId id generation reason
  | .removeBinding id binding => sv.removeTerminalBindingIfCurrent env id binding
  | .sweep => sv.sweepDeadSessions env

def plannedRows (sv : Supervisor) (id : String) (entries : List NormalizedTimelineEntry)
    (mode : LiveSession → ReconcileMode) (stem : Option String) : ℕ :=
  ((sv.sessions.lookup id).bind fun s =>
    (Alignment.mk s.heldEntries entries (mode s) stem).planReconcile).elim 0 List.length

def draws (sv : Supervisor) : Op → ℕ
  | .register .. | .registerObserver _ => 3
  | .replaceSnapshot _ entries _ => entries.length
  | .backfill id _ entries complete stem => sv.plannedRows id entries (fun _ => .backfill complete) stem
  | .reconcileTurn id _ entries stem scope =>
    sv.plannedRows id entries (fun s => s.resolveMode (.turn false none) scope) stem
  | .upsertEntry .. | .appendText .. | .refreshRoute .. => 1
  | _ => 0

end Supervisor

lemma planned_length {sv : Supervisor} {id : String} {s : LiveSession} (hs : sv.sessions.lookup id = some s)
    {entries : List NormalizedTimelineEntry} (mode : LiveSession → ReconcileMode) {stem : Option String}
    {plan : List Planned} (hplan : (Alignment.mk s.heldEntries entries (mode s) stem).planReconcile = some plan) :
    sv.plannedRows id entries mode stem = plan.length := by
  simp [Supervisor.plannedRows, hs, hplan]

def Op.decoded (env : Env) : Op → Prop
  | .register r _ =>
    whenSome validToken r.historyBoundary = .ok () ∧ whenSome validToken (env.fixFor (driftVendor r)) = .ok ()
  | .registerObserver r =>
    -- every observer comes from an attached adapter
    r.topology = "attached" ∧
      whenSome validToken r.historyBoundary = .ok () ∧ whenSome validToken (env.fixFor (driftVendor r)) = .ok ()
  | .noteTurn _ turn => turn.validate = .ok ()
  | .updatePermissionMode _ mode => validPermissionMode mode
  | .updateModel _ model => validModelId model = .ok ()
  | .updateEffort _ effort => validToken effort = .ok ()
  | .updateModelCatalogue _ models => validateModelCatalogue models = .ok ()
  | .endAdopted _ _ reason | .downgradeRoute _ _ _ reason => validToken reason = .ok ()
  | _ => True

instance (env : Env) (op : Op) : Decidable (op.decoded env) := by
  cases op <;> unfold Op.decoded <;> infer_instance

def Op.registration : Op → Option (NormalizedRegistration × Option ℕ)
  | .register r sender => some (r, some sender)
  | .registerObserver r => some (r, none)
  | _ => none

def Op.ownIds (op : Op) : List String :=
  op.registration.elim [] fun (r, _) =>
    if r.topology ∈ ["managed", "adopted"] then [r.upstreamIdentity] else []

def Truncation.typed (t : Truncation) : Prop := ∀ bytes ∈ t.originalBytes, bytes ≤ u64Max

def NormalizedTimelineEntry.typed (e : NormalizedTimelineEntry) : Prop :=
  e.sourceRevision ≤ u64Max ∧ e.timestamp ≤ u64Max ∧ Truncation.typed e.truncation

def NormalizedTextDelta.typed (d : NormalizedTextDelta) : Prop :=
  d.sourceRevision ≤ u64Max ∧ d.timestamp ≤ u64Max ∧ Truncation.typed d.truncation

def Op.typed : Op → Prop
  | .register r _ | .registerObserver r => ∀ t ∈ r.observation.lastAuthoritativeAt, t ≤ u64Max
  | .replaceSnapshot _ entries _ | .backfill _ _ entries _ _ | .reconcileTurn _ _ entries _ _ =>
    ∀ e ∈ entries, e.typed
  | .upsertEntry _ entry => entry.typed
  | .appendText _ delta => delta.typed
  | .submit command => command.snapshotEpoch ≤ u64Max ∧ command.expectedGeneration ≤ u64Max
  | _ => True

instance (t : Truncation) : Decidable (Truncation.typed t) := by
  unfold Truncation.typed
  infer_instance

instance (e : NormalizedTimelineEntry) : Decidable e.typed := inferInstanceAs (Decidable (_ ∧ _))

instance (d : NormalizedTextDelta) : Decidable d.typed := inferInstanceAs (Decidable (_ ∧ _))

instance (op : Op) : Decidable op.typed := by
  cases op <;> unfold Op.typed <;> infer_instance

/-- The supervisor with every id drawn or brought along and every epoch drawn so far. -/
structure World where
  supervisor : Supervisor
  issuedIds : List String
  issuedEpochs : List ℕ

structure Input where
  op : Op
  env : Env

namespace World

def start (digest : String → String) : World := ⟨.empty digest, [], []⟩

def step (w : World) (i : Input) : World where
  supervisor := w.supervisor.step i.env i.op
  issuedIds := w.issuedIds ++ (List.range (w.supervisor.draws i.op)).map i.env.ids ++ i.op.ownIds
  issuedEpochs := w.issuedEpochs ++ [i.env.epoch]

def carriesAhead (w : World) : Op → Prop
  | .carryHistory _ target => w.supervisor.sessions.lookup target = none
  | _ => True

instance (w : World) (op : Op) : Decidable (w.carriesAhead op) := by
  cases op <;> unfold carriesAhead <;> infer_instance

/-- What holds of every step: the clock and the draws are in range, no draw repeats an earlier
one, and the arguments are what the callers pass. -/
structure Legal (w : World) (i : Input) : Prop where
  clock : 0 < i.env.now ∧ i.env.now ≤ u64Max
  drawn : ∀ n < w.supervisor.draws i.op,
    validOpaqueId (i.env.ids n) = .ok () ∧ i.env.ids n ∉ w.issuedIds ∧
      ∀ m < n, i.env.ids m ≠ i.env.ids n
  epoch : 0 < i.env.epoch ∧ i.env.epoch ≤ u64Max ∧ i.env.epoch ∉ w.issuedEpochs
  decoded : i.op.decoded i.env
  typed : i.op.typed
  carried : w.carriesAhead i.op

instance (w : World) (i : Input) : Decidable (w.Legal i) :=
  decidable_of_iff
    ((0 < i.env.now ∧ i.env.now ≤ u64Max) ∧
      (∀ n < w.supervisor.draws i.op, validOpaqueId (i.env.ids n) = .ok () ∧
        i.env.ids n ∉ w.issuedIds ∧ ∀ m < n, i.env.ids m ≠ i.env.ids n) ∧
      (0 < i.env.epoch ∧ i.env.epoch ≤ u64Max ∧ i.env.epoch ∉ w.issuedEpochs) ∧
      i.op.decoded i.env ∧ i.op.typed ∧ w.carriesAhead i.op)
    ⟨fun ⟨h1, h2, h3, h4, h5, h6⟩ => ⟨h1, h2, h3, h4, h5, h6⟩,
      fun ⟨h1, h2, h3, h4, h5, h6⟩ => ⟨h1, h2, h3, h4, h5, h6⟩⟩

end World

/-! A small adapter for runs on fixed inputs. -/

namespace Sample

def registration : NormalizedRegistration where
  historyBoundary := none
  upstreamIdentity := "thread-1"
  processNonce := "nonce-1"
  processId := 7
  terminalBinding := none
  adapterFamily := "Claude"
  adapterVersion := "2.0.0"
  topology := "attached"
  compatible := true
  versionState := "grounded"
  testedVersion := "2.0.0"
  workspaceDisplay := "ciao"
  observation := ⟨"authoritative", "live", none⟩
  turn := .idle
  capabilities := ⟨"live_tail", ⟨true, false, false, true, false, false, false⟩, .none, "none", "unavailable"⟩
  controlOwner := "user"

def env (n : ℕ) (ids : List String) : Env where
  now := 100 + n
  ids := fun i => ids.getD i ""
  epoch := 1000 + n
  disk := fun _ => .ok ()
  accepts := true
  processExists := fun _ => true
  fixFor := fun _ => none
  gaps := fun _ => 0

def register : Input := ⟨.register registration 0, env 0 ["s-1", "t-1", "r-1"]⟩

def prompt (generation : ℕ) : Input :=
  ⟨.submit ⟨1, "cmd-1", "s-1", 1000, generation, none, .prompt "hi"⟩, env 1 []⟩

def entry (sourceId text : String) : NormalizedTimelineEntry where
  sourceId := sourceId
  sourceRevision := 1
  timestamp := 50
  state := "complete"
  kind := "agent_message"
  body := .text text
  truncation := ⟨false, none, none⟩

def adoptedRegistration (thread : String) : NormalizedRegistration :=
  { registration with
    upstreamIdentity := thread
    adapterFamily := "Codex"
    topology := "adopted"
    controlOwner := "none" }

def after (inputs : List Input) : World := inputs.foldl World.step (World.start id)

def session (timeline : Timeline) : LiveSession :=
  registeredSession registration (some 0) "t-1" 100
    (registrationSnapshot registration (env 0 ["s-1", "t-1", "r-1"])
      ⟨"thread-1", "s-1", "nonce-1", "Claude", "2.0.0", 1, 1000, 1, 100⟩ []) timeline

def row (entryId : String) (sequence : ℕ) (kind text : String) : TimelineEntry :=
  ⟨entryId, 1, sequence, 50, "complete", kind, .text text, ⟨false, none, none⟩⟩

end Sample

end CiaoHost.Session
