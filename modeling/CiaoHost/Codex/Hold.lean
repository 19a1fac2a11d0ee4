import CiaoHost.Codex.Items
import CiaoHost.Session.Run

/-! The loop that holds one adopted Codex thread (`run_adopted` and `release` in
codex_adopted.rs), cut at its awaits. -/

namespace CiaoHost.Codex

open Protocol Session Lib Lib.Checks

def graceCompletionCap : ℕ := 300
def releaseChannelCapacity : ℕ := 4

inductive ReleaseReason where
  | conversationClosed
  | foreignTerminal
  | foreignWriter
  | resumeInTerminal
  | connectionLost
  deriving DecidableEq, Repr

namespace ReleaseReason

def token : ReleaseReason → String
  | conversationClosed => "conversation_closed"
  | foreignTerminal => "foreign_terminal"
  | foreignWriter => "foreign_writer"
  | resumeInTerminal => "resume_in_terminal"
  | connectionLost => "connection_lost"

def isYield (reason : ReleaseReason) : Bool := reason ∈ [foreignTerminal, foreignWriter]

end ReleaseReason

/-! Who holds the rollout file. -/

structure Holder where
  pid : ℕ
  descends : Bool
  deriving DecidableEq, Repr

/-- What lsof answered, or why it could not be asked. -/
abbrev HolderSample := Except String (List Holder)

def isOwnProcess (ownChild : Option ℕ) (holder : Holder) : Bool :=
  ownChild.elim false fun child => holder.pid = child || holder.descends

def suspects (ownChild : Option ℕ) (first : List Holder) : List ℕ :=
  (first.filter fun holder => !isOwnProcess ownChild holder).map Holder.pid

def foreignRolloutHolder (ownChild : Option ℕ) (first second : HolderSample) : Bool :=
  match first with
  | .error _ => false
  | .ok first =>
    if suspects ownChild first = [] then false
    else
      match second with
      | .error _ => false
      | .ok second =>
        second.any fun holder => holder.pid ∈ suspects ownChild first && !isOwnProcess ownChild holder

structure ModelSurface where
  current : Option String
  effort : Option String
  catalogue : List AgentModelOption

inductive VendorRequest where
  | turnStart (threadId text : String) (note : Option String)
  | turnSteer (threadId expectedTurnId text : String) (note : Option String)
  | turnInterrupt (threadId turnId : String)
  | settingsUpdate (threadId : String) (model effort : Option String)
  deriving DecidableEq, Repr

def VendorRequest.writes : VendorRequest → Option String
  | turnStart _ text _ | turnSteer _ _ text _ => some text
  | turnInterrupt .. | settingsUpdate .. => none

def VendorRequest.isInterrupt : VendorRequest → Bool
  | turnInterrupt .. => true
  | _ => false

inductive HoldEvent where
  | received (command : AgentCommand)
  | probed (first second : HolderSample)
  | requested (request : VendorRequest)
  | answered (requestId decision : String)
  | refused (requestId message : String)

inductive Notification where
  | turnStarted (turnId : Option String)
  | turnEnded (turnId status : Option String)
  | item (item : ThreadItem) (complete : Bool)
  | agentMessageDelta (itemId delta : Option String)
  | other

inductive ServerRequest where
  | approval (runsCommand : Bool) (itemId : Option String) (command : Option Document)
      (availableDecisions : Option (List String))
  | other

structure TurnTracking where
  vendorTurnId : Option String
  revisions : KeyedMap String ℕ
  approvals : KeyedMap String (String × List String)

def TurnTracking.start : TurnTracking := ⟨none, ∅, ∅⟩

/-- Where the loop waits; a command waits for the vendor's last answer in `asking`. -/
inductive HoldPhase where
  | head
  | selecting
  | interrupting (reason : ReleaseReason)
  | watching
  | probing (command : AgentCommand) (text : String)
  | noting (command : AgentCommand) (text : String)
  | steering (command : AgentCommand) (text : String) (note : Option String)
  | asking (command : AgentCommand)
  | yielding (reason : ReleaseReason)
  | leaving (reason : ReleaseReason)
  | stopping (reason : ReleaseReason)
  | ended
  deriving DecidableEq, Repr

def HoldPhase.isProbing : HoldPhase → Bool
  | probing .. => true
  | _ => false

structure Hold where
  sessionId : String
  processGeneration : ℕ
  threadId : String
  ownChild : Option ℕ
  /-- The command channel that the loop reads, by name. -/
  commands : ℕ
  carriesWhereabouts : Bool
  models : ModelSurface
  tracking : TurnTracking
  deferredRelease : Option (ReleaseReason × ℕ)
  release : List ReleaseReason
  phase : HoldPhase
  trace : List HoldEvent

def Hold.spawn (sessionId : String) (processGeneration : ℕ) (threadId : String) (ownChild : Option ℕ)
    (commands : ℕ) (carriesWhereabouts : Bool) (models : ModelSurface) : Hold where
  sessionId := sessionId
  processGeneration := processGeneration
  threadId := threadId
  ownChild := ownChild
  commands := commands
  carriesWhereabouts := carriesWhereabouts
  models := models
  tracking := .start
  deferredRelease := none
  release := []
  phase := .head
  trace := []

inductive Signal where
  | proceed
  | notified (notification : Notification)
  | serverRequest (id : String) (request : ServerRequest)
  | closed
  | command (command : AgentCommand)
  | commandsClosed
  | released
  | tick
  | probed (first second : HolderSample)
  | whereabouts (note : Option String)
  | answered (succeeded : Bool)

inductive HoldEffect where
  | supervisor (op : Op)
  | requestRelease (threadId : String) (reason : ReleaseReason)
  | removeClaim (threadId : String)

section

variable (keyedDigest : String → String → String → String)

def endedTurn (runId status : Option String) : TurnState :=
  if status = some "interrupted" then .interrupted runId
  else if status = some "failed" then .failed runId "vendor_reported"
  else .completed runId

def onNotification (session : String) (tracking : TurnTracking) (now : ℕ) :
    Notification → TurnTracking × List Op
  | .turnStarted turnId =>
    let turnId := turnId.getD ""
    ({ tracking with vendorTurnId := some turnId },
      [.noteTurn session (.running (codexRunId keyedDigest turnId) "responding")])
  | .turnEnded turnId status =>
    ({ tracking with vendorTurnId := none },
      [.noteTurn session (endedTurn (turnId.map (codexRunId keyedDigest)) status)])
  | .item item complete =>
    let (revisions, entry) := liveItemEntry keyedDigest tracking.revisions item complete now
    ({ tracking with revisions := revisions }, (entry.map (Op.upsertEntry session)).toList)
  | .agentMessageDelta itemId delta =>
    let delta := delta.getD ""
    if delta = "" then (tracking, [])
    else
      let sourceId := entrySourceId keyedDigest (itemId.getD "")
      let (revisions, revision) := nextRevision tracking.revisions sourceId
      let (text, truncation) := boundedText delta maxRetainedTextBytes
      ({ tracking with revisions := revisions },
        [.appendText session ⟨sourceId, revision, now, "assistant_message", text, false, truncation⟩])
  | .other => (tracking, [])

def knownDecisions : List String := ["accept", "acceptForSession", "decline"]

def decisionLabel : String → String
  | "accept" => "Allow once"
  | "acceptForSession" => "Allow for this session"
  | "decline" => "Deny"
  | _ => "Answer"

def offeredDecisions (available : Option (List String)) : List String :=
  available.elim knownDecisions fun available => knownDecisions.filter (· ∈ available)

def approvalInteraction (runsCommand : Bool) (itemId : Option String) (command : Option Document)
    (offered : List String) (now : ℕ) : PendingInteraction where
  interactionId := "codex.approval." ++ keyedDigest codexAdoptedDomain "approval" (itemId.getD "")
  interactionRevision := 1
  kind := "permission"
  blocking := true
  createdAt := now
  expiresAt := none
  title := some (if runsCommand then "Run command" else "Apply file changes")
  body :=
    if runsCommand then (boundedPreview command maxToolInputPreviewBytes).1.getD "Run a command"
    else "Apply the proposed file changes"
  responseSchema := .choices 1 1 (offered.map fun decision => ⟨decision, decisionLabel decision, none, none⟩)
  terminalFallback := ⟨"unavailable", none, some "adopted_session", none, none⟩
  state := "pending"

namespace Hold

variable (h : Hold)

def log (events : List HoldEvent) : Hold := { h with trace := h.trace ++ events }

def receipt (commandId state : String) (evidence reason : Option String) : HoldEffect :=
  .supervisor (.recordReceipt h.sessionId commandId state evidence reason)

def ask (request : VendorRequest) (phase : HoldPhase) : Hold :=
  { h.log [.requested request] with phase := phase }

/-- The start of `release`: a turn cut off by a yield is interrupted first. -/
def beginRelease (reason : ReleaseReason) : Hold :=
  match h.tracking.vendorTurnId with
  | some turn =>
    if reason.isYield then h.ask (.turnInterrupt h.threadId turn) (.yielding reason)
    else { h with phase := .leaving reason }
  | none => { h with phase := .leaving reason }

def atHead (now : ℕ) : Hold :=
  match h.deferredRelease with
  | none => { h with phase := .selecting }
  | some (reason, since) =>
    let blocked := h.tracking.approvals.entries ≠ []
    if h.tracking.vendorTurnId = none ∨ blocked ∨ graceCompletionCap < now - since then
      match h.tracking.vendorTurnId with
      | some turn =>
        if blocked then h.ask (.turnInterrupt h.threadId turn) (.interrupting reason)
        else h.beginRelease reason
      | none => h.beginRelease reason
    else { h with phase := .selecting }

def onServerRequest (sv : Supervisor) (env : Env) (id : String) : ServerRequest → Hold × List HoldEffect
  | .other => (h.log [.refused id "this request is not supported natively by Ciao yet"], [])
  | .approval runsCommand itemId command available =>
    let offered := offeredDecisions available
    if offered = [] then (h.log [.refused id "no decision Ciao understands is available"], [])
    else
      let interaction := approvalInteraction keyedDigest runsCommand itemId command offered env.now
      match (sv.upsertBridgeInteraction env h.sessionId interaction).2 with
      | .ok () =>
        ({ h with tracking :=
            { h.tracking with approvals := h.tracking.approvals.insert interaction.interactionId (id, offered) } },
          [.supervisor (.upsertInteraction h.sessionId interaction),
            .supervisor (.noteTurn h.sessionId
              (.awaitingInteraction (h.tracking.vendorTurnId.map (codexRunId keyedDigest))))])
      | .error _ => (h.log [.refused id "the approval could not be surfaced"], [])

def finishCommand (command : AgentCommand) (succeeded : Bool) : Hold × List HoldEffect :=
  let h := { h with phase := .head }
  if succeeded then
    let applied := h.receipt command.commandId "applied" (some "vendor_rpc_answer") none
    match command.kind with
    | .setModel model =>
      ({ h with models := { h.models with current := some model } },
        [.supervisor (.updateModel h.sessionId model), applied])
    | .setEffort effort =>
      ({ h with models := { h.models with effort := some effort } },
        [.supervisor (.updateEffort h.sessionId effort), applied])
    | .interactionResponse interactionId _ _ =>
      (h, [.supervisor (.resolveInteraction h.sessionId interactionId "answered"), applied])
    | _ => (h, [applied])
  else (h, [h.receipt command.commandId "rejected" none (some "vendor_refused")])

def sendText (command : AgentCommand) (text : String) (note : Option String) : Hold :=
  match h.tracking.vendorTurnId with
  | some turn => h.ask (.turnSteer h.threadId turn text note) (.steering command text note)
  | none => h.ask (.turnStart h.threadId text note) (.asking command)

def validateModelChoice (models : ModelSurface) (model : String) : Bool :=
  models.catalogue.any (·.value = model)

def validateEffortChoice (models : ModelSurface) (effort : String) : Bool :=
  (models.current.bind fun current => models.catalogue.find? (·.value = current)).any
    fun active => effort ∈ active.supportedEffortLevels

def answerApproval (command : AgentCommand) (interactionId : String) (answer : InteractionAnswer) :
    Hold × List HoldEffect :=
  match h.tracking.approvals.lookup interactionId, answer with
  | some (id, offered), .choices choiceIds =>
    let decision := choiceIds.headD ""
    if decision ∈ offered then
      ({ h.log [.answered id decision] with
          tracking := { h.tracking with approvals := h.tracking.approvals.erase interactionId }
          phase := .asking command }, [])
    else h.finishCommand command false
  | _, _ => h.finishCommand command false

def onCommand (command : AgentCommand) : Hold × List HoldEffect :=
  let h := h.log [.received command]
  match command.kind with
  | .prompt text | .steer text => ({ h with phase := .probing command text }, [])
  | .interrupt =>
    match h.tracking.vendorTurnId with
    | some turn => (h.ask (.turnInterrupt h.threadId turn) (.asking command), [])
    | none => h.finishCommand command false
  | .interactionResponse interactionId _ answer => h.answerApproval command interactionId answer
  | .setModel model =>
    if validateModelChoice h.models model then
      (h.ask (.settingsUpdate h.threadId (some model) none) (.asking command), [])
    else h.finishCommand command false
  | .setEffort effort =>
    if validateEffortChoice h.models effort then
      (h.ask (.settingsUpdate h.threadId none (some effort)) (.asking command), [])
    else h.finishCommand command false
  | _ => h.finishCommand command false

def onProbed (command : AgentCommand) (text : String) (first second : HolderSample) : Hold × List HoldEffect :=
  let h := h.log [.probed first second]
  if foreignRolloutHolder h.ownChild first second then
    ({ h with phase := .head },
      [h.receipt command.commandId "rejected" none (some "foreign_terminal"),
        .requestRelease h.threadId .foreignTerminal])
  else if h.carriesWhereabouts then ({ h with phase := .noting command text }, [])
  else (h.sendText command text none, [])

def onReleased (now : ℕ) : Hold :=
  match h.release with
  | [] => h
  | requested :: rest =>
    let h := { h with release := rest }
    if ¬ requested.isYield ∧ h.tracking.vendorTurnId ≠ none then
      { h with
        deferredRelease := some (h.deferredRelease.getD (requested, now))
        phase := .head }
    else h.beginRelease requested

def wake (sv : Supervisor) (env : Env) : HoldPhase → Signal → Hold × List HoldEffect
  | .head, .proceed => (h.atHead env.now, [])
  | .selecting, .notified notification =>
    let (tracking, ops) := onNotification keyedDigest h.sessionId h.tracking env.now notification
    ({ h with tracking := tracking, phase := .head }, ops.map .supervisor)
  | .selecting, .serverRequest id request =>
    let (h, effects) := h.onServerRequest keyedDigest sv env id request
    ({ h with phase := .head }, effects)
  | .selecting, .closed => (h.beginRelease .connectionLost, [])
  | .selecting, .command command => h.onCommand command
  | .selecting, .commandsClosed => (h.beginRelease .conversationClosed, [])
  | .selecting, .released => (h.onReleased env.now, [])
  | .selecting, .tick => ({ h with phase := .watching }, [])
  | .watching, .probed first second =>
    let h := h.log [.probed first second]
    if foreignRolloutHolder h.ownChild first second then (h.beginRelease .foreignTerminal, [])
    else ({ h with phase := .head }, [])
  | .probing command text, .probed first second => h.onProbed command text first second
  | .noting command text, .whereabouts note => (h.sendText command text note, [])
  | .steering command text note, .answered succeeded =>
    -- the turn may have ended since, so the words start a fresh one
    if succeeded then h.finishCommand command true
    else (h.ask (.turnStart h.threadId text note) (.asking command), [])
  | .asking command, .answered succeeded => h.finishCommand command succeeded
  | .interrupting reason, .answered _ => (h.beginRelease reason, [])
  | .yielding reason, .answered _ => ({ h with phase := .leaving reason }, [])
  | .leaving reason, .proceed => ({ h with phase := .stopping reason }, [.removeClaim h.threadId])
  | .stopping reason, .proceed =>
    ({ h with phase := .ended },
      [.supervisor (.endAdopted h.sessionId h.processGeneration reason.token)])
  | _, _ => (h, [])

def offer (reason : ReleaseReason) : Hold :=
  if h.phase ≠ .ended ∧ h.release.length < releaseChannelCapacity then
    { h with release := h.release ++ [reason] }
  else h

end Hold

end

/-! A thread picked up for runs on fixed inputs, with a digest that hides nothing. -/

namespace Sample

def digest (_ _ value : String) : String := value

def hold : Hold := .spawn "codex-adopted-thread-1" 1 "thread-1" (some 40) 0 false ⟨none, none, []⟩

def prompt : AgentCommand := ⟨1, "cmd-1", "codex-adopted-thread-1", 1, 1, none, .prompt "hi"⟩

end Sample

end CiaoHost.Codex
