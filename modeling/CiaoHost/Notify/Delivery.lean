import CiaoHost.Notify.LiveActivity
import CiaoHost.Lib.Runs

/-! Sweeps, registrations and the delivery tasks they spawn, each task cut at its generation checks,
its posts and what it records (notify.rs). -/

namespace CiaoHost.Notify

open Lib Lib.Text Lib.Saturating

inductive LiveActivityRefusal where
  | tokenDead | ticketRefused | shapeRefused | ambiguous
  deriving DecidableEq, Repr

def classifyLiveActivityRefusal (detail : String) : LiveActivityRefusal :=
  if detail = "bad_token" then .tokenDead
  else if detail = "bad_ticket" then .ticketRefused
  else if detail = "bad_shape" then .shapeRefused
  else .ambiguous

def relayAttemptIsRetryable (status : ℕ) : Bool := status = 0 || 500 ≤ status && status ≤ 599

def attemptBackoff : List ℕ := [2, 8]

inductive Verdict where
  | delivered
  | failed
  | refused (refusal : LiveActivityRefusal)
  deriving DecidableEq, Repr

/-- Where a delivery task stands; a task that ends keeps the verdict it recorded, if it still could. -/
inductive TaskPhase where
  | checking (attempt : ℕ)
  | posting (attempt : ℕ)
  | recording (verdict : Verdict)
  | ended (recorded : Option Verdict)
  deriving DecidableEq, Repr

structure LiveActivityTask where
  job : LiveActivityJob
  phase : TaskPhase
  deriving DecidableEq, Repr

def LiveActivityTask.running (task : LiveActivityTask) : Bool :=
  match task.phase with
  | .ended _ => false
  | _ => true

inductive RelayAnswer where
  | status (code : ℕ) (detail : String)
  | unanswered
  deriving DecidableEq, Repr

def RelayAnswer.next (attempt : ℕ) : RelayAnswer → TaskPhase
  | .status code detail =>
    if code = 204 then .recording .delivered
    else if code = 400 then .recording (.refused (classifyLiveActivityRefusal (String.ofList (trim detail))))
    else if ¬ relayAttemptIsRetryable code then .recording .failed
    else if attempt < attemptBackoff.length then .checking (attempt + 1)
    else .recording .failed
  | .unanswered => if attempt < attemptBackoff.length then .checking (attempt + 1) else .recording .failed

structure Notifier where
  devices : PairedDevices
  liveActivities : KeyedMap String LiveActivityDeliveryState
  tasks : List LiveActivityTask

inductive NotifierEvent where
  | sweep (overview : LiveActivityOverview) (now : ℕ) (sealing : Seal)
  | interest
  | update (endpointId : String) (ticket : Option String) (change : Option LiveActivitySelectionChange) (disk : Bool)
  | pair (endpointId key : String) (disk : Bool)
  | unpair (endpointId : String) (disk : Bool)
  | task (i : ℕ) (answer : RelayAnswer) (disk : Bool)

namespace Notifier

def start (devices : PairedDevices) : Notifier := ⟨devices, ∅, []⟩

variable (s : Notifier)

def state (endpointId : String) : LiveActivityDeliveryState := (s.liveActivities.lookup endpointId).getD {}

def hasLiveActivityInterest : Notifier :=
  if s.devices.liveActivityTargets = [] then { s with liveActivities := ∅ } else s

def generationIsCurrent (job : LiveActivityJob) : Bool :=
  (s.liveActivities.lookup job.endpointId).any (·.generation = job.generation)

def setState (endpointId : String) (state : LiveActivityDeliveryState) : Notifier :=
  { s with liveActivities := s.liveActivities.insert endpointId state }

def recordSuccess (job : LiveActivityJob) : Notifier :=
  s.setState job.endpointId
    { s.state job.endpointId with delivered := some job.delivered, consecutiveFailures := 0, nextAttemptAt := 0 }

def recordFailure (job : LiveActivityJob) : Notifier :=
  let state := s.state job.endpointId
  s.setState job.endpointId
    (state.failing (satAdd job.timestamp (liveActivityRetryDelay (min (state.consecutiveFailures + 1) u32Max))))

def recordRefusal (job : LiveActivityJob) : Notifier :=
  s.setState job.endpointId ((s.state job.endpointId).failing (satAdd job.timestamp liveActivityMaxRetrySeconds))

def recordTokenDead (job : LiveActivityJob) (disk : Bool) : Notifier :=
  { s with
    devices := s.devices.clearLiveActivity job.endpointId disk
    liveActivities := s.liveActivities.erase job.endpointId }

def record (job : LiveActivityJob) (verdict : Verdict) (disk : Bool) : Notifier :=
  match verdict with
  | .refused .tokenDead => s.recordTokenDead job disk
  | .delivered => if s.generationIsCurrent job then s.recordSuccess job else s
  | .failed => if s.generationIsCurrent job then s.recordFailure job else s
  | .refused _ => if s.generationIsCurrent job then s.recordRefusal job else s

def runTask (task : LiveActivityTask) (answer : RelayAnswer) (disk : Bool) : Notifier × TaskPhase :=
  match task.phase with
  | .checking attempt => (s, if s.generationIsCurrent task.job then .posting attempt else .ended none)
  | .posting attempt => (s, answer.next attempt)
  | .recording verdict =>
    (s.record task.job verdict disk,
      .ended (if verdict = .refused .tokenDead ∨ s.generationIsCurrent task.job then some verdict else none))
  | .ended recorded => (s, .ended recorded)

def setPhase (i : ℕ) (phase : TaskPhase) : Notifier :=
  { s with tasks := s.tasks.modify i fun task => { task with phase := phase } }

variable (host : String) (fingerprint : String → String)

def prepared (overview : LiveActivityOverview) (now : ℕ) (sealing : Seal) (target : LiveActivityTarget) :
    LiveActivityDeliveryState × Option LiveActivityJob :=
  prepareLiveActivityJob host fingerprint target overview (s.state target.endpointId) now sealing

def prepareFor (overview : LiveActivityOverview) (now : ℕ) (sealing : Seal) (target : LiveActivityTarget) : Notifier :=
  { s with
    liveActivities := s.liveActivities.insert target.endpointId
      (s.prepared host fingerprint overview now sealing target).1
    tasks := s.tasks ++ (s.prepared host fingerprint overview now sealing target).2.toList.map (⟨·, .checking 0⟩) }

def retainActive : Notifier :=
  { s with liveActivities :=
      KeyedMap.retain (fun id _ => s.devices.liveActivityTargets.any (·.endpointId = id)) s.liveActivities }

def refreshLiveActivities (overview : LiveActivityOverview) (now : ℕ) (sealing : Seal) : Notifier :=
  if s.devices.liveActivityTargets = [] then { s with liveActivities := ∅ }
  else s.devices.liveActivityTargets.foldl (fun s => s.prepareFor host fingerprint overview now sealing) s.retainActive

def step : NotifierEvent → Notifier
  | .sweep overview now sealing => s.refreshLiveActivities host fingerprint overview now sealing
  | .interest => s.hasLiveActivityInterest
  | .update endpointId ticket change disk =>
    { s with devices := (s.devices.updateLiveActivity endpointId ticket change disk).1 }
  | .pair endpointId key disk => { s with devices := s.devices.upsert endpointId key disk }
  | .unpair endpointId disk => { s with devices := s.devices.unpair endpointId disk }
  | .task i answer disk =>
    match s.tasks[i]? with
    | none => s
    | some task => (s.runTask task answer disk).1.setPhase i (s.runTask task answer disk).2

end Notifier

end CiaoHost.Notify
