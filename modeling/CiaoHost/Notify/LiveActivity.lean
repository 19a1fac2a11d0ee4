import CiaoHost.Notify.Registrations
import CiaoHost.Lib.Saturating

/-! What a sweep prepares for one endpoint: its rows, whether they are sent, and the job (notify.rs). -/

namespace CiaoHost.Notify

open Lib Lib.Text Lib.Saturating

def maxLiveActivitySealedCharacters : ℕ := 3584

def liveActivityHeartbeatSeconds : ℕ := 15 * 60

def liveActivityStaleSeconds : ℕ := 20 * 60

def liveActivityRetrySeconds : ℕ := 60

def liveActivityMaxRetrySeconds : ℕ := liveActivityHeartbeatSeconds

def maxLiveActivityRows : ℕ := 8

def maxLiveActivityDisplayBytes : ℕ := 64

def u32Max : ℕ := 4294967295

inductive LiveActivityState where
  | needsInput | failed | working | active | stopping | done | idle | stopped | unknown
  deriving DecidableEq, Repr

def statePriority : LiveActivityState → ℕ
  | .needsInput => 0
  | .failed => 1
  | .working => 2
  | .active => 3
  | .stopping => 4
  | .done => 5
  | .idle => 6
  | .stopped => 7
  | .unknown => 8

structure LiveActivityLabels where
  agent : String
  workspace : String
  prompt : Option String
  deriving DecidableEq, Repr

structure LiveActivitySessionFact where
  state : LiveActivityState
  labels : Option LiveActivityLabels
  deriving DecidableEq, Repr

abbrev LiveActivityOverview := KeyedMap String LiveActivitySessionFact

structure LiveActivitySemanticRow where
  id : String
  agent : String
  workspace : String
  prompt : Option String
  state : LiveActivityState
  deriving DecidableEq, Repr

structure LiveActivityRow extends LiveActivitySemanticRow where
  updatedAt : ℕ
  deriving DecidableEq, Repr

structure LiveActivityPayload where
  v : ℕ
  host : String
  updatedAt : ℕ
  sessions : List LiveActivityRow
  deriving DecidableEq, Repr

structure DeliveredLiveActivity where
  ticketFingerprint : String
  semanticRows : List LiveActivitySemanticRow
  payload : LiveActivityPayload
  deliveredAt : ℕ
  deriving DecidableEq, Repr

structure LiveActivityDeliveryState where
  delivered : Option DeliveredLiveActivity := none
  consecutiveFailures : ℕ := 0
  nextAttemptAt : ℕ := 0
  lastTimestamp : ℕ := 0
  generation : ℕ := 0
  deriving DecidableEq, Repr

structure LiveActivityJob where
  endpointId : String
  ticket : String
  sealed : String
  timestamp : ℕ
  staleAt : ℕ
  generation : ℕ
  delivered : DeliveredLiveActivity
  deriving DecidableEq, Repr

def boundedUtf8 (value : String) (bytes : ℕ) : String :=
  if byteLen value ≤ bytes then value else cut value (bytes - '…'.utf8Size) ++ "…"

def LiveActivitySemanticRow.le (l r : LiveActivitySemanticRow) : Bool :=
  statePriority l.state < statePriority r.state || statePriority l.state = statePriority r.state &&
    (l.workspace < r.workspace || l.workspace = r.workspace && l.id ≤ r.id)

def LiveActivitySelection.row (selection : LiveActivitySelection) (overview : LiveActivityOverview) :
    LiveActivitySemanticRow :=
  let fact := overview.lookup selection.sessionId
  let labels := fact.bind (·.labels)
  { id := selection.sessionId
    agent := labels.elim selection.adapter (·.agent)
    workspace := labels.elim selection.workspace (·.workspace)
    prompt := labels.bind (·.prompt)
    state := fact.elim .unknown (·.state) }

def LiveActivityTarget.rows (target : LiveActivityTarget) (overview : LiveActivityOverview) :
    List LiveActivitySemanticRow :=
  ((target.selections.take maxLiveActivityRows).map (·.row overview)).insertionSort (·.le ·)

def LiveActivitySemanticRow.dated (row : LiveActivitySemanticRow) (previous : Option DeliveredLiveActivity)
    (now : ℕ) : LiveActivityRow :=
  { row with updatedAt :=
      ((previous.bind fun p => p.payload.sessions.find? (·.toLiveActivitySemanticRow = row)).map (·.updatedAt)).getD now }

variable (host : String) (fingerprint : String → String)

def liveActivityDelivery (target : LiveActivityTarget) (overview : LiveActivityOverview)
    (previous : Option DeliveredLiveActivity) (now : ℕ) : Option LiveActivityPayload :=
  let current := target.rows overview
  let changed := previous.all fun p => p.ticketFingerprint ≠ fingerprint target.ticket || p.semanticRows ≠ current
  let heartbeatDue := previous.any fun p => liveActivityHeartbeatSeconds ≤ now - p.deliveredAt
  if ¬ changed ∧ ¬ heartbeatDue then none
  else some ⟨1, boundedUtf8 host maxLiveActivityDisplayBytes, now, current.map (·.dated previous now)⟩

def liveActivityRetryDelay (failures : ℕ) : ℕ :=
  min (liveActivityRetrySeconds * 2 ^ min (failures - 1) 16) liveActivityMaxRetrySeconds

def LiveActivityDeliveryState.failing (state : LiveActivityDeliveryState) (retryAt : ℕ) : LiveActivityDeliveryState :=
  { state with consecutiveFailures := min (state.consecutiveFailures + 1) u32Max, nextAttemptAt := retryAt }

/-- How a key seals a payload: the text, or the step that failed. -/
abbrev Seal := String → LiveActivityPayload → Except String String

def Seal.bounded (sealing : Seal) (key : String) (payload : LiveActivityPayload) : Except String String :=
  match sealing key payload with
  | .ok sealed => if byteLen sealed ≤ maxLiveActivitySealedCharacters then .ok sealed else .error "bound"
  | .error step => .error step

def prepareLiveActivityJob (target : LiveActivityTarget) (overview : LiveActivityOverview)
    (state : LiveActivityDeliveryState) (now : ℕ) (sealing : Seal) :
    LiveActivityDeliveryState × Option LiveActivityJob :=
  -- the backoff holds back changed rows as well
  if now < state.nextAttemptAt then (state, none)
  else
    match liveActivityDelivery host fingerprint target overview state.delivered now with
    | none => (state, none)
    | some payload =>
      match sealing.bounded target.key payload with
      | .error _ =>
        (state.failing (satAdd now (liveActivityRetryDelay (min (state.consecutiveFailures + 1) u32Max))), none)
      | .ok sealed =>
        let generation := (state.generation + 1) % 2 ^ 64
        let timestamp := max now (satAdd state.lastTimestamp 1)
        ({ state with generation := generation, lastTimestamp := timestamp },
          some
            { endpointId := target.endpointId
              ticket := target.ticket
              sealed := sealed
              timestamp := timestamp
              staleAt := satAdd timestamp liveActivityStaleSeconds
              generation := generation
              delivered :=
                { ticketFingerprint := fingerprint target.ticket
                  semanticRows := payload.sessions.map (·.toLiveActivitySemanticRow)
                  payload := payload
                  deliveredAt := now } })

section Prepared

variable {host fingerprint} {target : LiveActivityTarget} {overview : LiveActivityOverview}
  {state : LiveActivityDeliveryState} {now : ℕ} {sealing : Seal}

inductive Prepared (host : String) (fingerprint : String → String) (target : LiveActivityTarget)
    (overview : LiveActivityOverview) (state : LiveActivityDeliveryState) (now : ℕ) :
    LiveActivityDeliveryState × Option LiveActivityJob → Prop
  | held {state' : LiveActivityDeliveryState} : state'.generation = state.generation →
      state'.lastTimestamp = state.lastTimestamp → state'.delivered = state.delivered →
      Prepared host fingerprint target overview state now (state', none)
  | sent {state' : LiveActivityDeliveryState} {job : LiveActivityJob} : state'.generation = job.generation →
      state'.lastTimestamp = job.timestamp → state'.delivered = state.delivered → job.endpointId = target.endpointId → job.ticket = target.ticket →
      job.generation = (state.generation + 1) % 2 ^ 64 → job.timestamp = max now (satAdd state.lastTimestamp 1) →
      liveActivityDelivery host fingerprint target overview state.delivered now = some job.delivered.payload →
      job.delivered.ticketFingerprint = fingerprint target.ticket → job.delivered.semanticRows = target.rows overview →
      job.delivered.deliveredAt = now →
      Prepared host fingerprint target overview state now (state', some job)

lemma liveActivityDelivery_rows {previous : Option DeliveredLiveActivity} {payload : LiveActivityPayload}
    (h : liveActivityDelivery host fingerprint target overview previous now = some payload) :
    payload.sessions.map (·.toLiveActivitySemanticRow) = target.rows overview := by
  rw [liveActivityDelivery] at h
  split at h
  · cases h
  · cases h
    rw [List.map_map]
    exact List.map_id _

lemma prepareLiveActivityJob_prepared : Prepared host fingerprint target overview state now
    (prepareLiveActivityJob host fingerprint target overview state now sealing) := by
  rw [prepareLiveActivityJob]
  split
  · exact .held rfl rfl rfl
  · cases hdelivery : liveActivityDelivery host fingerprint target overview state.delivered now with
    | none => exact .held rfl rfl rfl
    | some payload =>
      dsimp only
      cases sealing.bounded target.key payload with
      | error step => exact .held rfl rfl rfl
      | ok sealed =>
        have hrows := liveActivityDelivery_rows hdelivery
        apply Prepared.sent
        exacts [rfl, rfl, rfl, rfl, rfl, rfl, rfl, hdelivery, rfl, hrows, rfl]

end Prepared

end CiaoHost.Notify
