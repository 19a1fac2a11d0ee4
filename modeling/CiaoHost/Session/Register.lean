import CiaoHost.Session.Commands

/-! Registration, in the lock sections it runs in: the live revision is read under the session
lock, the mapping is assigned under the metadata lock, and the new session is installed under the
session lock again. -/

namespace CiaoHost.Session

open Protocol Lib

structure RegisteredAgentSession where
  sessionId : String
  processGeneration : ℕ
  snapshotEpoch : ℕ
  disconnectToken : String
  deriving DecidableEq, Repr

def adapterMetadata (r : NormalizedRegistration) : AgentAdapterMetadata where
  family := r.adapterFamily
  version := r.adapterVersion
  compatibility := if r.compatible then "compatible" else "unsupported_version"

def driftVendor (r : NormalizedRegistration) : String :=
  if r.topology = "managed" then "claude-managed" else r.adapterFamily.toLower

def driftNoteFor (r : NormalizedRegistration) (env : Env) : Option DriftNote :=
  let fix := env.fixFor (driftVendor r)
  if r.versionState = "ahead" ∨ (r.versionState = "unsupported" ∧ fix.isSome) then
    some ⟨r.versionState, r.adapterVersion, r.testedVersion, min (env.gaps (driftVendor r)) 4096, fix⟩
  else none

def registrationFallback (r : NormalizedRegistration) (routeId : String) : TerminalFallback :=
  if r.topology = "adopted" then
    ⟨"resumable_session", some routeId, some "adopted_resume", none, none⟩
  else LiveSession.unavailableFallback "route_resolving"

def registrationSnapshot (r : NormalizedRegistration) (env : Env) (mapping : IdentityMapping)
    (receipts : List CommandReceipt) : AgentSessionSnapshot :=
  let fallback := registrationFallback r (env.ids 2)
  { v := agentProtocolVersion
    sessionId := mapping.sessionId
    snapshotEpoch := mapping.snapshotEpoch
    revision := mapping.revisionSeed
    processGeneration := mapping.processGeneration
    adapter := adapterMetadata r
    topology := r.topology
    presence := "live"
    storedReason := none
    controlOwner := r.controlOwner
    observation := r.observation
    turn := r.turn
    permissionMode := none
    model := none
    effort := none
    models := none
    drift := driftNoteFor r env
    capabilities := { r.capabilities with terminalContinuity := fallback.continuity }
    pendingInteractions := []
    timelineWindow := ⟨[], false, r.historyBoundary, none, none, false⟩
    terminalFallback := fallback
    latestCommandReceipts := receipts }

def registeredSession (r : NormalizedRegistration) (sender : Option ℕ) (token : String) (now : ℕ)
    (snapshot : AgentSessionSnapshot) (timeline : Timeline) : LiveSession :=
  { toTimeline := timeline
    snapshot := snapshot
    workspaceDisplay := r.workspaceDisplay
    bridgeDisconnectToken := token
    processId := r.processId
    terminalBinding := r.terminalBinding
    compatible := r.compatible
    offeredCommands := r.capabilities.commands
    bridgeSender := sender
    adapterActive := true
    openRun := none
    updatedAt := now
    routeId := none
    inFlightCommands := [] : LiveSession }.refreshSnapshotWindow

namespace LiveSession

def supersedeInFlight (sessionId : String) (env : Env) :
    ℕ → LiveSession → MetadataStore → List String → Effect × Except String Unit
  | _, s, store, [] => (⟨s, [], store⟩, .ok ())
  | index, s, store, commandId :: rest =>
    match s.persistAndPublishReceipt store env.now (env.disk index)
        (s.ambiguousReceipt sessionId env.now "bridge_superseded" commandId) with
    | (first, .error e) => (first, .error e)
    | (first, .ok ()) =>
      let (others, answer) := supersedeInFlight sessionId env (index + 1) first.session first.store rest
      (⟨others.session, first.frames ++ others.frames, others.store⟩, answer)

end LiveSession

def MetadataStore.registrationClaim (store : MetadataStore) (r : NormalizedRegistration)
    (liveRevision : Option ℕ) (now : ℕ) : MetadataStore.Claim where
  upstreamIdentity := r.upstreamIdentity
  preferredSessionId := if r.topology ∈ ["managed", "adopted"] then some r.upstreamIdentity else none
  processNonceDigest := store.digest r.processNonce
  adapterFamily := r.adapterFamily
  adapterVersion := r.adapterVersion
  liveRevision := liveRevision
  now := now

def MetadataStore.assign (store : MetadataStore) (env : Env) (r : NormalizedRegistration)
    (liveRevision : Option ℕ) : MetadataStore × Except String IdentityMapping :=
  store.register (store.registrationClaim r liveRevision env.now) (env.ids 0) env.epoch (env.disk 0)

namespace Supervisor

variable (sv : Supervisor)

def mappedSessionId (r : NormalizedRegistration) : Option String :=
  (sv.metadata.mappingFor r.upstreamIdentity).map (·.sessionId)

def fenceSuperseded (env : Env) (mapped : Option String) : Supervisor × Except String (Option ℕ) :=
  match mapped with
  | none => (sv, .ok none)
  | some sessionId =>
    match sv.sessions.lookup sessionId with
    | none => (sv, .ok none)
    | some s =>
      match LiveSession.supersedeInFlight sessionId env 1 s sv.metadata s.inFlightCommands with
      | (effect, .error e) => (sv.putEffect sessionId effect, .error e)
      | (effect, .ok ()) =>
        let cleared := { effect.session with inFlightCommands := [] }
        (sv.putEffect sessionId { effect with session := cleared }, .ok (some cleared.snapshot.revision))

def assignMapping (env : Env) (r : NormalizedRegistration) (liveRevision : Option ℕ) :
    Supervisor × Except String IdentityMapping :=
  let (store, answer) := sv.metadata.assign env r liveRevision
  ({ sv with metadata := store }, answer)

def supersededIds (r : NormalizedRegistration) (sessionId : String) : List String :=
  (sv.sessions.entries.filter fun entry => entry.2.bridgeSender = none ∧
    entry.2.processId = r.processId ∧ entry.1 ≠ sessionId).map (·.1)

def displacedIds (r : NormalizedRegistration) (mapped : Option String) (sessionId : String) : List String :=
  sv.supersededIds r sessionId ++ (mapped.filter (· ≠ sessionId)).toList

def inheritedTimeline (mapping : IdentityMapping) : Timeline :=
  match sv.sessions.lookup mapping.sessionId with
  | some previous =>
    if previous.snapshot.processGeneration = mapping.processGeneration ∧
        previous.snapshot.snapshotEpoch = mapping.snapshotEpoch then previous.toTimeline
    else .empty
  | none => .empty

def installSession (env : Env) (r : NormalizedRegistration) (sender : Option ℕ)
    (mapped : Option String) (mapping : IdentityMapping) (snapshot : AgentSessionSnapshot) : Supervisor :=
  let sessionId := mapping.sessionId
  let cleared := (sv.displacedIds r mapped sessionId).foldl (removeSession · env.now) sv
  let session := registeredSession r sender (env.ids 1) env.now snapshot
    (cleared.inheritedTimeline mapping)
  let unrouted := cleared.dropRoute ((cleared.sessions.lookup sessionId).bind (·.routeId))
  { unrouted with
    sessions := unrouted.sessions.insert sessionId session
    ended := unrouted.ended.erase sessionId }

def registerNew (env : Env) (r : NormalizedRegistration) (sender : Option ℕ) :
    Supervisor × Except String RegisteredAgentSession :=
  match r.validate with
  | .error _ => (sv, .error "normalized adapter registration is invalid")
  | .ok () =>
    let mapped := sv.mappedSessionId r
    match sv.fenceSuperseded env mapped with
    | (sv, .error e) => (sv, .error e)
    | (sv, .ok liveRevision) =>
      match sv.assignMapping env r liveRevision with
      | (sv, .error e) => (sv, .error e)
      | (sv, .ok mapping) =>
        let snapshot := registrationSnapshot r env mapping (sv.metadata.receiptsFor mapping.sessionId
          mapping.processGeneration mapping.snapshotEpoch)
        (sv.installSession env r sender mapped mapping snapshot,
          .ok ⟨mapping.sessionId, mapping.processGeneration, mapping.snapshotEpoch, env.ids 1⟩)

def driftIdentityChanged (old new : Option DriftNote) : Bool :=
  match old, new with
  | some old, some new =>
    old.state ≠ new.state || old.vendorVersion ≠ new.vendorVersion || old.tested ≠ new.tested ||
      old.fix ≠ new.fix
  | none, none => false
  | _, _ => true

end Supervisor

namespace LiveSession

def observedCapabilities (s : LiveSession) (r : NormalizedRegistration) : AgentCapabilities :=
  { r.capabilities with
    commands := .none
    terminalContinuity := s.snapshot.capabilities.terminalContinuity
    history := s.snapshot.capabilities.history }

def factsChanged (s : LiveSession) (r : NormalizedRegistration) (drift : Option DriftNote) : Prop :=
  s.snapshot.adapter ≠ adapterMetadata r ∨ s.snapshot.controlOwner ≠ r.controlOwner ∨
    s.snapshot.observation ≠ r.observation ∨ s.snapshot.capabilities ≠ s.observedCapabilities r ∨
    s.workspaceDisplay ≠ r.workspaceDisplay ∨ Supervisor.driftIdentityChanged s.snapshot.drift drift

instance (s : LiveSession) (r : NormalizedRegistration) (drift : Option DriftNote) :
    Decidable (s.factsChanged r drift) :=
  inferInstanceAs (Decidable (_ ∨ _))

def observe (s : LiveSession) (env : Env) (r : NormalizedRegistration) :
    LiveSession × List AgentServerFrame :=
  let drift := driftNoteFor r env
  let seen := { s with
    processId := r.processId
    terminalBinding := r.terminalBinding
    snapshot := { s.snapshot with drift := drift }
    compatible := r.compatible
    offeredCommands := .none
    adapterActive := true
    updatedAt := env.now
    workspaceDisplay := r.workspaceDisplay }
  if s.factsChanged r drift then
    let changed := { seen with snapshot := { seen.snapshot with
      adapter := adapterMetadata r
      controlOwner := r.controlOwner
      observation := r.observation
      capabilities := s.observedCapabilities r } }.bumpRevision env.now
    (changed, [changed.resync "adapter_facts_changed"])
  else (seen, [])

end LiveSession

namespace Supervisor

variable (sv : Supervisor)

def refreshObserverRegistration (env : Env) (r : NormalizedRegistration) :
    Supervisor × Except String (Option RegisteredAgentSession) :=
  match sv.metadata.mappingForProcess r.upstreamIdentity r.processNonce with
  | none => (sv, .ok none)
  | some (sessionId, processGeneration, snapshotEpoch) =>
    let revoked := { sv with ended := sv.ended.erase sessionId }
    match sv.sessions.lookup sessionId with
    | none => (revoked, .ok none)
    | some s =>
      if s.snapshot.processGeneration ≠ processGeneration ∨ s.snapshot.snapshotEpoch ≠ snapshotEpoch then
        (revoked, .ok none)
      else
        let (observed, frames) := s.observe env r
        let sv := revoked.put sessionId (observed, frames)
        let registered : RegisteredAgentSession :=
          ⟨sessionId, processGeneration, snapshotEpoch, s.bridgeDisconnectToken⟩
        if frames = [] then (sv, .ok (some registered))
        else
          let (store, written) := sv.metadata.updateRevision sessionId observed.snapshot.revision env.now
            (env.disk 0)
          ({ sv with metadata := store }, written.map fun _ => some registered)

def registerObserver (env : Env) (r : NormalizedRegistration) :
    Supervisor × Except String RegisteredAgentSession :=
  match r.validate with
  | .error _ => (sv, .error "normalized observer registration is invalid")
  | .ok () =>
    if r.capabilities.commands ≠ .none then
      (sv, .error "a transient observer cannot advertise native commands")
    else match sv.refreshObserverRegistration env r with
      | (sv, .error e) => (sv, .error e)
      | (sv, .ok (some registered)) => (sv, .ok registered)
      | (sv, .ok none) => sv.registerNew env r none

end Supervisor

end CiaoHost.Session
