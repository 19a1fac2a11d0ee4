import CiaoHost.Session.Supervisor

/-! Commands and their receipts, in the lock sections the supervisor runs them in, and the ways a
bridge or a route ends. -/

namespace CiaoHost.Session

open Protocol Lib Lib.Checks

def rejectedReceipt (command : AgentCommand) (state reason : String) (now : ℕ) : CommandReceipt where
  commandId := command.commandId
  sessionId := command.sessionId
  processGeneration := command.expectedGeneration
  snapshotEpoch := command.snapshotEpoch
  state := state
  updatedAt := now
  reasonCode := some reason
  applicationEvidence := none

namespace LiveSession

def persistAndPublishReceipt (s : LiveSession) (store : MetadataStore) (now : ℕ)
    (disk : Except String Unit) (receipt : CommandReceipt) : Effect × Except String Unit :=
  match store.upsertReceipt receipt now disk with
  | (store, .error e) => (⟨s, [], store⟩, .error e)
  | (store, .ok ()) =>
    let (s, frames) := s.publishReceipt now receipt
    (⟨s, frames, store⟩, .ok ())

def persistOrPublishReceipt (s : LiveSession) (store : MetadataStore) (now : ℕ)
    (disk : Except String Unit) (receipt : CommandReceipt) : Effect :=
  match s.persistAndPublishReceipt store now disk receipt with
  | (effect, .ok ()) => effect
  | (effect, .error _) =>
    let (s, frames) := effect.session.publishReceipt now receipt
    ⟨s, effect.frames ++ frames, effect.store⟩

def ambiguousReceipt (s : LiveSession) (sessionId : String) (now : ℕ) (reason commandId : String) :
    CommandReceipt where
  commandId := commandId
  sessionId := sessionId
  processGeneration := s.snapshot.processGeneration
  snapshotEpoch := s.snapshot.snapshotEpoch
  state := "outcome_unknown"
  updatedAt := now
  reasonCode := some reason
  applicationEvidence := none

def abandonInFlight (sessionId : String) (env : Env) :
    ℕ → LiveSession → MetadataStore → List String → Effect
  | _, s, store, [] => ⟨s, [], store⟩
  | index, s, store, commandId :: rest =>
    let first := s.persistOrPublishReceipt store env.now (env.disk index)
      (s.ambiguousReceipt sessionId env.now "bridge_disconnected" commandId)
    let others := abandonInFlight sessionId env (index + 1) first.session first.store rest
    ⟨others.session, first.frames ++ others.frames, others.store⟩

def disconnected (s : LiveSession) (sessionId : String) (store : MetadataStore) (env : Env) : Effect :=
  let unplugged := { s with bridgeSender := none, adapterActive := false, inFlightCommands := [] }
  let answered := abandonInFlight sessionId env 0 unplugged store s.inFlightCommands
  let released := if answered.session.snapshot.topology = "adopted" then answered.session.release
    else answered.session
  let (downgraded, frames) := released.downgradeSession env.now "bridge_disconnected"
  ⟨downgraded, answered.frames ++ frames, answered.store⟩

def observedEnd (s : LiveSession) (now : ℕ) : LiveSession × List AgentServerFrame :=
  { s with adapterActive := false, routeId := none }.downgradeSession now "session_ended"

def adoptedEnd (s : LiveSession) (now : ℕ) (reason : String) : LiveSession × List AgentServerFrame :=
  { s with bridgeSender := none, adapterActive := false, routeId := none }.release.downgradeSession now
    reason

def isStale (s : LiveSession) (command : AgentCommand) : Prop :=
  command.snapshotEpoch ≠ s.snapshot.snapshotEpoch ∨
    command.expectedGeneration ≠ s.snapshot.processGeneration ∨
    ∃ revision ∈ command.expectedRevision, revision ≠ s.snapshot.revision

instance (s : LiveSession) (command : AgentCommand) : Decidable (s.isStale command) :=
  inferInstanceAs (Decidable (_ ∨ _))

end LiveSession

inductive Admission where
  | answered (receipt : CommandReceipt)
  | admitted (sender : Option ℕ) (receipt : CommandReceipt)

def sendingReceipt (command : AgentCommand) (now : ℕ) : CommandReceipt :=
  { rejectedReceipt command "sending" "" now with reasonCode := none }

namespace LiveSession

/-- Staleness, capability, receipt write and in-flight insert. `now` was read before the lookup,
`clock` is read when the receipt is stored. -/
def takeCommand (s : LiveSession) (store : MetadataStore) (command : AgentCommand) (now clock : ℕ)
    (disk : Except String Unit) : Effect × Admission :=
  let refuse := fun receipt : CommandReceipt =>
    ((s.persistAndPublishReceipt store clock disk receipt).1, Admission.answered receipt)
  if s.isStale command then refuse (rejectedReceipt command "stale" "snapshot_stale" now)
  else if ¬ s.snapshot.capabilities.permits command.kind then
    refuse (rejectedReceipt command "unavailable" "command_not_advertised" now)
  else
    let receipt := sendingReceipt command now
    match s.persistAndPublishReceipt store clock disk receipt with
    | (effect, .error _) =>
      (effect, .answered (rejectedReceipt command "unavailable" "receipt_store_unavailable" now))
    | (effect, .ok ()) =>
      let inFlight := { effect.session with
        inFlightCommands := effect.session.inFlightCommands.insert command.commandId }
      ({ effect with session := inFlight }, .admitted s.bridgeSender receipt)

def admissionReceipt (s : LiveSession) (command : AgentCommand) (now : ℕ) : CommandReceipt :=
  if s.isStale command then rejectedReceipt command "stale" "snapshot_stale" now
  else if ¬ s.snapshot.capabilities.permits command.kind then
    rejectedReceipt command "unavailable" "command_not_advertised" now
  else sendingReceipt command now

def landUnknown (s : LiveSession) (store : MetadataStore) (command : AgentCommand) (reason : String)
    (now : ℕ) (disk : Except String Unit) : Effect :=
  { s with inFlightCommands := s.inFlightCommands.erase command.commandId }.persistOrPublishReceipt store
    now disk (rejectedReceipt command "outcome_unknown" reason now)

end LiveSession

namespace Supervisor

variable (sv : Supervisor)

def lookupCommand (command : AgentCommand) (now : ℕ) : Option CommandReceipt :=
  (sv.metadata.receipt command.commandId).map fun existing =>
    if existing.sessionId = command.sessionId ∧ existing.snapshotEpoch = command.snapshotEpoch ∧
        existing.processGeneration = command.expectedGeneration then existing
    else rejectedReceipt command "rejected" "duplicate_command_id" now

def admitCommand (command : AgentCommand) (now clock : ℕ) (disk : Except String Unit) :
    Supervisor × Admission :=
  match sv.sessions.lookup command.sessionId with
  | none => (sv, .answered (rejectedReceipt command "unavailable" "session_unavailable" now))
  | some s =>
    let (effect, admission) := s.takeCommand sv.metadata command now clock disk
    (sv.putEffect command.sessionId effect, admission)

def markOutcomeUnknown (command : AgentCommand) (reason : String) (now : ℕ)
    (disk : Except String Unit) : Supervisor × CommandReceipt :=
  let receipt := rejectedReceipt command "outcome_unknown" reason now
  match sv.sessions.lookup command.sessionId with
  | none => (sv, receipt)
  | some s => (sv.putEffect command.sessionId (s.landUnknown sv.metadata command reason now disk), receipt)

def deliverCommand (command : AgentCommand) (sender : Option ℕ) (receipt : CommandReceipt) (now : ℕ)
    (accepts : Bool) (disk : Except String Unit) : Supervisor × CommandReceipt :=
  match sender with
  | none => sv.markOutcomeUnknown command "bridge_disconnected" now disk
  | some channel =>
    if accepts then ({ sv with delivered := sv.delivered ++ [(channel, command)] }, receipt)
    else sv.markOutcomeUnknown command "bridge_backpressure" now disk

def submitCommand (env : Env) (command : AgentCommand) : Supervisor × CommandReceipt :=
  match command.validate with
  | .error _ => (sv, rejectedReceipt command "rejected" "invalid_command" env.now)
  | .ok () =>
    match sv.lookupCommand command env.now with
    | some answer => (sv, answer)
    | none =>
      match sv.admitCommand command env.now env.now (env.disk 0) with
      | (sv, .answered receipt) => (sv, receipt)
      | (sv, .admitted sender receipt) =>
        sv.deliverCommand command sender receipt env.now env.accepts (env.disk 1)

def receiptRefused (commandId state : String) (evidence reasonCode : Option String) : Prop :=
  validOpaqueId commandId ≠ .ok () ∨ validToken state ≠ .ok () ∨
    (∃ value ∈ evidence, validToken value ≠ .ok ()) ∨ (∃ value ∈ reasonCode, validToken value ≠ .ok ()) ∨
    state ∉ ["accepted", "applied", "rejected", "outcome_unknown"] ∨ (state = "applied" ∧ evidence = none)

instance (commandId state : String) (evidence reasonCode : Option String) :
    Decidable (receiptRefused commandId state evidence reasonCode) :=
  inferInstanceAs (Decidable (_ ∨ _))

def isFinal (state : String) : Bool := state ∈ ["applied", "rejected", "outcome_unknown"]

end Supervisor

namespace LiveSession

def bridgeReceipt (s : LiveSession) (sessionId : String) (now : ℕ) (commandId state : String)
    (evidence reasonCode : Option String) : CommandReceipt :=
  { s.ambiguousReceipt sessionId now "" commandId with
    state := state, reasonCode := reasonCode, applicationEvidence := evidence }

def landReceipt (s : LiveSession) (store : MetadataStore) (env : Env) (receipt : CommandReceipt) :
    Effect × Except String Unit :=
  match s.persistAndPublishReceipt store env.now (env.disk 0) receipt with
  | (effect, .error e) => (effect, .error e)
  | (effect, .ok ()) =>
    let landed := if Supervisor.isFinal receipt.state then
        { effect.session with inFlightCommands := effect.session.inFlightCommands.erase receipt.commandId }
      else effect.session
    ({ effect with session := landed }, .ok ())

end LiveSession

namespace Supervisor

variable (sv : Supervisor)

def recordBridgeReceipt (env : Env) (sessionId commandId state : String)
    (evidence reasonCode : Option String) : Supervisor × Option CommandReceipt :=
  if receiptRefused commandId state evidence reasonCode then (sv, none)
  else match sv.sessions.lookup sessionId with
    | none => (sv, none)
    | some s =>
      if commandId ∉ s.inFlightCommands then
        (sv, s.snapshot.latestCommandReceipts.find? (·.commandId = commandId))
      else
        let receipt := s.bridgeReceipt sessionId env.now commandId state evidence reasonCode
        let (effect, written) := s.landReceipt sv.metadata env receipt
        (sv.putEffect sessionId effect, written.toOption.map fun _ => receipt)

def bridgeDisconnected (env : Env) (sessionId disconnectToken : String) (processExited : Bool) :
    Supervisor :=
  match sv.sessions.lookup sessionId with
  | none => sv
  | some s =>
    if s.bridgeDisconnectToken ≠ disconnectToken then sv
    else if processExited then sv.removeSession env.now sessionId
    else sv.putEffect sessionId (s.disconnected sessionId sv.metadata env)

def dropRoute (routeId : Option String) : Supervisor :=
  { sv with routes := routeId.elim sv.routes sv.routes.erase }

def endObservedSession (env : Env) (sessionId : String) (processGeneration : ℕ) : Supervisor :=
  match sv.sessions.lookup sessionId with
  | none => sv
  | some s =>
    if s.bridgeSender.isSome ∨ s.snapshot.processGeneration ≠ processGeneration then sv
    else
      let ended := (sv.put sessionId (s.observedEnd env.now)).dropRoute s.routeId
      { ended with ended := recordEndedVerdict ended.ended sessionId env.now }

def endAdoptedSession (env : Env) (sessionId : String) (processGeneration : ℕ) (reason : String) :
    Supervisor :=
  match sv.sessions.lookup sessionId with
  | none => sv
  | some s =>
    if s.snapshot.topology ≠ "adopted" ∨ s.snapshot.processGeneration ≠ processGeneration then sv
    else (sv.put sessionId (s.adoptedEnd env.now reason)).dropRoute s.routeId

def refreshRoute (env : Env) (sessionId : String) (proof : Option AgentRouteProof) : Supervisor :=
  match sv.sessions.lookup sessionId with
  | none => sv
  | some s =>
    if s.adapterActive ∧ s.snapshot.topology ≠ "adopted" then
      let routeId := env.ids 0
      let cleared := sv.dropRoute s.routeId
      let installed := cleared.put sessionId (s.installRoute env.now proof routeId)
      match proof with
      | none => installed
      | some proof =>
        { installed with routes :=
          installed.routes.insert routeId ⟨sessionId, s.snapshot.processGeneration, proof⟩ }
    else sv

def downgradeIfCurrent (env : Env) (routeId sessionId : String) (processGeneration : ℕ)
    (reason : String) : Supervisor :=
  match sv.sessions.lookup sessionId with
  | none => sv
  | some s =>
    if s.routeId = some routeId ∧ s.snapshot.processGeneration = processGeneration then
      (sv.put sessionId ({ s with routeId := none }.downgradeRoute env.now reason)).dropRoute (some routeId)
    else sv

end Supervisor

end CiaoHost.Session
