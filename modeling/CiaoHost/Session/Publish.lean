import CiaoHost.Session.State

/-! Operations on one live session that leave its timeline alone: reported values, the turn,
interactions, receipts and downgrades. -/

namespace CiaoHost.Session

open Protocol Lib Lib.KeyedList

def turnClaimExpirySeconds : ℕ := 15 * 60

namespace LiveSession

def report {α : Type} [DecidableEq α] (s : LiveSession) (now : ℕ) (current : Option α) (value : α)
    (change : AgentSessionSnapshot → AgentSessionSnapshot) (published : AgentDeltaChange) :
    LiveSession × List AgentServerFrame :=
  if current = some value then (s, []) else s.publishChange now change fun _ => [published]

def updatePermissionMode (s : LiveSession) (now : ℕ) (mode : String) :
    LiveSession × List AgentServerFrame :=
  s.report now s.snapshot.permissionMode mode ({ · with permissionMode := some mode })
    (.permissionMode mode)

def updateModel (s : LiveSession) (now : ℕ) (model : String) : LiveSession × List AgentServerFrame :=
  s.report now s.snapshot.model model ({ · with model := some model }) (.model model)

def updateEffort (s : LiveSession) (now : ℕ) (effort : String) : LiveSession × List AgentServerFrame :=
  s.report now s.snapshot.effort effort ({ · with effort := some effort }) (.effort effort)

def updateModelCatalogue (s : LiveSession) (now : ℕ) (models : List AgentModelOption) :
    LiveSession × List AgentServerFrame :=
  s.report now s.snapshot.models models ({ · with models := some models }) (.modelCatalogue models)

def effectiveCommands (s : LiveSession) (commands : CommandCapabilities) : CommandCapabilities :=
  if s.compatible ∧ s.bridgeSender.isSome then commands else .none

def setCommands (commands : CommandCapabilities) (snapshot : AgentSessionSnapshot) :
    AgentSessionSnapshot :=
  { snapshot with capabilities := { snapshot.capabilities with commands := commands } }

def updateCommands (s : LiveSession) (now : ℕ) (commands : CommandCapabilities) :
    LiveSession × List AgentServerFrame :=
  let s := { s with offeredCommands := commands }
  let effective := s.effectiveCommands commands
  if s.snapshot.capabilities.commands = effective then (s, [])
  else s.publishChange now (setCommands effective) fun snapshot => [.capabilities snapshot.capabilities]

def publishTurn (s : LiveSession) (now : ℕ) (turn : TurnState) : LiveSession × List AgentServerFrame :=
  s.publishChange now ({ · with turn := turn }) fun snapshot => [.turn snapshot.turn]

def noteTurn (s : LiveSession) (now : ℕ) (turn : TurnState) : LiveSession × List AgentServerFrame :=
  let s := { s with openRun := if NormalizedRegistration.isWorking turn then some turn else none }
  if s.snapshot.turn = turn then (s, []) else s.publishTurn now turn

def latchAttention (s : LiveSession) (now : ℕ) : LiveSession × List AgentServerFrame :=
  if s.snapshot.turn.isAwaiting then (s, []) else s.publishTurn now (.awaitingInteraction none)

def idleReport (s : LiveSession) (now : ℕ) : LiveSession × List AgentServerFrame :=
  if NormalizedRegistration.isWorking s.snapshot.turn then
    { s with openRun := none }.publishTurn now .idle
  else (s, [])

def expireTurnClaim (s : LiveSession) (now : ℕ) : LiveSession × List AgentServerFrame :=
  if s.bridgeSender.isSome ∨ ¬ NormalizedRegistration.isWorking s.snapshot.turn ∨
      now - s.updatedAt < turnClaimExpirySeconds then (s, [])
  else { s with openRun := none }.publishTurn now (.unknown "turn_claim_expired")

def publishInteraction (s : LiveSession) (now : ℕ) (interaction : PendingInteraction)
    (pending : List PendingInteraction) : LiveSession × List AgentServerFrame :=
  s.publishChange now
    ({ · with pendingInteractions := pending, turn := .awaitingInteraction none })
    fun snapshot => [.upsertInteraction interaction, .turn snapshot.turn]

def upsertInteraction (s : LiveSession) (now : ℕ) (interaction : PendingInteraction) :
    (LiveSession × List AgentServerFrame) × Except String Unit :=
  let pending := s.snapshot.pendingInteractions
  match pending.find? (·.interactionId = interaction.interactionId) with
  | some existing =>
    if interaction.interactionRevision ≤ existing.interactionRevision then ((s, []), .ok ())
    else (s.publishInteraction now interaction
      (replaceFirst PendingInteraction.interactionId interaction pending), .ok ())
  | none =>
    if maxPendingInteractions ≤ pending.length then
      ((s, []), .error "pending interactions exceeded their bound")
    else (s.publishInteraction now interaction (pending ++ [interaction]), .ok ())

def turnAfterResolution (s : LiveSession) (pending : List PendingInteraction) : TurnState :=
  if pending ≠ [] then .awaitingInteraction none
  else s.openRun.getD (.unknown "awaiting_worker_state")

def resolveInteraction (s : LiveSession) (now : ℕ) (interactionId resolution : String) :
    LiveSession × List AgentServerFrame :=
  let pending := s.snapshot.pendingInteractions
  if pending.any (·.interactionId = interactionId) then
    let pending := pending.filter (·.interactionId ≠ interactionId)
    s.publishChange now
      ({ · with pendingInteractions := pending, turn := s.turnAfterResolution pending })
      fun snapshot => [.removeInteraction interactionId resolution, .turn snapshot.turn]
  else (s, [])

def receiptsWith (receipts : List CommandReceipt) (receipt : CommandReceipt) : List CommandReceipt :=
  if receipts.any (·.commandId = receipt.commandId) then
    replaceFirst CommandReceipt.commandId receipt receipts
  else AgentSessionSnapshot.boundReceipts (receipts ++ [receipt])

def publishReceipt (s : LiveSession) (now : ℕ) (receipt : CommandReceipt) :
    LiveSession × List AgentServerFrame :=
  let (changed, frames) := s.publishChange now
    (fun snapshot =>
      { snapshot with latestCommandReceipts := receiptsWith snapshot.latestCommandReceipts receipt })
    fun _ => [.commandReceipt receipt]
  (changed, .commandReceipt agentProtocolVersion receipt :: frames)

def unavailableFallback (reason : String) : TerminalFallback :=
  ⟨"unavailable", none, some reason, none, none⟩

def withdrawRoute (reason : String) (snapshot : AgentSessionSnapshot) : AgentSessionSnapshot :=
  { snapshot with
    terminalFallback := unavailableFallback reason
    capabilities := { snapshot.capabilities with terminalContinuity := "unavailable" } }

def withdrawSession (reason : String) (snapshot : AgentSessionSnapshot) : AgentSessionSnapshot :=
  { withdrawRoute reason (setCommands .none snapshot) with
    observation := ⟨"stale", reason, snapshot.observation.lastAuthoritativeAt⟩
    turn := .unknown reason }

def downgradeSession (s : LiveSession) (now : ℕ) (reason : String) :
    LiveSession × List AgentServerFrame :=
  { s with openRun := none }.publishChange now (withdrawSession reason) fun snapshot =>
    [.observation snapshot.observation, .terminalFallback snapshot.terminalFallback,
      .capabilities snapshot.capabilities, .turn snapshot.turn]

def downgradeRoute (s : LiveSession) (now : ℕ) (reason : String) :
    LiveSession × List AgentServerFrame :=
  s.publishChange now (withdrawRoute reason) fun snapshot =>
    [.terminalFallback snapshot.terminalFallback, .capabilities snapshot.capabilities]

def release (s : LiveSession) : LiveSession :=
  { s with snapshot := { s.snapshot with topology := "attached", pendingInteractions := [] } }

def proofFallback (proof : Option AgentRouteProof) (routeId : String) : TerminalFallback :=
  match proof with
  | some proof =>
    ⟨proof.continuity, some routeId,
      if proof = .herdrWorkspace then some "exact_context_unqualified" else none, none, none⟩
  | none => unavailableFallback "durable_context_unavailable"

def installRoute (s : LiveSession) (now : ℕ) (proof : Option AgentRouteProof) (routeId : String) :
    LiveSession × List AgentServerFrame :=
  let fallback := proofFallback proof routeId
  let commands := s.effectiveCommands s.offeredCommands
  { s with routeId := proof.map fun _ => routeId }.publishChange now
    (fun snapshot => { snapshot with
      terminalFallback := fallback
      capabilities := { snapshot.capabilities with
        terminalContinuity := fallback.continuity, commands := commands } })
    fun snapshot => [.terminalFallback fallback, .capabilities snapshot.capabilities]

end LiveSession

end CiaoHost.Session
