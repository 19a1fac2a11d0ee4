import CiaoHost.Session.Timeline
import CiaoHost.Session.Metadata

/-! The supervisor's state, what the outside world answers during an operation, and how one
session publishes a change. -/

namespace CiaoHost.Session

open Protocol Lib Lib.Saturating Lib.KeyedList

structure LiveSession extends Timeline where
  snapshot : AgentSessionSnapshot
  workspaceDisplay : String
  bridgeDisconnectToken : String
  processId : ℕ
  terminalBinding : Option TerminalBinding
  compatible : Bool
  offeredCommands : CommandCapabilities
  bridgeSender : Option ℕ
  adapterActive : Bool
  openRun : Option TurnState
  updatedAt : ℕ
  routeId : Option String
  inFlightCommands : List String

inductive AgentRouteProof where
  | tmux
  | herdrWorkspace
  deriving DecidableEq, Repr

def AgentRouteProof.continuity : AgentRouteProof → String
  | tmux => "exact_live"
  | herdrWorkspace => "workspace_only"

structure RouteRecord where
  sessionId : String
  processGeneration : ℕ
  proof : AgentRouteProof
  deriving DecidableEq, Repr

/-- `published` and `delivered` record what the update and bridge channels have carried. -/
structure Supervisor where
  sessions : KeyedMap String LiveSession
  routes : KeyedMap String RouteRecord
  carriedHistory : KeyedMap String (List TimelineEntry)
  ended : KeyedMap String ℕ
  metadata : MetadataStore
  published : List (String × AgentServerFrame)
  delivered : List (ℕ × AgentCommand)

/-- The answers of one operation's environment: the clock, the random draws in order, the disk
writes in order, the bridge channel, the process table and the release notes. -/
structure Env where
  now : ℕ
  ids : ℕ → String
  epoch : ℕ
  disk : ℕ → Except String Unit
  accepts : Bool
  processExists : ℕ → Bool
  fixFor : String → Option String
  gaps : String → ℕ

namespace LiveSession

def bumpRevision (s : LiveSession) (now : ℕ) : LiveSession :=
  { s with
    snapshot := { s.snapshot with revision := bump s.snapshot.revision }
    updatedAt := now }

def refreshSnapshotWindow (s : LiveSession) : LiveSession :=
  { s with snapshot :=
    { s.snapshot with timelineWindow := refreshWindow s.snapshot.timelineWindow s.history } }

def delta (s : LiveSession) (baseRevision : ℕ) (changes : List AgentDeltaChange) : AgentServerFrame :=
  .sessionDelta agentProtocolVersion
    { v := agentProtocolVersion
      sessionId := s.snapshot.sessionId
      snapshotEpoch := s.snapshot.snapshotEpoch
      processGeneration := s.snapshot.processGeneration
      baseRevision := baseRevision
      revision := s.snapshot.revision
      changes := changes }

def resync (s : LiveSession) (reasonCode : String) : AgentServerFrame :=
  .resyncRequired agentProtocolVersion s.snapshot.sessionId reasonCode

def publishChange (s : LiveSession) (now : ℕ) (change : AgentSessionSnapshot → AgentSessionSnapshot)
    (changes : AgentSessionSnapshot → List AgentDeltaChange) : LiveSession × List AgentServerFrame :=
  let bumped := s.bumpRevision now
  let changed := { bumped with snapshot := change bumped.snapshot }
  (changed, [changed.delta s.snapshot.revision (changes changed.snapshot)])

end LiveSession

end CiaoHost.Session
