import CiaoHost.Session.Receipts

/-! Submissions in the lock sections they run in, interleaved with each other and with every other
operation of the supervisor. -/

namespace CiaoHost.Session

open Protocol Lib Lib.Checks

structure Handing where
  command : AgentCommand
  sender : Option ℕ
  receipt : CommandReceipt

/-- The supervisor with the submissions between two of their sections: those past the lookup, with
the clock they read, and those past the session section. Beside them the latest clock reading and
the sessions that commands were filed under. -/
structure Submissions where
  supervisor : Supervisor
  entered : List (AgentCommand × ℕ)
  handing : List Handing
  clock : ℕ
  homes : List (String × String)

namespace Submissions

inductive Input where
  | op (env : Env) (op : Op)
  | lookUp (command : AgentCommand) (now : ℕ)
  | admitEntered (index clock : ℕ) (disk : Except String Unit)
  | deliver (index now : ℕ) (accepts : Bool) (disk : Except String Unit)

def lookUp (d : Submissions) (command : AgentCommand) (now : ℕ) : Submissions :=
  let read := { d with clock := max d.clock now }
  if command.validate = .ok () ∧ d.supervisor.lookupCommand command now = none then
    { read with entered := d.entered ++ [(command, now)] }
  else read

def admitEntered (d : Submissions) (index clock : ℕ) (disk : Except String Unit) : Submissions :=
  match d.entered[index]? with
  | none => d
  | some (command, now) =>
    let (supervisor, admission) := d.supervisor.admitCommand command now clock disk
    { supervisor := supervisor
      entered := d.entered.eraseIdx index
      handing := match admission with
        | .answered _ => d.handing
        | .admitted sender receipt => d.handing ++ [⟨command, sender, receipt⟩]
      clock := max d.clock clock
      homes := if (d.supervisor.sessions.lookup command.sessionId).isSome then
          d.homes ++ [(command.commandId, command.sessionId)]
        else d.homes }

def deliver (d : Submissions) (index now : ℕ) (accepts : Bool) (disk : Except String Unit) : Submissions :=
  match d.handing[index]? with
  | none => d
  | some handing =>
    { d with
      supervisor :=
        (d.supervisor.deliverCommand handing.command handing.sender handing.receipt now accepts disk).1
      handing := d.handing.eraseIdx index
      clock := max d.clock now }

/-- A submission as one operation is left to its sections. -/
def step (d : Submissions) : Input → Submissions
  | .op _ (.submit _) => d
  | .op env op => { d with supervisor := d.supervisor.step env op, clock := max d.clock env.now }
  | .lookUp command now => d.lookUp command now
  | .admitEntered index clock disk => d.admitEntered index clock disk
  | .deliver index now accepts disk => d.deliver index now accepts disk

def start (store : MetadataStore) (clock : ℕ) : Submissions where
  supervisor := { Supervisor.empty store.digest with metadata := store }
  entered := []
  handing := []
  clock := clock
  homes := store.receipts.map fun r => (r.commandId, r.sessionId)

end Submissions

structure Posting where
  session : LiveSession
  store : MetadataStore
  clock : ℕ
  disk : Except String Unit
  receipt : CommandReceipt

namespace Posting

def run (p : Posting) : Effect × Except String Unit :=
  p.session.persistAndPublishReceipt p.store p.clock p.disk p.receipt

/-- If the call succeeds, the session's row and the store's receipt are the same. -/
def Agrees (p : Posting) : Prop :=
  p.run.2 = .ok () →
    p.run.1.session.receipt p.receipt.commandId = p.run.1.store.receipt p.receipt.commandId

end Posting

namespace LiveSession

def abandonPostings (sessionId : String) (env : Env) :
    ℕ → LiveSession → MetadataStore → List String → List Posting
  | _, _, _, [] => []
  | index, s, store, commandId :: rest =>
    let receipt := s.ambiguousReceipt sessionId env.now "bridge_disconnected" commandId
    let first := s.persistOrPublishReceipt store env.now (env.disk index) receipt
    ⟨s, store, env.now, env.disk index, receipt⟩ ::
      abandonPostings sessionId env (index + 1) first.session first.store rest

def supersedePostings (sessionId : String) (env : Env) :
    ℕ → LiveSession → MetadataStore → List String → List Posting
  | _, _, _, [] => []
  | index, s, store, commandId :: rest =>
    let receipt := s.ambiguousReceipt sessionId env.now "bridge_superseded" commandId
    ⟨s, store, env.now, env.disk index, receipt⟩ ::
      match s.persistAndPublishReceipt store env.now (env.disk index) receipt with
      | (_, .error _) => []
      | (first, .ok ()) => supersedePostings sessionId env (index + 1) first.session first.store rest

end LiveSession

namespace Supervisor

def registerPostings (sv : Supervisor) (env : Env) (r : NormalizedRegistration) : List Posting :=
  match r.validate, sv.mappedSessionId r with
  | .ok (), some sessionId =>
    (sv.sessions.lookup sessionId).elim [] fun s =>
      LiveSession.supersedePostings sessionId env 1 s sv.metadata s.inFlightCommands
  | _, _ => []

def postings (sv : Supervisor) (env : Env) : Op → List Posting
  | .recordReceipt sessionId commandId state evidence reasonCode =>
    if receiptRefused commandId state evidence reasonCode then []
    else (sv.sessions.lookup sessionId).elim [] fun s =>
      if commandId ∉ s.inFlightCommands then []
      else [⟨s, sv.metadata, env.now, env.disk 0,
        s.bridgeReceipt sessionId env.now commandId state evidence reasonCode⟩]
  | .disconnect sessionId token false =>
    (sv.sessions.lookup sessionId).elim [] fun s =>
      if s.bridgeDisconnectToken ≠ token then []
      else LiveSession.abandonPostings sessionId env 0
        { s with bridgeSender := none, adapterActive := false, inFlightCommands := [] } sv.metadata s.inFlightCommands
  | .register r _ => sv.registerPostings env r
  | .registerObserver r =>
    if r.validate ≠ .ok () ∨ r.capabilities.commands ≠ .none then []
    else match sv.refreshObserverRegistration env r with
      | (sv, .ok none) => sv.registerPostings env r
      | _ => []
  | _ => []

def deliveryPostings (sv : Supervisor) (handing : Handing) (now : ℕ) (accepts : Bool)
    (disk : Except String Unit) : List Posting :=
  let unknown := fun reason => (sv.sessions.lookup handing.command.sessionId).elim [] fun s =>
    [Posting.mk { s with inFlightCommands := s.inFlightCommands.erase handing.command.commandId } sv.metadata now disk
      (rejectedReceipt handing.command "outcome_unknown" reason now)]
  match handing.sender with
  | none => unknown "bridge_disconnected"
  | some _ => if accepts then [] else unknown "bridge_backpressure"

end Supervisor

namespace Submissions

def postings (d : Submissions) : Input → List Posting
  | .op env op => d.supervisor.postings env op
  | .lookUp .. => []
  | .admitEntered index clock disk =>
    match d.entered[index]? with
    | none => []
    | some (command, now) =>
      (d.supervisor.sessions.lookup command.sessionId).elim [] fun s =>
        [⟨s, d.supervisor.metadata, clock, disk, s.admissionReceipt command now⟩]
  | .deliver index now accepts disk =>
    (d.handing[index]?).elim [] fun handing => d.supervisor.deliveryPostings handing now accepts disk

end Submissions

end CiaoHost.Session
