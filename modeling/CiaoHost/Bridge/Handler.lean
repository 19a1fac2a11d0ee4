import CiaoHost.Bridge.Events

/-! One bridge connection from its first frame to its end (`handle_agent_bridge` in
agent_bridge.rs), cut at its awaits. -/

namespace CiaoHost.Bridge

open Protocol Session Lib Lib.Checks

structure Peer where
  sameAccount : Option Bool
  pid : Option ℕ
  firstFrame : Except String Unit
  selected : Option (Codec × NormalizedRegistration)
  producerIdentity : Option String
  descends : Bool
  interactive : Bool
  localAppServer : Bool
  sharedBinding : Except String (Option TerminalBinding)
  identityAfter : Option String
  descendsAfter : Bool
  tokenAccepted : Bool
  processStart : Option String
  bindingNonce : String
  authenticatedNonce : String

def required {α : Type} (refusal : String) (value : Option α) : Except String α := value.elim (.error refusal) .ok

def demand (refusal : String) (holds : Bool) : Except String Unit := if holds then .ok () else .error refusal

def bindSharedCodexRegistration (r : NormalizedRegistration) (binding : TerminalBinding) (nonce : String) :
    Except String NormalizedRegistration :=
  if r.adapterFamily ≠ "Codex" ∨ r.topology ≠ "attached" ∨ binding.serverPid ≠ r.processId ∨
      binding.tuiPid = binding.serverPid ∨ binding.threadId ≠ r.upstreamIdentity then
    .error "Codex shared terminal binding does not match its authenticated producer"
  else .ok { r with processId := binding.tuiPid, processNonce := nonce, terminalBinding := some binding }

def shareTerminal (peer : Peer) (codec : Codec) (r : NormalizedRegistration) (identity : Option String) :
    Except String NormalizedRegistration := do
  demand "agent bridge process is not an attached interactive TUI" (codec = .codex)
  demand "Codex event producer is not a supported local app-server" (peer.localAppServer && r.compatible)
  let found ← peer.sharedBinding
  let binding ← required "Codex shared terminal binding is unavailable or ambiguous" found
  demand "Codex event producer changed during terminal authentication"
    (identity = some binding.serverIdentity && peer.identityAfter = identity && peer.descendsAfter)
  bindSharedCodexRegistration r binding peer.bindingNonce

def authenticate (peer : Peer) : Except String (Codec × NormalizedRegistration) := do
  let sameAccount ← required "inspect agent bridge peer" peer.sameAccount
  demand "agent bridge peer has the wrong account" sameAccount
  peer.firstFrame
  let (codec, r) ← required "agent bridge registration was invalid" peer.selected
  let _ ← required "agent bridge peer process is unavailable" peer.pid
  let identity ←
    if codec = .codex then
      (required "Codex producer incarnation is unavailable" peer.producerIdentity).map some
    else .ok none
  demand "agent bridge peer is not descended from its claimed process" peer.descends
  let r ←
    if codec.requiresTuiProcess ∧ ¬ peer.interactive then shareTerminal peer codec r identity else .ok r
  demand "managed worker registration token was not accepted" (codec ≠ .claudeManaged || peer.tokenAccepted)
  let _ ← required "agent bridge process identity is unavailable"
    ((r.terminalBinding.map (·.tuiIdentity)).or peer.processStart)
  .ok (codec, { r with processNonce := peer.authenticatedNonce })

/-- Where the handler waits. A hook connection is served apart from the bridge loop. -/
inductive HandlerPhase where
  | connecting
  | observing
  | greeting (registered : RegisteredAgentSession)
  | serving (registered : RegisteredAgentSession)
  | replying (registered : RegisteredAgentSession)
  | noting (registered : RegisteredAgentSession) (command : AgentCommand)
  | commanding (registered : RegisteredAgentSession)
  | parting (registered : RegisteredAgentSession)
  | returned (result : Except String Unit)

inductive BridgeCall where
  | registered (session : RegisteredAgentSession)
  | disconnected (sessionId disconnectToken : String) (processExited : Bool)
  deriving DecidableEq, Repr

structure Handler where
  supervisor : Supervisor
  codec : Codec
  context : EventContext
  phase : HandlerPhase
  calls : List BridgeCall

inductive Wake where
  | peer (peer : Peer) (commands : ℕ) (frameBuilt : Bool)
  | observed (result : Except String Unit)
  | wrote (result : Except String Unit)
  | incoming (body : Except String AdapterEvent)
  | command (command : Option AgentCommand)
  | noted
  | shutdown (frameBuilt : Bool)
  /-- Another task's call on the supervisor. -/
  | other (op : Op)

namespace Handler

variable (h : Handler)

def returns (result : Except String Unit) : Handler := { h with phase := .returned result }

def disconnect (env : Env) (registered : RegisteredAgentSession) (processExited : Bool)
    (result : Except String Unit) : Handler where
  supervisor := h.supervisor.bridgeDisconnected env registered.sessionId registered.disconnectToken processExited
  codec := h.codec
  context := h.context
  phase := .returned result
  calls := h.calls ++ [.disconnected registered.sessionId registered.disconnectToken processExited]

def onPeer (env : Env) (peer : Peer) (commands : ℕ) (frameBuilt : Bool) : Handler :=
  match authenticate peer with
  | .error message => h.returns (.error message)
  | .ok (codec, r) =>
    let h := { h with codec := codec }
    if codec.isTransient then
      match h.supervisor.registerObserver env r with
      | (sv, .error message) => { h with supervisor := sv }.returns (.error message)
      | (sv, .ok _) => { h with supervisor := sv, phase := .observing }
    else
      match h.supervisor.registerNew env r (some commands) with
      | (sv, .error message) => { h with supervisor := sv }.returns (.error message)
      | (sv, .ok registered) =>
        let h := { h with supervisor := sv, calls := h.calls ++ [BridgeCall.registered registered] }
        if frameBuilt then { h with phase := .greeting registered }
        else h.returns (.error "agent frame contains malformed JSON")

def onIncoming (env : Env) (registered : RegisteredAgentSession) : Except String AdapterEvent → Handler
  | .error message => h.disconnect env registered false (.error message)
  | .ok event =>
    let applied := applyAdapterEvent h.codec h.supervisor env registered.sessionId h.context event
    let h := { h with supervisor := applied.supervisor, context := applied.context }
    match applied.outcome with
    | .error message => h.disconnect env registered false (.error message)
    | .ok (.finish processExited) => h.disconnect env registered processExited (.ok ())
    | .ok .proceed =>
      match h.context.reply with
      | some _ => { h with context := { h.context with reply := none }, phase := .replying registered }
      | none => { h with phase := .serving registered }

def sendCommand (registered : RegisteredAgentSession) (command : AgentCommand) : Handler :=
  if h.codec.mapsCommand command then { h with phase := .commanding registered }
  else h.returns (.error "agent command mapping failed")

def onCommand (env : Env) (registered : RegisteredAgentSession) : Option AgentCommand → Handler
  | none => h.disconnect env registered false (.ok ())
  | some command =>
    if h.codec.notes command then { h with phase := .noting registered command }
    else h.sendCommand registered command

def onShutdown (env : Env) (registered : RegisteredAgentSession) (frameBuilt : Bool) : Handler :=
  if frameBuilt then { h with phase := .parting registered } else h.disconnect env registered false (.ok ())

def onWrote (env : Env) : HandlerPhase → Except String Unit → Handler
  | .greeting registered, .ok () | .replying registered, .ok () | .commanding registered, .ok () =>
    { h with phase := .serving registered }
  | .greeting _, .error message => h.returns (.error message)
  | .replying registered, .error message | .commanding registered, .error message =>
    h.disconnect env registered false (.error message)
  | .parting registered, _ => h.disconnect env registered false (.ok ())
  | _, _ => h

def wake (env : Env) : HandlerPhase → Wake → Handler
  | .connecting, .peer peer commands frameBuilt => h.onPeer env peer commands frameBuilt
  | .observing, .observed result => h.returns result
  | phase, .wrote result => h.onWrote env phase result
  | .serving registered, .incoming body => h.onIncoming env registered body
  | .serving registered, .command command => h.onCommand env registered command
  | .noting registered command, .noted => h.sendCommand registered command
  | .serving registered, .shutdown frameBuilt => h.onShutdown env registered frameBuilt
  | _, .other op => { h with supervisor := h.supervisor.step env op }
  | _, _ => h

def step (h : Handler) (input : Env × Wake) : Handler := h.wake input.1 h.phase input.2

def start (sv : Supervisor) : Handler := ⟨sv, .pi, .start, .connecting, []⟩

end Handler

end CiaoHost.Bridge
