import CiaoHost.Bridge.Handler

/-! A bridge that registered is taken down again. -/

namespace CiaoHost.Bridge

open Protocol Session Lib

namespace Handler

/-- Once the handler has returned, each registration it made has been disconnected under its own
token. -/
def Unwound (h : Handler) : Prop :=
  ∀ result session, h.phase = .returned result → .registered session ∈ h.calls →
    ∃ processExited, .disconnected session.sessionId session.disconnectToken processExited ∈ h.calls

def Tracked (calls : List BridgeCall) : HandlerPhase → Prop
  | .connecting | .observing => calls = []
  | .greeting session | .serving session | .replying session | .noting session _ | .commanding session
  | .parting session => calls = [.registered session]
  | .returned _ =>
    calls = [] ∨ ∃ session processExited,
      calls = [.registered session, .disconnected session.sessionId session.disconnectToken processExited]

/-- The handler returns past its own end: the greeting cannot be built or written, or the dialect
has no frame for a command. -/
def returnsEarly (h : Handler) : HandlerPhase → Wake → Bool
  | .connecting, .peer _ _ frameBuilt => !frameBuilt
  | .greeting _, .wrote (.error _) => true
  | .serving _, .command (some command) => !h.codec.notes command && !h.codec.mapsCommand command
  | .noting _ command, .noted => !h.codec.mapsCommand command
  | _, _ => false

def RunsToItsEnd (h : Handler) (input : Env × Wake) : Prop := h.returnsEarly h.phase input.2 = false

instance (h : Handler) (input : Env × Wake) : Decidable (h.RunsToItsEnd input) := inferInstanceAs (Decidable (_ = _))

variable {h : Handler}

variable {session : RegisteredAgentSession}

lemma disconnect_tracked (hcalls : h.calls = [.registered session]) (env : Env)
    (processExited : Bool) (result : Except String Unit) :
    Tracked (h.disconnect env session processExited result).calls (h.disconnect env session processExited result).phase := by
  refine .inr ⟨session, processExited, ?_⟩
  rw [disconnect, hcalls]
  rfl

lemma onPeer_tracked (hcalls : h.calls = []) (env : Env) (peer : Peer) (commands : ℕ) :
    Tracked (h.onPeer env peer commands true).calls (h.onPeer env peer commands true).phase := by
  rw [onPeer]
  split
  · exact .inl hcalls
  · dsimp only
    split
    · split
      · exact .inl hcalls
      · exact hcalls
    · split
      · exact .inl hcalls
      · rw [if_pos rfl, hcalls]
        rfl

section

variable (hcalls : h.calls = [.registered session])

include hcalls

lemma onIncoming_tracked (env : Env)
    (body : Except String AdapterEvent) :
    Tracked (h.onIncoming env session body).calls (h.onIncoming env session body).phase := by
  cases body with
  | error message => exact disconnect_tracked hcalls env _ _
  | ok event =>
    rw [onIncoming]
    dsimp only
    split
    · apply disconnect_tracked
      exact hcalls
    · apply disconnect_tracked
      exact hcalls
    · split <;> exact hcalls

lemma sendCommand_tracked {command : AgentCommand} (hmaps : h.codec.mapsCommand command) :
    Tracked (h.sendCommand session command).calls (h.sendCommand session command).phase := by
  rw [sendCommand, if_pos hmaps]
  exact hcalls

lemma onCommand_tracked (env : Env)
    {command : Option AgentCommand}
    (hmaps : ∀ c ∈ command, h.codec.notes c = false → h.codec.mapsCommand c) :
    Tracked (h.onCommand env session command).calls (h.onCommand env session command).phase := by
  cases command with
  | none => exact disconnect_tracked hcalls env _ _
  | some command =>
    rw [onCommand]
    split
    · exact hcalls
    · rename_i hnotes
      exact sendCommand_tracked hcalls (hmaps command rfl (Bool.eq_false_iff.mpr hnotes))

lemma onShutdown_tracked (env : Env)
    (frameBuilt : Bool) :
    Tracked (h.onShutdown env session frameBuilt).calls (h.onShutdown env session frameBuilt).phase := by
  rw [onShutdown]
  split
  · exact hcalls
  · exact disconnect_tracked hcalls env _ _

end

section

variable (htracked : Tracked h.calls h.phase)

include htracked

lemma onWrote_tracked (env : Env) (result : Except String Unit)
    (hend : h.returnsEarly h.phase (.wrote result) = false) :
    Tracked (h.onWrote env h.phase result).calls (h.onWrote env h.phase result).phase := by
  generalize hphase : h.phase = phase at htracked hend
  rw [onWrote.eq_def]
  split
  · exact htracked
  · exact htracked
  · exact htracked
  · cases hend
  · exact disconnect_tracked htracked env _ _
  · exact disconnect_tracked htracked env _ _
  · exact disconnect_tracked htracked env _ _
  · rw [hphase]
    exact htracked

lemma wake_tracked (env : Env) {cause : Wake}
    (hend : h.returnsEarly h.phase cause = false) :
    Tracked (h.wake env h.phase cause).calls (h.wake env h.phase cause).phase := by
  have hwrote := onWrote_tracked htracked env
  generalize hphase : h.phase = phase at htracked hend hwrote
  rw [wake.eq_def]
  split
  · rename_i peer commands frameBuilt
    cases frameBuilt with
    | false => cases hend
    | true => exact onPeer_tracked htracked env peer commands
  · exact .inl htracked
  · exact hwrote _ hend
  · exact onIncoming_tracked htracked env _
  · apply onCommand_tracked htracked env
    rintro c ⟨⟩ hnotes
    simpa [returnsEarly, hnotes] using hend
  · apply sendCommand_tracked htracked
    simpa [returnsEarly] using hend
  · exact onShutdown_tracked htracked env _
  · rw [← hphase] at htracked
    exact htracked
  · rw [← hphase] at htracked
    exact htracked

lemma unwound_of_tracked : h.Unwound := by
  intro result session hphase hmem
  rw [hphase] at htracked
  rcases htracked with hnone | ⟨own, processExited, hcalls⟩
  · rw [hnone] at hmem
    cases hmem
  · rw [hcalls] at hmem ⊢
    simp only [List.mem_cons, reduceCtorEq, BridgeCall.registered.injEq, List.not_mem_nil, or_false] at hmem
    exact ⟨processExited, by simp [hmem]⟩

end

theorem bridge_unwound (sv : Supervisor) (h : Handler) (hreaches : Runs.Reaches step RunsToItsEnd (start sv) h) :
    h.Unwound := by
  apply unwound_of_tracked
  apply hreaches.invariant (P := fun h => Tracked h.calls h.phase)
  · rfl
  · intro h input htracked hend
    exact wake_tracked htracked input.1 hend

end Handler

namespace Sample

def peer : Peer where
  sameAccount := some true
  pid := some 7
  firstFrame := .ok ()
  selected := some (.pi, Session.Sample.registration)
  producerIdentity := none
  descends := true
  interactive := true
  localAppServer := false
  sharedBinding := .ok none
  identityAfter := none
  descendsAfter := false
  tokenAccepted := true
  processStart := some "start-7"
  bindingNonce := ""
  authenticatedNonce := "nonce-1"

def inputs (wakes : List Wake) : List (Env × Wake) := wakes.map fun wake => (Session.Sample.env 0 ["s-1", "t-1", "r-1"], wake)

def garbled : List (Env × Wake) :=
  inputs [.peer peer 0 true, .wrote (.ok ()), .incoming (.error "agent frame contains malformed JSON")]

def vanished : List (Env × Wake) := inputs [.peer peer 0 true, .wrote (.error "broken pipe")]

def afterWakes (inputs : List (Env × Wake)) : Handler := inputs.foldl Handler.step (.start (.empty id))

end Sample

theorem bridge_unwound_garbled :
    (Sample.afterWakes Sample.garbled).calls = [.registered ⟨"s-1", 1, 1000, "t-1"⟩, .disconnected "s-1" "t-1" false] ∧
    (Sample.afterWakes Sample.garbled).Unwound := by
  have hallowed : Runs.Allowed Handler.step Handler.RunsToItsEnd (.start (.empty id)) Sample.garbled := by
    decide +kernel
  exact ⟨by decide +kernel, Handler.bridge_unwound _ _ (Runs.Reaches.refl.of_run hallowed)⟩

theorem unwritten_greeting_leaves_bridge :
    ∃ h, Runs.Reaches Handler.step (fun _ _ => True) (.start (.empty id)) h ∧ ¬ h.Unwound ∧
      ((h.supervisor.sessions.lookup "s-1").bind (·.bridgeSender)) = some 0 := by
  refine ⟨Sample.afterWakes Sample.vanished, Runs.Reaches.refl.of_run (by simp [Runs.Allowed, Sample.vanished, Sample.inputs]),
    ?_, by decide +kernel⟩
  intro hunwound
  have hcalls : (Sample.afterWakes Sample.vanished).calls = [.registered ⟨"s-1", 1, 1000, "t-1"⟩] := by decide +kernel
  obtain ⟨processExited, hmem⟩ := hunwound (.error "broken pipe") ⟨"s-1", 1, 1000, "t-1"⟩ rfl (by rw [hcalls]; simp)
  rw [hcalls] at hmem
  simp at hmem

end CiaoHost.Bridge
