import CiaoHost.Codex.Hold

/-! What one wake of the adopted session's loop can do, branch by branch: every result about the loop
is a case analysis over `Hold.Woke`. -/

namespace CiaoHost.Codex

open Protocol Session Lib

namespace Hold

inductive Leaves (h : Hold) : Signal → Hold → ReleaseReason → Prop
  | deferred {signal : Signal} {reason : ReleaseReason} {since : ℕ} (before : h.phase = .head)
      (deferred : h.deferredRelease = some (reason, since)) : Leaves h signal h reason
  | lost (before : h.phase = .selecting) : Leaves h .closed h .connectionLost
  | closed (before : h.phase = .selecting) : Leaves h .commandsClosed h .conversationClosed
  | requested {reason : ReleaseReason} {rest : List ReleaseReason} (before : h.phase = .selecting)
      (release : h.release = reason :: rest) : Leaves h .released { h with release := rest } reason
  | seen {first second : HolderSample} (before : h.phase = .watching)
      (foreign : foreignRolloutHolder h.ownChild first second = true) :
      Leaves h (.probed first second) (h.log [.probed first second]) .foreignTerminal
  | interrupted {succeeded : Bool} {reason : ReleaseReason} (before : h.phase = .interrupting reason) :
      Leaves h (.answered succeeded) h reason

inductive Composed (h : Hold) (command : AgentCommand) (text : String) : Signal → Hold → Prop
  | probed {first second : HolderSample} (before : h.phase = .probing command text)
      (free : foreignRolloutHolder h.ownChild first second = false) :
      Composed h command text (.probed first second) (h.log [.probed first second])
  | noted {note : Option String} (before : h.phase = .noting command text) :
      Composed h command text (.whereabouts note) h

def rejected (h : Hold) (command : AgentCommand) : HoldEffect :=
  h.receipt command.commandId "rejected" none (some "vendor_refused")

def applied (h : Hold) (command : AgentCommand) : HoldEffect :=
  h.receipt command.commandId "applied" (some "vendor_rpc_answer") none

def Answers (h : Hold) (command : AgentCommand) : Prop :=
  h.phase = .asking command ∨ ∃ text note, h.phase = .steering command text note

section

variable (keyedDigest : String → String → String → String) (sv : Supervisor) (env : Env)

def surfaced (h : Hold) : Signal → Option (String × String)
  | .serverRequest id (.approval runsCommand itemId command available) =>
    let offered := offeredDecisions available
    let interaction := approvalInteraction keyedDigest runsCommand itemId command offered env.now
    if h.phase = .selecting ∧ offered ≠ [] then
      match (sv.upsertBridgeInteraction env h.sessionId interaction).2 with
      | .ok () => some (id, interaction.interactionId)
      | .error _ => none
    else none
  | _ => none

inductive Woke (h : Hold) : Signal → Hold × List HoldEffect → Prop
  | idle {signal : Signal} (unseen : h.surfaced keyedDigest sv env signal = none) : Woke h signal (h, [])
  | waits {signal : Signal} (before : h.phase = .head) : Woke h signal ({ h with phase := .selecting }, [])
  | watches (before : h.phase = .selecting) : Woke h .tick ({ h with phase := .watching }, [])
  | heeds {notification : Notification} (before : h.phase = .selecting) :
      Woke h (.notified notification)
        ({ h with
            tracking := (onNotification keyedDigest h.sessionId h.tracking env.now notification).1
            phase := .head },
          (onNotification keyedDigest h.sessionId h.tracking env.now notification).2.map .supervisor)
  | refuses {id message : String} {request : ServerRequest} (before : h.phase = .selecting)
      (unseen : h.surfaced keyedDigest sv env (.serverRequest id request) = none) :
      Woke h (.serverRequest id request) ({ h.log [.refused id message] with phase := .head }, [])
  | raises {id : String} {request : ServerRequest} {interaction : PendingInteraction} {offered : List String}
      {turn : TurnState} (before : h.phase = .selecting)
      (taken : (sv.upsertBridgeInteraction env h.sessionId interaction).2 = .ok ())
      (seen : h.surfaced keyedDigest sv env (.serverRequest id request) = some (id, interaction.interactionId)) :
      Woke h (.serverRequest id request)
        ({ h with
            tracking :=
              { h.tracking with approvals := h.tracking.approvals.insert interaction.interactionId (id, offered) }
            phase := .head },
          [.supervisor (.upsertInteraction h.sessionId interaction), .supervisor (.noteTurn h.sessionId turn)])
  | putsOff {requested : ReleaseReason} {rest : List ReleaseReason} (before : h.phase = .selecting)
      (release : h.release = requested :: rest) (waits : ¬ requested.isYield) :
      Woke h .released
        ({ h with
            release := rest
            deferredRelease := some (h.deferredRelease.getD (requested, env.now))
            phase := .head }, [])
  | interrupts {signal : Signal} {reason : ReleaseReason} {since : ℕ} {turn : String} (before : h.phase = .head)
      (deferred : h.deferredRelease = some (reason, since)) :
      Woke h signal (h.ask (.turnInterrupt h.threadId turn) (.interrupting reason), [])
  | leaves {signal : Signal} {base : Hold} {reason : ReleaseReason} (cause : h.Leaves signal base reason) :
      Woke h signal ({ base with phase := .leaving reason }, [])
  | yields {signal : Signal} {base : Hold} {reason : ReleaseReason} {turn : String}
      (cause : h.Leaves signal base reason) :
      Woke h signal (base.ask (.turnInterrupt base.threadId turn) (.yielding reason), [])
  | takes {command : AgentCommand} {text : String} (before : h.phase = .selecting)
      (kind : command.kind = .prompt text ∨ command.kind = .steer text) :
      Woke h (.command command) ({ h.log [.received command] with phase := .probing command text }, [])
  | asks {command : AgentCommand} {request : VendorRequest} (before : h.phase = .selecting)
      (wordless : request.writes = none)
      (kind : ∀ interactionId revision answer, command.kind ≠ .interactionResponse interactionId revision answer) :
      Woke h (.command command) ((h.log [.received command]).ask request (.asking command), [])
  | answers {command : AgentCommand} {interactionId id decision : String} {revision : ℕ} {answer : InteractionAnswer}
      {offered : List String} (before : h.phase = .selecting)
      (kind : command.kind = .interactionResponse interactionId revision answer)
      (tracked : h.tracking.approvals.lookup interactionId = some (id, offered)) :
      Woke h (.command command)
        ({ (h.log [.received command]).log [.answered id decision] with
            tracking := { h.tracking with approvals := h.tracking.approvals.erase interactionId }
            phase := .asking command }, [])
  | rejects {command : AgentCommand} (before : h.phase = .selecting) :
      Woke h (.command command) ({ h.log [.received command] with phase := .head }, [h.rejected command])
  | clears {first second : HolderSample} (before : h.phase = .watching) :
      Woke h (.probed first second) ({ h.log [.probed first second] with phase := .head }, [])
  | foreign {command : AgentCommand} {text : String} {first second : HolderSample}
      (before : h.phase = .probing command text)
      (foreign : foreignRolloutHolder h.ownChild first second = true) :
      Woke h (.probed first second)
        ({ h.log [.probed first second] with phase := .head },
          [h.receipt command.commandId "rejected" none (some "foreign_terminal"),
            .requestRelease h.threadId .foreignTerminal])
  | notes {command : AgentCommand} {text : String} {first second : HolderSample}
      (before : h.phase = .probing command text)
      (free : foreignRolloutHolder h.ownChild first second = false) :
      Woke h (.probed first second) ({ h.log [.probed first second] with phase := .noting command text }, [])
  | starts {signal : Signal} {base : Hold} {command : AgentCommand} {text : String} {note : Option String}
      (ready : h.Composed command text signal base) :
      Woke h signal (base.ask (.turnStart base.threadId text note) (.asking command), [])
  | steers {signal : Signal} {base : Hold} {command : AgentCommand} {text turn : String} {note : Option String}
      (ready : h.Composed command text signal base) :
      Woke h signal (base.ask (.turnSteer base.threadId turn text note) (.steering command text note), [])
  | retries {command : AgentCommand} {text : String} {note : Option String}
      (before : h.phase = .steering command text note) :
      Woke h (.answered false) (h.ask (.turnStart h.threadId text note) (.asking command), [])
  | fails {command : AgentCommand} (before : h.phase = .asking command) :
      Woke h (.answered false) ({ h with phase := .head }, [h.rejected command])
  | applies {command : AgentCommand} {models : ModelSurface} (ops : List Op) (before : h.Answers command)
      (settings : ∀ op ∈ ops, (∃ model, op = .updateModel h.sessionId model) ∨ ∃ effort, op = .updateEffort h.sessionId effort)
      (kind : ∀ interactionId revision answer, command.kind ≠ .interactionResponse interactionId revision answer) :
      Woke h (.answered true) ({ h with phase := .head, models := models }, ops.map .supervisor ++ [h.applied command])
  | resolves {command : AgentCommand} {interactionId : String} {revision : ℕ} {answer : InteractionAnswer}
      (before : h.Answers command) (kind : command.kind = .interactionResponse interactionId revision answer) :
      Woke h (.answered true)
        ({ h with phase := .head },
          [.supervisor (.resolveInteraction h.sessionId interactionId "answered"), h.applied command])
  | yielded {succeeded : Bool} {reason : ReleaseReason} (before : h.phase = .yielding reason) :
      Woke h (.answered succeeded) ({ h with phase := .leaving reason }, [])
  | letsGo {reason : ReleaseReason} (before : h.phase = .leaving reason) :
      Woke h .proceed ({ h with phase := .stopping reason }, [.removeClaim h.threadId])
  | ends {reason : ReleaseReason} (before : h.phase = .stopping reason) :
      Woke h .proceed ({ h with phase := .ended },
        [.supervisor (.endAdopted h.sessionId h.processGeneration reason.token)])

variable {keyedDigest sv env} {h : Hold} {signal : Signal}

lemma surfaced_none (hphase : h.phase ≠ .selecting) : h.surfaced keyedDigest sv env signal = none := by
  rw [surfaced.eq_def]
  split
  · exact if_neg fun hboth => hphase hboth.1
  · rfl

variable {base : Hold} {text : String}

lemma Leaves.woke {reason : ReleaseReason} (hleaves : h.Leaves signal base reason) :
    h.Woke keyedDigest sv env signal (base.beginRelease reason, []) := by
  rw [beginRelease]
  cases base.tracking.vendorTurnId with
  | none => exact .leaves hleaves
  | some turn =>
    dsimp only
    split
    · exact .yields hleaves
    · exact .leaves hleaves

variable {command : AgentCommand}

lemma Composed.woke (hready : h.Composed command text signal base)
    (note : Option String) : h.Woke keyedDigest sv env signal (base.sendText command text note, []) := by
  rw [sendText]
  cases base.tracking.vendorTurnId with
  | none => exact .starts hready
  | some turn => exact .steers hready

lemma Answers.woke (hanswers : h.Answers command) :
    h.Woke keyedDigest sv env (.answered true) (h.finishCommand command true) := by
  rw [finishCommand]
  cases hkind : command.kind with
  | setModel model => exact .applies [.updateModel h.sessionId model] hanswers (by simp) (by simp [hkind])
  | setEffort effort => exact .applies [.updateEffort h.sessionId effort] hanswers (by simp) (by simp [hkind])
  | interactionResponse interactionId revision answer => exact .resolves hanswers hkind
  | _ => exact .applies [] hanswers (by simp) (by simp [hkind])

lemma atHead_woke (hphase : h.phase = .head) (now : ℕ) : h.Woke keyedDigest sv env signal (h.atHead now, []) := by
  rw [atHead]
  cases hdeferred : h.deferredRelease with
  | none =>
    have hwaits : h.Woke keyedDigest sv env signal ({ h with phase := .selecting }, []) := .waits hphase
    rwa [hdeferred] at hwaits
  | some deferred =>
    obtain ⟨reason, since⟩ := deferred
    have hleaves : h.Leaves signal h reason := .deferred hphase hdeferred
    have hwaits : h.Woke keyedDigest sv env signal ({ h with phase := .selecting }, []) := .waits hphase
    rw [hdeferred] at hwaits
    dsimp only
    split
    · cases h.tracking.vendorTurnId with
      | none => exact hleaves.woke
      | some turn =>
        dsimp only
        split
        · exact .interrupts hphase hdeferred
        · exact hleaves.woke
    · exact hwaits

lemma onServerRequest_woke (hphase : h.phase = .selecting) (id : String) (request : ServerRequest) :
    h.Woke keyedDigest sv env (.serverRequest id request)
      ({ (h.onServerRequest keyedDigest sv env id request).1 with phase := .head },
        (h.onServerRequest keyedDigest sv env id request).2) := by
  cases request with
  | other => exact .refuses hphase rfl
  | approval runsCommand itemId command available =>
    rw [onServerRequest]
    dsimp only
    by_cases hoffered : offeredDecisions available = []
    · rw [if_pos hoffered]
      exact .refuses hphase (if_neg fun hboth => hboth.2 hoffered)
    · rw [if_neg hoffered]
      cases htaken : (sv.upsertBridgeInteraction env h.sessionId
          (approvalInteraction keyedDigest runsCommand itemId command (offeredDecisions available) env.now)).2 with
      | ok _ => exact .raises hphase htaken (by simp [surfaced, hphase, hoffered, htaken])
      | error message => exact .refuses hphase (by simp [surfaced, htaken])

lemma onCommand_woke (hphase : h.phase = .selecting) (command : AgentCommand) :
    h.Woke keyedDigest sv env (.command command) (h.onCommand command) := by
  have hrejects : h.Woke keyedDigest sv env (.command command)
      ((h.log [.received command]).finishCommand command false) := .rejects hphase
  rw [onCommand]
  cases hkind : command.kind with
  | prompt text => exact .takes hphase (.inl hkind)
  | steer text => exact .takes hphase (.inr hkind)
  | interrupt =>
    dsimp only
    split
    · exact .asks hphase rfl (by simp [hkind])
    · exact hrejects
  | interactionResponse interactionId revision answer =>
    dsimp only
    rw [answerApproval.eq_def]
    split
    · rename_i htracked
      dsimp only
      split
      · exact .answers hphase hkind htracked
      · exact hrejects
    · exact hrejects
  | setModel model | setEffort effort =>
    dsimp only
    split
    · exact .asks hphase rfl (by simp [hkind])
    · exact hrejects
  | followUp text | setPermissionMode mode | unknown => exact hrejects

lemma onProbed_woke (hphase : h.phase = .probing command text) (first second : HolderSample) :
    h.Woke keyedDigest sv env (.probed first second) (h.onProbed command text first second) := by
  rw [onProbed]
  split
  · rename_i hforeign
    exact .foreign hphase hforeign
  · rename_i hfree
    have hfree := Bool.eq_false_iff.mpr hfree
    split
    · exact .notes hphase hfree
    · exact (Composed.probed hphase hfree).woke none

lemma onReleased_woke (hphase : h.phase = .selecting) :
    h.Woke keyedDigest sv env .released (h.onReleased env.now, []) := by
  rw [onReleased]
  split
  · exact .idle rfl
  · rename_i requested rest hrelease
    dsimp only
    split
    · rename_i hwaits
      exact .putsOff hphase hrelease hwaits.1
    · exact (Leaves.requested hphase hrelease).woke

variable (keyedDigest sv env h signal) in
lemma wake_woke : h.Woke keyedDigest sv env signal (h.wake keyedDigest sv env h.phase signal) := by
  generalize hphase : h.phase = phase
  rw [wake.eq_def]
  split
  · exact atHead_woke hphase _
  · exact .heeds hphase
  · exact onServerRequest_woke hphase _ _
  · exact (Leaves.lost hphase).woke
  · exact onCommand_woke hphase _
  · exact (Leaves.closed hphase).woke
  · exact onReleased_woke hphase
  · exact .watches hphase
  · dsimp only
    split
    · rename_i hforeign
      exact (Leaves.seen hphase hforeign).woke
    · exact .clears hphase
  · exact onProbed_woke hphase _ _
  · exact (Composed.noted hphase).woke _
  · rename_i succeeded
    cases succeeded with
    | true => exact Answers.woke (.inr ⟨_, _, hphase⟩)
    | false => exact .retries hphase
  · rename_i succeeded
    cases succeeded with
    | true => exact Answers.woke (.inl hphase)
    | false => exact .fails hphase
  · exact (Leaves.interrupted hphase).woke
  · exact .yielded hphase
  · exact .letsGo hphase
  · exact .ends hphase
  · rename ∀ id request, phase = .selecting → signal = .serverRequest id request → False => hother
    refine .idle ?_
    rw [surfaced.eq_def]
    split
    · exact if_neg fun hboth => hother _ _ (hphase.symm.trans hboth.1) rfl
    · rfl

end

end Hold

end CiaoHost.Codex
