import CiaoHost.Codex.Adoptions
import CiaoHost.Session.Cards

/-! What each wake of the loop does to the approvals it tracks, to the cards that stand for them and
to the vendor's requests. -/

namespace CiaoHost.Codex

open Protocol Session Lib Lib.Checks

def HoldEvent.reply : HoldEvent → Option String
  | answered id _ | refused id _ => some id
  | _ => none

def replies (trace : List HoldEvent) : List String := trace.filterMap HoldEvent.reply

def HoldPhase.answering : HoldPhase → Option String
  | asking command =>
    match command.kind with
    | .interactionResponse interactionId _ _ => some interactionId
    | _ => none
  | _ => none

def HoldPhase.wording : HoldPhase → Option AgentCommand
  | probing command _ | noting command _ | steering command _ _ => some command
  | _ => none

def HoldPhase.Plain (phase : HoldPhase) : Prop :=
  phase.answering = none ∧ ∀ command ∈ phase.wording, (HoldPhase.asking command).answering = none

namespace HoldEffect

def apply (env : Env) (sv : Supervisor) : HoldEffect → Supervisor
  | supervisor op => sv.step env op
  | _ => sv

inductive CardFree (sessionId : String) : HoldEffect → Prop
  | op {op : Op} (free : Supervisor.CardFree sessionId op) : CardFree sessionId (.supervisor op)
  | requestRelease (threadId : String) (reason : ReleaseReason) :
      CardFree sessionId (.requestRelease threadId reason)
  | removeClaim (threadId : String) : CardFree sessionId (.removeClaim threadId)

lemma cards_foldl {sessionId : String} {effects : List HoldEffect}
    (hfree : ∀ effect ∈ effects, effect.CardFree sessionId) (env : Env) (sv : Supervisor) :
    (effects.foldl (apply env) sv).cards sessionId = sv.cards sessionId := by
  induction effects generalizing sv with
  | nil => rfl
  | cons effect effects ih =>
    have hfirst : (apply env sv effect).cards sessionId = sv.cards sessionId := by
      cases hfree effect List.mem_cons_self with
      | op free => exact Supervisor.cards_cardFree free
      | requestRelease threadId reason | removeClaim threadId => rfl
    rw [List.foldl_cons, ih fun other hother => hfree other (List.mem_cons_of_mem _ hother), hfirst]

end HoldEffect

namespace Hold

structure Untouched (h h' : Hold) : Prop where
  approvals : h'.tracking.approvals = h.tracking.approvals
  replies : replies h'.trace = replies h.trace
  phase : h'.phase.Plain

inductive Attends (sv : Supervisor) (env : Env) (h : Hold) (signal : Signal) :
    Option (String × String) → Hold × List HoldEffect → Prop
  | idle : Attends sv env h signal none (h, [])
  | goesOn {h' : Hold} {effects : List HoldEffect} (before : h.phase.answering = none) (same : h.Untouched h')
      (free : ∀ effect ∈ effects, effect.CardFree h.sessionId) : Attends sv env h signal none (h', effects)
  | ends {h' : Hold} {effects : List HoldEffect} (same : h.Untouched h') (ended : h'.phase = .ended) :
      Attends sv env h signal none (h', effects)
  | refuses {h' : Hold} (id : String) (request : ServerRequest) (before : h.phase = .selecting)
      (hsignal : signal = .serverRequest id request) (approvals : h'.tracking.approvals = h.tracking.approvals)
      (refused : replies h'.trace = replies h.trace ++ [id]) (phase : h'.phase.Plain) :
      Attends sv env h signal none (h', [])
  | raises {h' : Hold} (id : String) (request : ServerRequest) (interaction : PendingInteraction)
      (offered : List String) (turn : TurnState) (before : h.phase = .selecting)
      (hsignal : signal = .serverRequest id request)
      (taken : (sv.upsertBridgeInteraction env h.sessionId interaction).2 = .ok ())
      (approvals : h'.tracking.approvals = h.tracking.approvals.insert interaction.interactionId (id, offered))
      (same : replies h'.trace = replies h.trace) (phase : h'.phase.Plain) :
      Attends sv env h signal (some (id, interaction.interactionId))
        (h', [.supervisor (.upsertInteraction h.sessionId interaction), .supervisor (.noteTurn h.sessionId turn)])
  | answers {h' : Hold} (interactionId id : String) (offered : List String) (before : h.phase = .selecting)
      (tracked : h.tracking.approvals.lookup interactionId = some (id, offered))
      (approvals : h'.tracking.approvals = h.tracking.approvals.erase interactionId)
      (answered : replies h'.trace = replies h.trace ++ [id]) (phase : h'.phase.answering = some interactionId) :
      Attends sv env h signal none (h', [])
  | resolves {h' : Hold} {effects : List HoldEffect} (interactionId : String)
      (before : h.phase.answering = some interactionId) (same : h.Untouched h')
      (free : ∀ effect ∈ effects, effect.CardFree h.sessionId) :
      Attends sv env h signal none
        (h', .supervisor (.resolveInteraction h.sessionId interactionId "answered") :: effects)
  | fails {h' : Hold} {effects : List HoldEffect} (before : h.phase.answering.isSome) (hsignal : signal = .answered false) :
      Attends sv env h signal none (h', effects)

variable {h : Hold}

lemma replies_log (events : List HoldEvent) : replies (h.log events).trace = replies h.trace ++ replies events :=
  List.filterMap_append

variable {command : AgentCommand} {h' base : Hold} {signal : Signal}

lemma plain_of_none {phase : HoldPhase} (hanswering : phase.answering = none) (hwording : phase.wording = none) :
    phase.Plain :=
  ⟨hanswering, by simp [hwording]⟩

lemma plain_asking (h : (HoldPhase.asking command).answering = none) : (HoldPhase.asking command).Plain :=
  plain_of_none h rfl

lemma ask_untouched (request : VendorRequest) {phase : HoldPhase} (hphase : phase.Plain) :
    h.Untouched (h.ask request phase) := by
  refine ⟨rfl, ?_, hphase⟩
  exact (replies_log _).trans (List.append_nil _)

lemma Untouched.of_log {events : List HoldEvent} (hevents : Codex.replies events = [])
    (hsame : (h.log events).Untouched h') : h.Untouched h' := by
  refine ⟨hsame.approvals, hsame.replies.trans ?_, hsame.phase⟩
  rw [replies_log, hevents, List.append_nil]

variable {reason : ReleaseReason} {text : String}

lemma Leaves.untouched (hleaves : h.Leaves signal base reason)
    (hsame : base.Untouched h') : h.phase.answering = none ∧ h.Untouched h' := by
  cases hleaves with
  | seen before => exact ⟨by rw [before]; rfl, .of_log rfl hsame⟩
  | requested before => exact ⟨by rw [before]; rfl, hsame.approvals, hsame.replies, hsame.phase⟩
  | deferred before | lost before | closed before | interrupted before => exact ⟨by rw [before]; rfl, hsame⟩

lemma Composed.untouched (hcomposed : h.Composed command text signal base) (hsame : base.Untouched h') :
    h.phase.answering = none ∧ h.Untouched h' := by
  cases hcomposed with
  | probed before => exact ⟨by rw [before]; rfl, .of_log rfl hsame⟩
  | noted before => exact ⟨by rw [before]; rfl, hsame⟩

lemma Composed.wording (hcomposed : h.Composed command text signal base) : command ∈ h.phase.wording := by
  obtain ⟨before, -⟩ | before := hcomposed
  all_goals
    rw [before]
    rfl

lemma answering_asking (command : AgentCommand)
    (hkind : ∀ interactionId revision answer, command.kind ≠ .interactionResponse interactionId revision answer) :
    (HoldPhase.asking command).answering = none := by
  rw [HoldPhase.answering]
  split
  · rename_i hresponse
    exact absurd hresponse (hkind _ _ _)
  · rfl

lemma receipt_free (commandId state : String) (evidence reason : Option String) :
    (h.receipt commandId state evidence reason).CardFree h.sessionId :=
  .op (.recordReceipt commandId state evidence reason)

section

variable (keyedDigest : String → String → String → String) (sv : Supervisor) (env : Env)

lemma onNotification_free (sessionId : String) (tracking : TurnTracking) (now : ℕ) (notification : Notification) :
    (onNotification keyedDigest sessionId tracking now notification).1.approvals = tracking.approvals ∧
      ∀ op ∈ (onNotification keyedDigest sessionId tracking now notification).2, Supervisor.CardFree sessionId op := by
  cases notification with
  | turnStarted turnId | turnEnded turnId status =>
    refine ⟨rfl, ?_⟩
    intro op hop
    rw [List.mem_singleton.mp hop]
    exact .noteTurn _
  | item item complete =>
    refine ⟨rfl, ?_⟩
    intro op hop
    obtain ⟨entry, -, rfl⟩ := Option.map_eq_some_iff.mp (Option.mem_toList.mp hop)
    exact .upsertEntry _
  | agentMessageDelta itemId delta =>
    rw [onNotification]
    by_cases hempty : delta.getD "" = ""
    · rw [if_pos hempty]
      exact ⟨rfl, by simp⟩
    · rw [if_neg hempty]
      refine ⟨rfl, ?_⟩
      intro op hop
      rw [List.mem_singleton.mp hop]
      exact .appendText _
  | other => exact ⟨rfl, by simp [onNotification]⟩

lemma Leaves.surfaced (hleaves : h.Leaves signal base reason) : h.surfaced keyedDigest sv env signal = none := by
  cases hleaves with
  | deferred before => exact surfaced_none (by simp [before])
  | _ => rfl

lemma Composed.surfaced
    (hcomposed : h.Composed command text signal base) : h.surfaced keyedDigest sv env signal = none := by
  cases hcomposed <;> rfl

lemma wake_attends (hwords : ∀ command ∈ h.phase.wording, (HoldPhase.asking command).answering = none)
    (signal : Signal) :
    h.Attends sv env signal (h.surfaced keyedDigest sv env signal) (h.wake keyedDigest sv env h.phase signal) := by
  have hgoes : ∀ {h' : Hold}, h.phase.answering = none ∧ h.Untouched h' → h.Attends sv env signal none (h', []) :=
    fun hsame => .goesOn hsame.1 hsame.2 (by simp)
  have hwoke := wake_woke keyedDigest sv env h signal
  generalize h.wake keyedDigest sv env h.phase signal = result at hwoke ⊢
  cases hwoke with
  | idle unseen =>
    rw [unseen]
    exact .idle
  | waits before =>
    rw [surfaced_none (by simp [before])]
    exact hgoes ⟨by rw [before]; rfl, rfl, rfl, plain_of_none rfl rfl⟩
  | watches before | putsOff before | yielded before => exact hgoes ⟨by rw [before]; rfl, rfl, rfl, plain_of_none rfl rfl⟩
  | clears before => exact hgoes ⟨by rw [before]; rfl, .of_log rfl ⟨rfl, rfl, plain_of_none rfl rfl⟩⟩
  | interrupts before =>
    rw [surfaced_none (by simp [before])]
    exact hgoes ⟨by rw [before]; rfl, ask_untouched _ (plain_of_none rfl rfl)⟩
  | leaves cause =>
    rw [cause.surfaced]
    exact hgoes (cause.untouched ⟨rfl, rfl, plain_of_none rfl rfl⟩)
  | yields cause =>
    rw [cause.surfaced]
    exact hgoes (cause.untouched (ask_untouched _ (plain_of_none rfl rfl)))
  | heeds before =>
    obtain ⟨happrovals, hfree⟩ := onNotification_free keyedDigest h.sessionId h.tracking env.now _
    refine .goesOn (by rw [before]; rfl) ⟨happrovals, rfl, plain_of_none rfl rfl⟩ ?_
    intro effect heffect
    obtain ⟨op, hop, rfl⟩ := List.mem_map.mp heffect
    exact .op (hfree op hop)
  | refuses before unseen =>
    rw [unseen]
    exact .refuses _ _ before rfl rfl (replies_log _) (plain_of_none rfl rfl)
  | raises before taken seen =>
    rw [seen]
    exact .raises _ _ _ _ _ before rfl taken rfl rfl (plain_of_none rfl rfl)
  | @takes command text before kind =>
    refine hgoes ⟨by rw [before]; rfl, .of_log rfl ⟨rfl, rfl, rfl, ?_⟩⟩
    rintro _ ⟨⟩
    exact answering_asking command (by rcases kind with kind | kind <;> simp [kind])
  | @asks command request before wordless kind =>
    exact hgoes ⟨by rw [before]; rfl, .of_log rfl (ask_untouched _ (plain_asking (answering_asking command kind)))⟩
  | @answers command interactionId id decision revision answer offered before kind tracked =>
    refine .answers interactionId id offered before tracked rfl ?_ (by simp [HoldPhase.answering, kind])
    exact (replies_log (h := h.log [.received command]) _).trans (by rw [replies_log]; simp [replies, HoldEvent.reply])
  | rejects before =>
    refine .goesOn (by rw [before]; rfl) (.of_log rfl ⟨rfl, rfl, plain_of_none rfl rfl⟩) ?_
    simpa [rejected] using receipt_free _ _ _ _
  | foreign before =>
    refine .goesOn (by rw [before]; rfl) (.of_log rfl ⟨rfl, rfl, plain_of_none rfl rfl⟩) ?_
    simpa using ⟨receipt_free _ _ _ _, .requestRelease _ _⟩
  | notes before =>
    refine hgoes ⟨by rw [before]; rfl, .of_log rfl ⟨rfl, rfl, rfl, ?_⟩⟩
    rintro _ ⟨⟩
    exact hwords _ (by rw [before]; rfl)
  | starts ready =>
    rw [ready.surfaced]
    exact hgoes (ready.untouched (ask_untouched _ (plain_asking (hwords _ ready.wording))))
  | steers ready =>
    rw [ready.surfaced]
    refine hgoes (ready.untouched (ask_untouched _ ⟨rfl, ?_⟩))
    rintro _ ⟨⟩
    exact hwords _ ready.wording
  | retries before =>
    exact hgoes ⟨by rw [before]; rfl, ask_untouched _ (plain_asking (hwords _ (by rw [before]; rfl)))⟩
  | @fails command before =>
    cases hanswering : h.phase.answering with
    | none => exact .goesOn hanswering ⟨rfl, rfl, plain_of_none rfl rfl⟩ (by simpa [rejected] using receipt_free _ _ _ _)
    | some interactionId => exact .fails (by rw [hanswering]; rfl) rfl
  | @applies command models ops before settings kind =>
    refine .goesOn ?_ ⟨rfl, rfl, plain_of_none rfl rfl⟩ ?_
    · rcases before with before | ⟨text, note, before⟩
      · rw [before, answering_asking command kind]
      · rw [before]
        rfl
    · intro effect heffect
      rcases List.mem_append.mp heffect with hsetting | hreceipt
      · obtain ⟨op, hop, rfl⟩ := List.mem_map.mp hsetting
        obtain ⟨model, rfl⟩ | ⟨effort, rfl⟩ := settings op hop
        · exact .op (.updateModel model)
        · exact .op (.updateEffort effort)
      · rw [List.mem_singleton.mp hreceipt]
        exact receipt_free ..
  | @resolves command interactionId revision answer before kind =>
    have hasking : (HoldPhase.asking command).answering = some interactionId := by simp [HoldPhase.answering, kind]
    rcases before with before | ⟨text, note, before⟩
    · refine .resolves interactionId (by rw [before, hasking]) ⟨rfl, rfl, plain_of_none rfl rfl⟩ ?_
      simpa [applied] using receipt_free _ _ _ _
    · have hnone := hwords command (by rw [before]; rfl)
      rw [hasking] at hnone
      cases hnone
  | letsGo before =>
    refine .goesOn (by rw [before]; rfl) ⟨rfl, rfl, plain_of_none rfl rfl⟩ ?_
    simpa using .removeClaim _
  | ends => exact .ends ⟨rfl, rfl, plain_of_none rfl rfl⟩ rfl

end

end Hold

end CiaoHost.Codex
