import CiaoHost.Codex.Parties
import CiaoHost.Lib.Runs

/-! One adopter, one live session: calls of `adopt`, the loops they spawn and their releases, in any
order. -/

namespace CiaoHost.Codex

open Protocol Session Lib Lib.Checks

variable {keyedDigest : String → String → String → String} {daemon : ℕ}

def HoldPhase.isStopping : HoldPhase → Bool
  | stopping _ => true
  | _ => false

namespace Adopting

def enteredThread (s : Adopting) : Event → Option String
  | .adopt params rolloutExists =>
    if (s.adoptions.registry.lookup params.threadId).isNone ∧ rolloutExists then some params.threadId else none
  | _ => none

def fillAnswer (s : Adopting) : Event → Option (Except String Unit)
  | .answer i env .proceed =>
    match s.calls[i]? with
    | some ⟨_, .filling _ history _ registered⟩ =>
      some (s.adoptions.supervisor.backfillBridgeHistory env registered.sessionId (some registered.processGeneration)
        history.entries history.complete none).2
    | _ => none
  | _ => none

def elsewhereOp : Event → Option Op
  | .elsewhere _ op => some op
  | _ => none

/-- No call passes its first checks on a thread that another call is picking up or a loop is just
giving back, a registered conversation takes its history, and nobody else moves the sessions. -/
structure Undisturbed (s : Adopting) (event : Event) : Prop where
  alone : ∀ threadId ∈ s.enteredThread event,
    (∀ call ∈ s.calls, call.phase.inProgress → call.params.threadId ≠ threadId) ∧
      ∀ h ∈ s.adoptions.holds, h.phase.isStopping → h.threadId ≠ threadId
  filled : ∀ answer ∈ s.fillAnswer event, answer = .ok ()
  elsewhere : ∀ op ∈ elsewhereOp event, op.stationary

instance (s : Adopting) (event : Event) : Decidable (s.Undisturbed event) :=
  decidable_of_iff
    ((∀ threadId ∈ s.enteredThread event,
      (∀ call ∈ s.calls, call.phase.inProgress → call.params.threadId ≠ threadId) ∧
        ∀ h ∈ s.adoptions.holds, h.phase.isStopping → h.threadId ≠ threadId) ∧
      (∀ answer ∈ s.fillAnswer event, answer = .ok ()) ∧ ∀ op ∈ elsewhereOp event, op.stationary)
    ⟨fun ⟨h1, h2, h3⟩ => ⟨h1, h2, h3⟩, fun ⟨h1, h2, h3⟩ => ⟨h1, h2, h3⟩⟩

structure OneAdopter (names : String → String) (s : Adopting) : Prop where
  good : s.seating.Good names
  held : s.adoptions.Held
  handles : ∀ threadId handle, s.adoptions.registry.lookup threadId = some handle → handle.sessionId = names threadId
  sane : ∀ call ∈ s.calls, AdoptCall.Sane names call.params call.phase

variable {s : Adopting} {names : String → String}

lemma good_of_party {s' : Adopting} {party : Party → Option (String × Option Seat)} (hparty : s'.seating.party = party)
    (hgood : Seating.Good names ⟨s'.adoptions.supervisor, party⟩) : s'.seating.Good names := by
  subst hparty
  exact hgood

variable {i : ℕ} {call : AdoptCall} {phase : AdoptPhase}

lemma hold_party {h : Hold} (hi : s.adoptions.holds[i]? = some h) (hended : h.phase ≠ .ended) :
    s.seating.party (.hold i) = some (h.threadId, some ⟨h.sessionId, h.processGeneration, h.commands⟩) := by
  simp [seating, hi, Hold.party, hended]

lemma call_party (hi : s.calls[i]? = some call) : s.seating.party (.call i) = call.party i := by
  simp [seating, hi]

variable {threadId : String} {o : Option Seat} {a : Adoptions}

lemma of_call_party (h : s.seating.party (.call i) = some (threadId, o)) :
    ∃ call ∈ s.calls, call.phase.inProgress = true ∧ call.params.threadId = threadId := by
  obtain ⟨call, hi, hparty⟩ := Option.bind_eq_some_iff.mp h
  rw [AdoptCall.party] at hparty
  split at hparty
  · next hprogress => exact ⟨call, List.mem_of_getElem? hi, hprogress, (Prod.mk.inj (Option.some.inj hparty)).1⟩
  · cases hparty

lemma of_hold_party (h : s.seating.party (.hold i) = some (threadId, o)) :
    ∃ hold, s.adoptions.holds[i]? = some hold ∧ hold.phase ≠ .ended ∧ hold.threadId = threadId ∧
      o = some ⟨hold.sessionId, hold.processGeneration, hold.commands⟩ := by
  obtain ⟨hold, hi, hparty⟩ := Option.bind_eq_some_iff.mp h
  rw [Hold.party] at hparty
  split at hparty
  · cases hparty
  · next hended =>
    obtain ⟨hthread, hseat⟩ := Prod.mk.inj (Option.some.inj hparty)
    exact ⟨hold, hi, hended, hthread, hseat.symm⟩

lemma letGo_cases {phase : HoldPhase} (hended : phase ≠ .ended) (hstopping : phase.isStopping = false) :
    phase.hasLetGo = false := by
  cases phase <;> first | rfl | exact absurd rfl hended | cases hstopping

lemma ended_letGo {phase : HoldPhase} (hgo : phase.hasLetGo = false) : phase ≠ .ended := by
  rintro rfl
  cases hgo

lemma OneAdopter.unclaimed (h : s.OneAdopter names) (hi : s.calls[i]? = some call)
    (hprogress : call.phase.inProgress) : s.adoptions.registry.lookup call.params.threadId = none := by
  cases hlookup : s.adoptions.registry.lookup call.params.threadId with
  | none => rfl
  | some handle =>
    obtain ⟨x, hx, hthread, hgo⟩ := h.held.claimed _ _ hlookup
    have hhold := hold_party hx (ended_letGo hgo)
    have hcall := call_party hi
    rw [AdoptCall.party, if_pos hprogress] at hcall
    rw [hthread] at hhold
    cases h.good.single _ _ _ _ _ hcall hhold

lemma OneAdopter.withCall (h : s.OneAdopter names) (hi : s.calls[i]? = some call)
    (sv : Supervisor) (hsane : AdoptCall.Sane names call.params phase)
    (hgood : Seating.Good names
      ⟨sv, Function.update s.seating.party (.call i) (AdoptCall.party i { call with phase := phase })⟩) :
    OneAdopter names ⟨{ s.adoptions with supervisor := sv }, s.calls.set i { call with phase := phase }⟩ where
  good := good_of_party (party_set_call hi { s.adoptions with supervisor := sv } _ fun _ => rfl) hgood
  held := h.held.same ⟨rfl, rfl⟩
  handles := h.handles
  sane x hx := by
    rcases List.mem_or_eq_of_mem_set hx with hx | rfl
    · exact h.sane x hx
    · exact hsane

variable {sv : Supervisor}

lemma OneAdopter.goOn (h : s.OneAdopter names) (hi : s.calls[i]? = some call)
    (hrests : s.adoptions.supervisor.Rests sv)
    (hsane : AdoptCall.Sane names call.params phase)
    (hparty : AdoptCall.party i { call with phase := phase } = call.party i) :
    OneAdopter names ⟨{ s.adoptions with supervisor := sv }, s.calls.set i { call with phase := phase }⟩ := by
  apply h.withCall hi sv hsane
  rw [hparty, ← call_party hi, Function.update_eq_self]
  exact h.good.settle hrests.settled (h.good.store.advances hrests.store)

lemma OneAdopter.giveUp (h : s.OneAdopter names) (hi : s.calls[i]? = some call)
    (hsettled : s.adoptions.supervisor.AllSettled sv) (hstore : NamedStore names sv.metadata)
    (hnone : call.phase.registered = none) (hsane : AdoptCall.Sane names call.params phase)
    (hparty : AdoptCall.party i { call with phase := phase } = none) :
    OneAdopter names ⟨{ s.adoptions with supervisor := sv }, s.calls.set i { call with phase := phase }⟩ := by
  apply h.withCall hi sv hsane
  rw [hparty]
  apply (h.good.settle hsettled hstore).withdraw
  intro t o
  rw [call_party hi, AdoptCall.party, hnone]
  split <;> simp

lemma OneAdopter.spawn (h : s.OneAdopter names) (hi : s.calls[i]? = some call)
    {hold : Hold} {childPid : Option ℕ} {registered : RegisteredAgentSession}
    (hprogress : call.phase.inProgress) (hregistered : call.phase.registered = some registered)
    (hid : hold.identity = (registered.sessionId, registered.processGeneration, call.params.threadId, i))
    (hhead : hold.phase = .head) (hdone : AdoptCall.party i { call with phase := phase } = none)
    (hsane : AdoptCall.Sane names call.params phase) :
    OneAdopter names ⟨s.adoptions.claim call.params.threadId childPid hold, s.calls.set i { call with phase := phase }⟩ := by
  have hfree := h.unclaimed hi hprogress
  simp only [Hold.identity, Prod.mk.injEq] at hid
  obtain ⟨hsession, hgeneration, hthread, hcommands⟩ := hid
  have hcall : s.seating.party (.call i) =
      some (call.params.threadId, some ⟨registered.sessionId, registered.processGeneration, i⟩) := by
    rw [call_party hi, AdoptCall.party, if_pos hprogress, hregistered]
    rfl
  have hseat : hold.party = some (call.params.threadId, some ⟨registered.sessionId, registered.processGeneration, i⟩) := by
    rw [Hold.party, hhead, if_neg (by decide), hsession, hgeneration, hthread, hcommands]
  have hnew : s.seating.party (.hold s.adoptions.holds.length) = none := by simp [seating]
  have hname := h.good.named _ _ _ hcall
  constructor
  · have hgood := h.good.handOver hcall hnew
    rw [← hseat, ← hdone, ← party_set_call hi s.adoptions _ fun _ => rfl] at hgood
    have hholds : (s.adoptions.claim call.params.threadId childPid hold).holds = s.adoptions.holds ++ [hold] := by
      rw [Adoptions.claim, hfree]
    have hsupervisor : (s.adoptions.claim call.params.threadId childPid hold).supervisor = s.adoptions.supervisor := by
      rw [Adoptions.claim, hfree]
    have hparty := party_append_hold ⟨s.adoptions, s.calls.set i { call with phase := phase }⟩ hholds
    dsimp only at hparty
    rw [← hparty, seating, ← hsupervisor] at hgood
    exact hgood
  · rw [← hthread] at hfree ⊢
    exact h.held.claim hfree (by rw [hhead]; rfl)
  · intro threadId handle hlookup
    rw [Adoptions.claim, hfree] at hlookup
    dsimp only at hlookup
    rw [KeyedMap.lookup_insert] at hlookup
    split at hlookup
    · next hsame =>
      cases hlookup
      rw [hsame]
      exact hsession.trans hname
    · exact h.handles threadId handle hlookup
  · intro x hx
    rcases List.mem_or_eq_of_mem_set hx with hx | rfl
    · exact h.sane x hx
    · exact hsane

lemma OneAdopter.onward (h : s.OneAdopter names) (hi : s.calls[i]? = some call) (hprogress : call.phase.inProgress)
    (hnone : call.phase.registered = none) (hnone' : phase.registered = none)
    (hsane : AdoptCall.Sane names call.params phase) :
    OneAdopter names ⟨s.adoptions, s.calls.set i { call with phase := phase }⟩ := by
  have hrests := Supervisor.Rests.refl s.adoptions.supervisor
  cases hafter : phase.inProgress with
  | true =>
    apply h.goOn hi hrests hsane
    rw [AdoptCall.party, AdoptCall.party, if_pos hprogress, if_pos hafter, hnone, hnone']
  | false =>
    apply h.giveUp hi hrests.settled h.good.store hnone hsane
    rw [AdoptCall.party, if_neg (by simp [hafter])]

lemma OneAdopter.answer {env : Env} {signal : AdoptSignal} (h : s.OneAdopter (codexConversationSessionId keyedDigest))
    (hnames : Function.Injective (codexConversationSessionId keyedDigest)) (hi : s.calls[i]? = some call)
    (hfilled : ∀ answer ∈ s.fillAnswer (.answer i env signal), answer = .ok ()) :
    (s.step keyedDigest daemon (.answer i env signal)).OneAdopter (codexConversationSessionId keyedDigest) := by
  have hsane := h.sane call (List.mem_of_getElem? hi)
  obtain ⟨params, before⟩ := call
  rw [Adopting.step, hi]
  dsimp only
  rw [AdoptCall.wake.eq_def]
  split
  · exact h.onward hi rfl rfl rfl trivial
  · exact h.onward hi rfl rfl rfl trivial
  · exact h.onward hi rfl rfl rfl trivial
  · exact h.onward hi rfl rfl rfl trivial
  · exact h.onward hi rfl rfl rfl trivial
  · exact h.onward hi rfl rfl rfl trivial
  · exact h.onward hi rfl rfl rfl trivial
  · exact h.onward hi rfl rfl rfl ⟨rfl, rfl⟩
  · next r =>
    split
    · next herror =>
      refine h.giveUp hi (Supervisor.registerNew_refused herror) ?_ rfl trivial rfl
      apply h.good.store.kept (s.adoptions.supervisor.step_kept env (.register r i))
      intro r' sender hop
      cases hop
      exact ⟨hsane.1, params.threadId, hsane.2⟩
    · next hok =>
      have hparty : s.seating.party (.call i) = some (params.threadId, none) := call_party hi
      exact h.withCall hi _ trivial (h.good.take hnames hparty hsane.1 hsane.2 hok)
  · split
    · next herror => cases hfilled _ (by simp only [fillAnswer, hi, herror]; rfl)
    · exact h.goOn hi (Supervisor.step_rests rfl) (AdoptCall.surfaceUpdates_stationary _ _) rfl
  · refine h.goOn hi (Supervisor.step_rests (hsane _ List.mem_cons_self)) ?_ rfl
    exact fun op hop => hsane op (List.mem_cons_of_mem _ hop)
  · split
    · next hclaimed => cases (h.unclaimed hi rfl).symm.trans hclaimed
    · exact h.spawn hi rfl rfl rfl rfl rfl trivial
  · exact h.goOn hi (Supervisor.Rests.refl _) hsane rfl

lemma OneAdopter.adopt (h : s.OneAdopter names) {params : AdoptParams} {rolloutExists : Bool}
    (halone : ∀ threadId ∈ s.enteredThread (.adopt params rolloutExists),
      (∀ call ∈ s.calls, call.phase.inProgress → call.params.threadId ≠ threadId) ∧
        ∀ h ∈ s.adoptions.holds, h.phase.isStopping → h.threadId ≠ threadId) :
    OneAdopter names ⟨s.adoptions, s.calls ++ [⟨params, firstPhase s.adoptions params rolloutExists⟩]⟩ where
  good := by
    apply good_of_party (s.party_append_call ⟨params, firstPhase s.adoptions params rolloutExists⟩)
    have hnew : s.seating.party (.call s.calls.length) = none := by simp [seating]
    have hrefused : AdoptPhase.inProgress (firstPhase s.adoptions params rolloutExists) = false →
        Seating.Good names ⟨s.adoptions.supervisor, Function.update s.seating.party (.call s.calls.length)
          (AdoptCall.party s.calls.length ⟨params, firstPhase s.adoptions params rolloutExists⟩)⟩ := by
      intro hdone
      rw [AdoptCall.party, hdone, if_neg Bool.false_ne_true, ← hnew, Function.update_eq_self]
      exact h.good
    cases hclaimed : s.adoptions.registry.lookup params.threadId with
    | some handle => exact hrefused (by simp [firstPhase, hclaimed, AdoptPhase.inProgress])
    | none =>
      cases rolloutExists with
      | false => exact hrefused (by simp [firstPhase, hclaimed, AdoptPhase.inProgress])
      | true =>
        have hentered : AdoptCall.party s.calls.length ⟨params, firstPhase s.adoptions params true⟩ =
            some (params.threadId, none) := by
          simp [AdoptCall.party, firstPhase, hclaimed, AdoptPhase.inProgress, AdoptPhase.registered]
        obtain ⟨hcalls, hholds⟩ := halone params.threadId (by simp [enteredThread, hclaimed])
        rw [hentered]
        apply h.good.enter hnew
        intro q o hq
        cases q with
        | call j =>
          obtain ⟨other, hother, hprogress, hthread⟩ := of_call_party hq
          exact hcalls other hother hprogress hthread
        | hold j =>
          obtain ⟨hold, hj, hended, hthread, -⟩ := of_hold_party hq
          -- a loop that has not ended is stopping, or holds the claim
          cases hstopping : hold.phase.isStopping with
          | true => exact hholds hold (List.mem_of_getElem? hj) hstopping hthread
          | false =>
            obtain ⟨handle, hlookup, -⟩ := h.held.claims j hold hj (letGo_cases hended hstopping)
            rw [hthread, hclaimed] at hlookup
            cases hlookup
  held := h.held
  handles := h.handles
  sane call hcall := by
    rcases List.mem_append.mp hcall with hcall | hcall
    · exact h.sane call hcall
    · rw [List.mem_singleton.mp hcall, firstPhase]
      dsimp only
      split
      · trivial
      · split <;> trivial

lemma good_set_hold {h h' : Hold} (hi : s.adoptions.holds[i]? = some h)
    (hholds : ∀ j : ℕ, a.holds[j]?.bind Hold.party = (s.adoptions.holds.set i h')[j]?.bind Hold.party)
    (hparty : h'.party = h.party) (hgood : Seating.Good names ⟨a.supervisor, s.seating.party⟩) :
    (⟨a, s.calls⟩ : Adopting).seating.Good names := by
  have hself : s.seating.party (.hold i) = h.party := by simp [seating, hi]
  apply good_of_party (party_set_hold hi h' hholds)
  rw [hparty, ← hself, Function.update_eq_self]
  exact hgood

lemma OneAdopter.wake (h : s.OneAdopter names) (hnames : Function.Injective names)
    (keyedDigest : String → String → String → String) (i : ℕ) (env : Env) (signal : Signal) :
    OneAdopter names ⟨s.adoptions.wake keyedDigest i env signal, s.calls⟩ where
  good := by
    rw [Adoptions.wake]
    cases hi : s.adoptions.holds[i]? with
    | none => exact h.good
    | some hold =>
      dsimp only
      rcases hold.wake_cases keyedDigest s.adoptions.supervisor env signal with
        ⟨hgo, hstays⟩ | ⟨reason, hphase, hwake⟩ | ⟨reason, hphase, hwake⟩ | ⟨hgo, hwake⟩
      · generalize hresult : hold.wake keyedDigest s.adoptions.supervisor env hold.phase signal = result at hstays
        obtain ⟨hold', effects⟩ := result
        dsimp only
        have hquiet : ∀ effect ∈ effects, effect.quiet := by
          intro effect heffect
          have hmem : effect ∈ (hold.wake keyedDigest s.adoptions.supervisor env hold.phase signal).2 := by
            rw [hresult]
            exact heffect
          rcases hold.wake_quiet s.adoptions.supervisor env signal hgo hmem with hquiet | rfl
          · exact hquiet
          · exact absurd heffect (hstays.claim _)
        have hrests := Adoptions.foldl_carryOut_rests env { s.adoptions with holds := s.adoptions.holds.set i hold' } hquiet
        have hsame := Adoptions.foldl_carryOut_same env { s.adoptions with holds := s.adoptions.holds.set i hold' }
          hstays.claim
        have hkept : hold'.party = hold.party := by
          apply party_congr hstays.identity
          exact iff_of_false (ended_letGo hstays.phase) (ended_letGo hgo)
        exact good_set_hold hi (party_same hsame) hkept <| h.good.settle hrests.settled (h.good.store.advances hrests.store)
      · have hkept : Hold.party { hold with phase := .stopping reason } = hold.party := by
          refine party_congr (h := hold) rfl ?_
          exact iff_of_false HoldPhase.noConfusion (by rw [hphase]; exact HoldPhase.noConfusion)
        rw [hwake]
        exact good_set_hold hi (fun _ => rfl) hkept h.good
      · rw [hwake]
        apply good_of_party (party_set_hold hi { hold with phase := .ended } fun _ => rfl)
        exact h.good.finish hnames (hold_party hi (by rw [hphase]; exact HoldPhase.noConfusion))
      · rw [hwake]
        exact good_set_hold hi (fun _ => rfl) rfl h.good
  held := h.held.wake keyedDigest i env signal
  handles threadId handle hlookup := h.handles threadId handle (Adoptions.wake_claimed hlookup)
  sane := h.sane

lemma OneAdopter.release (h : s.OneAdopter names) (threadId : String) (reason : ReleaseReason) :
    OneAdopter names ⟨s.adoptions.requestRelease threadId reason, s.calls⟩ where
  good := by
    have hparty : (⟨s.adoptions.requestRelease threadId reason, s.calls⟩ : Adopting).seating.party = s.seating.party := by
      funext p
      cases p with
      | call j => rfl
      | hold j => exact party_same (s.adoptions.requestRelease_same threadId reason) j
    apply good_of_party hparty
    dsimp only
    rw [Adoptions.requestRelease_supervisor]
    exact h.good
  held := h.held.same (s.adoptions.requestRelease_same threadId reason)
  handles := by
    rw [(s.adoptions.requestRelease_same threadId reason).1]
    exact h.handles
  sane := h.sane

theorem OneAdopter.step (h : s.OneAdopter (codexConversationSessionId keyedDigest))
    (hnames : Function.Injective (codexConversationSessionId keyedDigest)) {event : Event}
    (hundisturbed : s.Undisturbed event) :
    (s.step keyedDigest daemon event).OneAdopter (codexConversationSessionId keyedDigest) := by
  cases event with
  | adopt params rolloutExists => exact h.adopt hundisturbed.alone
  | answer i env signal =>
    cases hi : s.calls[i]? with
    | none =>
      rw [Adopting.step, hi]
      exact h
    | some call => exact h.answer hnames hi hundisturbed.filled
  | wake i env signal => exact h.wake hnames keyedDigest i env signal
  | release threadId reason => exact h.release threadId reason
  | elsewhere env op =>
    have hrests : s.adoptions.supervisor.Rests (s.adoptions.supervisor.step env op) :=
      Supervisor.step_rests (hundisturbed.elsewhere op rfl)
    constructor
    · exact h.good.settle hrests.settled (h.good.store.advances hrests.store)
    · exact h.held.same ⟨rfl, rfl⟩
    · exact h.handles
    · exact h.sane

/-- Every adopted session with a bridge belongs to a thread claimed by a running loop that reads the
commands sent to the session. -/
def SessionsClaimed (s : Adopting) : Prop :=
  ∀ id session commands, s.adoptions.supervisor.sessions.lookup id = some session →
    session.snapshot.topology = "adopted" → session.bridgeSender = some commands →
    ∃ threadId handle h, s.adoptions.registry.lookup threadId = some handle ∧ handle.sessionId = id ∧
      s.adoptions.holds[handle.release]? = some h ∧ h.threadId = threadId ∧ h.phase.hasLetGo = false ∧
      h.commands = commands

def ClaimsLive (s : Adopting) : Prop :=
  ∀ threadId handle, s.adoptions.registry.lookup threadId = some handle →
    ∃ h session, s.adoptions.holds[handle.release]? = some h ∧ h.threadId = threadId ∧ h.phase.hasLetGo = false ∧
      s.adoptions.supervisor.sessions.lookup handle.sessionId = some session ∧
      session.snapshot.topology = "adopted" ∧ session.bridgeSender = some h.commands

def Quiescent (s : Adopting) : Prop := ∀ call ∈ s.calls, call.phase.inProgress = false

def NoneStopping (s : Adopting) : Prop := ∀ h ∈ s.adoptions.holds, h.phase.isStopping = false

instance (s : Adopting) : Decidable s.Quiescent :=
  inferInstanceAs (Decidable (∀ call ∈ s.calls, call.phase.inProgress = false))

instance (s : Adopting) : Decidable s.NoneStopping :=
  inferInstanceAs (Decidable (∀ h ∈ s.adoptions.holds, h.phase.isStopping = false))

lemma OneAdopter.sessionsClaimed (h : s.OneAdopter names) (hquiescent : s.Quiescent) (hstopping : s.NoneStopping) :
    s.SessionsClaimed := by
  intro id session commands hs htopology hbridge
  obtain ⟨p, threadId, o, hp, rfl, rfl⟩ := h.good.served id session commands hs htopology hbridge
  have hname := h.good.named p threadId o hp
  cases p with
  | call i =>
    obtain ⟨call, hcall, hprogress, -⟩ := of_call_party hp
    rw [hquiescent call hcall] at hprogress
    cases hprogress
  | hold i =>
    obtain ⟨hold, hi, hended, rfl, hseat⟩ := of_hold_party hp
    cases hseat
    have hgo := letGo_cases hended (hstopping hold (List.mem_of_getElem? hi))
    obtain ⟨handle, hlookup, hrelease⟩ := h.held.claims i hold hi hgo
    refine ⟨hold.threadId, handle, hold, hlookup, ?_, by rw [hrelease, hi], rfl, hgo, rfl⟩
    rw [h.handles _ _ hlookup, hname]

lemma OneAdopter.claimsLive (h : s.OneAdopter names) : s.ClaimsLive := by
  intro threadId handle hlookup
  obtain ⟨hold, hi, hthread, hgo⟩ := h.held.claimed threadId handle hlookup
  have hparty := hold_party hi (ended_letGo hgo)
  obtain ⟨session, hs, htopology, hbridge, -⟩ := h.good.serves _ _ _ hparty
  refine ⟨hold, session, hi, hthread, hgo, ?_, htopology, hbridge⟩
  rw [h.handles threadId handle hlookup, ← hthread, ← h.good.named _ _ _ hparty]
  exact hs

lemma start_oneAdopter {digest : String → String} (hdigest : Function.Injective digest) :
    (start digest).OneAdopter names where
  good := by
    constructor
    · rintro (i | i) p' threadId o o' hp <;> simp [seating, start] at hp
    · rintro (i | i) threadId o hp <;> simp [seating, start] at hp
    · rintro (i | i) threadId o hp <;> simp [seating, start] at hp
    · intro id session c hs
      simp [seating, start, Supervisor.empty] at hs
    · exact ⟨hdigest, by simp [seating, start, Supervisor.empty]⟩
  held := ⟨by simp [start], by simp [start]⟩
  handles := by simp [start]
  sane := by simp [start]

theorem one_adopter_one_session {digest : String → String} (hdigest : Function.Injective digest)
    (hnames : Function.Injective (codexConversationSessionId keyedDigest))
    (h : Runs.Reaches (step keyedDigest daemon) Undisturbed (start digest) s) (hquiescent : s.Quiescent)
    (hstopping : s.NoneStopping) : s.SessionsClaimed ∧ s.ClaimsLive := by
  have hone : s.OneAdopter (codexConversationSessionId keyedDigest) := by
    apply h.invariant (P := OneAdopter (codexConversationSessionId keyedDigest))
    · exact start_oneAdopter hdigest
    · intro s event hs hundisturbed
      exact hs.step hnames hundisturbed
  exact ⟨hone.sessionsClaimed hquiescent hstopping, hone.claimsLive⟩

end Adopting

namespace Sample

def params : AdoptParams := ⟨"thread-1", "ciao", "0.166.0"⟩

def environment (n : ℕ) : Env := Session.Sample.env n ["x", ["t-0", "t-1", "t-2"].getD n "t", ["r-0", "r-1", "r-2"].getD n "r"]

def approach (call : ℕ) : List Adopting.Event :=
  [.answer call (environment call) (.holders (.ok [])), .answer call (environment call) (.connected (some (40 + call))),
    .answer call (environment call) (.resumed (some []) none none), .answer call (environment call) (.modelList none)]

def land (call : ℕ) : List Adopting.Event := List.replicate 3 (.answer call (environment call) .proceed)

def adoptingAfter (events : List Adopting.Event) : Adopting :=
  events.foldl (Adopting.step digest 7) (Adopting.start id)

def single : List Adopting.Event := .adopt params true :: approach 0 ++ land 0

def racing : List Adopting.Event :=
  [.adopt params true, .adopt params true] ++ approach 0 ++ approach 1 ++ land 0 ++ land 1

lemma digest_names : Function.Injective (codexConversationSessionId digest) := by
  intro threadId threadId' hsame
  exact (String.append_right_inj _).mp hsame

end Sample

theorem one_adopter_one_session_single :
    (Sample.adoptingAfter Sample.single).Quiescent ∧ (Sample.adoptingAfter Sample.single).NoneStopping ∧
      ((Sample.adoptingAfter Sample.single).adoptions.registry.lookup "thread-1").isSome ∧
      (Sample.adoptingAfter Sample.single).SessionsClaimed ∧ (Sample.adoptingAfter Sample.single).ClaimsLive := by
  have hallowed : Runs.Allowed (Adopting.step Sample.digest 7) Adopting.Undisturbed (Adopting.start id)
      Sample.single := by decide +kernel
  have hquiescent : (Sample.adoptingAfter Sample.single).Quiescent := by decide +kernel
  have hstopping : (Sample.adoptingAfter Sample.single).NoneStopping := by decide +kernel
  exact ⟨hquiescent, hstopping, by decide +kernel,
    Adopting.one_adopter_one_session Function.injective_id Sample.digest_names (Runs.Reaches.refl.of_run hallowed)
      hquiescent hstopping⟩

theorem racing_adopts_orphan_session :
    ∃ s, Runs.Reaches (Adopting.step Sample.digest 7) (fun _ _ => True) (Adopting.start id) s ∧ s.Quiescent ∧
      s.NoneStopping ∧ ¬ s.SessionsClaimed := by
  refine ⟨Sample.adoptingAfter Sample.racing, Runs.Reaches.refl.of_run ?_, by decide +kernel, by decide +kernel, ?_⟩
  · simp [Runs.Allowed, Sample.racing, Sample.approach, Sample.land]
  · intro hclaimed
    have hsession : ((Sample.adoptingAfter Sample.racing).adoptions.supervisor.sessions.lookup
        "codex-adopted-thread-1").any fun s => s.snapshot.topology = "adopted" ∧ s.bridgeSender = some 1 := by
      decide +kernel
    have hreaders : ∀ h ∈ (Sample.adoptingAfter Sample.racing).adoptions.holds, h.commands = 0 := by decide +kernel
    obtain ⟨session, hs, hbridged⟩ := (Option.any_eq_true _ _).mp hsession
    obtain ⟨htopology, hbridge⟩ := of_decide_eq_true hbridged
    obtain ⟨threadId, handle, h, -, -, hh, -, -, hcommands⟩ := hclaimed _ session 1 hs htopology hbridge
    rw [hreaders h (List.mem_of_getElem? hh)] at hcommands
    cases hcommands

end CiaoHost.Codex
