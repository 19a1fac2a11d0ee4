import CiaoHost.Codex.Woke

/-! The registry of adopted threads, and the loops that hold them (`AdoptionRegistry` in
codex_adopted.rs). -/

namespace CiaoHost.Codex

open Protocol Session Lib

structure AdoptionHandle where
  sessionId : String
  childPid : Option ℕ
  release : ℕ
  deriving DecidableEq, Repr

abbrev AdoptionRegistry := KeyedMap String AdoptionHandle

namespace AdoptionRegistry

def threadForSession (registry : AdoptionRegistry) (sessionId : String) : Option String :=
  (registry.entries.find? fun entry => entry.2.sessionId = sessionId).map (·.1)

def heldThreadForSession (keyedDigest : String → String → String → String) (registry : AdoptionRegistry)
    (sessionId : String) : Option String :=
  registry.keys.find? fun threadId => codexConversationSessionId keyedDigest threadId = sessionId

end AdoptionRegistry

structure Adoptions where
  supervisor : Supervisor
  registry : AdoptionRegistry
  holds : List Hold

namespace Adoptions

variable (a : Adoptions)

def requestRelease (threadId : String) (reason : ReleaseReason) : Adoptions :=
  match a.registry.lookup threadId with
  | none => a
  | some handle => { a with holds := a.holds.modify handle.release (·.offer reason) }

def noteHookEvent (threadId : String) (processId : ℕ) : Adoptions :=
  if (a.registry.lookup threadId).any (·.childPid ≠ some processId) then
    a.requestRelease threadId .foreignWriter
  else a

def closeConversation (sessionId : String) : Adoptions :=
  (a.registry.threadForSession sessionId).elim a (a.requestRelease · .conversationClosed)

def claim (threadId : String) (childPid : Option ℕ) (h : Hold) : Adoptions :=
  match a.registry.lookup threadId with
  | some _ => a
  | none =>
    { a with
      registry := a.registry.insert threadId ⟨h.sessionId, childPid, a.holds.length⟩
      holds := a.holds ++ [h] }

def carryOut (env : Env) (a : Adoptions) : HoldEffect → Adoptions
  | .supervisor op => { a with supervisor := a.supervisor.step env op }
  | .requestRelease threadId reason => a.requestRelease threadId reason
  | .removeClaim threadId => { a with registry := a.registry.erase threadId }

variable (keyedDigest : String → String → String → String)

def wake (i : ℕ) (env : Env) (signal : Signal) : Adoptions :=
  match a.holds[i]? with
  | none => a
  | some h =>
    let (h', effects) := h.wake keyedDigest a.supervisor env h.phase signal
    effects.foldl (carryOut env) { a with holds := a.holds.set i h' }

end Adoptions

/-! What a wake of the loop can change. -/

def HoldPhase.hasLetGo : HoldPhase → Bool
  | stopping _ | ended => true
  | _ => false

variable {signal : Signal} {reason : ReleaseReason}

namespace Hold

def identity (h : Hold) : String × ℕ × String × ℕ := (h.sessionId, h.processGeneration, h.threadId, h.commands)

structure Stays (h : Hold) (result : Hold × List HoldEffect) : Prop where
  identity : result.1.identity = h.identity
  phase : result.1.phase.hasLetGo = false
  claim : ∀ threadId, HoldEffect.removeClaim threadId ∉ result.2

variable {h : Hold}

variable {base : Hold} {command : AgentCommand}

lemma Leaves.stays (hleaves : h.Leaves signal base reason) :
    h.phase.hasLetGo = false ∧ base.identity = h.identity := by
  obtain ⟨before, -⟩ | before | before | ⟨before, -⟩ | ⟨before, -⟩ | before := hleaves
  all_goals exact ⟨by rw [before]; rfl, rfl⟩

lemma Composed.stays {text : String}
    (hcomposed : h.Composed command text signal base) : h.phase.hasLetGo = false ∧ base.identity = h.identity := by
  obtain ⟨before, -⟩ | before := hcomposed
  all_goals exact ⟨by rw [before]; rfl, rfl⟩

lemma Answers.stays (hanswers : h.Answers command) : h.phase.hasLetGo = false := by
  obtain before | ⟨text, note, before⟩ := hanswers
  all_goals
    rw [before]
    rfl

lemma wake_cases (h : Hold) (keyedDigest : String → String → String → String) (sv : Supervisor) (env : Env)
    (signal : Signal) :
    (h.phase.hasLetGo = false ∧ h.Stays (h.wake keyedDigest sv env h.phase signal)) ∨
    (∃ reason, h.phase = .leaving reason ∧
      h.wake keyedDigest sv env h.phase signal =
        ({ h with phase := .stopping reason }, [.removeClaim h.threadId])) ∨
    (∃ reason, h.phase = .stopping reason ∧
      h.wake keyedDigest sv env h.phase signal = ({ h with phase := .ended },
        [.supervisor (.endAdopted h.sessionId h.processGeneration reason.token)])) ∨
    (h.phase.hasLetGo = true ∧ h.wake keyedDigest sv env h.phase signal = (h, [])) := by
  have hwoke := wake_woke keyedDigest sv env h signal
  generalize h.wake keyedDigest sv env h.phase signal = result at hwoke ⊢
  cases hwoke with
  | idle =>
    cases hgo : h.phase.hasLetGo with
    | true => exact .inr (.inr (.inr ⟨rfl, rfl⟩))
    | false => exact .inl ⟨rfl, rfl, hgo, by simp⟩
  | waits before | watches before | refuses before | clears before | notes before | retries before | fails before
  | yielded before | takes before | asks before | answers before | rejects before | raises before
  | heeds before | putsOff before | interrupts before | foreign before =>
    exact .inl ⟨by rw [before]; rfl, rfl, rfl, by simp [rejected, receipt]⟩
  | leaves cause | yields cause => exact .inl ⟨cause.stays.1, cause.stays.2, rfl, by simp⟩
  | starts ready | steers ready => exact .inl ⟨ready.stays.1, ready.stays.2, rfl, by simp⟩
  | applies ops before | resolves before => exact .inl ⟨before.stays, rfl, rfl, by simp [applied, receipt]⟩
  | letsGo before => exact .inr (.inl ⟨_, before, rfl⟩)
  | ends before => exact .inr (.inr (.inl ⟨_, before, rfl⟩))

end Hold

/-! What the registry and the loops have in common. -/

namespace Hold

def view (h : Hold) : (String × ℕ × String × ℕ) × HoldPhase × List HoldEvent := (h.identity, h.phase, h.trace)

@[simp] lemma offer_view (h : Hold) (reason : ReleaseReason) : (h.offer reason).view = h.view := by
  rw [offer]
  split <;> rfl

lemma threadId_eq {h h' : Hold} (hid : h'.identity = h.identity) : h'.threadId = h.threadId := by
  simp only [identity, Prod.mk.injEq] at hid
  exact hid.2.2.1

lemma wake_identity (h : Hold) (keyedDigest : String → String → String → String) (sv : Supervisor) (env : Env)
    (signal : Signal) : (h.wake keyedDigest sv env h.phase signal).1.identity = h.identity := by
  rcases h.wake_cases keyedDigest sv env signal with
    ⟨-, hstays⟩ | ⟨reason, -, hwake⟩ | ⟨reason, -, hwake⟩ | ⟨-, hwake⟩
  · exact hstays.identity
  · rw [hwake]
    rfl
  · rw [hwake]
    rfl
  · rw [hwake]

lemma wake_letGo {h : Hold} (hgo : h.phase.hasLetGo) (keyedDigest : String → String → String → String)
    (sv : Supervisor) (env : Env) (signal : Signal) :
    (h.wake keyedDigest sv env h.phase signal).1.phase.hasLetGo ∧
      (h.wake keyedDigest sv env h.phase signal).1.trace = h.trace := by
  rcases h.wake_cases keyedDigest sv env signal with
    ⟨hheld, -⟩ | ⟨reason, hphase, -⟩ | ⟨reason, -, hwake⟩ | ⟨-, hwake⟩
  · rw [hgo] at hheld
    cases hheld
  · rw [hphase] at hgo
    cases hgo
  · rw [hwake]
    exact ⟨rfl, rfl⟩
  · rw [hwake]
    exact ⟨hgo, rfl⟩

end Hold

namespace Adoptions

variable {a : Adoptions}

lemma modify_view (holds : List Hold) (i : ℕ) (reason : ReleaseReason) :
    (holds.modify i (·.offer reason)).map Hold.view = holds.map Hold.view := by
  apply List.ext_getElem?
  intro j
  rw [List.getElem?_map, List.getElem?_map, List.getElem?_modify]
  cases holds[j]? with
  | none => rfl
  | some h => by_cases hj : i = j <;> simp [hj]

def Same (a b : Adoptions) : Prop := b.registry = a.registry ∧ b.holds.map Hold.view = a.holds.map Hold.view

lemma Same.rfl' (a : Adoptions) : a.Same a := ⟨rfl, rfl⟩

variable {b : Adoptions} {i : ℕ} {h : Hold}

lemma Same.trans {c : Adoptions} (hab : a.Same b) (hbc : b.Same c) : a.Same c :=
  ⟨hbc.1.trans hab.1, hbc.2.trans hab.2⟩

lemma Same.hold (h : a.Same b) {x : Hold} (hx : b.holds[i]? = some x) :
    ∃ y, a.holds[i]? = some y ∧ x.view = y.view := by
  have hview := congrArg (·[i]?) h.2
  simp only [List.getElem?_map, hx, Option.map_some] at hview
  obtain ⟨y, hy, hxy⟩ := Option.map_eq_some_iff.mp hview.symm
  exact ⟨y, hy, hxy.symm⟩

lemma Same.symm (h : a.Same b) : b.Same a := ⟨h.1.symm, h.2.symm⟩

lemma Same.length (h : a.Same b) : b.holds.length = a.holds.length := by
  simpa using congrArg List.length h.2

lemma requestRelease_same (a : Adoptions) (threadId : String) (reason : ReleaseReason) :
    a.Same (a.requestRelease threadId reason) := by
  rw [requestRelease]
  split
  · exact .rfl' a
  · exact ⟨rfl, modify_view _ _ _⟩

lemma noteHookEvent_same (a : Adoptions) (threadId : String) (processId : ℕ) :
    a.Same (a.noteHookEvent threadId processId) := by
  rw [noteHookEvent]
  split
  · exact a.requestRelease_same _ _
  · exact .rfl' a

lemma closeConversation_same (a : Adoptions) (sessionId : String) : a.Same (a.closeConversation sessionId) := by
  rw [closeConversation]
  cases a.registry.threadForSession sessionId with
  | none => exact .rfl' a
  | some threadId => exact a.requestRelease_same _ _

lemma carryOut_same (env : Env) (a : Adoptions) {effect : HoldEffect}
    (hclaim : ∀ threadId, effect ≠ .removeClaim threadId) : a.Same (a.carryOut env effect) := by
  cases effect with
  | supervisor op => exact ⟨rfl, rfl⟩
  | requestRelease threadId reason => exact a.requestRelease_same _ _
  | removeClaim threadId => exact absurd rfl (hclaim threadId)

lemma foldl_carryOut_same (env : Env) (a : Adoptions) {effects : List HoldEffect}
    (hclaim : ∀ threadId, HoldEffect.removeClaim threadId ∉ effects) :
    a.Same (effects.foldl (carryOut env) a) := by
  induction effects generalizing a with
  | nil => exact .rfl' a
  | cons effect effects ih =>
    have hfirst : a.Same (a.carryOut env effect) := by
      apply a.carryOut_same env
      rintro threadId rfl
      exact hclaim threadId List.mem_cons_self
    apply hfirst.trans
    apply ih
    intro threadId hmem
    exact hclaim threadId (List.mem_cons_of_mem _ hmem)

structure Held (a : Adoptions) : Prop where
  claimed : ∀ threadId handle, a.registry.lookup threadId = some handle →
    ∃ h, a.holds[handle.release]? = some h ∧ h.threadId = threadId ∧ h.phase.hasLetGo = false
  claims : ∀ (i : ℕ) h, a.holds[i]? = some h → h.phase.hasLetGo = false →
    ∃ handle, a.registry.lookup h.threadId = some handle ∧ handle.release = i

section

variable (hheld : a.Held)

include hheld

lemma Held.same (hsame : a.Same b) : b.Held where
  claimed threadId handle hlookup := by
    rw [hsame.1] at hlookup
    obtain ⟨h, hh, hthread, hgo⟩ := hheld.claimed threadId handle hlookup
    obtain ⟨x, hx, hview⟩ := hsame.symm.hold hh
    simp only [Hold.view, Prod.mk.injEq] at hview
    refine ⟨x, hx, ?_, ?_⟩
    · rw [← Hold.threadId_eq hview.1, hthread]
    · rw [← hview.2.1, hgo]
  claims i h hh hgo := by
    obtain ⟨x, hx, hview⟩ := hsame.hold hh
    simp only [Hold.view, Prod.mk.injEq] at hview
    rw [hview.2.1] at hgo
    obtain ⟨handle, hlookup, hrelease⟩ := hheld.claims i x hx hgo
    exact ⟨handle, by rw [hsame.1, Hold.threadId_eq hview.1, hlookup], hrelease⟩

lemma Held.set {h' : Hold} (hi : a.holds[i]? = some h)
    (hid : h'.identity = h.identity) (hgo : h'.phase.hasLetGo = h.phase.hasLetGo) :
    Held { a with holds := a.holds.set i h' } where
  claimed threadId handle hlookup := by
    obtain ⟨x, hx, hthread, hxgo⟩ := hheld.claimed threadId handle hlookup
    dsimp only
    by_cases hj : i = handle.release
    · rw [← hj, hi, Option.some.injEq] at hx
      subst hx
      refine ⟨h', ?_, (Hold.threadId_eq hid).trans hthread, hgo.trans hxgo⟩
      have hlt := (List.getElem?_eq_some_iff.mp hi).1
      rw [← hj, List.getElem?_set_self hlt]
    · exact ⟨x, by rw [List.getElem?_set_ne hj, hx], hthread, hxgo⟩
  claims j x hx hxgo := by
    dsimp only at hx ⊢
    by_cases hj : i = j
    · subst hj
      rw [List.getElem?_set_self (List.getElem?_eq_some_iff.mp hi).1, Option.some.injEq] at hx
      subst hx
      rw [Hold.threadId_eq hid]
      exact hheld.claims i h hi (hgo ▸ hxgo)
    · rw [List.getElem?_set_ne hj] at hx
      exact hheld.claims j x hx hxgo

lemma Held.leave (hi : a.holds[i]? = some h) (hgo : h.phase.hasLetGo = false) : Held { a with
      registry := a.registry.erase h.threadId
      holds := a.holds.set i { h with phase := .stopping reason } } where
  claimed threadId handle hlookup := by
    obtain ⟨hne, hlookup⟩ := KeyedMap.lookup_erase_some hlookup
    obtain ⟨x, hx, hthread, hxgo⟩ := hheld.claimed threadId handle hlookup
    refine ⟨x, ?_, hthread, hxgo⟩
    have hj : i ≠ handle.release := by
      intro hj
      rw [← hj, hi, Option.some.injEq] at hx
      subst hx
      exact hne hthread.symm
    dsimp only
    rw [List.getElem?_set_ne hj, hx]
  claims j x hx hxgo := by
    dsimp only at hx ⊢
    have hj : i ≠ j := by
      rintro rfl
      rw [List.getElem?_set_self (List.getElem?_eq_some_iff.mp hi).1, Option.some.injEq] at hx
      subst hx
      cases hxgo
    rw [List.getElem?_set_ne hj] at hx
    obtain ⟨handle, hlookup, hrelease⟩ := hheld.claims j x hx hxgo
    obtain ⟨own, hown, hi'⟩ := hheld.claims i h hi hgo
    -- one thread has one claim, so another loop holds another thread
    have hne : x.threadId ≠ h.threadId := by
      intro hthread
      rw [hthread, hown, Option.some.injEq] at hlookup
      exact hj (by rw [← hi', hlookup, hrelease])
    exact ⟨handle, by rw [KeyedMap.lookup_erase_ne hne, hlookup], hrelease⟩

lemma Held.claim {childPid : Option ℕ} (hfree : a.registry.lookup h.threadId = none)
    (hgo : h.phase.hasLetGo = false) : (a.claim h.threadId childPid h).Held := by
  rw [Adoptions.claim, hfree]
  constructor
  · intro threadId handle hlookup
    dsimp only at hlookup ⊢
    rw [KeyedMap.lookup_insert] at hlookup
    split at hlookup
    · next hthread =>
      cases hlookup
      exact ⟨h, by simp, hthread.symm, hgo⟩
    · obtain ⟨x, hx, hrest⟩ := hheld.claimed threadId handle hlookup
      refine ⟨x, ?_, hrest⟩
      rw [List.getElem?_append_left (List.getElem?_eq_some_iff.mp hx).1, hx]
  · intro i x hx hxgo
    dsimp only at hx ⊢
    by_cases hi : i < a.holds.length
    · rw [List.getElem?_append_left hi] at hx
      obtain ⟨handle, hlookup, hrelease⟩ := hheld.claims i x hx hxgo
      refine ⟨handle, ?_, hrelease⟩
      rw [KeyedMap.lookup_insert_ne, hlookup]
      intro hsame
      rw [hsame, hfree] at hlookup
      cases hlookup
    · have hlast : x = h ∧ i = a.holds.length := by
        rw [List.getElem?_append_right (by omega)] at hx
        obtain ⟨hlt, hget⟩ := List.getElem?_eq_some_iff.mp hx
        simp only [List.length_singleton] at hlt
        refine ⟨?_, by omega⟩
        simpa using hget.symm
      obtain ⟨rfl, rfl⟩ := hlast
      exact ⟨_, KeyedMap.lookup_insert_self _ _ _, rfl⟩

lemma Held.wake (keyedDigest : String → String → String → String) (i : ℕ) (env : Env)
    (signal : Signal) : (a.wake keyedDigest i env signal).Held := by
  rw [Adoptions.wake]
  cases hi : a.holds[i]? with
  | none => exact hheld
  | some h =>
    dsimp only
    rcases h.wake_cases keyedDigest a.supervisor env signal with
      ⟨hgo, hstays⟩ | ⟨reason, hphase, hwake⟩ | ⟨reason, hphase, hwake⟩ | ⟨hgo, hwake⟩
    · apply (hheld.set hi hstays.identity (hstays.phase.trans hgo.symm)).same
      exact foldl_carryOut_same env _ hstays.claim
    · rw [hwake]
      exact hheld.leave hi (by rw [hphase]; rfl)
    · rw [hwake]
      have hended : Held { a with holds := a.holds.set i { h with phase := .ended } } :=
        hheld.set hi rfl (by rw [hphase]; rfl)
      exact hended.same ⟨rfl, rfl⟩
    · rw [hwake]
      exact hheld.set hi rfl rfl

end

lemma wake_length (keyedDigest : String → String → String → String) (i : ℕ) (env : Env) (signal : Signal) :
    (a.wake keyedDigest i env signal).holds.length = a.holds.length := by
  rw [Adoptions.wake]
  cases a.holds[i]? with
  | none => rfl
  | some h =>
    dsimp only
    rcases h.wake_cases keyedDigest a.supervisor env signal with
      ⟨-, hstays⟩ | ⟨reason, -, hwake⟩ | ⟨reason, -, hwake⟩ | ⟨-, hwake⟩
    · rw [(foldl_carryOut_same env _ hstays.claim).length, List.length_set]
    all_goals
      rw [hwake]
      exact List.length_set

lemma wake_hold {keyedDigest : String → String → String → String} {env : Env} {j : ℕ} (hj : a.holds[j]? = some h) :
    ∃ h', (a.wake keyedDigest i env signal).holds[j]? = some h' ∧ h'.identity = h.identity ∧
      (h.phase.hasLetGo → h'.phase.hasLetGo ∧ h'.trace = h.trace) := by
  rw [Adoptions.wake]
  cases hi : a.holds[i]? with
  | none => exact ⟨h, hj, rfl, fun hgo => ⟨hgo, rfl⟩⟩
  | some x =>
    dsimp only
    -- up to the release channels, only loop i changes
    have hafter : ∀ (b : Adoptions), b.holds.map Hold.view =
        (a.holds.set i (x.wake keyedDigest a.supervisor env x.phase signal).1).map Hold.view →
        ∃ h', b.holds[j]? = some h' ∧ h'.identity = h.identity ∧
          (h.phase.hasLetGo → h'.phase.hasLetGo ∧ h'.trace = h.trace) := by
      intro b hview
      have hsame : b.Same ⟨b.supervisor, b.registry, a.holds.set i (x.wake keyedDigest a.supervisor env x.phase signal).1⟩ :=
        ⟨rfl, hview.symm⟩
      by_cases hij : i = j
      · subst hij
        rw [hi, Option.some.injEq] at hj
        subst hj
        obtain ⟨h', hh', hview'⟩ := hsame.hold (List.getElem?_set_self (List.getElem?_eq_some_iff.mp hi).1)
        simp only [Hold.view, Prod.mk.injEq] at hview'
        refine ⟨h', hh', hview'.1.symm.trans (x.wake_identity keyedDigest a.supervisor env signal), ?_⟩
        intro hgo
        obtain ⟨hgo', htrace⟩ := Hold.wake_letGo hgo keyedDigest a.supervisor env signal
        exact ⟨by rw [← hview'.2.1]; exact hgo', by rw [← hview'.2.2, htrace]⟩
      · obtain ⟨h', hh', hview'⟩ := hsame.hold (show (a.holds.set i _)[j]? = some h by
          rw [List.getElem?_set_ne hij, hj])
        simp only [Hold.view, Prod.mk.injEq] at hview'
        refine ⟨h', hh', hview'.1.symm, ?_⟩
        intro hgo
        exact ⟨by rw [← hview'.2.1]; exact hgo, hview'.2.2.symm⟩
    rcases x.wake_cases keyedDigest a.supervisor env signal with
      ⟨-, hstays⟩ | ⟨reason, -, hwake⟩ | ⟨reason, -, hwake⟩ | ⟨-, hwake⟩
    · exact hafter _ (foldl_carryOut_same env _ hstays.claim).2
    all_goals
      apply hafter
      rw [hwake]
      rfl

end Adoptions

namespace Sample

def adoptions (turn : Option String) : Adoptions where
  supervisor := (Session.Sample.after
    [⟨.register (Session.Sample.adoptedRegistration "codex-adopted-thread-1") 0,
      Session.Sample.env 0 ["x", "t-1", "r-1"]⟩]).supervisor
  registry := (∅ : AdoptionRegistry).insert "thread-1" ⟨"codex-adopted-thread-1", some 40, 0⟩
  holds := [{ hold with tracking := { hold.tracking with vendorTurnId := turn } }]

end Sample

end CiaoHost.Codex
