import CiaoHost.Codex.Adoptions

/-! Handing an adopted conversation over to a terminal: the `agent.managed.release` operation of
daemon.rs next to the loops that hold the threads. -/

namespace CiaoHost.Codex

open Protocol Session Lib Lib.Checks

structure LifecycleOutcome where
  commandId : String
  state : String
  sessionId : Option String
  resumeCommand : Option String
  deriving DecidableEq, Repr

def codexResumeCommand (threadId : String) : Option String :=
  let command := "codex resume " ++ threadId
  if validResumeCommand command = .ok () then some command else none

inductive ReleaseCall where
  | found (sessionId commandId threadId : String)
  | requested (sessionId commandId threadId : String)
  | answered (threadId : String) (outcome : LifecycleOutcome)
  deriving DecidableEq, Repr

structure Handover where
  adoptions : Adoptions
  calls : List ReleaseCall

namespace Handover

inductive Event where
  | wake (i : ℕ) (env : Env) (signal : Signal)
  | hook (threadId : String) (processId : ℕ)
  | close (sessionId : String)
  | release (sessionId commandId : String)
  | request (call : ℕ)
  | answer (call : ℕ)

def releaseOutcome (sessionId commandId threadId : String) : LifecycleOutcome where
  commandId := commandId
  state := "accepted"
  sessionId := some sessionId
  resumeCommand := codexResumeCommand threadId

def step (keyedDigest : String → String → String → String) (s : Handover) : Event → Handover
  | .wake i env signal => { s with adoptions := s.adoptions.wake keyedDigest i env signal }
  | .hook threadId processId => { s with adoptions := s.adoptions.noteHookEvent threadId processId }
  | .close sessionId => { s with adoptions := s.adoptions.closeConversation sessionId }
  | .release sessionId commandId =>
    -- without a held thread the operation goes the way of a managed worker
    match s.adoptions.registry.heldThreadForSession keyedDigest sessionId with
    | none => s
    | some threadId => { s with calls := s.calls ++ [.found sessionId commandId threadId] }
  | .request call =>
    match s.calls[call]? with
    | some (.found sessionId commandId threadId) =>
      { adoptions := s.adoptions.requestRelease threadId .resumeInTerminal
        calls := s.calls.set call (.requested sessionId commandId threadId) }
    | _ => s
  | .answer call =>
    match s.calls[call]? with
    | some (.requested sessionId commandId threadId) =>
      { s with calls :=
        s.calls.set call (.answered threadId (releaseOutcome sessionId commandId threadId)) }
    | _ => s

def LetGo (s : Handover) (threadId : String) : Prop :=
  ∀ h ∈ s.adoptions.holds, h.threadId = threadId → h.phase.hasLetGo

instance (s : Handover) (threadId : String) : Decidable (s.LetGo threadId) :=
  inferInstanceAs (Decidable (∀ h ∈ s.adoptions.holds, h.threadId = threadId → h.phase.hasLetGo))

def answeredThread (s : Handover) : Event → Option String
  | .answer call =>
    match s.calls[call]? with
    | some (.requested _ _ threadId) => some threadId
    | _ => none
  | _ => none

def AnswersAfter (s : Handover) (event : Event) : Prop :=
  ∀ threadId ∈ s.answeredThread event, s.LetGo threadId

instance (s : Handover) (event : Event) : Decidable (s.AnswersAfter event) :=
  inferInstanceAs (Decidable (∀ threadId ∈ s.answeredThread event, s.LetGo threadId))

variable {keyedDigest : String → String → String → String} {s : Handover}

section

variable (keyedDigest : String → String → String → String) (event : Event)

lemma step_hold {j : ℕ} {h : Hold} (hj : s.adoptions.holds[j]? = some h) :
    ∃ h', (s.step keyedDigest event).adoptions.holds[j]? = some h' ∧ h'.identity = h.identity ∧
      (h.phase.hasLetGo → h'.phase.hasLetGo ∧ h'.trace = h.trace) := by
  have hsame : ∀ b, s.adoptions.Same b → ∃ h', b.holds[j]? = some h' ∧ h'.identity = h.identity ∧
      (h.phase.hasLetGo → h'.phase.hasLetGo ∧ h'.trace = h.trace) := by
    intro b hb
    obtain ⟨h', hh', hview⟩ := hb.symm.hold hj
    simp only [Hold.view, Prod.mk.injEq] at hview
    exact ⟨h', hh', hview.1.symm, fun hgo => ⟨by rw [← hview.2.1]; exact hgo, hview.2.2.symm⟩⟩
  have hkept := hsame s.adoptions (.rfl' _)
  cases event with
  | wake i env signal => exact Adoptions.wake_hold hj
  | hook threadId processId => exact hsame _ (s.adoptions.noteHookEvent_same _ _)
  | close sessionId => exact hsame _ (s.adoptions.closeConversation_same _)
  | release sessionId commandId =>
    rw [step]
    split <;> exact hkept
  | request call =>
    rw [step]
    split
    · exact hsame _ (s.adoptions.requestRelease_same _ _)
    · exact hkept
  | answer call =>
    rw [step]
    split <;> exact hkept

lemma step_length :
    (s.step keyedDigest event).adoptions.holds.length = s.adoptions.holds.length := by
  cases event with
  | wake i env signal => exact Adoptions.wake_length keyedDigest i env signal
  | hook threadId processId => exact (s.adoptions.noteHookEvent_same _ _).length
  | close sessionId => exact (s.adoptions.closeConversation_same _).length
  | release sessionId commandId =>
    rw [step]
    split <;> rfl
  | request call =>
    rw [step]
    split
    · exact (s.adoptions.requestRelease_same _ _).length
    · rfl
  | answer call =>
    rw [step]
    split <;> rfl

end

variable {threadId : String}

lemma LetGo.step (hgo : s.LetGo threadId) (event : Event) :
    (s.step keyedDigest event).LetGo threadId := by
  intro h' hmem hthread
  obtain ⟨j, hj⟩ := List.mem_iff_getElem?.mp hmem
  have hlt : j < s.adoptions.holds.length := by
    rw [← step_length keyedDigest event]
    exact (List.getElem?_eq_some_iff.mp hj).1
  obtain ⟨h, hh⟩ : ∃ h, s.adoptions.holds[j]? = some h := ⟨_, List.getElem?_eq_getElem hlt⟩
  obtain ⟨x, hx, hid, hkept⟩ := step_hold keyedDigest event hh
  rw [hj, Option.some.injEq] at hx
  subst hx
  have hbefore := hgo h (List.mem_of_getElem? hh) ((Hold.threadId_eq hid).symm.trans hthread)
  exact (hkept hbefore).1

lemma answered_of_step {event : Event} {outcome : LifecycleOutcome}
    (hmem : .answered threadId outcome ∈ (s.step keyedDigest event).calls) :
    .answered threadId outcome ∈ s.calls ∨
      ∃ call sessionId commandId, event = .answer call ∧
        s.calls[call]? = some (.requested sessionId commandId threadId) := by
  cases event with
  | wake i env signal | hook threadId processId | close sessionId => exact .inl hmem
  | release sessionId commandId =>
    rw [step] at hmem
    split at hmem
    · exact .inl hmem
    · simpa using hmem
  | request call =>
    rw [step] at hmem
    split at hmem
    · rcases List.mem_or_eq_of_mem_set hmem with hold | hnew
      · exact .inl hold
      · cases hnew
    · exact .inl hmem
  | answer call =>
    rw [step] at hmem
    split at hmem
    · rename_i sessionId commandId found hcall
      rcases List.mem_or_eq_of_mem_set hmem with hold | hnew
      · exact .inl hold
      · cases hnew
        exact .inr ⟨call, sessionId, commandId, rfl, hcall⟩
    · exact .inl hmem

lemma step_held (event : Event) (hheld : s.adoptions.Held) : (s.step keyedDigest event).adoptions.Held := by
  cases event with
  | wake i env signal => exact hheld.wake keyedDigest i env signal
  | hook threadId processId => exact hheld.same (s.adoptions.noteHookEvent_same _ _)
  | close sessionId => exact hheld.same (s.adoptions.closeConversation_same _)
  | release sessionId commandId =>
    rw [step]
    split <;> exact hheld
  | request call =>
    rw [step]
    split
    · exact hheld.same (s.adoptions.requestRelease_same _ _)
    · exact hheld
  | answer call =>
    rw [step]
    split <;> exact hheld

lemma unclaimed_of_letGo (hheld : s.adoptions.Held) (hgo : s.LetGo threadId) :
    s.adoptions.registry.lookup threadId = none := by
  cases hlookup : s.adoptions.registry.lookup threadId with
  | none => rfl
  | some handle =>
    obtain ⟨h, hh, hthread, hnot⟩ := hheld.claimed threadId handle hlookup
    have := hgo h (List.mem_of_getElem? hh) hthread
    rw [hnot] at this
    cases this

lemma silent_after {later : Handover} {allowed : Handover → Event → Prop} {j : ℕ} {h : Hold}
    (hreaches : Runs.Reaches (step keyedDigest) allowed s later) (hj : s.adoptions.holds[j]? = some h)
    (hgo : h.phase.hasLetGo) :
    ∃ h', later.adoptions.holds[j]? = some h' ∧ h'.phase.hasLetGo ∧ h'.trace = h.trace := by
  induction hreaches with
  | refl => exact ⟨h, hj, hgo, rfl⟩
  | tail event _ _ ih =>
    obtain ⟨x, hx, hxgo, hxtrace⟩ := ih
    obtain ⟨y, hy, -, hkept⟩ := step_hold keyedDigest event hx
    exact ⟨y, hy, (hkept hxgo).1, (hkept hxgo).2.trans hxtrace⟩

/-- The thread is unclaimed, and from here on no loop on it asks the vendor for more than an
interrupt. -/
def Surrendered (keyedDigest : String → String → String → String) (s : Handover) (threadId : String) : Prop :=
  s.adoptions.registry.lookup threadId = none ∧
    ∀ later, Runs.Reaches (step keyedDigest) (fun _ _ => True) s later →
      ∀ (j : ℕ) h h', s.adoptions.holds[j]? = some h → h.threadId = threadId →
        later.adoptions.holds[j]? = some h' →
          ∃ more, h'.trace = h.trace ++ more ∧ ∀ request, .requested request ∈ more → request.isInterrupt

lemma LetGo.surrendered (hgo : s.LetGo threadId) (hheld : s.adoptions.Held) :
    s.Surrendered keyedDigest threadId := by
  refine ⟨unclaimed_of_letGo hheld hgo, ?_⟩
  intro later hlater j h h' hj hthread hj'
  obtain ⟨x, hx, -, htrace⟩ := silent_after hlater hj (hgo h (List.mem_of_getElem? hj) hthread)
  rw [hj', Option.some.injEq] at hx
  subst hx
  exact ⟨[], by simp [htrace], by simp⟩

end Handover

namespace Sample

def handover (turn : Option String) : Handover := ⟨adoptions turn, []⟩

lemma handover_held (turn : Option String) : (handover turn).adoptions.Held where
  claimed threadId handle hlookup := by
    rcases KeyedMap.lookup_insert_cases hlookup with ⟨rfl, rfl⟩ | ⟨-, hnone⟩
    · exact ⟨_, rfl, rfl, rfl⟩
    · simp at hnone
  claims i h hi _ := by
    cases i with
    | zero =>
      cases hi
      exact ⟨_, KeyedMap.lookup_insert_self _ _ _, rfl⟩
    | succ i => simp [handover, adoptions] at hi

def wakeHold (n : ℕ) (signal : Signal) : Handover.Event := .wake 0 (Session.Sample.env n []) signal

def released : List Handover.Event := [.release "codex-adopted-thread-1" "cmd-9", .request 0]

def letGo : List Handover.Event := [wakeHold 1 .proceed, wakeHold 2 .released, wakeHold 3 .proceed]

def steered : List Handover.Event :=
  [wakeHold 1 .proceed, wakeHold 2 (.command prompt), wakeHold 3 (.probed (.ok []) (.ok []))]

def afterEvents (s : Handover) (events : List Handover.Event) : Handover := events.foldl (Handover.step digest) s

def handedOver : ReleaseCall :=
  .answered "thread-1" ⟨"cmd-9", "accepted", some "codex-adopted-thread-1", some "codex resume thread-1"⟩

end Sample

end CiaoHost.Codex
