import CiaoHost.Codex.Adoptions

/-! Subscriptions to an adopted session (`agent.session.subscribe` in daemon.rs): every way their
handler ends, and the release of the hold that goes with it. -/

namespace CiaoHost.Codex

open Protocol Session Lib

/-- Where a handler waits. `ended` keeps the thread that the registry held for the session then. -/
inductive SubscriptionPhase where
  | opening
  | serving
  | writing
  | resyncing
  | finishing
  | ended (held : Option String)
  deriving DecidableEq, Repr

structure Subscription where
  sessionId : String
  /-- A stored or unheld conversation has nothing to stream. -/
  live : Bool
  phase : SubscriptionPhase
  deriving DecidableEq, Repr

inductive Update where
  | frame
  | lagged
  | closed
  deriving DecidableEq, Repr

inductive Incoming where
  | submit (command : AgentCommand) (authorised : Bool)
  | close
  | unknown
  | truncated
  | malformed
  | undecodable
  deriving DecidableEq, Repr

structure Subscriptions where
  adoptions : Adoptions
  subscriptions : List Subscription
  /-- The releases that the handlers have asked the registry for. -/
  asked : List (ℕ × String)

namespace Subscriptions

inductive Event where
  | subscribe (sessionId : String) (stored : Bool)
  | wrote (i : ℕ) (succeeded : Bool)
  | update (i : ℕ) (update : Update)
  | incoming (i : ℕ) (env : Env) (incoming : Incoming)
  | connectionClosed (i : ℕ)
  | finish (i : ℕ)
  | wake (hold : ℕ) (env : Env) (signal : Signal)
  | hook (threadId : String) (processId : ℕ)
  | claim (threadId : String) (childPid : Option ℕ) (hold : Hold)

variable (s : Subscriptions)

def move (i : ℕ) (sub : Subscription) (phase : SubscriptionPhase) : Subscriptions :=
  { s with subscriptions := s.subscriptions.set i { sub with phase := phase } }

def abandon (i : ℕ) (sub : Subscription) : Subscriptions :=
  s.move i sub (.ended (s.adoptions.registry.threadForSession sub.sessionId))

def release (i : ℕ) (sub : Subscription) : Subscriptions :=
  let held := s.adoptions.registry.threadForSession sub.sessionId
  { s.move i sub (.ended held) with
    adoptions := s.adoptions.closeConversation sub.sessionId
    asked := s.asked ++ held.toList.map fun threadId => (i, threadId) }

def onUpdate (i : ℕ) (sub : Subscription) : Update → Subscriptions
  | .frame => s.move i sub .writing
  | .lagged => s.move i sub .resyncing
  | .closed => s.move i sub .finishing

def onIncoming (i : ℕ) (sub : Subscription) (env : Env) : Incoming → Subscriptions
  | .submit command authorised =>
    if ¬ authorised then s.move i sub .finishing
    else if command.sessionId ≠ sub.sessionId then s
    else
      let submitted := { s with
        adoptions := { s.adoptions with
          supervisor := (s.adoptions.supervisor.submitCommand env command).1 } }
      submitted.move i sub .writing
  | .close | .unknown | .truncated => s.move i sub .finishing
  | .malformed | .undecodable => s.abandon i sub

def onWrote (i : ℕ) (sub : Subscription) (succeeded : Bool) : Subscriptions :=
  match sub.phase, succeeded with
  | .opening, true | .writing, true => s.move i sub .serving
  | .resyncing, true => s.move i sub .finishing
  | .opening, false | .writing, false | .resyncing, false => s.abandon i sub
  | _, _ => s

def onHandler (i : ℕ) (act : Subscription → Subscriptions) : Subscriptions :=
  (s.subscriptions[i]?).elim s act

def step (keyedDigest : String → String → String → String) (s : Subscriptions) : Event → Subscriptions
  | .subscribe sessionId stored =>
    let live := (s.adoptions.supervisor.sessions.lookup sessionId).isSome
    if live ∨ stored then { s with subscriptions := s.subscriptions ++ [⟨sessionId, live, .opening⟩] } else s
  | .wrote i succeeded => s.onHandler i fun sub => s.onWrote i sub succeeded
  | .update i update =>
    s.onHandler i fun sub => if sub.phase = .serving ∧ sub.live then s.onUpdate i sub update else s
  | .incoming i env incoming =>
    s.onHandler i fun sub => if sub.phase = .serving then s.onIncoming i sub env incoming else s
  | .connectionClosed i =>
    s.onHandler i fun sub => if sub.phase = .serving then s.move i sub .finishing else s
  | .finish i => s.onHandler i fun sub => if sub.phase = .finishing then s.release i sub else s
  | .wake hold env signal => { s with adoptions := s.adoptions.wake keyedDigest hold env signal }
  | .hook threadId processId => { s with adoptions := s.adoptions.noteHookEvent threadId processId }
  | .claim threadId childPid hold => { s with adoptions := s.adoptions.claim threadId childPid hold }

def start (adoptions : Adoptions) : Subscriptions := ⟨adoptions, [], []⟩

def isOpen (sub : Subscription) : Prop := ∀ held, sub.phase ≠ .ended held

/-- A handler that has ended has asked for the release of the thread held for its session, unless
another one on the session is open. -/
def HoldsEnd (s : Subscriptions) : Prop :=
  ∀ (i : ℕ) sub held, s.subscriptions[i]? = some sub → sub.phase = .ended held → ∀ threadId ∈ held,
    (i, threadId) ∈ s.asked ∨
      ∃ j other, j ≠ i ∧ s.subscriptions[j]? = some other ∧ other.sessionId = sub.sessionId ∧ isOpen other

def disturbed : Event → Option ℕ
  | .wrote i false | .incoming i _ .malformed | .incoming i _ .undecodable => some i
  | _ => none

/-- While a thread is held for a session, frames are written and frames that arrive are
understood. -/
def Undisturbed (s : Subscriptions) (event : Event) : Prop :=
  ∀ i ∈ disturbed event, ∀ sub ∈ s.subscriptions[i]?,
    s.adoptions.registry.threadForSession sub.sessionId = none

instance (s : Subscriptions) (event : Event) : Decidable (s.Undisturbed event) :=
  inferInstanceAs (Decidable (∀ i ∈ disturbed event, ∀ sub ∈ s.subscriptions[i]?, _))

def Asked (s : Subscriptions) : Prop :=
  ∀ (i : ℕ) sub held, s.subscriptions[i]? = some sub → sub.phase = .ended held → ∀ threadId ∈ held,
    (i, threadId) ∈ s.asked

variable {s}

lemma Asked.move (h : s.Asked) (i : ℕ) (sub : Subscription) {phase : SubscriptionPhase}
    (hphase : ∀ held, phase = .ended held → held = none) : (s.move i sub phase).Asked := by
  intro j x held hx hended threadId hthread
  by_cases hij : i = j
  · subst hij
    rw [Subscriptions.move, List.getElem?_set] at hx
    simp only [if_true, Option.ite_none_right_eq_some, Option.some.injEq] at hx
    obtain ⟨-, rfl⟩ := hx
    rw [hphase held hended] at hthread
    cases hthread
  · have hx' : s.subscriptions[j]? = some x := by rwa [Subscriptions.move, List.getElem?_set_ne hij] at hx
    exact h j x held hx' hended threadId hthread

variable {sub : Subscription} {i : ℕ}

section

variable (h : s.Asked)

include h

lemma Asked.abandon (i : ℕ)
    (hnone : s.adoptions.registry.threadForSession sub.sessionId = none) : (s.abandon i sub).Asked := by
  apply h.move
  rintro held ⟨⟩
  exact hnone

lemma Asked.release (i : ℕ) (sub : Subscription) : (s.release i sub).Asked := by
  intro j x held hx hended threadId hthread
  rw [Subscriptions.release, Subscriptions.move] at hx
  dsimp only at hx
  by_cases hij : i = j
  · subst hij
    rw [List.getElem?_set] at hx
    simp only [if_true, Option.ite_none_right_eq_some, Option.some.injEq] at hx
    obtain ⟨-, rfl⟩ := hx
    cases hended
    -- the thread found at the end is the one asked for
    apply List.mem_append_right
    rw [List.mem_map]
    exact ⟨threadId, Option.mem_toList.mpr hthread, rfl⟩
  · rw [List.getElem?_set_ne hij] at hx
    exact List.mem_append_left _ (h j x held hx hended threadId hthread)

lemma Asked.onUpdate (i : ℕ) (sub : Subscription) (update : Update) :
    (s.onUpdate i sub update).Asked := by
  cases update <;> exact h.move i sub (by simp)

lemma Asked.onIncoming {env : Env} {incoming : Incoming}
    (hi : s.subscriptions[i]? = some sub) (hundisturbed : s.Undisturbed (.incoming i env incoming)) :
    (s.onIncoming i sub env incoming).Asked := by
  cases incoming with
  | submit command authorised =>
    rw [Subscriptions.onIncoming]
    split
    · exact h.move i sub (by simp)
    · split
      · exact h
      · have hsubmitted : Asked { s with adoptions := { s.adoptions with
            supervisor := (s.adoptions.supervisor.submitCommand env command).1 } } := h
        exact hsubmitted.move i sub (by simp)
  | close | unknown | truncated => exact h.move i sub (by simp)
  | malformed | undecodable => exact h.abandon i (hundisturbed i rfl sub hi)

lemma Asked.onWrote {succeeded : Bool}
    (hi : s.subscriptions[i]? = some sub) (hundisturbed : s.Undisturbed (.wrote i succeeded)) :
    (s.onWrote i sub succeeded).Asked := by
  rw [Subscriptions.onWrote.eq_def]
  split
  · exact h.move i sub (by simp)
  · exact h.move i sub (by simp)
  · exact h.move i sub (by simp)
  · exact h.abandon i (hundisturbed i rfl sub hi)
  · exact h.abandon i (hundisturbed i rfl sub hi)
  · exact h.abandon i (hundisturbed i rfl sub hi)
  · exact h

lemma Asked.onHandler {act : Subscription → Subscriptions}
    (hact : ∀ sub, s.subscriptions[i]? = some sub → (act sub).Asked) : (s.onHandler i act).Asked := by
  rw [Subscriptions.onHandler]
  cases hi : s.subscriptions[i]? with
  | none => exact h
  | some sub => exact hact sub hi

lemma Asked.step (keyedDigest : String → String → String → String) {event : Event}
    (hundisturbed : s.Undisturbed event) : (s.step keyedDigest event).Asked := by
  cases event with
  | subscribe sessionId stored =>
    rw [Subscriptions.step]
    split
    · intro j x held hx hended
      rw [List.getElem?_append] at hx
      split at hx
      · exact h j x held hx hended
      · obtain rfl := List.mem_singleton.mp (List.mem_of_getElem? hx)
        cases hended
    · exact h
  | wrote i succeeded => exact h.onHandler fun sub hi => h.onWrote hi hundisturbed
  | update i update =>
    apply h.onHandler
    intro sub hi
    split
    · exact h.onUpdate i sub update
    · exact h
  | incoming i env incoming =>
    apply h.onHandler
    intro sub hi
    split
    · exact h.onIncoming hi hundisturbed
    · exact h
  | connectionClosed i =>
    apply h.onHandler
    intro sub hi
    split
    · exact h.move i sub (by simp)
    · exact h
  | finish i =>
    apply h.onHandler
    intro sub hi
    split
    · exact h.release i sub
    · exact h
  | wake hold env signal | hook threadId processId | claim threadId childPid hold => exact h

end

end Subscriptions

namespace Sample

def viewed : List Subscriptions.Event :=
  [.subscribe "codex-adopted-thread-1" false, .wrote 0 true, .update 0 .frame, .wrote 0 true,
    .incoming 0 (Session.Sample.env 1 []) .close, .finish 0]

def vanished : List Subscriptions.Event :=
  [.subscribe "codex-adopted-thread-1" false, .wrote 0 true, .update 0 .frame, .wrote 0 false]

def afterViewing (events : List Subscriptions.Event) : Subscriptions :=
  events.foldl (Subscriptions.step digest) (.start (adoptions none))

end Sample

end CiaoHost.Codex
