import CiaoHost.Codex.Ownership

/-! How often the words of one command are applied to the thread, when the app-server may apply a
request and still answer it with an error, late or never. -/

namespace CiaoHost.Codex

open Protocol Session Lib

structure Sent where
  received : ℕ
  writes : List ℕ
  deriving DecidableEq

namespace Sent

def next (s : Sent) : HoldEvent → Sent
  | .received _ => { s with received := s.received + 1 }
  | .requested request => if request.writes.isSome then { s with writes := s.writes ++ [s.received] } else s
  | _ => s

def write (s : Sent) : Sent := { s with writes := s.writes ++ [s.received] }

end Sent

def sent (trace : List HoldEvent) : Sent := trace.foldl Sent.next ⟨0, []⟩

lemma sent_append (trace more : List HoldEvent) : sent (trace ++ more) = more.foldl Sent.next (sent trace) := by
  simp [sent]

def HoldPhase.isComposing : HoldPhase → Bool
  | probing .. | noting .. => true
  | _ => false

def HoldPhase.isSteering : HoldPhase → Bool
  | steering .. => true
  | _ => false

namespace Hold

def Rests (h : Hold) (s : Sent) : Prop :=
  sent h.trace = s ∧ h.phase.isComposing = false ∧ h.phase.isSteering = false

inductive Sends (refused : Bool) (h h' : Hold) : Prop
  | stays (phase : h'.phase = h.phase) (trace : h'.trace = h.trace)
  | settles (rests : h'.Rests (sent h.trace))
  | takes (received : sent h'.trace = { sent h.trace with received := (sent h.trace).received + 1 })
      (phase : h'.phase.isSteering = false)
  | composes (before : h.phase.isComposing = true) (after : h'.phase.isComposing = true)
      (same : sent h'.trace = sent h.trace)
  | sends (before : h.phase.isComposing = true) (after : h'.phase.isComposing = false)
      (written : sent h'.trace = (sent h.trace).write)
  | retries (steered : h.phase.isSteering = true) (failed : refused = true)
      (rests : h'.Rests (sent h.trace).write)

variable {h : Hold}

lemma sent_log (events : List HoldEvent) : sent (h.log events).trace = events.foldl Sent.next (sent h.trace) :=
  sent_append _ _

variable {request : VendorRequest} {base : Hold} {signal : Signal}

lemma sent_ask_wordless (hwordless : request.writes = none) (phase : HoldPhase) :
    sent (h.ask request phase).trace = sent h.trace := by
  refine (sent_append _ _).trans ?_
  rw [List.foldl_cons, List.foldl_nil, Sent.next, if_neg (by simp [hwordless])]

lemma sent_ask_write (hwrites : request.writes.isSome) (phase : HoldPhase) :
    sent (h.ask request phase).trace = (sent h.trace).write := by
  rw [ask, log]
  dsimp only
  rw [sent_append, List.foldl_cons, List.foldl_nil, Sent.next, if_pos hwrites, Sent.write]

lemma Leaves.sent {reason : ReleaseReason} (hleaves : h.Leaves signal base reason) :
    sent base.trace = Codex.sent h.trace := by
  cases hleaves with
  | seen before foreign => exact sent_log _
  | _ => rfl

lemma Composed.sent {command : AgentCommand} {text : String} (hcomposed : h.Composed command text signal base) :
    h.phase.isComposing = true ∧ Codex.sent base.trace = Codex.sent h.trace := by
  cases hcomposed with
  | probed before => exact ⟨by rw [before]; rfl, sent_log _⟩
  | noted before => exact ⟨by rw [before]; rfl, rfl⟩

def refuses (h : Hold) : HoldInput → Bool
  | .wake _ _ (.answered false) => h.phase.isSteering
  | _ => false

section

variable (keyedDigest : String → String → String → String)

lemma wake_sends (sv : Supervisor) (env : Env) (signal : Signal) :
    h.Sends (h.refuses (.wake sv env signal)) (h.wake keyedDigest sv env h.phase signal).1 := by
  have hwoke := wake_woke keyedDigest sv env h signal
  generalize h.wake keyedDigest sv env h.phase signal = result at hwoke ⊢
  cases hwoke with
  | idle => exact .stays rfl rfl
  | waits | watches | heeds | raises | putsOff | fails | applies | resolves | yielded | letsGo | ends =>
    exact .settles ⟨rfl, rfl, rfl⟩
  | refuses | clears | foreign => exact .settles ⟨sent_log _, rfl, rfl⟩
  | interrupts => exact .settles ⟨sent_ask_wordless rfl _, rfl, rfl⟩
  | leaves cause => exact .settles ⟨cause.sent, rfl, rfl⟩
  | yields cause => exact .settles ⟨(sent_ask_wordless rfl _).trans cause.sent, rfl, rfl⟩
  | takes | rejects => exact .takes (sent_log _) rfl
  | @asks command request before wordless =>
    exact .takes ((sent_ask_wordless (h := h.log [.received command]) wordless _).trans (sent_log _)) rfl
  | @answers command => exact .takes ((sent_log (h := h.log [.received command]) _).trans (sent_log _)) rfl
  | notes before => exact .composes (by rw [before]; rfl) rfl (sent_log _)
  | starts ready | steers ready =>
    obtain ⟨hcomposing, hsent⟩ := ready.sent
    exact .sends hcomposing rfl (hsent ▸ sent_ask_write rfl _)
  | retries before =>
    have hsteering : h.phase.isSteering = true := by rw [before]; rfl
    exact .retries hsteering hsteering ⟨sent_ask_write rfl _, rfl, rfl⟩

lemma step_sends (input : HoldInput) :
    h.Sends (h.refuses input) (h.step keyedDigest input) := by
  cases input with
  | wake sv env signal => exact wake_sends keyedDigest sv env signal
  | offer reason =>
    rw [step, offer]
    split
    · exact .stays rfl rfl
    · exact .stays rfl rfl

end

end Hold

/-- The loop with its app-server: which of the requests that carry words were applied to the
thread, and which of them came back as an error and were sent again as a fresh turn. -/
structure Delivery where
  hold : Hold
  applied : List ℕ
  failed : List ℕ

namespace Delivery

/-- The app-server applies a request at any time after it went out, whatever the loop was told. -/
inductive Input where
  | loop (input : Hold.HoldInput)
  | apply (request : ℕ)

def writes (d : Delivery) : List ℕ := (sent d.hold.trace).writes

def step (keyedDigest : String → String → String → String) (d : Delivery) : Input → Delivery
  | .loop input =>
    { d with
      hold := d.hold.step keyedDigest input
      failed := if d.hold.refuses input then d.failed ++ [d.writes.length - 1] else d.failed }
  | .apply request =>
    if request < d.writes.length ∧ request ∉ d.applied then { d with applied := d.applied ++ [request] } else d

def AppliedOnce (d : Delivery) : Prop :=
  ∀ command, (d.applied.filter fun request => d.writes[request]? = some command).length ≤ 1

/-- A steer that comes back as an error was not applied and never will be. -/
def ErrorsUnapplied (d : Delivery) : Input → Prop
  | .loop input => d.hold.refuses input = true → d.writes.length - 1 ∉ d.applied
  | .apply request => request ∉ d.failed

instance (d : Delivery) : ∀ input, Decidable (d.ErrorsUnapplied input)
  | .loop input => inferInstanceAs (Decidable (d.hold.refuses input = true → d.writes.length - 1 ∉ d.applied))
  | .apply request => inferInstanceAs (Decidable (request ∉ d.failed))

def Open (phase : HoldPhase) (s : Sent) : Prop :=
  (phase.isComposing = true → s.received ∉ s.writes) ∧
    (phase.isSteering = true → ∃ earlier, s.writes = earlier ++ [s.received] ∧ s.received ∉ earlier)

def Repeats (failed writes : List ℕ) : Prop :=
  ∀ ⦃i j command⦄, i < j → writes[i]? = some command → writes[j]? = some command → i ∈ failed

structure Kept (d : Delivery) : Prop where
  repeats : Repeats d.failed d.writes
  bounded : ∀ command ∈ d.writes, command ≤ (sent d.hold.trace).received
  current : Open d.hold.phase (sent d.hold.trace)
  apart : ∀ request ∈ d.applied, request ∉ d.failed
  nodup : d.applied.Nodup
  within : ∀ request ∈ d.applied, request < d.writes.length

variable {failed : List ℕ} {s : Sent}

lemma Repeats.mono {more writes : List ℕ} (h : Repeats failed writes) (hmore : failed ⊆ more) :
    Repeats more writes := by
  intro i j command hij hi hj
  exact hmore (h hij hi hj)

lemma Repeats.snoc {writes : List ℕ} (h : Repeats failed writes) {command : ℕ}
    (hlast : ∀ i, writes[i]? = some command → i ∈ failed) : Repeats failed (writes ++ [command]) := by
  intro i j other hij hi hj
  have hbound : j < (writes ++ [command]).length := List.getElem?_eq_some_iff.mp hj |>.1
  rw [List.length_append, List.length_singleton] at hbound
  rw [List.getElem?_append_left (by omega)] at hi
  rcases Nat.lt_or_ge j writes.length with hj' | hj'
  · rw [List.getElem?_append_left hj'] at hj
    exact h hij hi hj
  · -- the later of the two is the new one
    have heq : j = writes.length := by omega
    subst heq
    rw [List.getElem?_concat_length] at hj
    obtain rfl : command = other := by simpa using hj
    exact hlast i hi

lemma not_mem_of_bounded (h : ∀ command ∈ s.writes, command ≤ s.received) : s.received + 1 ∉ s.writes := by
  intro hmem
  have := h _ hmem
  omega

lemma open_of_rests {h : Hold} (hrests : h.Rests s) (s' : Sent) : Open h.phase s' := by
  obtain ⟨-, hcomposing, hsteering⟩ := hrests
  refine ⟨?_, ?_⟩
  · intro hphase
    simp [hphase] at hcomposing
  · intro hphase
    simp [hphase] at hsteering

section

variable {d : Delivery}

lemma Kept.appliedOnce (h : d.Kept) : d.AppliedOnce := by
  intro command
  have hnodup := h.nodup.filter (fun request => d.writes[request]? = some command)
  -- two applied requests of one command would make the earlier one a failed steer
  have heq : ∀ i ∈ d.applied.filter (fun request => d.writes[request]? = some command),
      ∀ j ∈ d.applied.filter (fun request => d.writes[request]? = some command), i = j := by
    intro i hi j hj
    simp only [List.mem_filter, decide_eq_true_eq] at hi hj
    rcases Nat.lt_trichotomy i j with hlt | heq | hgt
    · exact absurd (h.repeats hlt hi.2 hj.2) (h.apart i hi.1)
    · exact heq
    · exact absurd (h.repeats hgt hj.2 hi.2) (h.apart j hj.1)
  generalize d.applied.filter (fun request => d.writes[request]? = some command) = requests at hnodup heq
  match requests, hnodup, heq with
  | [], _, _ => exact Nat.zero_le 1
  | [_], _, _ => exact le_refl 1
  | i :: j :: _, hnodup, heq =>
    have hij : i = j := heq i (by simp) j (by simp)
    simp [hij] at hnodup

lemma Kept.apply (h : d.Kept) (keyedDigest : String → String → String → String) {request : ℕ}
    (hunfailed : request ∉ d.failed) : (d.step keyedDigest (.apply request)).Kept := by
  rw [step]
  split
  · rename_i hnew
    refine ⟨h.repeats, h.bounded, h.current, ?_, ?_, ?_⟩
    · intro other hother
      rcases List.mem_append.mp hother with hold | hlast
      · exact h.apart other hold
      · rw [List.mem_singleton.mp hlast]
        exact hunfailed
    · exact List.nodup_append.mpr ⟨h.nodup, List.nodup_singleton _, by
        intro a ha b hb hab
        rw [List.mem_singleton.mp hb] at hab
        exact hnew.2 (hab ▸ ha)⟩
    · intro other hother
      rcases List.mem_append.mp hother with hold | hlast
      · exact h.within other hold
      · rw [List.mem_singleton.mp hlast]
        exact hnew.1
  · exact h

lemma Kept.steered (h : d.Kept) (hsteering : d.hold.phase.isSteering = true) {i : ℕ}
    (hi : d.writes[i]? = some (sent d.hold.trace).received) : i = d.writes.length - 1 := by
  obtain ⟨earlier, hwrites, hnew⟩ := h.current.2 hsteering
  rw [writes] at hi ⊢
  rw [hwrites] at hi ⊢
  rw [List.length_append, List.length_singleton, Nat.add_sub_cancel]
  have hbound : i < (earlier ++ [(sent d.hold.trace).received]).length := (List.getElem?_eq_some_iff.mp hi).1
  rw [List.length_append, List.length_singleton] at hbound
  by_contra hne
  rw [List.getElem?_append_left (by omega)] at hi
  exact hnew (List.mem_of_getElem? hi)

lemma write_bounded (h : ∀ command ∈ s.writes, command ≤ s.received) :
    ∀ command ∈ s.write.writes, command ≤ s.write.received := by
  intro command hcommand
  rcases List.mem_append.mp hcommand with hold | hlast
  · exact h command hold
  · exact (List.mem_singleton.mp hlast).le

lemma Kept.sends (h : d.Kept) {refused : Bool} {h' : Hold} (hsends : d.hold.Sends refused h')
    (hmore : d.failed ⊆ failed) (hfailed : refused = true → d.writes.length - 1 ∈ failed)
    (hapart : ∀ request ∈ d.applied, request ∉ failed) : (Delivery.mk h' d.applied failed).Kept := by
  have hrepeats := h.repeats.mono hmore
  cases hsends with
  | stays hphase htrace =>
    refine ⟨?_, ?_, ?_, hapart, h.nodup, ?_⟩
    · rw [writes, htrace]
      exact hrepeats
    · rw [writes, htrace]
      exact h.bounded
    · rw [hphase, htrace]
      exact h.current
    · rw [writes, htrace]
      exact h.within
  | settles hrests =>
    refine ⟨?_, ?_, open_of_rests hrests _, hapart, h.nodup, ?_⟩
    · rw [writes, hrests.1]
      exact hrepeats
    · rw [writes, hrests.1]
      exact h.bounded
    · rw [writes, hrests.1]
      exact h.within
  | takes hreceived hphase =>
    refine ⟨?_, ?_, ⟨?_, ?_⟩, hapart, h.nodup, ?_⟩
    · rw [writes, hreceived]
      exact hrepeats
    · rw [writes, hreceived]
      intro command hcommand
      exact Nat.le_succ_of_le (h.bounded command hcommand)
    · intro _
      rw [hreceived]
      exact not_mem_of_bounded h.bounded
    · intro hsteering
      simp [hsteering] at hphase
    · rw [writes, hreceived]
      exact h.within
  | composes hbefore hafter hsame =>
    refine ⟨?_, ?_, ⟨?_, ?_⟩, hapart, h.nodup, ?_⟩
    · rw [writes, hsame]
      exact hrepeats
    · rw [writes, hsame]
      exact h.bounded
    · intro _
      rw [hsame]
      exact h.current.1 hbefore
    · intro hsteering
      cases hphase : h'.phase <;> simp [hphase, HoldPhase.isComposing, HoldPhase.isSteering] at hafter hsteering
    · rw [writes, hsame]
      exact h.within
  | sends hbefore hafter hwritten =>
    have hfresh := h.current.1 hbefore
    refine ⟨?_, ?_, ⟨?_, ?_⟩, hapart, h.nodup, ?_⟩
    · rw [writes, hwritten]
      apply hrepeats.snoc
      intro i hi
      exact absurd (List.mem_of_getElem? hi) hfresh
    · rw [writes, hwritten]
      exact write_bounded h.bounded
    · intro hcomposing
      simp [hcomposing] at hafter
    · intro _
      rw [hwritten]
      exact ⟨_, rfl, hfresh⟩
    · rw [writes, hwritten]
      intro request hrequest
      exact Nat.lt_of_lt_of_le (h.within request hrequest) (by simp [writes, Sent.write])
  | retries hsteering hrefused hrests =>
    refine ⟨?_, ?_, open_of_rests hrests _, hapart, h.nodup, ?_⟩
    · rw [writes, hrests.1]
      apply hrepeats.snoc
      intro i hi
      rw [h.steered hsteering hi]
      exact hfailed hrefused
    · rw [writes, hrests.1]
      exact write_bounded h.bounded
    · rw [writes, hrests.1]
      intro request hrequest
      exact Nat.lt_of_lt_of_le (h.within request hrequest) (by simp [writes, Sent.write])

lemma Kept.loop (h : d.Kept) (keyedDigest : String → String → String → String) {input : Hold.HoldInput}
    (hunapplied : d.ErrorsUnapplied (.loop input)) : (d.step keyedDigest (.loop input)).Kept := by
  apply h.sends (Hold.step_sends keyedDigest input)
  · split
    · exact List.subset_append_left _ _
    · exact List.Subset.refl _
  · intro hrefused
    simp [hrefused]
  · intro request hrequest
    split
    · rename_i hrefused
      rw [List.mem_append, not_or, List.mem_singleton]
      refine ⟨h.apart request hrequest, ?_⟩
      rintro rfl
      exact hunapplied hrefused hrequest
    · exact h.apart request hrequest

lemma Kept.step (h : d.Kept) (keyedDigest : String → String → String → String) (input : Input)
    (hunapplied : d.ErrorsUnapplied input) : (d.step keyedDigest input).Kept := by
  cases input with
  | loop input => exact h.loop keyedDigest hunapplied
  | apply request => exact h.apply keyedDigest hunapplied

end

def start (sessionId : String) (processGeneration : ℕ) (threadId : String) (ownChild : Option ℕ) (commands : ℕ)
    (carriesWhereabouts : Bool) (models : ModelSurface) : Delivery :=
  ⟨.spawn sessionId processGeneration threadId ownChild commands carriesWhereabouts models, [], []⟩

lemma start_kept (sessionId : String) (processGeneration : ℕ) (threadId : String) (ownChild : Option ℕ)
    (commands : ℕ) (carriesWhereabouts : Bool) (models : ModelSurface) :
    (start sessionId processGeneration threadId ownChild commands carriesWhereabouts models).Kept := by
  refine ⟨?_, ?_, ⟨?_, ?_⟩, ?_, List.nodup_nil, ?_⟩
  · intro i j command _ hi
    simp [start, writes, sent, Hold.spawn] at hi
  · simp [start, writes, sent, Hold.spawn]
  · simp [start, Hold.spawn, HoldPhase.isComposing]
  · simp [start, Hold.spawn, HoldPhase.isSteering]
  · simp [start]
  · simp [start]

theorem words_applied_once (keyedDigest : String → String → String → String) (sessionId : String)
    (processGeneration : ℕ) (threadId : String) (ownChild : Option ℕ) (commands : ℕ) (carriesWhereabouts : Bool)
    (models : ModelSurface) {d : Delivery}
    (hreaches : Runs.Reaches (step keyedDigest) ErrorsUnapplied
      (start sessionId processGeneration threadId ownChild commands carriesWhereabouts models) d) :
    d.AppliedOnce := by
  have hkept : d.Kept := by
    apply hreaches.invariant (P := Kept)
    · exact start_kept _ _ _ _ _ _ _
    · intro s input hs hunapplied
      exact hs.step keyedDigest input hunapplied
  exact hkept.appliedOnce

end Delivery

namespace Sample

def delivery : Delivery := ⟨hold, [], []⟩

def loop (signal : Signal) : Delivery.Input := .loop (wake signal)

def steerRun : List Delivery.Input :=
  [loop .proceed, loop (.notified (.turnStarted (some "turn-1"))), loop .proceed, loop (.command prompt),
    loop (.probed (.ok []) (.ok []))]

def afterDelivery (inputs : List Delivery.Input) : Delivery := inputs.foldl (Delivery.step digest) delivery

def refusedRun : List Delivery.Input := steerRun ++ [loop (.answered false), .apply 1, loop (.answered true)]

def timedOutRun : List Delivery.Input := steerRun ++ [.apply 0, loop (.answered false), .apply 1]

end Sample

theorem Delivery.words_applied_once_refused : (Sample.afterDelivery Sample.refusedRun).writes = [1, 1] ∧
    (Sample.afterDelivery Sample.refusedRun).applied = [1] ∧ (Sample.afterDelivery Sample.refusedRun).AppliedOnce := by
  have hallowed : Runs.Allowed (step Sample.digest) ErrorsUnapplied Sample.delivery Sample.refusedRun := by
    decide +kernel
  exact ⟨by decide +kernel, by decide +kernel,
    words_applied_once _ _ _ _ _ _ _ _ (Runs.Reaches.refl.of_run hallowed)⟩

theorem Delivery.timed_out_steer_applied_twice :
    ∃ d, Runs.Reaches (step Sample.digest) (fun _ _ => True) Sample.delivery d ∧ ¬ d.AppliedOnce := by
  refine ⟨Sample.afterDelivery Sample.timedOutRun,
    Runs.Reaches.refl.of_run (by simp [Runs.Allowed, Sample.timedOutRun, Sample.steerRun]), ?_⟩
  intro honce
  have htwice := honce 1
  revert htwice
  decide +kernel

end CiaoHost.Codex
