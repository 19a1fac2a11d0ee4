import CiaoHost.Codex.Woke

/-! Nothing is written to an adopted thread before its ownership is proven. -/

namespace CiaoHost.Codex

open Protocol Session Lib

/-- Two samples that show nobody outside the child's tree at the rollout both times; where the
first shows nobody outside, it is the only one. -/
def ProvenFree (ownChild : Option ℕ) (first second : HolderSample) : Prop :=
  ∃ holders, first = .ok holders ∧
    ((∀ holder ∈ holders, isOwnProcess ownChild holder) ∨
      ∃ later, second = .ok later ∧ ∀ holder ∈ holders, ∀ again ∈ later,
        holder.pid = again.pid → isOwnProcess ownChild holder ∨ isOwnProcess ownChild again)

def SamplesAnswered (ownChild : Option ℕ) (first second : HolderSample) : Prop :=
  ∃ holders, first = .ok holders ∧ (suspects ownChild holders ≠ [] → ∃ later, second = .ok later)

instance (ownChild : Option ℕ) : ∀ first second, Decidable (SamplesAnswered ownChild first second)
  | .error _, _ => .isFalse (by simp [SamplesAnswered])
  | .ok holders, .ok later => .isTrue ⟨holders, rfl, fun _ => ⟨later, rfl⟩⟩
  | .ok holders, .error _ =>
    decidable_of_iff (suspects ownChild holders = []) (by simp [SamplesAnswered])

lemma suspects_eq_nil {ownChild : Option ℕ} {holders : List Holder} :
    suspects ownChild holders = [] ↔ ∀ holder ∈ holders, isOwnProcess ownChild holder := by
  simp [suspects]

lemma provenFree_of_answered {ownChild : Option ℕ} {first second : HolderSample}
    (hanswered : SamplesAnswered ownChild first second)
    (hfree : foreignRolloutHolder ownChild first second = false) : ProvenFree ownChild first second := by
  obtain ⟨holders, rfl, hsecond⟩ := hanswered
  refine ⟨holders, rfl, ?_⟩
  by_cases hnone : suspects ownChild holders = []
  · exact .inl (suspects_eq_nil.mp hnone)
  · obtain ⟨later, rfl⟩ := hsecond hnone
    refine .inr ⟨later, rfl, ?_⟩
    intro holder hholder again hagain hpid
    simp only [foreignRolloutHolder, hnone, if_false, List.any_eq_false] at hfree
    have hseen := hfree again hagain
    by_contra hforeign
    push Not at hforeign
    apply hseen
    have hsuspect : again.pid ∈ suspects ownChild holders := by
      rw [suspects, List.mem_map]
      exact ⟨holder, by simp [hholder, hforeign.1], hpid⟩
    simp [hsuspect, hforeign.2]

def Latest (trace : List HoldEvent) (text : String) (since : List HoldEvent) : Prop :=
  ∃ earlier command, trace = earlier ++ .received command :: since ∧
    (command.kind = .prompt text ∨ command.kind = .steer text) ∧
    ∀ event ∈ since, ∀ other, event ≠ .received other

/-- Since the command that asks for these words was received, a probe has proven the thread free. -/
def Backed (ownChild : Option ℕ) (trace : List HoldEvent) (text : String) : Prop :=
  ∃ since, Latest trace text since ∧ ∃ first second, .probed first second ∈ since ∧ ProvenFree ownChild first second

/-- Every write on the trace is backed by what came before it. -/
def WritesProven (ownChild : Option ℕ) (trace : List HoldEvent) : Prop :=
  ∀ before request after, trace = before ++ .requested request :: after →
    ∀ text ∈ request.writes, Backed ownChild before text

variable {event : HoldEvent}

section Trace

variable {ownChild : Option ℕ} {trace : List HoldEvent} {text : String}

lemma Latest.append {since more : List HoldEvent} (h : Latest trace text since)
    (hmore : ∀ event ∈ more, ∀ other, event ≠ .received other) : Latest (trace ++ more) text (since ++ more) := by
  obtain ⟨earlier, command, rfl, hkind, hsince⟩ := h
  refine ⟨earlier, command, by simp, hkind, ?_⟩
  intro event hevent
  rcases List.mem_append.mp hevent with hold | hnew
  · exact hsince event hold
  · exact hmore event hnew

lemma Backed.append {more : List HoldEvent} (h : Backed ownChild trace text)
    (hmore : ∀ event ∈ more, ∀ other, event ≠ .received other) : Backed ownChild (trace ++ more) text := by
  obtain ⟨since, hlatest, first, second, hprobed, hfree⟩ := h
  exact ⟨since ++ more, hlatest.append hmore, first, second, List.mem_append_left _ hprobed, hfree⟩

lemma Latest.backed {since : List HoldEvent} {first second : HolderSample} (h : Latest trace text since)
    (hfree : ProvenFree ownChild first second) : Backed ownChild (trace ++ [.probed first second]) text :=
  ⟨since ++ [.probed first second], h.append (by simp), first, second, by simp, hfree⟩

lemma writesProven_nil : WritesProven ownChild [] := by
  intro before request after htrace
  simp at htrace

lemma WritesProven.snoc (h : WritesProven ownChild trace)
    (hevent : ∀ request, event = .requested request → ∀ text ∈ request.writes, Backed ownChild trace text) :
    WritesProven ownChild (trace ++ [event]) := by
  intro before request after htrace
  -- the write is the new event, or it was there before
  rcases List.eq_nil_or_concat after with rfl | ⟨older, last, rfl⟩
  · obtain ⟨rfl, hlast⟩ := List.append_inj' htrace rfl
    apply hevent
    simpa using hlast
  · rw [List.concat_eq_append, ← List.cons_append, ← List.append_assoc] at htrace
    obtain ⟨htrace, -⟩ := List.append_inj' htrace rfl
    exact h before request older htrace

end Trace

namespace Hold

def Ready (h : Hold) : Prop :=
  match h.phase with
  | .probing _ text => ∃ since, Latest h.trace text since
  | .noting _ text | .steering _ text _ => Backed h.ownChild h.trace text
  | _ => True

structure Grounded (h : Hold) : Prop where
  proven : WritesProven h.ownChild h.trace
  ready : h.Ready

inductive HoldInput where
  | wake (sv : Supervisor) (env : Env) (signal : Signal)
  | offer (reason : ReleaseReason)

def step (keyedDigest : String → String → String → String) (h : Hold) : HoldInput → Hold
  | .wake sv env signal => (h.wake keyedDigest sv env h.phase signal).1
  | .offer reason => h.offer reason

def commandProbe (h : Hold) : HoldInput → Option (HolderSample × HolderSample)
  | .wake _ _ (.probed first second) => if h.phase.isProbing then some (first, second) else none
  | _ => none

def ProbesAnswered (h : Hold) (input : HoldInput) : Prop :=
  ∀ probe ∈ h.commandProbe input, SamplesAnswered h.ownChild probe.1 probe.2

instance (h : Hold) (input : HoldInput) : Decidable (h.ProbesAnswered input) :=
  inferInstanceAs (Decidable (∀ probe ∈ h.commandProbe input, SamplesAnswered h.ownChild probe.1 probe.2))

variable {h : Hold}

lemma log_proven (hproven : WritesProven h.ownChild h.trace)
    (hevent : ∀ request, event ≠ .requested request) : WritesProven h.ownChild (h.log [event]).trace :=
  hproven.snoc fun request hrequest => absurd hrequest (hevent request)

lemma ask_proven {request : VendorRequest} {phase : HoldPhase} (hproven : WritesProven h.ownChild h.trace)
    (hbacked : ∀ text ∈ request.writes, Backed h.ownChild h.trace text) :
    WritesProven h.ownChild (h.ask request phase).trace := by
  apply hproven.snoc
  rintro _ ⟨⟩
  exact hbacked

variable {base : Hold} {signal : Signal}

lemma Leaves.proven {reason : ReleaseReason} (hleaves : h.Leaves signal base reason)
    (hproven : WritesProven h.ownChild h.trace) : WritesProven base.ownChild base.trace := by
  cases hleaves with
  | seen before foreign => exact log_proven hproven (by simp)
  | _ => exact hproven

lemma Composed.backed {sv : Supervisor} {env : Env} {command : AgentCommand} {text : String}
    (hcomposed : h.Composed command text signal base) (hgrounded : h.Grounded)
    (hanswered : h.ProbesAnswered (.wake sv env signal)) :
    WritesProven base.ownChild base.trace ∧ Backed base.ownChild base.trace text := by
  obtain ⟨hproven, hready⟩ := hgrounded
  cases hcomposed with
  | @probed first second before free =>
    rw [Ready, before] at hready
    obtain ⟨since, hlatest⟩ := hready
    have hsamples := hanswered (first, second) (by simp [commandProbe, before, HoldPhase.isProbing])
    exact ⟨log_proven hproven (by simp), hlatest.backed (provenFree_of_answered hsamples free)⟩
  | noted before =>
    rw [Ready, before] at hready
    exact ⟨hproven, hready⟩

lemma wake_grounded (keyedDigest : String → String → String → String) (sv : Supervisor) (env : Env)
    (signal : Signal) (hgrounded : h.Grounded) (hanswered : h.ProbesAnswered (.wake sv env signal)) :
    (h.wake keyedDigest sv env h.phase signal).1.Grounded := by
  have hproven := hgrounded.proven
  have hwoke := wake_woke keyedDigest sv env h signal
  generalize h.wake keyedDigest sv env h.phase signal = result at hwoke ⊢
  cases hwoke with
  | idle => exact hgrounded
  | waits | watches | heeds | raises | putsOff | fails | applies | resolves | yielded | letsGo | ends =>
    exact ⟨hproven, trivial⟩
  | refuses | rejects | clears | foreign => exact ⟨log_proven hproven (by simp), trivial⟩
  | interrupts => exact ⟨ask_proven hproven (by simp [VendorRequest.writes]), trivial⟩
  | leaves cause => exact ⟨cause.proven hproven, trivial⟩
  | yields cause => exact ⟨ask_proven (cause.proven hproven) (by simp [VendorRequest.writes]), trivial⟩
  | takes before kind => exact ⟨log_proven hproven (by simp), [], h.trace, _, rfl, kind, by simp⟩
  | @asks command request before wordless =>
    refine ⟨ask_proven (h := h.log [.received command]) (log_proven hproven (by simp)) ?_, trivial⟩
    simp [wordless]
  | @answers command =>
    exact ⟨log_proven (h := h.log [.received command]) (log_proven hproven (by simp)) (by simp), trivial⟩
  | notes before free =>
    obtain ⟨hlogged, hbacked⟩ := (Composed.probed before free).backed hgrounded hanswered
    exact ⟨hlogged, hbacked⟩
  | starts ready =>
    obtain ⟨hlogged, hbacked⟩ := ready.backed hgrounded hanswered
    exact ⟨ask_proven hlogged (by simpa [VendorRequest.writes] using hbacked), trivial⟩
  | steers ready =>
    obtain ⟨hlogged, hbacked⟩ := ready.backed hgrounded hanswered
    exact ⟨ask_proven hlogged (by simpa [VendorRequest.writes] using hbacked), hbacked.append (by simp)⟩
  | retries before =>
    have hready := hgrounded.ready
    rw [Ready, before] at hready
    exact ⟨ask_proven hproven (by simpa [VendorRequest.writes] using hready), trivial⟩

lemma offer_grounded (hgrounded : h.Grounded) (reason : ReleaseReason) : (h.offer reason).Grounded := by
  rw [offer]
  split
  · exact ⟨hgrounded.proven, hgrounded.ready⟩
  · exact hgrounded

lemma step_grounded (keyedDigest : String → String → String → String) (input : HoldInput)
    (hgrounded : h.Grounded) (hanswered : h.ProbesAnswered input) : (h.step keyedDigest input).Grounded := by
  cases input with
  | wake sv env signal => exact wake_grounded keyedDigest sv env signal hgrounded hanswered
  | offer reason => exact offer_grounded hgrounded reason

end Hold

section

variable (keyedDigest : String → String → String → String)

theorem adopted_writes_proven (sessionId : String) (processGeneration : ℕ) (threadId : String)
    (ownChild : Option ℕ) (commands : ℕ) (carriesWhereabouts : Bool) (models : ModelSurface) {h : Hold}
    (hreaches : Runs.Reaches (Hold.step keyedDigest) Hold.ProbesAnswered
      (.spawn sessionId processGeneration threadId ownChild commands carriesWhereabouts models) h) :
    WritesProven h.ownChild h.trace := by
  have hgrounded : h.Grounded := by
    apply hreaches.invariant (P := Hold.Grounded)
    · exact ⟨writesProven_nil, trivial⟩
    · intro s input hs hanswered
      exact Hold.step_grounded keyedDigest input hs hanswered
  exact hgrounded.proven

end

namespace Sample

def wake (signal : Signal) : Hold.HoldInput := .wake (.empty id) (Session.Sample.env 0 []) signal

def promptRun (first second : HolderSample) : List Hold.HoldInput :=
  [wake .proceed, wake (.command prompt), wake (.probed first second), wake (.answered true)]

def afterHold (inputs : List Hold.HoldInput) : Hold := inputs.foldl (Hold.step digest) hold

end Sample

theorem adopted_writes_proven_passing_terminal :
    .requested (.turnStart "thread-1" "hi" none) ∈ (Sample.afterHold (Sample.promptRun (.ok [⟨9, false⟩]) (.ok []))).trace ∧
    WritesProven (some 40) (Sample.afterHold (Sample.promptRun (.ok [⟨9, false⟩]) (.ok []))).trace := by
  have hallowed : Runs.Allowed (Hold.step Sample.digest) Hold.ProbesAnswered Sample.hold
      (Sample.promptRun (.ok [⟨9, false⟩]) (.ok [])) := by decide +kernel
  have hreaches := Runs.Reaches.refl.of_run hallowed
  refine ⟨?_, adopted_writes_proven _ _ _ _ _ _ _ _ hreaches⟩
  simp [Sample.afterHold, Sample.promptRun, Sample.wake, Sample.hold, Hold.spawn, Hold.step, Hold.wake, Hold.atHead,
    Hold.onCommand, Hold.onProbed, Hold.sendText, Hold.finishCommand, Hold.ask, Hold.log, Sample.prompt,
    TurnTracking.start, foreignRolloutHolder, suspects, isOwnProcess]

theorem unanswered_probe_writes : ∃ h, Runs.Reaches (Hold.step Sample.digest) (fun _ _ => True) Sample.hold h ∧
      ¬ WritesProven h.ownChild h.trace := by
  refine ⟨Sample.afterHold (Sample.promptRun (.error "lsof is missing") (.ok [])),
    Runs.Reaches.refl.of_run (by simp [Runs.Allowed, Sample.promptRun]), ?_⟩
  intro hproven
  have htrace : (Sample.afterHold (Sample.promptRun (.error "lsof is missing") (.ok []))).trace =
      [.received Sample.prompt, .probed (.error "lsof is missing") (.ok [])] ++
        [.requested (.turnStart "thread-1" "hi" none)] := by
    simp [Sample.afterHold, Sample.promptRun, Sample.wake, Sample.hold, Hold.spawn, Hold.step, Hold.wake, Hold.atHead,
      Hold.onCommand, Hold.onProbed, Hold.sendText, Hold.finishCommand, Hold.ask, Hold.log, Sample.prompt,
      TurnTracking.start, foreignRolloutHolder]
  obtain ⟨since, ⟨earlier, command, hsplit, -, -⟩, first, second, hprobed, holders, rfl, -⟩ :=
    hproven _ _ _ htrace "hi" rfl
  have hmem : .probed (.ok holders) second ∈
      [.received Sample.prompt, HoldEvent.probed (.error "lsof is missing") (.ok [])] := by
    rw [hsplit]
    simp [hprobed]
  simp at hmem

end CiaoHost.Codex
