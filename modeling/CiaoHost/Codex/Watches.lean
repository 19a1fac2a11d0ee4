import CiaoHost.Codex.Yields

/-! The two watches that end a hold for somebody else's sake: who has the rollout open, and who
fires hooks for the thread (`foreign_rollout_holder` and `note_hook_event` in codex_adopted.rs). -/

namespace CiaoHost.Codex

open Protocol Session Lib

def maxProcessAncestry : ℕ := 64

structure Processes where
  parent : ℕ → Option ℕ
  answers : ℕ → Bool
  rootless : parent 0 = none
  irrefl : ∀ pid, parent pid ≠ some pid

namespace Processes

variable (p : Processes)

def askParent (pid : ℕ) : Option ℕ := if p.answers pid then p.parent pid else none

def descendsFrom (ancestor : ℕ) : ℕ → ℕ → Bool
  | 0, _ => false
  | rounds + 1, pid =>
    if pid = ancestor then true
    else
      match p.askParent pid with
      | none => false
      | some parent => if parent = 0 ∨ parent = pid then false else descendsFrom ancestor rounds parent

def InTree (child pid : ℕ) : Prop := Relation.ReflTransGen (fun a b => p.parent a = some b) pid child

inductive Traced (child : ℕ) : ℕ → ℕ → Prop
  | self : Traced child child 0
  | up {pid parent n : ℕ} : p.answers pid = true → p.parent pid = some parent → Traced child parent n →
      Traced child pid (n + 1)

variable {p}

lemma Traced.ne_zero {child pid n : ℕ} (hchild : child ≠ 0) (h : p.Traced child pid n) : pid ≠ 0 := by
  cases h with
  | self => exact hchild
  | up _ hparent _ =>
    rintro rfl
    rw [p.rootless] at hparent
    cases hparent

lemma descendsFrom_of_traced {child pid n : ℕ} (hchild : child ≠ 0) (h : p.Traced child pid n) {rounds : ℕ}
    (hn : n < rounds) : p.descendsFrom child rounds pid = true := by
  induction h generalizing rounds with
  | self =>
    obtain ⟨rounds, rfl⟩ := Nat.exists_eq_succ_of_ne_zero (by omega : rounds ≠ 0)
    rw [descendsFrom, if_pos rfl]
  | @up pid parent n hanswers hparent htraced ih =>
    obtain ⟨rounds, rfl⟩ := Nat.exists_eq_succ_of_ne_zero (by omega : rounds ≠ 0)
    rw [descendsFrom]
    split
    · rfl
    · have hask : p.askParent pid = some parent := by rw [askParent, if_pos hanswers, hparent]
      have hnext : ¬ (parent = 0 ∨ parent = pid) := by
        rintro (hzero | hself)
        · exact htraced.ne_zero hchild hzero
        · exact p.irrefl pid (hself ▸ hparent)
      rw [hask]
      dsimp only
      rw [if_neg hnext]
      exact ih (by omega)

end Processes

structure Look where
  processes : Processes
  holders : Except String (List ℕ)

def Look.sample (look : Look) (ownChild : Option ℕ) : HolderSample :=
  look.holders.map fun pids => pids.map fun pid =>
    ⟨pid, ownChild.any fun child => look.processes.descendsFrom child maxProcessAncestry pid⟩

def Look.Traced (look : Look) (ownChild : Option ℕ) : Prop :=
  ∀ child ∈ ownChild, child ≠ 0 ∧ ∀ pids, look.holders = .ok pids → ∀ pid ∈ pids,
    look.processes.InTree child pid → ∃ n < maxProcessAncestry, look.processes.Traced child pid n

inductive Sighting where
  | looked (loop : ℕ) (first second : Look)
  | hooked (loop : ℕ) (processes : Processes) (processId : ℕ)

def Processes.Outside (p : Processes) (ownChild : Option ℕ) (pid : ℕ) : Prop :=
  ∀ child ∈ ownChild, ¬ p.InTree child pid

namespace Sighting

def loop : Sighting → ℕ
  | looked loop .. | hooked loop .. => loop

/-- A process outside the child's tree had the rollout open both times, or fired the hook. -/
def Foreign (ownChild : Option ℕ) : Sighting → Prop
  | looked _ first second => ∃ held again pid, first.holders = .ok held ∧ second.holders = .ok again ∧
      pid ∈ held ∧ pid ∈ again ∧ first.processes.Outside ownChild pid ∧ second.processes.Outside ownChild pid
  | hooked _ processes pid => processes.Outside ownChild pid

end Sighting

structure Watch where
  adoptions : Adoptions
  log : List Sighting

def Signal.isProbed : Signal → Bool
  | probed .. => true
  | _ => false

namespace Watch

inductive Input where
  | adopt (sessionId : String) (processGeneration : ℕ) (threadId : String) (childPid : Option ℕ) (commands : ℕ)
      (carriesWhereabouts : Bool) (models : ModelSurface)
  | wake (i : ℕ) (env : Env) (signal : Signal)
  | look (i : ℕ) (env : Env) (first second : Look)
  | hook (threadId : String) (processes : Processes) (processId : ℕ)
  | close (sessionId : String)
  | resume (threadId : String)

def step (keyedDigest : String → String → String → String) (w : Watch) : Input → Watch
  | .adopt sessionId processGeneration threadId childPid commands carriesWhereabouts models =>
    { w with
      adoptions := w.adoptions.claim threadId childPid
        (.spawn sessionId processGeneration threadId childPid commands carriesWhereabouts models) }
  | .wake i env signal =>
    if signal.isProbed then w else { w with adoptions := w.adoptions.wake keyedDigest i env signal }
  | .look i env first second =>
    match w.adoptions.holds[i]? with
    | none => w
    | some h =>
      if h.phase.looks then
        { adoptions :=
            w.adoptions.wake keyedDigest i env (.probed (first.sample h.ownChild) (second.sample h.ownChild))
          log := w.log ++ [.looked i first second] }
      else w
  | .hook threadId processes processId =>
    match w.adoptions.registry.lookup threadId with
    | none => w
    | some handle =>
      { adoptions := w.adoptions.noteHookEvent threadId processId
        log := w.log ++ [.hooked handle.release processes processId] }
  | .close sessionId => { w with adoptions := w.adoptions.closeConversation sessionId }
  | .resume threadId => { w with adoptions := w.adoptions.requestRelease threadId .resumeInTerminal }

/-- A hold that ends for a foreign terminal or a foreign writer saw one. -/
def YieldsToOthers (w : Watch) : Prop :=
  ∀ (i : ℕ) h, w.adoptions.holds[i]? = some h → ∀ reason ∈ h.phase.ending, reason.isYield = true →
    ∃ sighting ∈ w.log, sighting.loop = i ∧ sighting.Foreign h.ownChild

/-- Both watches know the child's tree: what looks sees of it is traced, and hooks fired from it
are fired by the child itself. -/
def KnowsTree (w : Watch) : Input → Prop
  | .look i _ first second => ∀ h, w.adoptions.holds[i]? = some h →
      first.Traced h.ownChild ∧ second.Traced h.ownChild
  | .hook threadId processes processId => ∀ handle, w.adoptions.registry.lookup threadId = some handle →
      ∀ child ∈ handle.childPid, processes.InTree child processId → processId = child
  | _ => True

end Watch

/-! What counts as foreign, in terms of the process tables. -/

variable {ownChild : Option ℕ}

lemma Look.Traced.outside {look : Look} (h : look.Traced ownChild)
    {pids : List ℕ} (hpids : look.holders = .ok pids) {pid : ℕ} (hpid : pid ∈ pids)
    (hforeign : isOwnProcess ownChild
      ⟨pid, ownChild.any fun child => look.processes.descendsFrom child maxProcessAncestry pid⟩ = false) :
    look.processes.Outside ownChild pid := by
  rintro child ⟨⟩ hin
  obtain ⟨hchild, htraced⟩ := h child rfl
  obtain ⟨n, hn, hup⟩ := htraced pids hpids pid hpid hin
  have hdescends := Processes.descendsFrom_of_traced hchild hup hn
  simp [isOwnProcess, hdescends] at hforeign

lemma sample_ok {look : Look} {holders : List Holder} (h : look.sample ownChild = .ok holders) :
    ∃ pids, look.holders = .ok pids ∧ holders = pids.map fun pid =>
      ⟨pid, ownChild.any fun child => look.processes.descendsFrom child maxProcessAncestry pid⟩ := by
  rw [Look.sample] at h
  cases hlook : look.holders with
  | error message =>
    rw [hlook] at h
    cases h
  | ok pids =>
    rw [hlook] at h
    cases h
    exact ⟨pids, rfl, rfl⟩

lemma looked_foreign {first second : Look} (hfirst : first.Traced ownChild) (hsecond : second.Traced ownChild)
    (hforeign : foreignRolloutHolder ownChild (first.sample ownChild) (second.sample ownChild) = true) (i : ℕ) :
    (Sighting.looked i first second).Foreign ownChild := by
  cases hs : first.sample ownChild with
  | error message => simp [hs, foreignRolloutHolder] at hforeign
  | ok held =>
    cases ht : second.sample ownChild with
    | error message => simp [hs, ht, foreignRolloutHolder] at hforeign
    | ok again =>
      obtain ⟨pids, hpids, rfl⟩ := sample_ok hs
      obtain ⟨later, hlater, rfl⟩ := sample_ok ht
      simp only [hs, ht, foreignRolloutHolder] at hforeign
      split at hforeign
      · cases hforeign
      · obtain ⟨holder, hholder, hmatch⟩ := List.any_eq_true.mp hforeign
        obtain ⟨pid, hagain, rfl⟩ := List.mem_map.mp hholder
        rw [Bool.and_eq_true, Bool.not_eq_true', decide_eq_true_eq] at hmatch
        obtain ⟨hsuspect, hfree'⟩ := hmatch
        -- a suspect of the first sample is one of its processes, and not one of ours
        obtain ⟨suspect, hmem, heq⟩ := List.mem_map.mp hsuspect
        obtain ⟨hmem, hfree⟩ := List.mem_filter.mp hmem
        obtain ⟨other, hheld, rfl⟩ := List.mem_map.mp hmem
        obtain rfl : other = pid := heq
        rw [Bool.not_eq_true'] at hfree
        exact ⟨pids, later, other, hpids, hlater, hheld, hagain, hfirst.outside hpids hheld hfree,
          hsecond.outside hlater hagain hfree'⟩

namespace Watch

structure Kept (w : Watch) : Prop where
  held : w.adoptions.Held
  linked : ∀ threadId handle, w.adoptions.registry.lookup threadId = some handle →
    ∀ h, w.adoptions.holds[handle.release]? = some h → handle.childPid = h.ownChild
  grounded : ∀ (i : ℕ) h, w.adoptions.holds[i]? = some h → ∀ reason, h.Pending reason → reason.isYield = true →
    ∃ sighting ∈ w.log, sighting.loop = i ∧ sighting.Foreign h.ownChild

variable {w : Watch}

lemma Kept.yieldsToOthers (h : w.Kept) : w.YieldsToOthers := by
  intro i x hx reason hending hyield
  exact h.grounded i x hx reason (.inl hending) hyield

variable {b : Adoptions}

section

variable (h : w.Kept)

include h

lemma Kept.adds {new : ℕ → Prop} {more : List Sighting} (hadds : w.adoptions.Adds new b) (hheld : b.Held)
    (hnew : ∀ (j : ℕ) x, w.adoptions.holds[j]? = some x → new j →
      ∃ sighting ∈ more, sighting.loop = j ∧ sighting.Foreign x.ownChild) :
    Kept ⟨b, w.log ++ more⟩ := by
  refine ⟨hheld, ?_, ?_⟩
  · intro threadId handle hlookup x hx
    obtain ⟨y, hy, hchild, -⟩ := hadds.holds _ x hx
    rw [hchild]
    exact h.linked threadId handle (hadds.registry _ _ hlookup) y hy
  · intro i x hx reason hpending hyield
    obtain ⟨y, hy, hchild, hreasons⟩ := hadds.holds i x hx
    rw [hchild]
    rcases hreasons reason hpending hyield with hold | hnew'
    · obtain ⟨sighting, hmem, hrest⟩ := h.grounded i y hy reason hold hyield
      exact ⟨sighting, List.mem_append_left _ hmem, hrest⟩
    · obtain ⟨sighting, hmem, hrest⟩ := hnew i y hy hnew'
      exact ⟨sighting, List.mem_append_right _ hmem, hrest⟩

lemma Kept.quiet (hadds : w.adoptions.Adds (fun _ => False) b) (hheld : b.Held) :
    Kept { w with adoptions := b } := by
  have hkept : Kept ⟨b, w.log ++ []⟩ := h.adds hadds hheld (by simp)
  rwa [List.append_nil] at hkept

lemma Kept.adopt (keyedDigest : String → String → String → String) (sessionId : String)
    (processGeneration : ℕ) (threadId : String) (childPid : Option ℕ) (commands : ℕ) (carriesWhereabouts : Bool)
    (models : ModelSurface) :
    (w.step keyedDigest
      (.adopt sessionId processGeneration threadId childPid commands carriesWhereabouts models)).Kept := by
  rw [step]
  generalize hspawn : Hold.spawn sessionId processGeneration threadId childPid commands carriesWhereabouts models = fresh
  have hthread : fresh.threadId = threadId := by rw [← hspawn]; rfl
  cases hlookup : w.adoptions.registry.lookup threadId with
  | some handle =>
    rw [Adoptions.claim, hlookup]
    exact h
  | none =>
    have hheld : (w.adoptions.claim fresh.threadId childPid fresh).Held :=
      h.held.claim (by rw [hthread, hlookup]) (by rw [← hspawn]; rfl)
    rw [hthread, Adoptions.claim, hlookup] at hheld
    rw [Adoptions.claim, hlookup]
    refine ⟨hheld, ?_, ?_⟩
    · intro other handle hother x hx
      dsimp only at hother hx
      by_cases hsame : other = threadId
      · subst hsame
        rw [KeyedMap.lookup_insert_self, Option.some.injEq] at hother
        subst hother
        rw [List.getElem?_concat_length, Option.some.injEq] at hx
        rw [← hx, ← hspawn]
        rfl
      · rw [KeyedMap.lookup_insert_ne hsame] at hother
        obtain ⟨y, hy, -⟩ := h.held.claimed other handle hother
        rw [List.getElem?_append_left (List.getElem?_eq_some_iff.mp hy).1] at hx
        exact h.linked other handle hother x hx
    · intro i x hx reason hpending hyield
      dsimp only at hx
      rcases Nat.lt_trichotomy i w.adoptions.holds.length with hlt | rfl | hgt
      · rw [List.getElem?_append_left hlt] at hx
        exact h.grounded i x hx reason hpending hyield
      · rw [List.getElem?_concat_length, Option.some.injEq] at hx
        rw [← hx, ← hspawn] at hpending
        simp [Hold.Pending, Hold.spawn, HoldPhase.ending] at hpending
      · rw [List.getElem?_eq_none (by simp; omega)] at hx
        cases hx

lemma Kept.look (keyedDigest : String → String → String → String) {i : ℕ} {env : Env}
    {first second : Look} (hknows : w.KnowsTree (.look i env first second)) :
    (w.step keyedDigest (.look i env first second)).Kept := by
  rw [step]
  cases hi : w.adoptions.holds[i]? with
  | none => exact h
  | some x =>
    dsimp only
    split
    · apply h.adds (h.held.wake_adds keyedDigest env _) (h.held.wake keyedDigest i env _)
      rintro j y hy ⟨z, hz, rfl, first', second', hsignal, -, hforeign⟩
      obtain rfl : x = z := Option.some.inj (hi.symm.trans hz)
      obtain rfl : x = y := Option.some.inj (hi.symm.trans hy)
      cases hsignal
      obtain ⟨hfirst, hsecond⟩ := hknows x hi
      exact ⟨_, List.mem_singleton_self _, rfl, looked_foreign hfirst hsecond hforeign _⟩
    · exact h

lemma Kept.hook (keyedDigest : String → String → String → String) {threadId : String}
    {processes : Processes} {processId : ℕ} (hknows : w.KnowsTree (.hook threadId processes processId)) :
    (w.step keyedDigest (.hook threadId processes processId)).Kept := by
  rw [step]
  cases hlookup : w.adoptions.registry.lookup threadId with
  | none => exact h
  | some handle =>
    dsimp only
    have hheld := h.held.same (w.adoptions.noteHookEvent_same threadId processId)
    rw [Adoptions.noteHookEvent, hlookup] at hheld ⊢
    by_cases hother : handle.childPid = some processId
    · simp only [Option.any_some, hother, ne_eq, not_true_eq_false, decide_false, Bool.false_eq_true, if_false]
        at hheld ⊢
      exact h.adds (.refl _) h.held (fun _ _ _ hfalse => False.elim hfalse)
    · simp only [Option.any_some, ne_eq, hother, not_false_eq_true, decide_true, if_true] at hheld ⊢
      have hadds : w.adoptions.Adds (· = handle.release) (w.adoptions.requestRelease threadId .foreignWriter) := by
        apply Adoptions.requestRelease_adds
        intro _ other hsame
        rw [hlookup, Option.some.injEq] at hsame
        rw [hsame]
      apply h.adds hadds hheld
      rintro j x hx rfl
      refine ⟨_, List.mem_singleton_self _, rfl, ?_⟩
      intro child hchild hin
      rw [← h.linked threadId handle hlookup x hx] at hchild
      have hself := hknows handle hlookup child hchild hin
      exact hother (hself ▸ hchild)

lemma Kept.step (keyedDigest : String → String → String → String) (input : Input)
    (hknows : w.KnowsTree input) : (w.step keyedDigest input).Kept := by
  cases input with
  | adopt sessionId processGeneration threadId childPid commands carriesWhereabouts models =>
    exact h.adopt keyedDigest _ _ _ _ _ _ _
  | wake i env signal =>
    rw [Watch.step]
    split
    · exact h
    · rename_i hprobed
      have hkept : Kept ⟨w.adoptions.wake keyedDigest i env signal, w.log ++ []⟩ := by
        apply h.adds (h.held.wake_adds keyedDigest env signal) (h.held.wake keyedDigest i env signal)
        rintro j y - ⟨z, -, -, first, second, rfl, -⟩
        exact absurd rfl hprobed
      rwa [List.append_nil] at hkept
  | look i env first second => exact h.look keyedDigest hknows
  | hook threadId processes processId => exact h.hook keyedDigest hknows
  | close sessionId =>
    rw [Watch.step, Adoptions.closeConversation]
    cases w.adoptions.registry.threadForSession sessionId with
    | none => exact h
    | some threadId =>
      apply h.quiet
      · exact w.adoptions.requestRelease_adds threadId Bool.noConfusion
      · exact h.held.same (w.adoptions.requestRelease_same _ _)
  | resume threadId =>
    apply h.quiet
    · exact w.adoptions.requestRelease_adds threadId Bool.noConfusion
    · exact h.held.same (w.adoptions.requestRelease_same _ _)

end

def start (sv : Supervisor) : Watch := ⟨⟨sv, ∅, []⟩, []⟩

lemma start_kept (sv : Supervisor) : (start sv).Kept := by
  refine ⟨⟨?_, ?_⟩, ?_, ?_⟩
  · intro threadId handle hlookup
    simp [start] at hlookup
  · intro i h hi
    simp [start] at hi
  · intro threadId handle hlookup
    simp [start] at hlookup
  · intro i h hi
    simp [start] at hi

theorem yields_to_others_only (keyedDigest : String → String → String → String) (sv : Supervisor) {w : Watch}
    (hreaches : Runs.Reaches (step keyedDigest) KnowsTree (start sv) w) : w.YieldsToOthers := by
  have hkept : w.Kept := by
    apply hreaches.invariant (P := Kept)
    · exact start_kept sv
    · intro s input hs hknows
      exact hs.step keyedDigest input hknows
  exact hkept.yieldsToOthers

end Watch

namespace Sample

def processes : Processes where
  parent pid := if pid = 41 then some 40 else none
  answers _ := true
  rootless := rfl
  irrefl pid := by
    split
    · rename_i h
      simp [h]
    · simp

def launched : Watch.Input := .adopt "codex-adopted-thread-1" 1 "thread-1" (some 40) 0 false ⟨none, none, []⟩

def watchWake (signal : Signal) : Watch.Input := .wake 0 (Session.Sample.env 0 []) signal

def terminalRun : List Watch.Input :=
  [launched, watchWake .proceed, watchWake .tick,
    .look 0 (Session.Sample.env 0 []) ⟨processes, .ok [41, 9]⟩ ⟨processes, .ok [9]⟩]

def ownHookRun : List Watch.Input :=
  [launched, .hook "thread-1" processes 41, watchWake .proceed, watchWake .released]

def afterWatch (inputs : List Watch.Input) : Watch := inputs.foldl (Watch.step digest) (.start (.empty id))

lemma look_traced (holders : List ℕ) : Look.Traced ⟨processes, .ok holders⟩ (some 40) := by
  rintro child ⟨⟩
  refine ⟨by decide, ?_⟩
  rintro _ ⟨⟩ pid - hin
  -- a process of the tree is the launcher or the binary below it
  rcases Relation.ReflTransGen.cases_head hin with rfl | ⟨parent, hparent, -⟩
  · exact ⟨0, by decide, .self⟩
  · obtain rfl : pid = 41 := by
      by_contra hne
      simp [processes, hne] at hparent
    exact ⟨1, by decide, .up rfl rfl .self⟩

end Sample

theorem Watch.yields_to_others_only_terminal :
    (Sample.afterWatch Sample.terminalRun).adoptions.holds.map (·.phase) = [.leaving .foreignTerminal] ∧
    (Sample.afterWatch Sample.terminalRun).YieldsToOthers := by
  have hallowed : Runs.Allowed (step Sample.digest) KnowsTree (start (.empty id)) Sample.terminalRun := by
    refine ⟨trivial, trivial, trivial, ?_, trivial⟩
    intro h hh
    have hchild : h.ownChild = some 40 := by
      cases hh
      rfl
    rw [hchild]
    exact ⟨Sample.look_traced _, Sample.look_traced _⟩
  exact ⟨by decide +kernel, yields_to_others_only _ _ (Runs.Reaches.refl.of_run hallowed)⟩

theorem Watch.own_hook_yields :
    ∃ w, Runs.Reaches (step Sample.digest) (fun _ _ => True) (start (.empty id)) w ∧ ¬ w.YieldsToOthers := by
  refine ⟨Sample.afterWatch Sample.ownHookRun,
    Runs.Reaches.refl.of_run (by simp [Runs.Allowed, Sample.ownHookRun]), ?_⟩
  intro hothers
  have hhold : (Sample.afterWatch Sample.ownHookRun).adoptions.holds[0]?.map (fun h => (h.phase, h.ownChild)) =
      some (.leaving .foreignWriter, some 40) := by decide +kernel
  have hlog : (Sample.afterWatch Sample.ownHookRun).log = [.hooked 0 Sample.processes 41] := rfl
  obtain ⟨h, hh, hfields⟩ := Option.map_eq_some_iff.mp hhold
  obtain ⟨hphase, hchild⟩ := Prod.mk.inj hfields
  obtain ⟨sighting, hmem, -, hforeign⟩ :=
    hothers 0 h hh .foreignWriter (by rw [hphase]; rfl) rfl
  rw [hlog, List.mem_singleton] at hmem
  subst hmem
  exact hforeign 40 hchild (.single rfl)

end CiaoHost.Codex
