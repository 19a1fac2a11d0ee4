import CiaoHost.Notify.Delivery

/-! Delivery tasks that a newer one has replaced: what they may still change, and the order of the
timestamps an endpoint is sent. -/

namespace CiaoHost.Notify

open Lib Lib.Runs Lib.Saturating

namespace Notifier

variable (host : String) (fingerprint : String → String) (s : Notifier)

def Latest (i : ℕ) (endpointId : String) : Prop :=
  ∀ j task, i < j → s.tasks[j]? = some task → task.job.endpointId ≠ endpointId

def dropsRunning : Prop :=
  ∃ task ∈ s.tasks, task.running ∧ ¬ s.devices.liveActivityTargets.any (·.endpointId = task.job.endpointId)

instance : Decidable s.dropsRunning := inferInstanceAs (Decidable (∃ task ∈ s.tasks, _ ∧ _))

/-- The counters have room for the job, and a delivery state that starts over is past every timestamp
its endpoint was sent. -/
def Clear (overview : LiveActivityOverview) (now : ℕ) (sealing : Seal) (target : LiveActivityTarget) : Prop :=
  (s.prepared host fingerprint overview now sealing target).2 ≠ none →
    (s.state target.endpointId).generation < u64Max ∧ (s.state target.endpointId).lastTimestamp < u64Max ∧
    ((s.state target.endpointId).generation = 0 →
      ∀ task ∈ s.tasks, task.job.endpointId = target.endpointId → task.job.timestamp < now)

instance (overview : LiveActivityOverview) (now : ℕ) (sealing : Seal) (target : LiveActivityTarget) :
    Decidable (s.Clear host fingerprint overview now sealing target) := inferInstanceAs (Decidable (_ → _ ∧ _ ∧ _))

def Settled (endpointId : String) : Prop :=
  ∀ task ∈ s.tasks, task.job.endpointId = endpointId → task.running → ¬ s.generationIsCurrent task.job

instance (endpointId : String) : Decidable (s.Settled endpointId) :=
  inferInstanceAs (Decidable (∀ task ∈ s.tasks, _))

def Alone (i : ℕ) (job : LiveActivityJob) : Prop :=
  s.generationIsCurrent job ∧ ∀ other ∈ s.tasks.eraseIdx i, other.running → other.job.endpointId ≠ job.endpointId

instance (i : ℕ) (job : LiveActivityJob) : Decidable (s.Alone i job) := inferInstanceAs (Decidable (_ ∧ _))

/-- Delivery states are dropped only when no task needs them, registrations change only once the
current task has ended, and a dead token is reported by a task that is alone. -/
def Orderly : NotifierEvent → Prop
  | .sweep overview now sealing => ¬ s.dropsRunning ∧
      ∀ target ∈ s.devices.liveActivityTargets, s.Clear host fingerprint overview now sealing target
  | .interest => s.devices.liveActivityTargets = [] → ¬ s.dropsRunning
  | .update endpointId _ _ _ | .pair endpointId _ _ | .unpair endpointId _ => s.Settled endpointId
  | .task i _ _ => ∀ task ∈ s.tasks[i]?, task.phase = .recording (.refused .tokenDead) → s.Alone i task.job

instance : ∀ e, Decidable (s.Orderly host fingerprint e)
  | .sweep _ _ _ => inferInstanceAs (Decidable (_ ∧ ∀ target ∈ s.devices.liveActivityTargets, _))
  | .interest => inferInstanceAs (Decidable (_ → _))
  | .update endpointId _ _ _ => inferInstanceAs (Decidable (s.Settled endpointId))
  | .pair endpointId _ _ => inferInstanceAs (Decidable (s.Settled endpointId))
  | .unpair endpointId _ => inferInstanceAs (Decidable (s.Settled endpointId))
  | .task i _ _ => inferInstanceAs (Decidable (∀ task ∈ s.tasks[i]?, _))

structure Kept : Prop where
  current : ∀ (i : ℕ) (task : LiveActivityTask), s.tasks[i]? = some task → task.running →
    ∃ state, s.liveActivities.lookup task.job.endpointId = some state ∧
      (task.job.generation < state.generation ∨ task.job.generation = state.generation ∧
        s.Latest i task.job.endpointId ∧ s.devices.ticket task.job.endpointId = some task.job.ticket)
  stamped : ∀ job ∈ s.tasks.map (·.job), ∀ state, s.liveActivities.lookup job.endpointId = some state →
    state.generation = 0 ∨ job.timestamp ≤ state.lastTimestamp
  ordered : (s.tasks.map (·.job)).Pairwise fun job later =>
    job.endpointId = later.endpointId → job.timestamp < later.timestamp

lemma start_kept (devices : PairedDevices) : (start devices).Kept where
  current i task h := by simp [start] at h
  stamped := nofun
  ordered := .nil

variable {s host fingerprint}

section Tables

variable {endpointId : String}

variable {state : LiveActivityDeliveryState}

lemma state_of_lookup (h : s.liveActivities.lookup endpointId = some state) : s.state endpointId = state := by
  rw [Notifier.state, h]
  rfl

lemma Kept.retained (h : s.Kept) {entries : KeyedMap String LiveActivityDeliveryState}
    (hsome : ∀ endpointId state, entries.lookup endpointId = some state →
      s.liveActivities.lookup endpointId = some state)
    (hkept : ∀ task ∈ s.tasks, task.running →
      entries.lookup task.job.endpointId = s.liveActivities.lookup task.job.endpointId) :
    Kept { s with liveActivities := entries } where
  current i task ht hrunning := by
    obtain ⟨state, hstate, hcurrent⟩ := h.current i task ht hrunning
    exact ⟨state, (hkept task (List.mem_of_getElem? ht) hrunning).trans hstate, hcurrent⟩
  stamped job hjob state hstate := h.stamped job hjob state (hsome _ _ hstate)
  ordered := h.ordered

lemma Kept.registered (h : s.Kept) {devices : PairedDevices} (hsettled : s.Settled endpointId)
    (hothers : ∀ other, other ≠ endpointId → devices.lookup other = s.devices.lookup other) :
    Kept { s with devices := devices } where
  current i task ht hrunning := by
    obtain ⟨state, hstate, hcurrent⟩ := h.current i task ht hrunning
    refine ⟨state, hstate, hcurrent.imp_right ?_⟩
    rintro ⟨hgeneration, hlatest, hticket⟩
    refine ⟨hgeneration, hlatest, ?_⟩
    by_cases he : task.job.endpointId = endpointId
    · have hstale := hsettled task (List.mem_of_getElem? ht) he hrunning
      rw [generationIsCurrent, hstate] at hstale
      simp [hgeneration] at hstale
    · rw [← hticket, PairedDevices.ticket, PairedDevices.ticket, hothers _ he]
  stamped := h.stamped
  ordered := h.ordered

lemma Kept.setState (h : s.Kept) (hgeneration : state.generation = (s.state endpointId).generation)
    (hstamp : state.lastTimestamp = (s.state endpointId).lastTimestamp) : (s.setState endpointId state).Kept where
  current i task ht hrunning := by
    obtain ⟨found, hfound, hcurrent⟩ := h.current i task ht hrunning
    by_cases he : task.job.endpointId = endpointId
    · rw [he] at hfound hcurrent ⊢
      rw [state_of_lookup hfound] at hgeneration
      exact ⟨state, KeyedMap.lookup_insert_self _ _ _, hgeneration ▸ hcurrent⟩
    · exact ⟨found, (KeyedMap.lookup_insert_ne he).trans hfound, hcurrent⟩
  stamped job hjob found hfound := by
    rcases KeyedMap.lookup_insert_cases hfound with ⟨he, rfl⟩ | ⟨-, hfound⟩
    · rw [hgeneration, hstamp]
      cases hstate : s.liveActivities.lookup endpointId with
      | none =>
        rw [Notifier.state, hstate]
        exact .inl rfl
      | some state =>
        rw [state_of_lookup hstate]
        exact h.stamped job hjob state (he ▸ hstate)
    · exact h.stamped job hjob found hfound
  ordered := h.ordered

end Tables

variable {job : LiveActivityJob}

section Tasks

variable {i : ℕ} {phase : TaskPhase}

lemma getElem?_setPhase {j : ℕ} {task : LiveActivityTask} (h : (s.setPhase i phase).tasks[j]? = some task) :
    ∃ before, s.tasks[j]? = some before ∧ task.job = before.job ∧
      (i = j ∧ task.phase = phase ∨ i ≠ j ∧ task = before) := by
  rw [setPhase, List.getElem?_modify] at h
  obtain ⟨before, hbefore, rfl⟩ := Option.map_eq_some_iff.mp h
  refine ⟨before, hbefore, ?_⟩
  split
  · next he => exact ⟨rfl, .inl ⟨he, rfl⟩⟩
  · next he => exact ⟨rfl, .inr ⟨he, rfl⟩⟩

lemma jobs_setPhase : (s.setPhase i phase).tasks.map (·.job) = s.tasks.map (·.job) := by
  apply List.ext_getElem?
  intro j
  rw [setPhase, List.getElem?_map, List.getElem?_map, List.getElem?_modify]
  cases s.tasks[j]? with
  | none => rfl
  | some task => split_ifs <;> rfl

lemma Latest.setPhase {j : ℕ} {endpointId : String} (h : s.Latest i endpointId) :
    (s.setPhase j phase).Latest i endpointId := by
  intro k task hk ht
  obtain ⟨before, hbefore, hjob, -⟩ := getElem?_setPhase ht
  rw [hjob]
  exact h k before hk hbefore

lemma Kept.setPhase (h : s.Kept)
    (hrunning : ∀ task, s.tasks[i]? = some task → LiveActivityTask.running ⟨task.job, phase⟩ → task.running) :
    (s.setPhase i phase).Kept where
  current j task ht hrun := by
    obtain ⟨before, hbefore, hjob, hphase⟩ := getElem?_setPhase ht
    have hbeforeRunning : before.running := by
      rcases hphase with ⟨rfl, hphase⟩ | ⟨-, rfl⟩
      · exact hrunning before hbefore (by rwa [LiveActivityTask.running, hphase] at hrun)
      · exact hrun
    obtain ⟨state, hstate, hcurrent⟩ := h.current j before hbefore hbeforeRunning
    rw [hjob]
    exact ⟨state, hstate, hcurrent.imp_right fun hc => ⟨hc.1, hc.2.1.setPhase, hc.2.2⟩⟩
  stamped := by
    rw [jobs_setPhase]
    exact h.stamped
  ordered := by
    rw [jobs_setPhase]
    exact h.ordered

lemma Kept.recordTokenDead (h : s.Kept) (halone : s.Alone i job) (disk : Bool)
    (recorded : Option Verdict) : ((s.recordTokenDead job disk).setPhase i (.ended recorded)).Kept := by
  have hended : (s.setPhase i (.ended recorded)).Kept := h.setPhase fun task _ hrunning => (by cases hrunning)
  have herased : Kept { s.setPhase i (.ended recorded) with
      liveActivities := s.liveActivities.erase job.endpointId } := by
    apply hended.retained fun _ _ hstate => (KeyedMap.lookup_erase_some hstate).2
    intro task ht hrunning
    obtain ⟨j, ht⟩ := List.mem_iff_getElem?.mp ht
    obtain ⟨before, hbefore, -, ⟨-, hphase⟩ | ⟨hij, rfl⟩⟩ := getElem?_setPhase ht
    · rw [LiveActivityTask.running, hphase] at hrunning
      cases hrunning
    · exact KeyedMap.lookup_erase_ne
        (halone.2 task (List.mem_eraseIdx_iff_getElem?.mpr ⟨j, hij.symm, hbefore⟩) hrunning)
  apply herased.registered (fun task _ he _ => ?_) fun _ hne => PairedDevices.lookup_updateLiveActivity hne
  rw [generationIsCurrent, he, KeyedMap.lookup_erase_self]
  exact Bool.false_ne_true

end Tasks

section Sweeps

variable {overview : LiveActivityOverview} {now : ℕ} {sealing : Seal} {target : LiveActivityTarget}

variable {task : LiveActivityTask}

lemma prepared_task
    (h : task ∈ (s.prepared host fingerprint overview now sealing target).2.toList.map (⟨·, .checking 0⟩)) : task.job.endpointId = target.endpointId := by
  obtain ⟨job, hjob, rfl⟩ := List.mem_map.mp h
  rw [Option.mem_toList] at hjob
  have hprepared : Prepared host fingerprint target overview (s.state target.endpointId) now
      (s.prepared host fingerprint overview now sealing target) := prepareLiveActivityJob_prepared
  generalize s.prepared host fingerprint overview now sealing target = result at hprepared hjob
  cases hprepared with
  | held => cases hjob
  | sent _ _ _ hendpoint =>
    cases hjob
    exact hendpoint

lemma Kept.later {old : LiveActivityJob} (h : s.Kept) (hclear : s.Clear host fingerprint overview now sealing target)
    (hjob : (s.prepared host fingerprint overview now sealing target).2 = some job)
    (hstamp : job.timestamp = max now (satAdd (s.state target.endpointId).lastTimestamp 1))
    (hold : old ∈ s.tasks.map (·.job)) (he : old.endpointId = target.endpointId) : old.timestamp < job.timestamp := by
  obtain ⟨-, hroom, hfresh⟩ := hclear (by rw [hjob]; exact Option.some_ne_none job)
  rw [hstamp, satAdd_eq (Nat.succ_le_of_lt hroom)]
  by_cases hgeneration : (s.state target.endpointId).generation = 0
  · obtain ⟨task, ht, rfl⟩ := List.mem_map.mp hold
    exact lt_of_lt_of_le (hfresh hgeneration task ht he) (le_max_left _ _)
  · cases hstate : s.liveActivities.lookup target.endpointId with
    | none =>
      rw [Notifier.state, hstate] at hgeneration
      exact absurd rfl hgeneration
    | some state =>
      rw [state_of_lookup hstate] at hgeneration ⊢
      have hle := (h.stamped old hold state (he ▸ hstate)).resolve_left hgeneration
      exact lt_of_lt_of_le (Nat.lt_succ_of_le hle) (le_max_right _ _)

lemma getElem?_snoc {l : List LiveActivityTask} {last : LiveActivityTask} {i : ℕ} (h : (l ++ [last])[i]? = some task) :
    l[i]? = some task ∨ i = l.length ∧ task = last := by
  rw [List.getElem?_append] at h
  split at h
  · exact .inl h
  · obtain ⟨hi, rfl⟩ := List.getElem?_eq_some_iff.mp h
    rw [List.length_singleton] at hi
    exact .inr ⟨by omega, List.getElem_singleton _⟩

lemma Kept.prepareFor (h : s.Kept) (hclear : s.Clear host fingerprint overview now sealing target)
    (hticket : s.devices.ticket target.endpointId = some target.ticket) :
    (s.prepareFor host fingerprint overview now sealing target).Kept := by
  have hprepared : Prepared host fingerprint target overview (s.state target.endpointId) now
      (s.prepared host fingerprint overview now sealing target) := prepareLiveActivityJob_prepared
  rw [Notifier.prepareFor]
  generalize hresult : s.prepared host fingerprint overview now sealing target = result at hprepared ⊢
  cases hprepared with
  | @held state' hgeneration hstamp _ =>
    dsimp only
    rw [Option.toList_none, List.map_nil, List.append_nil]
    exact h.setState hgeneration hstamp
  | @sent state' job hgeneration' hstamp' _ hendpoint hjobTicket hgeneration hstamp _ _ _ _ =>
    have hjob : (s.prepared host fingerprint overview now sealing target).2 = some job := by rw [hresult]
    have hroom := (hclear (by rw [hjob]; exact Option.some_ne_none job)).1
    have hnext : state'.generation = (s.state target.endpointId).generation + 1 := by
      rw [hgeneration', hgeneration]
      exact Nat.mod_eq_of_lt (Nat.succ_lt_succ hroom)
    refine ⟨?_, ?_, ?_⟩
    · intro i task ht hrunning
      rcases getElem?_snoc ht with ht | ⟨rfl, rfl⟩
      · obtain ⟨found, hfound, hcurrent⟩ := h.current i task ht hrunning
        by_cases he : task.job.endpointId = target.endpointId
        · rw [he] at hfound ⊢
          refine ⟨state', KeyedMap.lookup_insert_self _ _ _, .inl ?_⟩
          rw [hnext, state_of_lookup hfound]
          exact Nat.lt_succ_of_le (hcurrent.elim Nat.le_of_lt fun hc => hc.1.le)
        · refine ⟨found, (KeyedMap.lookup_insert_ne he).trans hfound, hcurrent.imp_right ?_⟩
          rintro ⟨hcurrent, hlatest, hregistered⟩
          refine ⟨hcurrent, ?_, hregistered⟩
          intro j later hij hj
          rcases getElem?_snoc hj with hj | ⟨-, rfl⟩
          · exact hlatest j later hij hj
          · exact hendpoint ▸ Ne.symm he
      · refine ⟨state', hendpoint ▸ KeyedMap.lookup_insert_self _ _ _, .inr ⟨hgeneration'.symm, ?_, ?_⟩⟩
        · intro j later hij hj
          rcases getElem?_snoc hj with hj | ⟨rfl, -⟩
          · rw [List.getElem?_eq_none hij.le] at hj
            cases hj
          · exact absurd hij (Nat.lt_irrefl _)
        · rw [hendpoint, hjobTicket]
          exact hticket
    · intro old hold found hfound
      rw [List.map_append, List.mem_append] at hold
      rcases hold with hold | hold
      · rcases KeyedMap.lookup_insert_cases hfound with ⟨he, rfl⟩ | ⟨-, hfound⟩
        · rw [hstamp']
          exact .inr (h.later hclear hjob hstamp hold he).le
        · exact h.stamped old hold found hfound
      · obtain rfl := List.mem_singleton.mp hold
        rw [hendpoint, KeyedMap.lookup_insert_self, Option.some.injEq] at hfound
        rw [← hfound, hstamp']
        exact .inr (Nat.le_refl _)
    · rw [List.map_append]
      refine List.pairwise_append.mpr ⟨h.ordered, List.pairwise_singleton _ _, ?_⟩
      intro old hold new hnew he
      obtain rfl := List.mem_singleton.mp hnew
      exact h.later hclear hjob hstamp hold (he.trans hendpoint)

lemma Clear.prepareFor {other : LiveActivityTarget} (hne : other.endpointId ≠ target.endpointId)
    (h : s.Clear host fingerprint overview now sealing other) :
    (s.prepareFor host fingerprint overview now sealing target).Clear host fingerprint overview now sealing other := by
  have hstate : (s.prepareFor host fingerprint overview now sealing target).state other.endpointId =
      s.state other.endpointId := by
    rw [Notifier.state, Notifier.state, Notifier.prepareFor, KeyedMap.lookup_insert_ne hne]
  rw [Clear, prepared, hstate]
  intro hsome
  obtain ⟨hgeneration, hstamp, hfresh⟩ := h hsome
  refine ⟨hgeneration, hstamp, ?_⟩
  intro hzero task ht he
  rcases List.mem_append.mp ht with ht | ht
  · exact hfresh hzero task ht he
  · exact absurd (he.symm.trans (prepared_task ht)) hne

lemma Kept.prepareAll (h : s.Kept) {targets : List LiveActivityTarget}
    (hnodup : (targets.map LiveActivityTarget.endpointId).Nodup)
    (hclear : ∀ target ∈ targets, s.Clear host fingerprint overview now sealing target)
    (hticket : ∀ target ∈ targets, s.devices.ticket target.endpointId = some target.ticket) :
    (targets.foldl (fun s => s.prepareFor host fingerprint overview now sealing) s).Kept := by
  induction targets generalizing s with
  | nil => exact h
  | cons target targets ih =>
    rw [List.map_cons, List.nodup_cons] at hnodup
    rw [List.foldl_cons]
    apply ih (h.prepareFor (hclear _ List.mem_cons_self) (hticket _ List.mem_cons_self)) hnodup.2
    · intro other hother
      have hne : other.endpointId ≠ target.endpointId := by
        intro he
        exact hnodup.1 (he ▸ List.mem_map_of_mem hother)
      exact (hclear other (List.mem_cons_of_mem _ hother)).prepareFor hne
    · exact fun other hother => hticket other (List.mem_cons_of_mem _ hother)

lemma not_dropsRunning (h : ¬ s.dropsRunning) (ht : task ∈ s.tasks) (hrunning : task.running) :
    s.devices.liveActivityTargets.any (·.endpointId = task.job.endpointId) := by
  by_contra hdrops
  exact h ⟨task, ht, hrunning, hdrops⟩

lemma Kept.cleared (h : s.Kept) (hnone : s.devices.liveActivityTargets = []) (hdrops : ¬ s.dropsRunning) :
    Kept { s with liveActivities := ∅ } := by
  apply h.retained
  · intro endpointId state hstate
    rw [KeyedMap.lookup_empty] at hstate
    cases hstate
  · intro task ht hrunning
    have hany := not_dropsRunning hdrops ht hrunning
    rw [hnone] at hany
    cases hany

lemma lookup_retainActive {endpointId : String} (h : s.devices.liveActivityTargets.any (·.endpointId = endpointId)) :
    s.retainActive.liveActivities.lookup endpointId = s.liveActivities.lookup endpointId := by
  rw [retainActive, KeyedMap.lookup_retain]
  cases s.liveActivities.lookup endpointId with
  | none => rfl
  | some state => rw [Option.filter_some, if_pos h]

lemma state_retainActive (h : target ∈ s.devices.liveActivityTargets) :
    s.retainActive.state target.endpointId = s.state target.endpointId := by
  rw [Notifier.state, Notifier.state, lookup_retainActive]
  exact List.any_eq_true.mpr ⟨target, h, decide_eq_true rfl⟩

lemma Kept.refresh (h : s.Kept) (horderly : s.Orderly host fingerprint (.sweep overview now sealing)) :
    (s.refreshLiveActivities host fingerprint overview now sealing).Kept := by
  obtain ⟨hdrops, hclear⟩ := horderly
  rw [refreshLiveActivities]
  split
  · next hnone => exact h.cleared hnone hdrops
  · apply Kept.prepareAll
    · apply h.retained
      · intro endpointId state hstate
        rw [KeyedMap.lookup_retain, Option.filter_eq_some_iff] at hstate
        exact hstate.1
      · exact fun task ht hrunning => lookup_retainActive (not_dropsRunning hdrops ht hrunning)
    · exact PairedDevices.nodup_liveActivityTargets
    · intro target htarget
      rw [Clear, prepared, state_retainActive htarget]
      exact hclear target htarget
    · exact fun target htarget => PairedDevices.ticket_of_mem htarget

end Sweeps

section Steps

variable {i : ℕ} {task : LiveActivityTask} {answer : RelayAnswer} {disk : Bool}

lemma generationIsCurrent_iff : s.generationIsCurrent job = true ↔
    ∃ state, s.liveActivities.lookup job.endpointId = some state ∧ state.generation = job.generation := by
  rw [generationIsCurrent, Option.any_eq_true]
  simp

/-- What one step of a task does: nothing beyond its own phase, or it records a verdict. -/
inductive Ran (s : Notifier) (task : LiveActivityTask) (disk : Bool) : Notifier × TaskPhase → Prop
  | still {phase : TaskPhase} (hrunning : LiveActivityTask.running ⟨task.job, phase⟩ → task.running) :
      Ran s task disk (s, phase)
  | recorded {state' : LiveActivityDeliveryState} {recorded : Option Verdict} (hrunning : task.running)
      (hcurrent : s.generationIsCurrent task.job)
      (hgeneration : state'.generation = (s.state task.job.endpointId).generation)
      (hstamp : state'.lastTimestamp = (s.state task.job.endpointId).lastTimestamp) :
      Ran s task disk (s.setState task.job.endpointId state', .ended recorded)
  | dead {recorded : Option Verdict} (hphase : task.phase = .recording (.refused .tokenDead)) :
      Ran s task disk (s.recordTokenDead task.job disk, .ended recorded)

lemma runTask_ran (s : Notifier) (task : LiveActivityTask) (answer : RelayAnswer) (disk : Bool) :
    Ran s task disk (s.runTask task answer disk) := by
  rw [runTask.eq_def]
  cases hphase : task.phase with
  | checking attempt | posting attempt => exact .still fun _ => by rw [LiveActivityTask.running, hphase]
  | ended recorded => exact .still nofun
  | recording verdict =>
    have hrunning : task.running := by rw [LiveActivityTask.running, hphase]
    dsimp only
    rw [record.eq_def]
    split
    · exact .dead hphase
    all_goals
      by_cases hcurrent : s.generationIsCurrent task.job
      · rw [if_pos hcurrent]
        exact .recorded hrunning hcurrent rfl rfl
      · rw [if_neg hcurrent]
        exact .still nofun

lemma Kept.runTask (h : s.Kept) (ht : s.tasks[i]? = some task)
    (halone : task.phase = .recording (.refused .tokenDead) → s.Alone i task.job) :
    ((s.runTask task answer disk).1.setPhase i (s.runTask task answer disk).2).Kept := by
  have hran := runTask_ran s task answer disk
  generalize s.runTask task answer disk = result at hran ⊢
  cases hran with
  | still hrunning =>
    apply h.setPhase
    intro other hother
    rw [ht, Option.some.injEq] at hother
    exact hother ▸ hrunning
  | recorded _ _ hgeneration hstamp => exact (h.setState hgeneration hstamp).setPhase fun _ _ => nofun
  | dead hphase => exact h.recordTokenDead (halone hphase) disk _

lemma runTask_tasks (answer : RelayAnswer) (disk : Bool) : (s.runTask task answer disk).1.tasks = s.tasks := by
  have hran := runTask_ran s task answer disk
  generalize s.runTask task answer disk = result at hran ⊢
  cases hran <;> rfl

lemma runTask_others {endpointId : String} (hne : endpointId ≠ task.job.endpointId) (answer : RelayAnswer)
    (disk : Bool) :
    (s.runTask task answer disk).1.devices.lookup endpointId = s.devices.lookup endpointId ∧
      (s.runTask task answer disk).1.liveActivities.lookup endpointId = s.liveActivities.lookup endpointId := by
  have hran := runTask_ran s task answer disk
  generalize s.runTask task answer disk = result at hran ⊢
  cases hran with
  | still => exact ⟨rfl, rfl⟩
  | recorded => exact ⟨rfl, KeyedMap.lookup_insert_ne hne⟩
  | dead => exact ⟨PairedDevices.lookup_updateLiveActivity hne, KeyedMap.lookup_erase_ne hne⟩

lemma Kept.step {e : NotifierEvent} (h : s.Kept) (horderly : s.Orderly host fingerprint e) :
    (s.step host fingerprint e).Kept := by
  cases e with
  | sweep overview now sealing => exact h.refresh horderly
  | interest =>
    rw [Notifier.step, hasLiveActivityInterest]
    split
    · next hnone => exact h.cleared hnone (horderly hnone)
    · exact h
  | update endpointId ticket change disk =>
    exact h.registered horderly fun _ hne => PairedDevices.lookup_updateLiveActivity hne
  | pair endpointId key disk => exact h.registered horderly fun _ hne => PairedDevices.lookup_upsert hne
  | unpair endpointId disk => exact h.registered horderly fun _ hne => PairedDevices.lookup_unpair hne
  | task i answer disk =>
    rw [Notifier.step]
    cases ht : s.tasks[i]? with
    | none => exact h
    | some task => exact h.runTask ht (horderly task ht)

end Steps

def MayAct (s : Notifier) (i : ℕ) (endpointId : String) : Prop :=
  ∃ task, s.tasks[i]? = some task ∧ task.job.endpointId = endpointId ∧ s.Latest i endpointId ∧
    s.devices.ticket endpointId = some task.job.ticket

/-- A task changes the device or the delivery state of an endpoint only when it may act for it. -/
def Confined (s : Notifier) (i : ℕ) (s' : Notifier) : Prop :=
  ∀ endpointId, s'.devices.lookup endpointId ≠ s.devices.lookup endpointId ∨
    s'.liveActivities.lookup endpointId ≠ s.liveActivities.lookup endpointId → s.MayAct i endpointId

lemma Kept.mayAct {i : ℕ} {task : LiveActivityTask} (h : s.Kept) (ht : s.tasks[i]? = some task)
    (hrunning : task.running) (hcurrent : s.generationIsCurrent task.job) : s.MayAct i task.job.endpointId := by
  obtain ⟨state, hstate, hgeneration⟩ := generationIsCurrent_iff.mp hcurrent
  obtain ⟨state', hstate', hlive⟩ := h.current i task ht hrunning
  rw [hstate, Option.some.injEq] at hstate'
  subst hstate'
  obtain ⟨-, hlatest, hticket⟩ := hlive.resolve_left (by omega)
  exact ⟨task, ht, rfl, hlatest, hticket⟩

lemma Kept.confined {i : ℕ} {answer : RelayAnswer} {disk : Bool} (h : s.Kept)
    (horderly : s.Orderly host fingerprint (.task i answer disk)) :
    s.Confined i (s.step host fingerprint (.task i answer disk)) := by
  intro endpointId hchanged
  rw [Notifier.step] at hchanged
  cases ht : s.tasks[i]? with
  | none => simp [ht] at hchanged
  | some task =>
    rw [ht] at hchanged
    have he : endpointId = task.job.endpointId := by
      by_contra hne
      have hothers := runTask_others (s := s) hne answer disk
      exact hchanged.elim (fun hc => hc hothers.1) fun hc => hc hothers.2
    subst he
    change (s.runTask task answer disk).1.devices.lookup _ ≠ _ ∨
      (s.runTask task answer disk).1.liveActivities.lookup _ ≠ _ at hchanged
    have hran := runTask_ran s task answer disk
    generalize s.runTask task answer disk = result at hran hchanged
    cases hran with
    | still => simp at hchanged
    | recorded hrunning hcurrent => exact h.mayAct ht hrunning hcurrent
    | dead hphase => exact h.mayAct ht (by rw [LiveActivityTask.running, hphase]) (horderly task ht hphase).1

theorem superseded_send_inert {devices : PairedDevices}
    (h : Reaches (fun s e => s.step host fingerprint e) (fun s e => s.Orderly host fingerprint e) (start devices) s) :
    (∀ i answer disk, s.Orderly host fingerprint (.task i answer disk) →
      s.Confined i (s.step host fingerprint (.task i answer disk))) ∧
    ∀ (i j : ℕ) (task later : LiveActivityTask), i < j → s.tasks[i]? = some task → s.tasks[j]? = some later →
      task.job.endpointId = later.job.endpointId → task.job.timestamp < later.job.timestamp := by
  have hkept : s.Kept := h.invariant (start_kept devices) fun _ _ hk ha => hk.step ha
  refine ⟨fun _ _ _ ha => hkept.confined ha, ?_⟩
  intro i j task later hij ht hlater he
  obtain ⟨hi, rfl⟩ := List.getElem?_eq_some_iff.mp ht
  obtain ⟨hj, rfl⟩ := List.getElem?_eq_some_iff.mp hlater
  exact List.pairwise_iff_getElem.mp (List.pairwise_map.mp hkept.ordered) i j hi hj hij he

namespace Sample

def oldTicket : String := String.ofList (List.replicate 64 'a')

def newTicket : String := String.ofList (List.replicate 64 'b')

def paired : PairedDevices := (∅ : PairedDevices).insert "phone" ⟨some "key", none⟩

def selected : LiveActivitySelectionChange := .add ⟨"session", "Pi", "ciao"⟩

def sweepAt (now : ℕ) : NotifierEvent := .sweep ∅ now fun _ _ => .ok "sealed"

def rotated : List NotifierEvent :=
  [.update "phone" (some oldTicket) (some selected) true, sweepAt 10, .task 0 .unanswered true,
    .task 0 (.status 204 "") true, .task 0 .unanswered true, .update "phone" (some newTicket) none true, sweepAt 20,
    .task 1 .unanswered true, .task 1 (.status 400 "bad_token") true, .task 1 .unanswered true]

def overtaken : List NotifierEvent :=
  [.update "phone" (some oldTicket) (some selected) true, sweepAt 10, .task 0 .unanswered true,
    .update "phone" (some newTicket) none true, sweepAt 20, .task 0 (.status 400 "bad_token") true]

def reregistered : List NotifierEvent :=
  [.update "phone" (some oldTicket) (some selected) true, sweepAt 10, .update "phone" none none true, .interest,
    .update "phone" (some newTicket) (some selected) true, sweepAt 10]

end Sample

theorem superseded_send_inert_rotated :
    (Sample.rotated.foldl (fun s e => s.step "mac" id e) (start Sample.paired)).tasks.length = 2 ∧
    ∀ (i j : ℕ) (task later : LiveActivityTask), i < j →
      (Sample.rotated.foldl (fun s e => s.step "mac" id e) (start Sample.paired)).tasks[i]? = some task →
      (Sample.rotated.foldl (fun s e => s.step "mac" id e) (start Sample.paired)).tasks[j]? = some later →
      task.job.endpointId = later.job.endpointId → task.job.timestamp < later.job.timestamp := by
  have hrun : Allowed (fun s e => s.step "mac" id e) (fun s e => s.Orderly "mac" id e) (start Sample.paired)
      Sample.rotated := by decide +kernel
  exact ⟨by decide +kernel, (superseded_send_inert (Reaches.refl.of_run hrun)).2⟩

theorem overtaken_send_clears_registration :
    ((Sample.overtaken.foldl (fun s e => s.step "mac" id e) (start Sample.paired)).devices.ticket "phone" =
        some Sample.newTicket ∧
      ¬ (Sample.overtaken.foldl (fun s e => s.step "mac" id e) (start Sample.paired)).Confined 0
        ((Sample.overtaken.foldl (fun s e => s.step "mac" id e) (start Sample.paired)).step "mac" id
          (.task 0 .unanswered true))) ∧
    (Sample.reregistered.foldl (fun s e => s.step "mac" id e) (start Sample.paired)).tasks.map (·.job.timestamp) =
      [10, 10] := by
  refine ⟨⟨by decide +kernel, ?_⟩, by decide +kernel⟩
  intro hconfined
  obtain ⟨task, ht, -, -, hticket⟩ := hconfined "phone" (.inr (by decide +kernel))
  have hposted : ∀ task ∈ (Sample.overtaken.foldl (fun s e => s.step "mac" id e) (start Sample.paired)).tasks[0]?,
      (Sample.overtaken.foldl (fun s e => s.step "mac" id e) (start Sample.paired)).devices.ticket "phone" ≠
        some task.job.ticket := by decide +kernel
  exact hposted task ht hticket

end Notifier

end CiaoHost.Notify
