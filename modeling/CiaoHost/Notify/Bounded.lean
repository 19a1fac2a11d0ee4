import CiaoHost.Notify.Superseded

/-! How many jobs one endpoint is prepared while its ticket and rows stand. -/

namespace CiaoHost.Notify

open Lib Lib.Runs

def Verdict.failing : Verdict → Bool
  | .delivered => false
  | _ => true

def TaskPhase.failed : TaskPhase → Bool
  | .ended (some verdict) => verdict.failing
  | _ => false

structure Watched where
  notifier : Notifier
  clock : ℕ

namespace Watched

def jobs (w : Watched) (endpointId : String) : ℕ := w.notifier.tasks.countP (·.job.endpointId = endpointId)

def failures (w : Watched) (endpointId : String) : ℕ :=
  w.notifier.tasks.countP fun task => task.job.endpointId = endpointId && task.phase.failed

def inFlight (w : Watched) (endpointId : String) : ℕ :=
  w.notifier.tasks.countP fun task => task.job.endpointId = endpointId && task.running

variable (host : String) (fingerprint : String → String) (target : LiveActivityTarget)
  (rows : List LiveActivitySemanticRow) (w : Watched)

def step (e : NotifierEvent) : Watched where
  notifier := w.notifier.step host fingerprint e
  clock :=
    match e with
    | .sweep _ now _ => now
    | _ => w.clock

/-- The endpoint keeps its registration and its rows, every job of it is recorded before the next
sweep, and its token is not found dead. -/
def Steady : NotifierEvent → Prop
  | .sweep overview now _ => w.clock ≤ now ∧ target.rows overview = rows ∧ w.inFlight target.endpointId = 0
  | .interest => True
  | .update endpointId ticket change disk =>
    target ∈ (w.notifier.devices.updateLiveActivity endpointId ticket change disk).1.liveActivityTargets
  | .pair endpointId key disk => target ∈ (w.notifier.devices.upsert endpointId key disk).liveActivityTargets
  | .unpair endpointId disk => target ∈ (w.notifier.devices.unpair endpointId disk).liveActivityTargets
  | .task i _ _ => ∀ task ∈ w.notifier.tasks[i]?, task.job.endpointId = target.endpointId →
      task.phase ≠ .recording (.refused .tokenDead)

instance : ∀ e, Decidable (w.Steady target rows e)
  | .sweep _ _ _ => inferInstanceAs (Decidable (_ ∧ _ ∧ _))
  | .interest => .isTrue trivial
  | .update _ _ _ _ => inferInstanceAs (Decidable (_ ∈ _))
  | .pair _ _ _ => inferInstanceAs (Decidable (_ ∈ _))
  | .unpair _ _ => inferInstanceAs (Decidable (_ ∈ _))
  | .task i _ _ => inferInstanceAs (Decidable (∀ task ∈ w.notifier.tasks[i]?, _))

def mine (s : Notifier) (endpointId : String) : List LiveActivityTask :=
  s.tasks.filter (·.job.endpointId = endpointId)

/-- A task that has failed makes room for the next one. -/
def unfailed (endpointId : String) : ℕ := (mine w.notifier endpointId).countP (!·.phase.failed)

def Within (start w : Watched) (endpointId : String) (extra time : ℕ) : Prop :=
  w.unfailed endpointId ≤ start.unfailed endpointId + extra + (time - start.clock) / liveActivityHeartbeatSeconds

structure Fresh (start : Watched) (time : ℕ) (d : DeliveredLiveActivity) : Prop where
  ticket : d.ticketFingerprint = fingerprint target.ticket
  rows : d.semanticRows = rows
  after : start.clock ≤ d.deliveredAt
  before : d.deliveredAt ≤ time

structure Sent (start : Watched) : Prop where
  registered : target ∈ w.notifier.devices.liveActivityTargets
  clock : start.clock ≤ w.clock
  single : w.inFlight target.endpointId ≤ 1
  running : ∀ task ∈ mine w.notifier target.endpointId, task.running →
    w.notifier.generationIsCurrent task.job ∧ Fresh fingerprint target rows start w.clock task.job.delivered ∧
      Within start w target.endpointId 1 task.job.delivered.deliveredAt
  idle : w.inFlight target.endpointId = 0 → Within start w target.endpointId 0 w.clock ∨
    ∃ d, (w.notifier.state target.endpointId).delivered = some d ∧ Fresh fingerprint target rows start w.clock d ∧
      Within start w target.endpointId 1 d.deliveredAt

variable {host fingerprint target rows w} {start : Watched}

variable {w' : Watched} {d : DeliveredLiveActivity} {answer : RelayAnswer}

lemma jobs_eq {endpointId : String} : w.jobs endpointId = w.unfailed endpointId + w.failures endpointId := by
  have hfailures : w.failures endpointId = (mine w.notifier endpointId).countP (·.phase.failed) := by
    rw [mine, List.countP_filter, failures]
    simp only [Bool.and_comm]
  rw [jobs, List.countP_eq_length_filter, List.length_eq_countP_add_countP (fun task => !task.phase.failed), hfailures]
  simp [unfailed, mine]

lemma inFlight_eq {endpointId : String} : w.inFlight endpointId = (mine w.notifier endpointId).countP (·.running) := by
  rw [mine, List.countP_filter, inFlight]
  simp only [Bool.and_comm]

lemma Within.mono {endpointId : String} {extra time time' : ℕ} (h : Within start w endpointId extra time)
    (hunfailed : w'.unfailed endpointId ≤ w.unfailed endpointId) (htime : time ≤ time') :
    Within start w' endpointId extra time' := by
  have hperiods : (time - start.clock) / liveActivityHeartbeatSeconds ≤
      (time' - start.clock) / liveActivityHeartbeatSeconds := Nat.div_le_div_right (by omega)
  rw [Within] at h ⊢
  omega

lemma Fresh.mono {time time' : ℕ} (h : Fresh fingerprint target rows start time d)
    (htime : time ≤ time') : Fresh fingerprint target rows start time' d :=
  ⟨h.ticket, h.rows, h.after, h.before.trans htime⟩

lemma Sent.alike (h : w.Sent fingerprint target rows start)
    (hunfailed : w'.unfailed target.endpointId ≤ w.unfailed target.endpointId)
    (hflight : w'.inFlight target.endpointId = w.inFlight target.endpointId)
    (hrunning : ∀ task ∈ mine w'.notifier target.endpointId, task.running →
      ∃ old ∈ mine w.notifier target.endpointId, old.job = task.job ∧ old.running ∧
        (w.notifier.generationIsCurrent task.job → w'.notifier.generationIsCurrent task.job))
    (hclock : w.clock ≤ w'.clock) (hregistered : target ∈ w'.notifier.devices.liveActivityTargets)
    (hdelivered : (w'.notifier.state target.endpointId).delivered = (w.notifier.state target.endpointId).delivered) :
    w'.Sent fingerprint target rows start where
  registered := hregistered
  clock := h.clock.trans hclock
  single := hflight ▸ h.single
  running task ht hrun := by
    obtain ⟨old, hold, hjob, hrun, hstill⟩ := hrunning task ht hrun
    obtain ⟨hcurrent, hfresh, hwithin⟩ := h.running old hold hrun
    rw [hjob] at hcurrent hfresh hwithin
    exact ⟨hstill hcurrent, hfresh.mono hclock, hwithin.mono hunfailed (Nat.le_refl _)⟩
  idle hidle := by
    rcases h.idle (hflight ▸ hidle) with hwithin | ⟨d, hd, hfresh, hwithin⟩
    · exact .inl (hwithin.mono hunfailed hclock)
    · exact .inr ⟨d, hdelivered.trans hd, hfresh.mono hclock, hwithin.mono hunfailed (Nat.le_refl _)⟩

lemma Sent.same (h : w.Sent fingerprint target rows start)
    (hmine : mine w'.notifier target.endpointId = mine w.notifier target.endpointId)
    (hcurrent : ∀ task ∈ mine w.notifier target.endpointId, task.running →
      w.notifier.generationIsCurrent task.job → w'.notifier.generationIsCurrent task.job)
    (hclock : w.clock ≤ w'.clock) (hregistered : target ∈ w'.notifier.devices.liveActivityTargets)
    (hdelivered : (w'.notifier.state target.endpointId).delivered = (w.notifier.state target.endpointId).delivered) :
    w'.Sent fingerprint target rows start := by
  apply h.alike _ _ _ hclock hregistered hdelivered
  · rw [unfailed, hmine, unfailed]
  · rw [inFlight_eq, hmine, inFlight_eq]
  · rw [hmine]
    exact fun task ht hrun => ⟨task, ht, rfl, hrun, hcurrent task ht hrun⟩

lemma not_running_of_inFlight {endpointId : String} (h : w.inFlight endpointId = 0) {task : LiveActivityTask}
    (ht : task ∈ mine w.notifier endpointId) : ¬ task.running :=
  List.countP_eq_zero.mp (inFlight_eq.symm.trans h) task ht

lemma mem_mine {s : Notifier} {task : LiveActivityTask} {endpointId : String} (ht : task ∈ s.tasks)
    (he : task.job.endpointId = endpointId) : task ∈ mine s endpointId :=
  List.mem_filter.mpr ⟨ht, decide_eq_true he⟩

section Tasks

variable {s : Notifier} {i : ℕ} {task : LiveActivityTask}

lemma setPhase_split (ht : s.tasks[i]? = some task) (phase : TaskPhase) :
    ∃ before after, s.tasks = before ++ task :: after ∧
      (s.setPhase i phase).tasks = before ++ ⟨task.job, phase⟩ :: after := by
  obtain ⟨hi, hget⟩ := List.getElem?_eq_some_iff.mp ht
  obtain ⟨before, found, after, hsplit, hlength, hmodify⟩ :=
    List.exists_of_modify (fun task => { task with phase := phase }) hi
  have hfound : found = task := by
    rw [hsplit, ← hlength] at ht
    simpa using ht
  subst hfound
  exact ⟨before, after, hsplit, hmodify⟩

variable {phase : TaskPhase}

lemma setPhase_self (ht : s.tasks[i]? = some task) (hphase : task.phase = phase) : s.setPhase i phase = s := by
  obtain ⟨before, after, hsplit, hmoved⟩ := setPhase_split ht phase
  subst hphase
  exact congrArg (fun tasks => { s with tasks := tasks }) (hmoved.trans hsplit.symm)

lemma mine_setPhase (ht : s.tasks[i]? = some task) (phase : TaskPhase) :
    ∃ before after, mine s task.job.endpointId = before ++ task :: after ∧
      mine (s.setPhase i phase) task.job.endpointId = before ++ ⟨task.job, phase⟩ :: after := by
  obtain ⟨before, after, hsplit, hmoved⟩ := setPhase_split ht phase
  refine ⟨before.filter (·.job.endpointId = task.job.endpointId), after.filter (·.job.endpointId = task.job.endpointId),
    ?_, ?_⟩
  · simp [mine, hsplit]
  · simp [mine, hmoved]

lemma Sent.other {s' : Notifier} (h : w.Sent fingerprint target rows start) (ht : w.notifier.tasks[i]? = some task)
    (hne : target.endpointId ≠ task.job.endpointId)
    (htasks : s'.tasks = w.notifier.tasks)
    (hdevices : s'.devices.lookup target.endpointId = w.notifier.devices.lookup target.endpointId)
    (hstate : s'.liveActivities.lookup target.endpointId = w.notifier.liveActivities.lookup target.endpointId) :
    Sent fingerprint target rows ⟨s'.setPhase i phase, w.clock⟩ start := by
  obtain ⟨before, after, hsplit, hmoved⟩ := setPhase_split (htasks ▸ ht) phase
  rw [htasks] at hsplit
  refine h.same ?_ ?_ (Nat.le_refl _) ?_ ?_
  · simp [mine, hmoved, hsplit, Ne.symm hne]
  · intro other hother _ hcurrent
    have he : other.job.endpointId = target.endpointId := of_decide_eq_true (List.mem_filter.mp hother).2
    rw [Notifier.generationIsCurrent_iff, he] at hcurrent ⊢
    exact hstate ▸ hcurrent
  · rw [PairedDevices.mem_liveActivityTargets]
    change (s'.devices.lookup _).bind _ = _
    rw [hdevices]
    exact PairedDevices.mem_liveActivityTargets.mp h.registered
  · exact congrArg (fun state => (state.getD {}).delivered) hstate

lemma failed_of_running (h : task.running) : task.phase.failed = false := by
  obtain ⟨job, phase⟩ := task
  cases phase with
  | ended recorded => cases h
  | checking | posting | recording => rfl

lemma Sent.advanced (h : w.Sent fingerprint target rows start) (ht : w.notifier.tasks[i]? = some task)
    (he : task.job.endpointId = target.endpointId) (hrunning : task.running)
    (hnext : LiveActivityTask.running ⟨task.job, phase⟩) :
    Sent fingerprint target rows ⟨w.notifier.setPhase i phase, w.clock⟩ start := by
  obtain ⟨before, after, hsplit, hmoved⟩ := mine_setPhase ht phase
  rw [he] at hsplit hmoved
  refine h.alike ?_ ?_ ?_ (Nat.le_refl _) h.registered rfl
  · simp [unfailed, hmoved, hsplit, failed_of_running hnext, failed_of_running hrunning]
  · simp [inFlight_eq, hmoved, hsplit, hnext, hrunning]
  · rw [hmoved, hsplit]
    intro other hother hrun
    rw [List.mem_append, List.mem_cons] at hother
    rcases hother with hbefore | rfl | hafter
    · exact ⟨other, List.mem_append_left _ hbefore, rfl, hrun, id⟩
    · exact ⟨task, List.mem_append_right _ List.mem_cons_self, rfl, hrunning, id⟩
    · exact ⟨other, List.mem_append_right _ (List.mem_cons_of_mem _ hafter), rfl, hrun, id⟩

variable {verdict : Verdict}

lemma record_current (hverdict : verdict ≠ .refused .tokenDead)
    (hcurrent : s.generationIsCurrent task.job) (disk : Bool) :
    (s.record task.job verdict disk).devices = s.devices ∧
      (s.record task.job verdict disk).tasks = s.tasks ∧
      (verdict = .delivered →
        ((s.record task.job verdict disk).state task.job.endpointId).delivered = some task.job.delivered) ∧
      (verdict.failing →
        ((s.record task.job verdict disk).state task.job.endpointId).consecutiveFailures =
          min ((s.state task.job.endpointId).consecutiveFailures + 1) u32Max) := by
  have hread : ∀ state, (s.setState task.job.endpointId state).state task.job.endpointId = state := by
    intro state
    rw [Notifier.state, Notifier.setState, KeyedMap.lookup_insert_self]
    rfl
  rw [Notifier.record.eq_def]
  split
  · exact absurd rfl hverdict
  · rw [if_pos hcurrent, Notifier.recordSuccess, hread]
    exact ⟨rfl, rfl, fun _ => rfl, fun hfailing => (by cases hfailing)⟩
  · rw [if_pos hcurrent, Notifier.recordFailure, hread]
    exact ⟨rfl, rfl, fun he => (by cases he), fun _ => rfl⟩
  · rw [if_pos hcurrent, Notifier.recordRefusal, hread]
    exact ⟨rfl, rfl, fun he => (by cases he), fun _ => rfl⟩

lemma Sent.recorded (h : w.Sent fingerprint target rows start)
    (ht : w.notifier.tasks[i]? = some task) (he : task.job.endpointId = target.endpointId)
    (hphase : task.phase = .recording verdict) (hverdict : verdict ≠ .refused .tokenDead) (disk : Bool) :
    Sent fingerprint target rows
      ⟨(w.notifier.record task.job verdict disk).setPhase i (.ended (some verdict)), w.clock⟩ start := by
  have hrunning : task.running := by rw [LiveActivityTask.running, hphase]
  obtain ⟨hcurrent, hfresh, hwithin⟩ := h.running task (mem_mine (List.mem_of_getElem? ht) he) hrunning
  obtain ⟨hdevices, htasks, hdelivered, -⟩ := record_current hverdict hcurrent disk
  obtain ⟨before, after, hsplit, hmoved⟩ := mine_setPhase (htasks ▸ ht) (.ended (some verdict))
  rw [he] at hsplit hmoved
  rw [mine, htasks] at hsplit
  change mine w.notifier target.endpointId = _ at hsplit
  set w' : Watched := ⟨(w.notifier.record task.job verdict disk).setPhase i (.ended (some verdict)), w.clock⟩ with hw'
  have hunfailed : w'.unfailed target.endpointId + (if verdict.failing then 1 else 0) =
      w.unfailed target.endpointId := by
    have hended : (TaskPhase.ended (some verdict)).failed = verdict.failing := rfl
    simp only [hw', unfailed, hmoved, hsplit, List.countP_append, List.countP_cons, failed_of_running hrunning, hended]
    cases verdict.failing with
    | false => rfl
    | true => rfl
  have hflight : w'.inFlight target.endpointId = 0 := by
    have hsingle := h.single
    simp only [inFlight_eq, hsplit, List.countP_append, List.countP_cons, hrunning, if_true] at hsingle
    have hended : LiveActivityTask.running ⟨task.job, .ended (some verdict)⟩ = false := rfl
    simp only [hw', inFlight_eq, hmoved, List.countP_append, List.countP_cons, hended, Bool.false_eq_true, if_false]
    omega
  refine ⟨?_, h.clock, by omega, fun other hother hrun => absurd hrun (not_running_of_inFlight hflight hother), ?_⟩
  · change target ∈ (w.notifier.record task.job verdict disk).devices.liveActivityTargets
    rw [hdevices]
    exact h.registered
  · intro _
    by_cases hfailing : verdict.failing
    · left
      have hmono : Within start w target.endpointId 1 w.clock := hwithin.mono (Nat.le_refl _) hfresh.before
      rw [Within] at hmono ⊢
      rw [if_pos hfailing] at hunfailed
      change _ ≤ _ + _ + (w.clock - _) / _
      omega
    · right
      rw [if_neg hfailing, Nat.add_zero] at hunfailed
      have hdeliver : verdict = .delivered := by
        cases verdict with
        | delivered => rfl
        | failed | refused _ => exact absurd rfl hfailing
      exact ⟨task.job.delivered, he ▸ hdelivered hdeliver, hfresh, hwithin.mono hunfailed.le (Nat.le_refl _)⟩

end Tasks

section Sweeps

variable {s : Notifier} {overview : LiveActivityOverview} {now : ℕ} {sealing : Seal} {endpointId : String}

variable {targets : List LiveActivityTarget} {payload : LiveActivityPayload}

variable (host fingerprint s overview now sealing) in
lemma prepareAll_others (h : ∀ other ∈ targets, other.endpointId ≠ endpointId) :
    mine (targets.foldl (fun s => s.prepareFor host fingerprint overview now sealing) s) endpointId =
        mine s endpointId ∧
      (targets.foldl (fun s => s.prepareFor host fingerprint overview now sealing) s).liveActivities.lookup endpointId =
        s.liveActivities.lookup endpointId := by
  induction targets generalizing s with
  | nil => exact ⟨rfl, rfl⟩
  | cons other targets ih =>
    have hne := h other List.mem_cons_self
    obtain ⟨hmine, hlookup⟩ := ih (s.prepareFor host fingerprint overview now sealing other)
      fun o ho => h o (List.mem_cons_of_mem _ ho)
    rw [List.foldl_cons, hmine, hlookup]
    refine ⟨(List.filter_append _ _).trans (List.append_right_eq_self.mpr ?_), KeyedMap.lookup_insert_ne (Ne.symm hne)⟩
    apply List.filter_eq_nil_iff.mpr
    exact fun task ht he => hne ((Notifier.prepared_task ht).symm.trans (of_decide_eq_true he))

variable (host fingerprint s overview now sealing) in
lemma prepareAll_one (htarget : target ∈ targets) (hnodup : (targets.map LiveActivityTarget.endpointId).Nodup) :
    mine (targets.foldl (fun s => s.prepareFor host fingerprint overview now sealing) s) target.endpointId =
        mine s target.endpointId ++
          (s.prepared host fingerprint overview now sealing target).2.toList.map (⟨·, .checking 0⟩) ∧
      (targets.foldl (fun s => s.prepareFor host fingerprint overview now sealing) s).liveActivities.lookup
        target.endpointId = some (s.prepared host fingerprint overview now sealing target).1 := by
  obtain ⟨front, back, rfl⟩ := List.append_of_mem htarget
  rw [List.map_append, List.map_cons, List.nodup_append, List.nodup_cons] at hnodup
  obtain ⟨-, ⟨hback, -⟩, hfront⟩ := hnodup
  have hfront' : ∀ other ∈ front, other.endpointId ≠ target.endpointId :=
    fun other ho => hfront _ (List.mem_map_of_mem ho) _ List.mem_cons_self
  have hback' : ∀ other ∈ back, other.endpointId ≠ target.endpointId := by
    intro other ho he
    exact hback (he ▸ List.mem_map_of_mem ho)
  rw [List.foldl_append, List.foldl_cons]
  obtain ⟨hmine, hlookup⟩ := prepareAll_others host fingerprint s overview now sealing hfront'
  generalize front.foldl (fun s => s.prepareFor host fingerprint overview now sealing) s = s' at hmine hlookup ⊢
  obtain ⟨hmine', hlookup'⟩ := prepareAll_others host fingerprint
    (s'.prepareFor host fingerprint overview now sealing target) overview now sealing hback'
  have hprepared : s'.prepared host fingerprint overview now sealing target =
      s.prepared host fingerprint overview now sealing target := by
    rw [Notifier.prepared, Notifier.prepared, Notifier.state, Notifier.state, hlookup]
  rw [hmine', hlookup', ← hmine, ← hprepared]
  refine ⟨(List.filter_append _ _).trans (congrArg _ (List.filter_eq_self.mpr ?_)), KeyedMap.lookup_insert_self _ _ _⟩
  exact fun task ht => decide_eq_true (Notifier.prepared_task ht)

lemma prepareAll_devices (targets : List LiveActivityTarget) :
    (targets.foldl (fun s => s.prepareFor host fingerprint overview now sealing) s).devices = s.devices := by
  induction targets generalizing s with
  | nil => rfl
  | cons other targets ih => exact ih

lemma heartbeat_of_delivery {time : ℕ}
    (hfresh : Fresh fingerprint target rows start time d) (hrows : target.rows overview = rows)
    (h : liveActivityDelivery host fingerprint target overview (some d) now = some payload) :
    liveActivityHeartbeatSeconds ≤ now - d.deliveredAt := by
  rw [liveActivityDelivery] at h
  split at h
  · cases h
  · next hdue =>
    have hsame : d.ticketFingerprint = fingerprint target.ticket ∧ d.semanticRows = target.rows overview :=
      ⟨hfresh.ticket, hfresh.rows.trans hrows.symm⟩
    simpa [hsame] using hdue

lemma Sent.room (h : w.Sent fingerprint target rows start)
    (hidle : w.inFlight target.endpointId = 0) (hclock : w.clock ≤ now) (hrows : target.rows overview = rows)
    (hdelivery : liveActivityDelivery host fingerprint target overview
      (w.notifier.state target.endpointId).delivered now = some payload) :
    Within start w target.endpointId 0 now := by
  rcases h.idle hidle with hwithin | ⟨d, hd, hfresh, hwithin⟩
  · exact hwithin.mono (Nat.le_refl _) hclock
  · rw [hd] at hdelivery
    have hdue := heartbeat_of_delivery hfresh hrows hdelivery
    have hperiod : (d.deliveredAt - start.clock) / liveActivityHeartbeatSeconds + 1 ≤
        (now - start.clock) / liveActivityHeartbeatSeconds := by
      have hafter := hfresh.after
      have hlength : 0 < liveActivityHeartbeatSeconds := by decide
      rw [← Nat.add_div_right _ hlength]
      exact Nat.div_le_div_right (by omega)
    rw [Within] at hwithin ⊢
    omega

variable (host fingerprint overview now sealing) in
lemma refresh_prepares (hregistered : target ∈ s.devices.liveActivityTargets) :
    ∃ result, Prepared host fingerprint target overview (s.state target.endpointId) now result ∧
      mine (s.refreshLiveActivities host fingerprint overview now sealing) target.endpointId =
        mine s target.endpointId ++ result.2.toList.map (⟨·, .checking 0⟩) ∧
      (s.refreshLiveActivities host fingerprint overview now sealing).liveActivities.lookup target.endpointId =
        some result.1 ∧
      (s.refreshLiveActivities host fingerprint overview now sealing).devices = s.devices := by
  obtain ⟨hmine, hlookup⟩ := prepareAll_one host fingerprint s.retainActive overview now sealing hregistered
    PairedDevices.nodup_liveActivityTargets
  rw [Notifier.refreshLiveActivities, if_neg (List.ne_nil_of_mem hregistered)]
  refine ⟨_, ?_, hmine, hlookup, prepareAll_devices _⟩
  rw [← Notifier.state_retainActive hregistered]
  exact prepareLiveActivityJob_prepared

lemma Sent.swept_sent {s' : Notifier} {job : LiveActivityJob} (h : w.Sent fingerprint target rows start)
    (hidle : w.inFlight target.endpointId = 0) (hclock : w.clock ≤ now)
    (hmine : mine s' target.endpointId = mine w.notifier target.endpointId ++ [⟨job, .checking 0⟩])
    (hdevices : s'.devices = w.notifier.devices) (hcurrent : s'.generationIsCurrent job)
    (hfresh : Fresh fingerprint target rows start now job.delivered) (hat : job.delivered.deliveredAt = now)
    (hroom : Within start w target.endpointId 0 now) : Sent fingerprint target rows ⟨s', now⟩ start := by
  have hrunning : LiveActivityTask.running ⟨job, .checking 0⟩ = true := rfl
  have hunfailed : unfailed ⟨s', now⟩ target.endpointId = w.unfailed target.endpointId + 1 := by
    rw [unfailed, hmine, List.countP_append]
    rfl
  have hflight : inFlight ⟨s', now⟩ target.endpointId = 1 := by
    rw [inFlight_eq, hmine, List.countP_append, ← inFlight_eq, hidle]
    rfl
  refine ⟨hdevices ▸ h.registered, h.clock.trans hclock, by omega, ?_, by omega⟩
  rw [hmine]
  intro task ht hrun
  rcases List.mem_append.mp ht with ht | ht
  · exact absurd hrun (not_running_of_inFlight hidle ht)
  · obtain rfl := List.mem_singleton.mp ht
    refine ⟨hcurrent, hfresh, ?_⟩
    rw [Within] at hroom ⊢
    rw [hat]
    omega

lemma Sent.swept (h : w.Sent fingerprint target rows start)
    (hsteady : w.Steady target rows (.sweep overview now sealing)) :
    (w.step host fingerprint (.sweep overview now sealing)).Sent fingerprint target rows start := by
  obtain ⟨hclock, hrows, hidle⟩ := hsteady
  obtain ⟨result, hprepared, hmine, hstate, hdevices⟩ :=
    refresh_prepares host fingerprint overview now sealing h.registered
  cases hprepared with
  | held _ _ hdelivered =>
    rw [Option.toList_none, List.map_nil, List.append_nil] at hmine
    refine h.same hmine ?_ hclock (hdevices ▸ h.registered) ?_
    · exact fun task ht hrunning => absurd hrunning (not_running_of_inFlight hidle ht)
    · exact (congrArg LiveActivityDeliveryState.delivered (Notifier.state_of_lookup hstate)).trans hdelivered
  | @sent state' job hgeneration _ _ hendpoint _ hnext _ hdelivery hfingerprint hsemantic hat =>
    have hfresh : Fresh fingerprint target rows start now job.delivered :=
      ⟨hfingerprint, hsemantic.trans hrows, hat ▸ h.clock.trans hclock, hat.le⟩
    refine h.swept_sent hidle hclock hmine hdevices ?_ hfresh hat (h.room hidle hclock hrows hdelivery)
    exact Notifier.generationIsCurrent_iff.mpr ⟨state', hendpoint ▸ hstate, hgeneration⟩

end Sweeps

variable {disk : Bool}

lemma Sent.task {i : ℕ} (h : w.Sent fingerprint target rows start)
    (hsteady : w.Steady target rows (.task i answer disk)) :
    (w.step host fingerprint (.task i answer disk)).Sent fingerprint target rows start := by
  change Sent fingerprint target rows ⟨w.notifier.step host fingerprint (.task i answer disk), w.clock⟩ start
  rw [Notifier.step]
  cases ht : w.notifier.tasks[i]? with
  | none => exact h
  | some task =>
    dsimp only
    by_cases he : task.job.endpointId = target.endpointId
    · have hmine := mem_mine (List.mem_of_getElem? ht) he
      rw [Notifier.runTask.eq_def]
      cases hphase : task.phase with
      | checking attempt =>
        have hrunning : task.running := by rw [LiveActivityTask.running, hphase]
        dsimp only
        rw [if_pos (h.running task hmine hrunning).1]
        exact h.advanced ht he hrunning rfl
      | posting attempt =>
        have hrunning : task.running := by rw [LiveActivityTask.running, hphase]
        dsimp only
        apply h.advanced ht he hrunning
        rw [RelayAnswer.next.eq_def]
        split
        · split_ifs <;> rfl
        · split_ifs <;> rfl
      | recording verdict =>
        have hrunning : task.running := by rw [LiveActivityTask.running, hphase]
        have hverdict : verdict ≠ .refused .tokenDead := by
          rintro rfl
          exact hsteady task ht he hphase
        dsimp only
        rw [if_pos (.inr (h.running task hmine hrunning).1)]
        exact h.recorded ht he hphase hverdict disk
      | ended recorded =>
        dsimp only
        rw [setPhase_self ht hphase]
        exact h
    · have hothers := Notifier.runTask_others (s := w.notifier) (Ne.symm he) answer disk
      exact h.other ht (Ne.symm he) (Notifier.runTask_tasks answer disk) hothers.1 hothers.2

lemma Sent.step {e : NotifierEvent} (h : w.Sent fingerprint target rows start) (hsteady : w.Steady target rows e) :
    (w.step host fingerprint e).Sent fingerprint target rows start := by
  cases e with
  | sweep overview now sealing => exact h.swept hsteady
  | interest =>
    have hsome : w.notifier.devices.liveActivityTargets ≠ [] := List.ne_nil_of_mem h.registered
    have hstep : w.notifier.step host fingerprint .interest = w.notifier := by
      rw [Notifier.step, Notifier.hasLiveActivityInterest, if_neg hsome]
    change Sent fingerprint target rows ⟨w.notifier.step host fingerprint .interest, w.clock⟩ start
    rw [hstep]
    exact h
  | update | pair | unpair => exact ⟨hsteady, h.clock, h.single, h.running, h.idle⟩
  | task i answer disk => exact h.task hsteady

lemma sent_self (hregistered : target ∈ w.notifier.devices.liveActivityTargets)
    (hidle : w.inFlight target.endpointId = 0) : w.Sent fingerprint target rows w where
  registered := hregistered
  clock := Nat.le_refl _
  single := by omega
  running task ht hrunning := absurd hrunning (not_running_of_inFlight hidle ht)
  idle _ := by
    left
    rw [Within, Nat.sub_self, Nat.zero_div]
    omega

lemma Sent.within (h : w.Sent fingerprint target rows start) : Within start w target.endpointId 1 w.clock := by
  by_cases hidle : w.inFlight target.endpointId = 0
  · rcases h.idle hidle with hwithin | ⟨d, -, hfresh, hwithin⟩
    · rw [Within] at hwithin ⊢
      omega
    · exact hwithin.mono (Nat.le_refl _) hfresh.before
  · obtain ⟨task, ht, hrunning⟩ := List.countP_pos_iff.mp (Nat.pos_of_ne_zero fun hzero => hidle (inFlight_eq.trans hzero))
    obtain ⟨-, hfresh, hwithin⟩ := h.running task ht hrunning
    exact hwithin.mono (Nat.le_refl _) hfresh.before

def Counts (w : Watched) (endpointId : String) (i : ℕ) (w' : Watched) : Prop :=
  ∀ task verdict, w.notifier.tasks[i]? = some task → task.job.endpointId = endpointId →
    task.phase = .recording verdict → verdict.failing →
    (w'.notifier.state endpointId).consecutiveFailures =
      min ((w.notifier.state endpointId).consecutiveFailures + 1) u32Max

lemma Sent.counts {i : ℕ} (h : w.Sent fingerprint target rows start)
    (hsteady : w.Steady target rows (.task i answer disk)) :
    Counts w target.endpointId i (w.step host fingerprint (.task i answer disk)) := by
  intro task verdict ht he hphase hfailing
  have hrunning : task.running := by rw [LiveActivityTask.running, hphase]
  have hverdict : verdict ≠ .refused .tokenDead := by
    rintro rfl
    exact hsteady task ht he hphase
  have hcurrent := (h.running task (mem_mine (List.mem_of_getElem? ht) he) hrunning).1
  have hrecord := (record_current hverdict hcurrent disk).2.2.2 hfailing
  rw [he] at hrecord
  change ((w.notifier.step host fingerprint (.task i answer disk)).state _).consecutiveFailures = _
  rw [← hrecord, Notifier.step, ht]
  dsimp only
  rw [Notifier.runTask.eq_def, hphase]
  rfl

theorem live_activity_sends_bounded (hregistered : target ∈ start.notifier.devices.liveActivityTargets)
    (hidle : start.inFlight target.endpointId = 0)
    (h : Reaches (fun w e => w.step host fingerprint e) (fun w e => w.Steady target rows e) start w) :
    w.jobs target.endpointId + start.failures target.endpointId ≤
        start.jobs target.endpointId + 1 + w.failures target.endpointId +
          (w.clock - start.clock) / liveActivityHeartbeatSeconds ∧
      ∀ i answer disk, w.Steady target rows (.task i answer disk) →
        Counts w target.endpointId i (w.step host fingerprint (.task i answer disk)) := by
  have hsent : w.Sent fingerprint target rows start :=
    h.invariant (P := fun w => w.Sent fingerprint target rows start) (sent_self hregistered hidle) fun _ _ hs ha => hs.step ha
  refine ⟨?_, fun _ _ _ ha => hsent.counts ha⟩
  have hwithin := hsent.within
  rw [Within] at hwithin
  rw [jobs_eq, jobs_eq]
  omega

namespace Sample

open Notifier.Sample

def registered : Watched :=
  ⟨(Notifier.start paired).step "mac" id (.update "phone" (some oldTicket) (some selected) true), 0⟩

def phone : LiveActivityTarget := ⟨"phone", oldTicket, "key", [⟨"session", "Pi", "ciao"⟩]⟩

def answered : List NotifierEvent :=
  [sweepAt 0, .task 0 .unanswered true, .task 0 .unanswered true, .task 0 .unanswered true,
    .task 0 (.status 502 "") true, .task 0 .unanswered true, .task 0 .unanswered true, .task 0 .unanswered true,
    sweepAt 30, sweepAt 61, .task 1 .unanswered true, .task 1 (.status 204 "") true, .task 1 .unanswered true,
    sweepAt 62, sweepAt 961]

def slow : List NotifierEvent :=
  [sweepAt 0, .task 0 .unanswered true, sweepAt 1, .task 1 .unanswered true, sweepAt 2, .task 2 .unanswered true,
    .task 0 (.status 403 "") true]

end Sample

theorem live_activity_sends_bounded_answered :
    (Sample.answered.foldl (fun w e => w.step "mac" id e) Sample.registered).jobs Sample.phone.endpointId = 3 ∧
    (Sample.answered.foldl (fun w e => w.step "mac" id e) Sample.registered).jobs Sample.phone.endpointId +
        Sample.registered.failures Sample.phone.endpointId ≤ Sample.registered.jobs Sample.phone.endpointId + 1 +
      (Sample.answered.foldl (fun w e => w.step "mac" id e) Sample.registered).failures Sample.phone.endpointId +
      ((Sample.answered.foldl (fun w e => w.step "mac" id e) Sample.registered).clock - Sample.registered.clock) /
        liveActivityHeartbeatSeconds := by
  have hrun : Allowed (fun w e => w.step "mac" id e) (fun w e => w.Steady Sample.phone (Sample.phone.rows ∅) e)
      Sample.registered Sample.answered := by decide +kernel
  have hphone : Sample.phone ∈ Sample.registered.notifier.devices.liveActivityTargets := by decide +kernel
  exact ⟨by decide +kernel, (live_activity_sends_bounded hphone (by decide +kernel) (Reaches.refl.of_run hrun)).1⟩

theorem slow_relay_sent_every_sweep :
    ¬ ((Sample.slow.foldl (fun w e => w.step "mac" id e) Sample.registered).jobs "phone" +
        Sample.registered.failures "phone" ≤ Sample.registered.jobs "phone" + 1 +
      (Sample.slow.foldl (fun w e => w.step "mac" id e) Sample.registered).failures "phone" +
      ((Sample.slow.foldl (fun w e => w.step "mac" id e) Sample.registered).clock - Sample.registered.clock) /
        liveActivityHeartbeatSeconds) ∧
    ¬ Counts (Sample.slow.foldl (fun w e => w.step "mac" id e) Sample.registered) "phone" 0
      ((Sample.slow.foldl (fun w e => w.step "mac" id e) Sample.registered).step "mac" id
        (.task 0 .unanswered true)) := by
  refine ⟨by decide +kernel, ?_⟩
  intro hcounts
  have hfirst : ∃ task ∈ (Sample.slow.foldl (fun w e => w.step "mac" id e) Sample.registered).notifier.tasks[0]?,
      task.job.endpointId = "phone" ∧ task.phase = .recording .failed := by decide +kernel
  obtain ⟨task, ht, he, hphase⟩ := hfirst
  exact absurd (hcounts task .failed ht he hphase rfl) (by decide +kernel)

end Watched

end CiaoHost.Notify
