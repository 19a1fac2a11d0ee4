import CiaoHost.Lib.Runs

/-! Logs of granted calls, what lies in a window of them, and limits on every window. -/

namespace CiaoHost.Lib.SlidingWindow

variable {K : Type}

def recent (width now : ℕ) (log : List (K × ℕ)) : List (K × ℕ) := log.filter fun e => now - e.2 < width

/-- What falls into the half-open interval from `start`. -/
def window (width start : ℕ) (log : List (K × ℕ)) : List (K × ℕ) :=
  log.filter fun e => start ≤ e.2 ∧ e.2 < start + width

def Bounded (measure : List (K × ℕ) → ℕ) (limit width : ℕ) (log : List (K × ℕ)) : Prop :=
  ∀ start, measure (window width start log) ≤ limit

def timesOf [DecidableEq K] (k : K) (log : List (K × ℕ)) : List ℕ := (log.filter (·.1 = k)).map Prod.snd

def keyCount [DecidableEq K] (log : List (K × ℕ)) : ℕ := (log.map Prod.fst).toFinset.card

variable {log : List (K × ℕ)} {now now' limit width : ℕ} {k k' : K}

lemma dropWhile_stale {times : List ℕ} (h : times.Pairwise (· ≤ ·)) :
    times.dropWhile (fun t => width ≤ now - t) = times.filter fun t => now - t < width := by
  induction times with
  | nil => rfl
  | cons t times ih =>
    obtain ⟨hfirst, hrest⟩ := List.pairwise_cons.mp h
    by_cases ht : width ≤ now - t
    · simp [ht, ih hrest, not_lt.mpr ht]
    · have hkept : ∀ t' ∈ t :: times, now - t' < width := by
        intro t' ht'
        rcases List.mem_cons.mp ht' with rfl | ht'
        · omega
        · have hle := hfirst t' ht'
          omega
      rw [List.dropWhile_cons_of_neg (by simpa using ht), List.filter_eq_self.mpr (by simpa using hkept)]

lemma recent_recent (h : now ≤ now') : recent width now' (recent width now log) = recent width now' log := by
  rw [recent, recent, List.filter_filter]
  apply List.filter_congr
  intro e _
  rw [Bool.eq_iff_iff]
  simp only [Bool.and_eq_true, decide_eq_true_eq]
  omega

lemma filter_map_recent (h : now ≤ now') :
    ((recent width now log).map Prod.snd).filter (fun t => now' - t < width) = (recent width now' log).map Prod.snd := by
  rw [List.filter_map, ← recent_recent h]
  rfl

lemma recent_append (hwidth : 0 < width) :
    recent width now (log ++ [(k, now)]) = recent width now log ++ [(k, now)] := by
  rw [recent, List.filter_append, List.filter_cons_of_pos (by simpa using hwidth), List.filter_nil]
  rfl

lemma window_eq_recent (hpast : ∀ e ∈ log, e.2 ≤ now) :
    window width (now + 1 - width) log = recent width now log := by
  apply List.filter_congr
  intro e he
  have hle := hpast e he
  rw [decide_eq_decide]
  omega

section

variable {measure : List (K × ℕ) → ℕ}

lemma Bounded.recent (h : Bounded measure limit width log) (hpast : ∀ e ∈ log, e.2 ≤ now) :
    measure (recent width now log) ≤ limit :=
  window_eq_recent hpast ▸ h _

/-- A log stays within its limit when a call at its end does so with what is recent then. -/
lemma bounded_snoc (hmono : ∀ l l', l.Sublist l' → measure l ≤ measure l') (hwidth : 0 < width)
    (hpast : ∀ e ∈ log, e.2 ≤ now) (h : Bounded measure limit width log) :
    Bounded measure limit width (log ++ [(k, now)]) ↔ measure (recent width now log ++ [(k, now)]) ≤ limit := by
  constructor
  · intro hall
    have hpast' : ∀ e ∈ log ++ [(k, now)], e.2 ≤ now := by
      simpa [or_imp, forall_and] using hpast
    exact recent_append hwidth ▸ hall.recent hpast'
  · intro hlast start
    by_cases hin : start ≤ now ∧ now < start + width
    · refine (hmono _ _ ?_).trans hlast
      rw [window, List.filter_append, List.filter_cons_of_pos (by simpa using hin), List.filter_nil]
      apply List.Sublist.append_right
      apply List.monotone_filter_right
      intro e he
      rw [decide_eq_true_eq] at he ⊢
      omega
    · rw [window, List.filter_append, List.filter_cons_of_neg (by simpa using hin), List.filter_nil, List.append_nil]
      exact h start

end

variable [DecidableEq K]

lemma timesOf_append : timesOf k (log ++ [(k', now)]) = timesOf k log ++ if k' = k then [now] else [] := by
  rw [timesOf, List.filter_append, List.map_append, List.filter_singleton]
  split <;> simp_all [timesOf]

lemma timesOf_recent (h : now ≤ now') :
    (timesOf k (recent width now log)).filter (fun t => now' - t < width) = timesOf k (recent width now' log) := by
  have hcomm : ∀ now, (recent width now log).filter (·.1 = k) = recent width now (log.filter (·.1 = k)) :=
    fun _ => List.filter_comm ..
  rw [timesOf, timesOf, hcomm, hcomm]
  exact filter_map_recent h

lemma timesOf_sorted (h : log.Pairwise (·.2 ≤ ·.2)) : (timesOf k log).Pairwise (· ≤ ·) :=
  (h.filter _).map _ fun _ _ hle => hle

lemma bounded_timesOf_snoc (hwidth : 0 < width) (hpast : ∀ e ∈ log, e.2 ≤ now)
    (h : ∀ k, Bounded (fun l => (timesOf k l).length) limit width log) :
    (∀ k', Bounded (fun l => (timesOf k' l).length) limit width (log ++ [(k, now)])) ↔
      (timesOf k (recent width now log)).length < limit := by
  have hmono : ∀ k' (l l' : List (K × ℕ)), l.Sublist l' → (timesOf k' l).length ≤ (timesOf k' l').length :=
    fun k' l l' hsub => ((hsub.filter _).map _).length_le
  have hone := fun k' => @bounded_snoc K log now limit width k _ (hmono k') hwidth hpast (h k')
  simp only [hone, timesOf_append]
  constructor
  · intro hall
    simpa using hall k
  · intro hlt k'
    by_cases hk : k = k'
    · simpa [hk] using hk ▸ hlt
    · simpa [hk] using (h k').recent hpast

lemma keyCount_append (h : keyCount log ≤ limit) :
    keyCount (log ++ [(k, now)]) ≤ limit ↔ k ∈ log.map Prod.fst ∨ keyCount log < limit := by
  have hinsert : keyCount (log ++ [(k, now)]) = (insert k (log.map Prod.fst).toFinset).card := by
    rw [keyCount, List.map_append, List.toFinset_append, Finset.union_comm]
    rfl
  rw [hinsert]
  by_cases hmem : k ∈ log.map Prod.fst
  · rw [Finset.card_insert_of_mem (List.mem_toFinset.mpr hmem)]
    exact ⟨fun _ => .inl hmem, fun _ => h⟩
  · rw [Finset.card_insert_of_notMem (mt List.mem_toFinset.mp hmem)]
    exact ⟨.inr, fun hroom => hroom.resolve_left hmem⟩

lemma keyCount_mono (l l' : List (K × ℕ)) (h : l.Sublist l') : keyCount l ≤ keyCount l' :=
  Finset.card_le_card fun _ hk => List.mem_toFinset.mpr ((h.map _).subset (List.mem_toFinset.mp hk))

lemma mem_timesOf {t : ℕ} : t ∈ timesOf k log ↔ (k, t) ∈ log := by
  simp [timesOf]

end CiaoHost.Lib.SlidingWindow

namespace CiaoHost.Lib

/-- A check with its state, the calls it has granted and the time of the last one. -/
structure Metered (S K : Type) where
  state : S
  granted : List (K × ℕ)
  clock : ℕ

namespace Metered

variable {S K : Type}

def call (check : S → K → ℕ → S × Bool) (m : Metered S K) (c : K × ℕ) : Metered S K where
  state := (check m.state c.1 c.2).1
  granted := if (check m.state c.1 c.2).2 then m.granted ++ [c] else m.granted
  clock := c.2

def InOrder (m : Metered S K) (c : K × ℕ) : Prop := m.clock ≤ c.2

instance (m : Metered S K) (c : K × ℕ) : Decidable (m.InOrder c) := inferInstanceAs (Decidable (_ ≤ _))

/-- Where the log is in order, within the limits and what the state follows, the check grants what
the limits allow and nothing else, and its state goes on following the log. -/
def Exact (check : S → K → ℕ → S × Bool) (Follows : S → ℕ → List (K × ℕ) → Prop) (Limits : List (K × ℕ) → Prop) : Prop :=
  ∀ {state clock log} k now, (∀ e ∈ log, e.2 ≤ clock) → log.Pairwise (·.2 ≤ ·.2) → clock ≤ now → Limits log →
    Follows state clock log → ((check state k now).2 ↔ Limits (log ++ [(k, now)])) ∧
      Follows (check state k now).1 now (if (check state k now).2 then log ++ [(k, now)] else log)

structure Kept (Follows : S → ℕ → List (K × ℕ) → Prop) (Limits : List (K × ℕ) → Prop) (m : Metered S K) : Prop where
  past : ∀ e ∈ m.granted, e.2 ≤ m.clock
  sorted : m.granted.Pairwise (·.2 ≤ ·.2)
  limits : Limits m.granted
  follows : Follows m.state m.clock m.granted

variable {check : S → K → ℕ → S × Bool} {Follows : S → ℕ → List (K × ℕ) → Prop} {Limits : List (K × ℕ) → Prop}

lemma Kept.call (hexact : Exact check Follows Limits) {m : Metered S K} {c : K × ℕ} (h : m.Kept Follows Limits)
    (hc : m.InOrder c) : (m.call check c).Kept Follows Limits := by
  obtain ⟨hgrants, hfollows⟩ := hexact c.1 c.2 h.past h.sorted hc h.limits h.follows
  have hpast : ∀ e ∈ m.granted, e.2 ≤ c.2 := fun e he => (h.past e he).trans hc
  rw [Metered.call]
  split at hfollows
  · next hgranted =>
    rw [if_pos hgranted]
    refine ⟨by simpa [or_imp, forall_and] using hpast, ?_, hgrants.mp hgranted, hfollows⟩
    simpa [List.pairwise_append, h.sorted] using fun k t he => hpast (k, t) he
  · next hrefused =>
    rw [if_neg hrefused]
    exact ⟨hpast, h.sorted, h.limits, hfollows⟩

lemma kept_of_reaches (hexact : Exact check Follows Limits) {start m : Metered S K} (h0 : start.Kept Follows Limits)
    (h : Runs.Reaches (call check) InOrder start m) : m.Kept Follows Limits :=
  h.invariant h0 fun _ _ hkept hc => hkept.call hexact hc

end Metered

end CiaoHost.Lib
