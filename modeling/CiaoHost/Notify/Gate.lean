import CiaoHost.Lib.KeyedMap
import CiaoHost.Lib.SlidingWindow
import CiaoHost.Pairing.Manager

/-! Coalescing and rate limiting of pushes (notify.rs) and of pairing attempts (pairing.rs) over whole
sequences of calls. -/

namespace CiaoHost

open Lib Lib.SlidingWindow

namespace Notify

def coalesceSeconds : ℕ := 60
def rateLimitWindowSeconds : ℕ := 600
def rateLimitPerWindow : ℕ := 12
def maxTrackedSessions : ℕ := 256

structure NotifyGate where
  recent : KeyedMap String ℕ
  window : List ℕ

namespace NotifyGate

def allow (g : NotifyGate) (sessionId : String) (now : ℕ) : NotifyGate × Bool :=
  let recent := g.recent.retain fun _ last => now - last < coalesceSeconds
  let window := g.window.dropWhile fun sent => rateLimitWindowSeconds ≤ now - sent
  if (recent.lookup sessionId).isSome ∨ rateLimitPerWindow ≤ window.length then (⟨recent, window⟩, false)
  else if (recent.lookup sessionId).isNone ∧ maxTrackedSessions ≤ recent.entries.length then (⟨recent, window⟩, false)
  else (⟨recent.insert sessionId now, window ++ [now]⟩, true)

structure Limits (log : List (String × ℕ)) : Prop where
  all : Bounded List.length rateLimitPerWindow rateLimitWindowSeconds log
  each : ∀ sessionId, Bounded (fun l => (timesOf sessionId l).length) 1 coalesceSeconds log

structure Follows (g : NotifyGate) (now : ℕ) (log : List (String × ℕ)) : Prop where
  recent : ∀ sessionId, (g.recent.lookup sessionId).toList = timesOf sessionId (SlidingWindow.recent coalesceSeconds now log)
  window : g.window = (SlidingWindow.recent rateLimitWindowSeconds now log).map Prod.snd

variable {g : NotifyGate} {clock now : ℕ} {log : List (String × ℕ)}

lemma Follows.pruned (h : g.Follows clock log) (hnow : clock ≤ now) (hsorted : log.Pairwise (·.2 ≤ ·.2)) :
    Follows ⟨g.recent.retain fun _ last => now - last < coalesceSeconds,
      g.window.dropWhile fun sent => rateLimitWindowSeconds ≤ now - sent⟩ now log := by
  refine ⟨fun sessionId => ?_, ?_⟩
  · rw [KeyedMap.lookup_retain, ← timesOf_recent hnow, ← h.recent]
    cases g.recent.lookup sessionId with
    | none => rfl
    | some last => by_cases hlast : now - last < coalesceSeconds <;> simp [Option.filter, hlast]
  · have hsent : ((SlidingWindow.recent rateLimitWindowSeconds clock log).map Prod.snd).Pairwise (· ≤ ·) :=
      (hsorted.filter _).map _ fun _ _ hle => hle
    rw [h.window, dropWhile_stale hsent, filter_map_recent hnow]

lemma Follows.tracked_lt (h : g.Follows now log) (hroom : g.window.length < rateLimitPerWindow) :
    g.recent.entries.length < maxTrackedSessions := by
  have hsub : (g.recent.entries.map fun e => (e.1, e.2)) ⊆ SlidingWindow.recent rateLimitWindowSeconds now log := by
    intro e he
    obtain ⟨⟨sessionId, last⟩, hmem, rfl⟩ := List.mem_map.mp he
    have hlast : last ∈ timesOf sessionId (SlidingWindow.recent coalesceSeconds now log) := by
      rw [← h.recent, KeyedMap.mem_entries.mp hmem]
      exact List.mem_singleton_self last
    simp only [mem_timesOf, SlidingWindow.recent, List.mem_filter, decide_eq_true_eq] at hlast ⊢
    exact ⟨hlast.1, hlast.2.trans (by decide)⟩
  have hnodup : (g.recent.entries.map fun e => (e.1, e.2)).Nodup := by
    have hkeys := g.recent.nodupKeys
    exact .of_map Prod.fst (by simpa [List.NodupKeys, List.keys, Function.comp_def] using hkeys)
  have hle := (hnodup.subperm hsub).length_le
  rw [List.length_map] at hle
  rw [h.window, List.length_map] at hroom
  exact (hle.trans_lt hroom).trans (by decide)

lemma limits_snoc {sessionId : String} (hpast : ∀ e ∈ log, e.2 ≤ now) (h : Limits log) :
    Limits (log ++ [(sessionId, now)]) ↔
      (SlidingWindow.recent rateLimitWindowSeconds now log).length < rateLimitPerWindow ∧
        (timesOf sessionId (SlidingWindow.recent coalesceSeconds now log)).length < 1 := by
  have hall := @bounded_snoc _ log now _ _ sessionId _ (fun _ _ => List.Sublist.length_le) (by decide) hpast h.all
  have heach := @bounded_timesOf_snoc _ log now _ _ sessionId _ (by decide) hpast h.each
  rw [List.length_append, List.length_singleton, Nat.succ_le_iff] at hall
  rw [← hall, ← heach]
  exact ⟨fun h => ⟨h.all, h.each⟩, fun h => ⟨h.1, h.2⟩⟩

lemma allow_exact : Metered.Exact allow Follows Limits := by
  intro g clock log sessionId now hpast hsorted hnow hlimits h
  have hpruned := h.pruned hnow hsorted
  have hsnoc := @limits_snoc now log sessionId (fun e he => (hpast e he).trans hnow) hlimits
  rw [← hpruned.recent, ← @List.length_map _ _ _ Prod.snd, ← hpruned.window] at hsnoc
  rw [NotifyGate.allow, hsnoc]
  split
  · next hfull =>
    refine ⟨⟨Bool.noConfusion, ?_⟩, hpruned⟩
    rintro ⟨hroom, hfirst⟩
    rcases hfull with hsome | hfull
    · obtain ⟨last, hlast⟩ := Option.isSome_iff_exists.mp hsome
      rw [hlast] at hfirst
      exact absurd hfirst (lt_irrefl 1)
    · exact absurd hroom (not_lt.mpr hfull)
  · next hopen =>
    obtain ⟨hnone, hroom⟩ := not_or.mp hopen
    rw [Option.not_isSome_iff_eq_none] at hnone
    rw [not_le] at hroom
    rw [if_neg fun hfull => absurd hfull.2 (not_le.mpr (hpruned.tracked_lt hroom))]
    refine ⟨⟨fun _ => ⟨hroom, by rw [hnone]; exact Nat.one_pos⟩, fun _ => rfl⟩, ⟨fun other => ?_, ?_⟩⟩
    · have hkept := hpruned.recent other
      rw [if_pos rfl, recent_append (by decide), timesOf_append, ← hkept, KeyedMap.lookup_insert]
      by_cases hother : other = sessionId
      · simp [hother, hnone]
      · simp [hother, Ne.symm hother]
    · rw [if_pos rfl, recent_append (by decide), List.map_append, ← hpruned.window]
      rfl

end NotifyGate

end Notify

namespace Pairing.PairingRateLimiter

structure Limits (log : List (String × ℕ)) : Prop where
  each : ∀ endpointId, Bounded (fun l => (timesOf endpointId l).length) maxAttemptsPerWindow attemptWindowSecs log
  endpoints : Bounded keyCount maxTrackedRateLimitEndpoints attemptWindowSecs log

structure Follows (l : PairingRateLimiter) (now : ℕ) (log : List (String × ℕ)) : Prop where
  attempts : ∀ endpointId, (l.attempts.lookup endpointId).getD [] = timesOf endpointId (recent attemptWindowSecs now log)
  tracked : ∀ endpointId, l.attempts.lookup endpointId ≠ some []

variable {l : PairingRateLimiter} {clock now : ℕ} {log : List (String × ℕ)}

lemma Follows.pruned (h : l.Follows clock log) (hnow : clock ≤ now) (hsorted : log.Pairwise (·.2 ≤ ·.2)) :
    Follows ⟨KeyedMap.retain (fun _ attempts => attempts ≠ [])
      (l.attempts.mapValues (·.dropWhile fun attempt => attemptWindowSecs ≤ now - attempt))⟩ now log := by
  refine ⟨fun endpointId => ?_, fun endpointId => ?_⟩
  · have hsent : (timesOf endpointId (recent attemptWindowSecs clock log)).Pairwise (· ≤ ·) :=
      timesOf_sorted (hsorted.filter _)
    rw [KeyedMap.lookup_retain, KeyedMap.lookup_mapValues, ← timesOf_recent hnow, ← dropWhile_stale hsent, ← h.attempts]
    cases l.attempts.lookup endpointId with
    | none => rfl
    | some attempts =>
      by_cases hnone : attempts.dropWhile (fun attempt => attemptWindowSecs ≤ now - attempt) = []
      · simp [Option.filter, hnone]
      · simp [Option.filter, hnone]
  · rw [KeyedMap.lookup_retain]
    intro hempty
    simpa using (Option.filter_eq_some_iff.mp hempty).2

lemma Follows.tracked_iff (h : l.Follows now log) (endpointId : String) :
    (l.attempts.lookup endpointId).isSome ↔ endpointId ∈ (recent attemptWindowSecs now log).map Prod.fst := by
  have hattempts := h.attempts endpointId
  have hsome : endpointId ∈ (recent attemptWindowSecs now log).map Prod.fst ↔
      timesOf endpointId (recent attemptWindowSecs now log) ≠ [] := by
    simp [timesOf, List.filter_eq_nil_iff]
  rw [hsome, ← hattempts]
  cases hlookup : l.attempts.lookup endpointId with
  | none => simp
  | some attempts => simpa using fun hnil => h.tracked endpointId (hlookup.trans (congrArg some hnil))

lemma Follows.entries_length (h : l.Follows now log) :
    l.attempts.entries.length = keyCount (recent attemptWindowSecs now log) := by
  have hkeys : l.attempts.keys.toFinset = ((recent attemptWindowSecs now log).map Prod.fst).toFinset := by
    ext endpointId
    rw [List.mem_toFinset, List.mem_toFinset, ← h.tracked_iff]
    exact AList.lookup_isSome.symm
  have hnodup : l.attempts.keys.Nodup := l.attempts.nodupKeys
  rw [keyCount, ← hkeys, List.toFinset_card_of_nodup hnodup]
  exact (List.length_map _).symm

variable {endpointId : String}

lemma limits_snoc (hpast : ∀ e ∈ log, e.2 ≤ now) (h : Limits log) : Limits (log ++ [(endpointId, now)]) ↔
      (timesOf endpointId (recent attemptWindowSecs now log)).length < maxAttemptsPerWindow ∧
        (endpointId ∈ (recent attemptWindowSecs now log).map Prod.fst ∨
          keyCount (recent attemptWindowSecs now log) < maxTrackedRateLimitEndpoints) := by
  have heach := @bounded_timesOf_snoc _ log now _ _ endpointId _ (by decide) hpast h.each
  have hendpoints := @bounded_snoc _ log now _ _ endpointId _ keyCount_mono (by decide) hpast h.endpoints
  rw [← heach, ← @keyCount_append _ _ now _ _ _ (h.endpoints.recent hpast), ← hendpoints]
  exact ⟨fun h => ⟨h.each, h.endpoints⟩, fun h => ⟨h.1, h.2⟩⟩

lemma Follows.insert (h : l.Follows now log) {attempts : List ℕ}
    (hattempts : (l.attempts.lookup endpointId).getD [] = attempts) :
    Follows ⟨l.attempts.insert endpointId (attempts ++ [now])⟩ now (log ++ [(endpointId, now)]) := by
  refine ⟨fun other => ?_, fun other => ?_⟩
  · rw [recent_append (by decide), timesOf_append, ← h.attempts other, KeyedMap.lookup_insert]
    by_cases hother : other = endpointId
    · simp [hother, hattempts]
    · simp [hother, Ne.symm hother]
  · rw [KeyedMap.lookup_insert]
    split
    · simp
    · exact h.tracked other

def attempt (l : PairingRateLimiter) (endpointId : String) (now : ℕ) : PairingRateLimiter × Bool :=
  ((l.check endpointId now).1, (l.check endpointId now).2.isOk)

lemma attempt_exact : Metered.Exact attempt Follows Limits := by
  intro l clock log endpointId now hpast hsorted hnow hlimits h
  have hpruned := h.pruned hnow hsorted
  rw [limits_snoc (fun e he => (hpast e he).trans hnow) hlimits, ← hpruned.tracked_iff, ← hpruned.attempts,
    ← hpruned.entries_length, attempt, check]
  generalize KeyedMap.retain _ _ = tracked at hpruned ⊢
  dsimp only
  split
  · next hnone =>
    split
    · next hfull =>
      rw [hnone]
      refine ⟨⟨Bool.noConfusion, ?_⟩, hpruned⟩
      rintro ⟨-, hsome | hroom⟩
      · cases hsome
      · exact absurd hroom (not_lt.mpr hfull)
    · next hroom =>
      rw [hnone]
      exact ⟨⟨fun _ => ⟨by decide, .inr (not_le.mp hroom)⟩, fun _ => rfl⟩, hpruned.insert (by rw [hnone])⟩
  · next attempts hsome =>
    split
    · next hfull =>
      rw [hsome]
      exact ⟨⟨Bool.noConfusion, fun hroom => absurd hroom.1 (not_lt.mpr hfull)⟩, hpruned⟩
    · next hroom =>
      rw [hsome]
      exact ⟨⟨fun _ => ⟨not_le.mp hroom, .inl rfl⟩, fun _ => rfl⟩, hpruned.insert (by rw [hsome]; rfl)⟩

end Pairing.PairingRateLimiter

open Notify Pairing

theorem sliding_windows_exact {g : Metered NotifyGate String} {l : Metered PairingRateLimiter String}
    (hg : Runs.Reaches (Metered.call NotifyGate.allow) Metered.InOrder ⟨⟨∅, []⟩, [], 0⟩ g)
    (hl : Runs.Reaches (Metered.call PairingRateLimiter.attempt) Metered.InOrder ⟨⟨∅⟩, [], 0⟩ l) :
    (NotifyGate.Limits g.granted ∧ ∀ sessionId now, g.clock ≤ now →
      (g.state.allow sessionId now).2 = false → ¬ NotifyGate.Limits (g.granted ++ [(sessionId, now)])) ∧
    PairingRateLimiter.Limits l.granted ∧ l.state.attempts.entries.length ≤ maxTrackedRateLimitEndpoints ∧
      ∀ endpointId now, l.clock ≤ now → (l.state.check endpointId now).2 ≠ .ok () →
        ¬ PairingRateLimiter.Limits (l.granted ++ [(endpointId, now)]) := by
  have hgate : g.Kept NotifyGate.Follows NotifyGate.Limits := by
    apply Metered.kept_of_reaches NotifyGate.allow_exact _ hg
    exact ⟨nofun, .nil, ⟨fun _ => Nat.zero_le _, fun _ _ => Nat.zero_le _⟩, ⟨fun _ => rfl, rfl⟩⟩
  have hlimiter : l.Kept PairingRateLimiter.Follows PairingRateLimiter.Limits := by
    apply Metered.kept_of_reaches PairingRateLimiter.attempt_exact _ hl
    exact ⟨nofun, .nil, ⟨fun _ _ => Nat.zero_le _, fun _ => Nat.zero_le _⟩, ⟨fun _ => rfl, nofun⟩⟩
  refine ⟨⟨hgate.limits, ?_⟩, hlimiter.limits, ?_, ?_⟩
  · intro sessionId now hnow hrefused hlimits
    rw [← (NotifyGate.allow_exact sessionId now hgate.past hgate.sorted hnow hgate.limits hgate.follows).1] at hlimits
    exact absurd hlimits (hrefused ▸ Bool.false_ne_true)
  · rw [hlimiter.follows.entries_length]
    exact hlimiter.limits.endpoints.recent hlimiter.past
  · intro endpointId now hnow hrefused hlimits
    rw [← (PairingRateLimiter.attempt_exact endpointId now hlimiter.past hlimiter.sorted hnow hlimiter.limits
      hlimiter.follows).1, PairingRateLimiter.attempt] at hlimits
    cases hanswer : (l.state.check endpointId now).2 with
    | ok _ => exact hrefused hanswer
    | error rejection =>
      rw [hanswer] at hlimits
      cases hlimits

namespace Sample

def gated : Metered NotifyGate String :=
  [("s-1", 100), ("s-1", 159), ("s-1", 160)].foldl (Metered.call NotifyGate.allow) ⟨⟨∅, []⟩, [], 0⟩

def attempted : Metered PairingRateLimiter String :=
  ((List.range 10).map fun n => ("phone", 100 + n)).foldl (Metered.call PairingRateLimiter.attempt) ⟨⟨∅⟩, [], 0⟩

end Sample

theorem sliding_windows_exact_refusals : Sample.gated.granted = [("s-1", 100), ("s-1", 160)] ∧
    ¬ NotifyGate.Limits (Sample.gated.granted ++ [("s-1", 200)]) ∧
    Sample.attempted.granted = (List.range 8).map (fun n => ("phone", 100 + n)) ∧
    PairingRateLimiter.Limits Sample.attempted.granted := by
  have hgated : Runs.Allowed (Metered.call NotifyGate.allow) Metered.InOrder ⟨⟨∅, []⟩, [], 0⟩
      [("s-1", 100), ("s-1", 159), ("s-1", 160)] := by decide +kernel
  have hattempted : Runs.Allowed (Metered.call PairingRateLimiter.attempt) Metered.InOrder ⟨⟨∅⟩, [], 0⟩
      ((List.range 10).map fun n => ("phone", 100 + n)) := by decide +kernel
  obtain ⟨⟨-, hrefuses⟩, hlimits, -⟩ := @sliding_windows_exact Sample.gated Sample.attempted
    (Runs.Reaches.refl.of_run hgated) (Runs.Reaches.refl.of_run hattempted)
  exact ⟨by decide +kernel, hrefuses "s-1" 200 (by decide +kernel) (by decide +kernel), by decide +kernel, hlimits⟩

end CiaoHost
