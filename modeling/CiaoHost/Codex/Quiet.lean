import CiaoHost.Codex.Adoptions
import CiaoHost.Session.Bridged

/-! Until a loop ends its session, everything it does leaves the sessions in their places. -/

namespace CiaoHost.Codex

open Protocol Session Lib Lib.Checks

variable {keyedDigest : String → String → String → String}

def HoldEffect.quiet : HoldEffect → Bool
  | .supervisor op => op.stationary
  | .requestRelease .. => true
  | .removeClaim _ => false

namespace Hold

lemma onNotification_stationary (session : String) (tracking : TurnTracking) (now : ℕ) (notification : Notification) :
    ∀ op ∈ (onNotification keyedDigest session tracking now notification).2, op.stationary := by
  cases notification with
  | turnStarted turnId | turnEnded turnId status => simp [onNotification, Op.stationary]
  | item item complete =>
    intro op hop
    rw [onNotification] at hop
    simp only [Option.mem_toList, Option.map_eq_some_iff] at hop
    obtain ⟨entry, -, rfl⟩ := hop
    rfl
  | agentMessageDelta itemId delta =>
    rw [onNotification]
    dsimp only
    split
    · simp
    · simp [Op.stationary]
  | other => simp [onNotification]

lemma wake_quiet (h : Hold) (sv : Supervisor) (env : Env) (signal : Signal) (hgo : h.phase.hasLetGo = false)
    {effect : HoldEffect} (heffect : effect ∈ (h.wake keyedDigest sv env h.phase signal).2) :
    effect.quiet ∨ effect = .removeClaim h.threadId := by
  have hwoke := wake_woke keyedDigest sv env h signal
  generalize h.wake keyedDigest sv env h.phase signal = result at hwoke heffect
  cases hwoke with
  | heeds =>
    obtain ⟨op, hop, rfl⟩ := List.mem_map.mp heffect
    exact .inl (onNotification_stationary _ _ _ _ op hop)
  | rejects | fails =>
    rw [List.mem_singleton.mp heffect]
    exact .inl rfl
  | raises | foreign | resolves =>
    rcases List.mem_cons.mp heffect with rfl | hsecond
    · exact .inl rfl
    · rw [List.mem_singleton.mp hsecond]
      exact .inl rfl
  | applies ops before settings =>
    rcases List.mem_append.mp heffect with hsetting | hreceipt
    · obtain ⟨op, hop, rfl⟩ := List.mem_map.mp hsetting
      obtain ⟨model, rfl⟩ | ⟨effort, rfl⟩ := settings op hop <;> exact .inl rfl
    · rw [List.mem_singleton.mp hreceipt]
      exact .inl rfl
  | letsGo => exact .inr (List.mem_singleton.mp heffect)
  | ends before =>
    rw [before] at hgo
    cases hgo
  | _ => exact absurd heffect List.not_mem_nil

end Hold

namespace Adoptions

variable {a : Adoptions}

lemma requestRelease_supervisor (a : Adoptions) (threadId : String) (reason : ReleaseReason) :
    (a.requestRelease threadId reason).supervisor = a.supervisor := by
  rw [requestRelease]
  split <;> rfl

lemma foldl_carryOut_rests (env : Env) (a : Adoptions) {effects : List HoldEffect} (hquiet : ∀ effect ∈ effects, effect.quiet) :
    a.supervisor.Rests (effects.foldl (carryOut env) a).supervisor := by
  induction effects generalizing a with
  | nil => exact .refl _
  | cons effect effects ih =>
    have hfirst : a.supervisor.Rests (a.carryOut env effect).supervisor := by
      have hq := hquiet effect List.mem_cons_self
      cases effect with
      | supervisor op => exact Supervisor.step_rests hq
      | requestRelease threadId reason =>
        rw [carryOut, requestRelease_supervisor]
        exact .refl _
      | removeClaim threadId => cases hq
    exact hfirst.trans (ih _ fun effect' hmem => hquiet effect' (List.mem_cons_of_mem _ hmem))

lemma wake_claimed {i : ℕ} {env : Env} {signal : Signal} {threadId : String} {handle : AdoptionHandle}
    (h : (a.wake keyedDigest i env signal).registry.lookup threadId = some handle) :
    a.registry.lookup threadId = some handle := by
  rw [Adoptions.wake] at h
  cases hi : a.holds[i]? with
  | none =>
    rw [hi] at h
    exact h
  | some hold =>
    rw [hi] at h
    dsimp only at h
    rcases hold.wake_cases keyedDigest a.supervisor env signal with
      ⟨-, hstays⟩ | ⟨reason, -, hwake⟩ | ⟨reason, -, hwake⟩ | ⟨-, hwake⟩
    · rw [(foldl_carryOut_same env _ hstays.claim).1] at h
      exact h
    · rw [hwake] at h
      exact (KeyedMap.lookup_erase_some h).2
    · rw [hwake] at h
      exact h
    · rw [hwake] at h
      exact h

end Adoptions

end CiaoHost.Codex
