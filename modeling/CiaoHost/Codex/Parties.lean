import CiaoHost.Codex.Adopt
import CiaoHost.Codex.Quiet
import CiaoHost.Codex.Seating

/-! Calls of `adopt` and loops as the parties that threads have. -/

namespace CiaoHost.Codex

open Protocol Session Lib Lib.Checks

variable {keyedDigest : String → String → String → String} {daemon : ℕ}

def AdoptCall.party (i : ℕ) (call : AdoptCall) : Option (String × Option Seat) :=
  if call.phase.inProgress then
    some (call.params.threadId, call.phase.registered.map fun r => ⟨r.sessionId, r.processGeneration, i⟩)
  else none

def Hold.party (h : Hold) : Option (String × Option Seat) :=
  if h.phase = .ended then none
  else some (h.threadId, some ⟨h.sessionId, h.processGeneration, h.commands⟩)

namespace Adopting

def seating (s : Adopting) : Seating where
  supervisor := s.adoptions.supervisor
  party
    | .call i => s.calls[i]?.bind (AdoptCall.party i)
    | .hold i => s.adoptions.holds[i]?.bind Hold.party

variable {s : Adopting}

lemma bind_set {α β : Type} {l : List α} {i : ℕ} {x : α} (hi : l[i]? = some x) (x' : α) (f : α → Option β) (j : ℕ) :
    (l.set i x')[j]?.bind f = if j = i then f x' else l[j]?.bind f := by
  rw [List.getElem?_set]
  by_cases hj : i = j
  · subst hj
    simp [(List.getElem?_eq_some_iff.mp hi).1]
  · simp [hj, Ne.symm hj]

lemma bind_snoc {α β : Type} (l : List α) (x : α) (f : α → Option β) (j : ℕ) :
    (l ++ [x])[j]?.bind f = if j = l.length then f x else l[j]?.bind f := by
  by_cases hj : j = l.length
  · subst hj
    simp
  · rw [if_neg hj, List.getElem?_append]
    split
    · rfl
    · have hout : l.length ≤ j := by omega
      simp [hout, show j - l.length ≠ 0 by omega]

lemma party_set_call {i : ℕ} {call : AdoptCall} (hi : s.calls[i]? = some call) (a : Adoptions) (call' : AdoptCall)
    (hparty : ∀ j : ℕ, a.holds[j]?.bind Hold.party = s.adoptions.holds[j]?.bind Hold.party) :
    (⟨a, s.calls.set i call'⟩ : Adopting).seating.party =
      Function.update s.seating.party (.call i) (call'.party i) := by
  funext p
  rw [Function.update_apply]
  cases p with
  | call j =>
    simp only [seating, bind_set hi, Party.call.injEq]
    split_ifs with hj
    · rw [hj]
    · rfl
  | hold j => exact hparty j

lemma party_append_call (s : Adopting) (call : AdoptCall) :
    (⟨s.adoptions, s.calls ++ [call]⟩ : Adopting).seating.party =
      Function.update s.seating.party (.call s.calls.length) (call.party s.calls.length) := by
  funext p
  rw [Function.update_apply]
  cases p with
  | call j =>
    simp only [seating, bind_snoc, Party.call.injEq]
    split_ifs with hj
    · rw [hj]
    · rfl
  | hold j => rfl

lemma party_congr {h h' : Hold} (hid : h'.identity = h.identity) (hended : h'.phase = .ended ↔ h.phase = .ended) :
    h'.party = h.party := by
  simp only [Hold.identity, Prod.mk.injEq] at hid
  obtain ⟨hsession, hgeneration, hthread, hcommands⟩ := hid
  rw [Hold.party, Hold.party, hsession, hgeneration, hthread, hcommands]
  simp only [hended]

lemma party_same {a b : Adoptions} (hsame : a.Same b) (i : ℕ) :
    b.holds[i]?.bind Hold.party = a.holds[i]?.bind Hold.party := by
  cases hb : b.holds[i]? with
  | none =>
    have ha : a.holds[i]? = none := by
      rw [List.getElem?_eq_none_iff] at hb ⊢
      rw [← hsame.length]
      exact hb
    rw [ha]
  | some x =>
    obtain ⟨y, hy, hview⟩ := hsame.hold hb
    simp only [Hold.view, Prod.mk.injEq] at hview
    rw [hy]
    exact party_congr hview.1 (by rw [hview.2.1])

lemma party_set_hold {i : ℕ} {h : Hold} (hi : s.adoptions.holds[i]? = some h) (h' : Hold) {a : Adoptions}
    (hholds : ∀ j : ℕ, a.holds[j]?.bind Hold.party = (s.adoptions.holds.set i h')[j]?.bind Hold.party) :
    (⟨a, s.calls⟩ : Adopting).seating.party = Function.update s.seating.party (.hold i) h'.party := by
  funext p
  rw [Function.update_apply]
  cases p with
  | call j => rfl
  | hold j => simp only [seating, hholds, bind_set hi, Party.hold.injEq]

lemma party_append_hold (s : Adopting) {a : Adoptions} {h : Hold} (hholds : a.holds = s.adoptions.holds ++ [h]) :
    (⟨a, s.calls⟩ : Adopting).seating.party =
      Function.update s.seating.party (.hold s.adoptions.holds.length) h.party := by
  funext p
  rw [Function.update_apply]
  cases p with
  | call j => rfl
  | hold j => simp only [seating, hholds, bind_snoc, Party.hold.injEq]

end Adopting

namespace AdoptCall

def Sane (names : String → String) (params : AdoptParams) : AdoptPhase → Prop
  | .registering _ _ _ r => r.topology = "adopted" ∧ r.upstreamIdentity = names params.threadId
  | .publishing _ _ _ ops => ∀ op ∈ ops, op.stationary
  | _ => True

lemma surfaceUpdates_stationary (sessionId : String) (models : ModelSurface) :
    ∀ op ∈ surfaceUpdates sessionId models, op.stationary := by
  intro op hop
  rw [surfaceUpdates, List.mem_append, List.mem_append] at hop
  rcases hop with (hop | hop) | hop
  · rw [Option.mem_toList, Option.map_eq_some_iff] at hop
    obtain ⟨model, -, rfl⟩ := hop
    rfl
  · rw [Option.mem_toList, Option.map_eq_some_iff] at hop
    obtain ⟨effort, -, rfl⟩ := hop
    rfl
  · split at hop
    · cases hop
    · rw [List.mem_singleton.mp hop]
      rfl

end AdoptCall

end CiaoHost.Codex
