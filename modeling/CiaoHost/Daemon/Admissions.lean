import CiaoHost.Lib.KeyedMap

/-! The connections the daemon counts against its caps, by endpoint and in total (daemon.rs). -/

namespace CiaoHost.Daemon

open Lib

def maxNormalConnections : ℕ := 16

def maxNormalConnectionsPerEndpoint : ℕ := 2

structure ConnectionAdmissions where
  byEndpoint : KeyedMap String (Finset ℕ)
  total : ℕ

namespace ConnectionAdmissions

def empty : ConnectionAdmissions := ⟨∅, 0⟩

variable (a : ConnectionAdmissions) (endpoint : String) (token : ℕ)

def held : Finset ℕ := (a.byEndpoint.lookup endpoint).getD ∅

def tryAddWithLimits (globalLimit endpointLimit : ℕ) : Option ConnectionAdmissions :=
  if globalLimit ≤ a.total ∨ endpointLimit ≤ (a.held endpoint).card then none
  else some ⟨a.byEndpoint.insert endpoint (insert token (a.held endpoint)), a.total + 1⟩

def tryAdd : Option ConnectionAdmissions :=
  a.tryAddWithLimits endpoint token maxNormalConnections maxNormalConnectionsPerEndpoint

def remove : ConnectionAdmissions :=
  match a.byEndpoint.lookup endpoint with
  | none => a
  | some tokens =>
    ⟨if tokens.erase token = ∅ then a.byEndpoint.erase endpoint
      else a.byEndpoint.insert endpoint (tokens.erase token),
      if token ∈ tokens then a.total - 1 else a.total⟩

def evictEndpoint : ConnectionAdmissions × Finset ℕ :=
  match a.byEndpoint.lookup endpoint with
  | none => (a, ∅)
  | some tokens => (⟨a.byEndpoint.erase endpoint, a.total - tokens.card⟩, tokens)

def admitOrEvict : ConnectionAdmissions × Finset ℕ × Bool :=
  match a.tryAdd endpoint token with
  | some a' => (a', ∅, true)
  | none =>
    if (a.evictEndpoint endpoint).2 = ∅ then ((a.evictEndpoint endpoint).1, ∅, false)
    else
      match (a.evictEndpoint endpoint).1.tryAdd endpoint token with
      | none => ((a.evictEndpoint endpoint).1, (a.evictEndpoint endpoint).2, false)
      | some a' => (a', (a.evictEndpoint endpoint).2, true)

def tokenCount : ℕ := a.byEndpoint.sumBy Finset.card

structure Counted : Prop where
  total : a.total = a.tokenCount
  global : a.total ≤ maxNormalConnections
  perEndpoint : ∀ endpoint, (a.held endpoint).card ≤ maxNormalConnectionsPerEndpoint

lemma empty_counted : empty.Counted where
  total := rfl
  global := Nat.zero_le _
  perEndpoint endpoint := by simp [held, empty]

@[simp] lemma held_empty : empty.held endpoint = ∅ := by simp [held, empty]

variable {a endpoint token} {a' : ConnectionAdmissions}

lemma card_held : (a.held endpoint).card = ((a.byEndpoint.lookup endpoint).map Finset.card).getD 0 := by
  rw [held]
  cases a.byEndpoint.lookup endpoint <;> rfl

lemma tokenCount_erase (a : ConnectionAdmissions) (endpoint : String) :
    (a.byEndpoint.erase endpoint).sumBy Finset.card + (a.held endpoint).card = a.tokenCount := by
  rw [card_held]
  exact KeyedMap.sumBy_erase _ _ _

lemma held_tryAdd (h : a.tryAdd endpoint token = some a') (e : String) :
    a'.held e = if e = endpoint then insert token (a.held endpoint) else a.held e := by
  rw [tryAdd, tryAddWithLimits] at h
  split at h
  · cases h
  · cases h
    rw [held, KeyedMap.lookup_insert]
    split
    · rfl
    · rfl

lemma held_evictEndpoint (e : String) :
    (a.evictEndpoint endpoint).1.held e = if e = endpoint then ∅ else a.held e := by
  rw [evictEndpoint]
  cases htokens : a.byEndpoint.lookup endpoint with
  | none =>
    by_cases he : e = endpoint
    · simp [he, held, htokens]
    · simp [he]
  | some tokens =>
    by_cases he : e = endpoint
    · simp [he, held]
    · simp [he, held]

@[simp] lemma evicted_eq_held : (a.evictEndpoint endpoint).2 = a.held endpoint := by
  rw [evictEndpoint, held]
  cases a.byEndpoint.lookup endpoint <;> rfl

lemma evictEndpoint_total (a : ConnectionAdmissions) (endpoint : String) :
    (a.evictEndpoint endpoint).1.total = a.total - (a.held endpoint).card := by
  rw [evictEndpoint, held]
  cases a.byEndpoint.lookup endpoint <;> rfl

lemma held_remove (e : String) :
    (a.remove endpoint token).held e = if e = endpoint then (a.held endpoint).erase token else a.held e := by
  rw [remove]
  cases htokens : a.byEndpoint.lookup endpoint with
  | none =>
    by_cases he : e = endpoint
    · simp [he, held, htokens]
    · simp [he]
  | some tokens =>
    by_cases he : e = endpoint
    · subst he
      by_cases hempty : tokens.erase token = ∅
      · simp [held, htokens, hempty]
      · simp [held, htokens, hempty]
    · rw [if_neg he]
      by_cases hempty : tokens.erase token = ∅
      · simp [held, hempty, he]
      · simp [held, hempty, he]

lemma Counted.tryAdd (hc : a.Counted) (hfresh : token ∉ a.held endpoint) (h : a.tryAdd endpoint token = some a') :
    a'.Counted := by
  have hheld := held_tryAdd h
  rw [ConnectionAdmissions.tryAdd, tryAddWithLimits] at h
  split at h
  · cases h
  · next hroom =>
    rw [not_or, Nat.not_le, Nat.not_le] at hroom
    cases h
    refine ⟨?_, hroom.1, ?_⟩
    · have herase := tokenCount_erase a endpoint
      have htotal := hc.total
      change a.total + 1 = KeyedMap.sumBy _ (a.byEndpoint.insert _ _)
      rw [KeyedMap.sumBy_insert, Finset.card_insert_of_notMem hfresh]
      omega
    · intro e
      rw [hheld]
      split
      · rw [Finset.card_insert_of_notMem hfresh]
        exact hroom.2
      · exact hc.perEndpoint e

lemma Counted.evictEndpoint (hc : a.Counted) : (a.evictEndpoint endpoint).1.Counted := by
  refine ⟨?_, ?_, ?_⟩
  · have herase := tokenCount_erase a endpoint
    have htotal := hc.total
    rw [ConnectionAdmissions.evictEndpoint]
    rw [held] at herase
    cases htokens : a.byEndpoint.lookup endpoint with
    | none => exact htotal
    | some tokens =>
      rw [htokens, Option.getD_some] at herase
      change a.total - tokens.card = (a.byEndpoint.erase endpoint).sumBy Finset.card
      omega
  · rw [evictEndpoint_total]
    exact Nat.le_trans (Nat.sub_le _ _) hc.global
  · intro e
    rw [held_evictEndpoint]
    split
    · exact Nat.zero_le _
    · exact hc.perEndpoint e

lemma Counted.remove (hc : a.Counted) : (a.remove endpoint token).Counted := by
  refine ⟨?_, ?_, ?_⟩
  · have herase := tokenCount_erase a endpoint
    have htotal := hc.total
    rw [ConnectionAdmissions.remove]
    rw [held] at herase
    cases htokens : a.byEndpoint.lookup endpoint with
    | none => exact htotal
    | some tokens =>
      rw [htokens, Option.getD_some] at herase
      have hrest : tokenCount ⟨if tokens.erase token = ∅ then a.byEndpoint.erase endpoint
          else a.byEndpoint.insert endpoint (tokens.erase token), 0⟩ =
          (tokens.erase token).card + KeyedMap.sumBy Finset.card (a.byEndpoint.erase endpoint) := by
        split
        · next hempty => rw [hempty, Finset.card_empty, Nat.zero_add]; rfl
        · exact KeyedMap.sumBy_insert _ _ _ _
      change (if token ∈ tokens then a.total - 1 else a.total) = tokenCount _
      refine Eq.trans ?_ hrest.symm
      split
      · next hmem =>
        have hcard := Finset.card_erase_add_one hmem
        omega
      · next hmem =>
        rw [Finset.erase_eq_of_notMem hmem]
        omega
  · have hglobal := hc.global
    rw [ConnectionAdmissions.remove]
    cases a.byEndpoint.lookup endpoint with
    | none => exact hglobal
    | some tokens =>
      dsimp only
      split
      · exact Nat.le_trans (Nat.sub_le _ _) hglobal
      · exact hglobal
  · intro e
    rw [held_remove]
    split
    · exact Nat.le_trans (Finset.card_le_card (Finset.erase_subset _ _)) (hc.perEndpoint endpoint)
    · exact hc.perEndpoint e

inductive Admitted (a : ConnectionAdmissions) (endpoint : String) (token : ℕ) :
    ConnectionAdmissions × Finset ℕ × Bool → Prop
  | refused {a' : ConnectionAdmissions} : a'.Counted → a.held endpoint = ∅ → (∀ e, a'.held e = a.held e) →
      Admitted a endpoint token (a', ∅, false)
  | beside {a' : ConnectionAdmissions} : a'.Counted →
      (∀ e, a'.held e = if e = endpoint then insert token (a.held endpoint) else a.held e) →
      Admitted a endpoint token (a', ∅, true)
  | superseding {a' : ConnectionAdmissions} : a'.Counted → a.held endpoint ≠ ∅ →
      (∀ e, a'.held e = if e = endpoint then {token} else a.held e) →
      Admitted a endpoint token (a', a.held endpoint, true)

lemma retry_admits (token : ℕ) (hc : a.Counted) (hheld : a.held endpoint ≠ ∅) :
    ∃ a', (a.evictEndpoint endpoint).1.tryAdd endpoint token = some a' := by
  have hfreed := evictEndpoint_total a endpoint
  have hpos := Finset.card_pos.mpr (Finset.nonempty_iff_ne_empty.mpr hheld)
  have hglobal := hc.global
  rw [tryAdd, tryAddWithLimits, if_neg]
  · exact ⟨_, rfl⟩
  · rw [held_evictEndpoint, if_pos rfl]
    simp only [maxNormalConnections, maxNormalConnectionsPerEndpoint, Finset.card_empty] at hglobal ⊢
    omega

lemma admitOrEvict_admitted (hc : a.Counted) (hfresh : token ∉ a.held endpoint) :
    Admitted a endpoint token (a.admitOrEvict endpoint token) := by
  rw [admitOrEvict]
  cases hadd : a.tryAdd endpoint token with
  | some a' => exact .beside (hc.tryAdd hfresh hadd) (held_tryAdd hadd)
  | none =>
    dsimp only
    rw [evicted_eq_held]
    by_cases hempty : a.held endpoint = ∅
    · rw [if_pos hempty]
      apply Admitted.refused hc.evictEndpoint hempty
      intro e
      rw [held_evictEndpoint]
      split
      · next he => rw [he, hempty]
      · rfl
    · obtain ⟨a', ha'⟩ := retry_admits token hc hempty
      rw [if_neg hempty, ha']
      have hnone : (a.evictEndpoint endpoint).1.held endpoint = ∅ := by rw [held_evictEndpoint, if_pos rfl]
      apply Admitted.superseding (hc.evictEndpoint.tryAdd (by simp [hnone]) ha') hempty
      intro e
      rw [held_tryAdd ha', hnone]
      split
      · rfl
      · next he => rw [held_evictEndpoint, if_neg he]

end ConnectionAdmissions

end CiaoHost.Daemon
