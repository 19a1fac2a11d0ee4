import CiaoHost.Codex.Adoptions

/-! Where a hold's reasons to yield come from. -/

namespace CiaoHost.Codex

open Protocol Session Lib

def HoldPhase.looks : HoldPhase → Bool
  | watching | probing .. => true
  | _ => false

def HoldPhase.ending : HoldPhase → Option ReleaseReason
  | interrupting reason | yielding reason | leaving reason | stopping reason => some reason
  | _ => none

variable {reason : ReleaseReason}

namespace Hold

def Pending (h : Hold) (reason : ReleaseReason) : Prop :=
  h.phase.ending = some reason ∨ reason ∈ h.release ∨ h.deferredRelease.map Prod.fst = some reason

def Sees (h : Hold) (signal : Signal) : Prop :=
  ∃ first second, signal = .probed first second ∧ h.phase.looks = true ∧
    foreignRolloutHolder h.ownChild first second = true

structure Considers (h : Hold) (signal : Signal) (result : Hold × List HoldEffect) : Prop where
  child : result.1.ownChild = h.ownChild
  reasons : ∀ reason, result.1.Pending reason → reason.isYield = true → h.Pending reason ∨ h.Sees signal
  asks : ∀ threadId reason, .requestRelease threadId reason ∈ result.2 → threadId = h.threadId ∧ h.Sees signal

variable {h h' : Hold} {signal : Signal} {effects : List HoldEffect}

lemma Considers.on (hchild : h'.ownChild = h.ownChild) (hrelease : h'.release = h.release)
    (hdeferred : h'.deferredRelease = h.deferredRelease) (hending : h'.phase.ending = none)
    (hasks : ∀ threadId reason, .requestRelease threadId reason ∉ effects) :
    h.Considers signal (h', effects) := by
  refine ⟨hchild, ?_, ?_⟩
  · rintro reason (hphase | hlist | hlater) -
    · rw [hending] at hphase
      cases hphase
    · exact .inl (.inr (.inl (hrelease ▸ hlist)))
    · exact .inl (.inr (.inr (hdeferred ▸ hlater)))
  · intro threadId reason hmem
    exact absurd hmem (hasks threadId reason)

lemma Considers.out (hchild : h'.ownChild = h.ownChild) (hrelease : h'.release ⊆ h.release)
    (hdeferred : h'.deferredRelease = h.deferredRelease) (hending : h'.phase.ending = some reason)
    (hreason : reason.isYield = true → h.Pending reason ∨ h.Sees signal) :
    h.Considers signal (h', []) := by
  refine ⟨hchild, ?_, by simp⟩
  rintro other (hphase | hlist | hlater) hyield
  · rw [hending, Option.some.injEq] at hphase
    subst hphase
    exact hreason hyield
  · exact .inl (.inr (.inl (hrelease hlist)))
  · exact .inl (.inr (.inr (hdeferred ▸ hlater)))

variable {base : Hold}

lemma Leaves.considers (hleaves : h.Leaves signal base reason)
    (hchild : h'.ownChild = base.ownChild) (hrelease : h'.release = base.release)
    (hdeferred : h'.deferredRelease = base.deferredRelease) (hending : h'.phase.ending = some reason) :
    h.Considers signal (h', []) := by
  cases hleaves with
  | deferred before deferred =>
    exact .out hchild (by rw [hrelease]; exact List.Subset.refl _) hdeferred hending
      fun _ => .inl (.inr (.inr (by simp [deferred])))
  | lost before | closed before =>
    exact .out hchild (by rw [hrelease]; exact List.Subset.refl _) hdeferred hending nofun
  | @requested reason rest before release =>
    have hmore : rest ⊆ h.release := release ▸ List.subset_cons_self reason rest
    exact .out hchild (by rw [hrelease]; exact hmore) hdeferred hending
      fun _ => .inl (.inr (.inl (by rw [release]; exact List.mem_cons_self)))
  | seen before foreign =>
    exact .out hchild (by rw [hrelease]; exact List.Subset.refl _) hdeferred hending
      fun _ => .inr ⟨_, _, rfl, by rw [before]; rfl, foreign⟩
  | interrupted before =>
    exact .out hchild (by rw [hrelease]; exact List.Subset.refl _) hdeferred hending
      fun _ => .inl (.inl (by rw [before]; rfl))

lemma Composed.considers {command : AgentCommand} {text : String}
    (hcomposed : h.Composed command text signal base) (hchild : h'.ownChild = base.ownChild)
    (hrelease : h'.release = base.release) (hdeferred : h'.deferredRelease = base.deferredRelease)
    (hending : h'.phase.ending = none) : h.Considers signal (h', []) := by
  cases hcomposed with
  | probed | noted => exact .on hchild hrelease hdeferred hending (by simp)

lemma wake_considers (keyedDigest : String → String → String → String) (sv : Supervisor) (env : Env)
    (signal : Signal) : h.Considers signal (h.wake keyedDigest sv env h.phase signal) := by
  have hwoke := wake_woke keyedDigest sv env h signal
  generalize h.wake keyedDigest sv env h.phase signal = result at hwoke ⊢
  cases hwoke with
  | idle => exact ⟨rfl, fun _ hpending _ => .inl hpending, by simp⟩
  | waits | watches | heeds | refuses | raises | takes | asks | answers | rejects | clears | notes | retries | fails
  | applies | resolves | ends => exact .on rfl rfl rfl rfl (by simp [rejected, applied, receipt])
  | @putsOff requested rest before release waits =>
    refine ⟨rfl, ?_, by simp⟩
    rintro reason (hending | hlist | hlater) hyield
    · cases hending
    · exact .inl (.inr (.inl (release ▸ List.mem_cons_of_mem requested hlist)))
    · -- what is put off is no yield
      cases hdeferred : h.deferredRelease with
      | none =>
        rw [hdeferred] at hlater
        obtain rfl : requested = reason := by simpa using hlater
        exact absurd hyield waits
      | some deferred =>
        rw [hdeferred] at hlater
        exact .inl (.inr (.inr (by rw [hdeferred]; exact hlater)))
  | interrupts before deferred => exact (Leaves.deferred before deferred).considers rfl rfl rfl rfl
  | leaves cause | yields cause => exact cause.considers rfl rfl rfl rfl
  | starts ready | steers ready => exact ready.considers rfl rfl rfl rfl
  | foreign before foreign =>
    have hsees : h.Sees (.probed _ _) := ⟨_, _, rfl, by rw [before]; rfl, foreign⟩
    refine ⟨rfl, fun _ _ _ => .inr hsees, ?_⟩
    intro threadId reason hmem
    simp only [receipt, List.mem_cons, reduceCtorEq, HoldEffect.requestRelease.injEq, List.not_mem_nil, or_false,
      false_or] at hmem
    exact ⟨hmem.1, hsees⟩
  | yielded before =>
    exact .out rfl (List.Subset.refl _) rfl rfl fun _ => .inl (.inl (by rw [before]; rfl))
  | letsGo before =>
    refine ⟨rfl, ?_, by simp⟩
    rintro other hpending -
    rw [Pending, before]
    exact .inl hpending

lemma offer_pending (h : Hold) (reason : ReleaseReason) : (h.offer reason).ownChild = h.ownChild ∧
      ∀ other, (h.offer reason).Pending other → h.Pending other ∨ other = reason := by
  rw [offer]
  split
  · refine ⟨rfl, ?_⟩
    rintro other (hphase | hlist | hlater)
    · exact .inl (.inl hphase)
    · rcases List.mem_append.mp hlist with hold | hnew
      · exact .inl (.inr (.inl hold))
      · exact .inr (List.mem_singleton.mp hnew)
    · exact .inl (.inr (.inr hlater))
  · exact ⟨rfl, fun _ hpending => .inl hpending⟩

end Hold

namespace Adoptions

variable {a b c : Adoptions} {new : ℕ → Prop}

structure Adds (new : ℕ → Prop) (a b : Adoptions) : Prop where
  registry : ∀ threadId handle, b.registry.lookup threadId = some handle → a.registry.lookup threadId = some handle
  holds : ∀ (j : ℕ) h', b.holds[j]? = some h' → ∃ h, a.holds[j]? = some h ∧ h'.ownChild = h.ownChild ∧
    ∀ reason, h'.Pending reason → reason.isYield = true → h.Pending reason ∨ new j

lemma Adds.refl (a : Adoptions) : a.Adds new a :=
  ⟨fun _ _ hlookup => hlookup, fun _ h' hj => ⟨h', hj, rfl, fun _ hpending _ => .inl hpending⟩⟩

lemma Adds.trans (hab : a.Adds new b) (hbc : b.Adds new c) : a.Adds new c := by
  refine ⟨fun threadId handle hlookup => hab.registry _ _ (hbc.registry _ _ hlookup), ?_⟩
  intro j h'' hj
  obtain ⟨h', hj', hchild', hpending'⟩ := hbc.holds j h'' hj
  obtain ⟨h, hj, hchild, hpending⟩ := hab.holds j h' hj'
  refine ⟨h, hj, hchild'.trans hchild, ?_⟩
  intro reason hreason hyield
  rcases hpending' reason hreason hyield with hold | hnew
  · exact hpending reason hold hyield
  · exact .inr hnew

lemma requestRelease_adds (a : Adoptions) (threadId : String)
    (hnew : reason.isYield = true → ∀ handle, a.registry.lookup threadId = some handle → new handle.release) :
    a.Adds new (a.requestRelease threadId reason) := by
  rw [requestRelease]
  split
  · exact .refl a
  · rename_i handle hlookup
    refine ⟨fun _ _ h => h, ?_⟩
    intro j h' hj
    rw [List.getElem?_modify] at hj
    obtain ⟨h, hh, rfl⟩ := Option.map_eq_some_iff.mp hj
    refine ⟨h, hh, ?_⟩
    by_cases hrelease : handle.release = j
    · obtain ⟨hchild, hpending⟩ := h.offer_pending reason
      rw [if_pos hrelease]
      refine ⟨hchild, ?_⟩
      intro other hother hyield
      rcases hpending other hother with hold | rfl
      · exact .inl hold
      · exact .inr (hrelease ▸ hnew hyield handle hlookup)
    · rw [if_neg hrelease]
      exact ⟨rfl, fun _ hpending _ => .inl hpending⟩

lemma carryOut_adds (env : Env) (a : Adoptions) {effect : HoldEffect}
    (hnew : ∀ threadId reason, effect = .requestRelease threadId reason →
      ∀ handle, a.registry.lookup threadId = some handle → new handle.release) :
    a.Adds new (a.carryOut env effect) := by
  have hrefl : a.Adds new a := .refl a
  cases effect with
  | supervisor op => exact ⟨hrefl.registry, hrefl.holds⟩
  | requestRelease threadId reason => exact a.requestRelease_adds threadId fun _ => hnew threadId reason rfl
  | removeClaim threadId =>
    refine ⟨?_, hrefl.holds⟩
    intro other handle hlookup
    exact (KeyedMap.lookup_erase_some hlookup).2

lemma foldl_carryOut_adds (env : Env) (a : Adoptions) {effects : List HoldEffect}
    (hnew : ∀ threadId reason, .requestRelease threadId reason ∈ effects →
      ∀ handle, a.registry.lookup threadId = some handle → new handle.release) :
    a.Adds new (effects.foldl (carryOut env) a) := by
  induction effects generalizing a with
  | nil => exact .refl a
  | cons effect effects ih =>
    have hfirst : a.Adds new (a.carryOut env effect) := by
      apply a.carryOut_adds env
      rintro threadId reason rfl
      exact hnew threadId reason List.mem_cons_self
    apply hfirst.trans
    apply ih
    intro threadId reason hmem handle hlookup
    exact hnew threadId reason (List.mem_cons_of_mem _ hmem) handle (hfirst.registry _ _ hlookup)

lemma looks_not_letGo {phase : HoldPhase} (h : phase.looks = true) : phase.hasLetGo = false := by
  cases phase <;> first | rfl | cases h

lemma Held.wake_adds (hheld : a.Held) (keyedDigest : String → String → String → String) {i : ℕ} (env : Env)
    (signal : Signal) :
    a.Adds (fun j => ∃ h, a.holds[i]? = some h ∧ j = i ∧ h.Sees signal) (a.wake keyedDigest i env signal) := by
  rw [Adoptions.wake]
  cases hi : a.holds[i]? with
  | none => exact .refl a
  | some h =>
    dsimp only
    have hconsiders := Hold.wake_considers (h := h) keyedDigest a.supervisor env signal
    generalize h.wake keyedDigest a.supervisor env h.phase signal = result at hconsiders
    obtain ⟨h', effects⟩ := result
    have hset : a.Adds (fun j => ∃ x, some h = some x ∧ j = i ∧ x.Sees signal)
        { a with holds := a.holds.set i h' } := by
      refine ⟨fun _ _ hlookup => hlookup, ?_⟩
      intro j x hj
      dsimp only at hj
      by_cases hij : i = j
      · subst hij
        rw [List.getElem?_set_self (List.getElem?_eq_some_iff.mp hi).1, Option.some.injEq] at hj
        subst hj
        refine ⟨h, hi, hconsiders.child, ?_⟩
        intro reason hpending hyield
        rcases hconsiders.reasons reason hpending hyield with hold | hsees
        · exact .inl hold
        · exact .inr ⟨h, rfl, rfl, hsees⟩
      · rw [List.getElem?_set_ne hij] at hj
        exact ⟨x, hj, rfl, fun _ hpending _ => .inl hpending⟩
    apply hset.trans
    apply foldl_carryOut_adds
    intro threadId reason hmem handle hlookup
    obtain ⟨rfl, hsees⟩ := hconsiders.asks threadId reason hmem
    -- a loop that looks still has the claim on its thread
    obtain ⟨first, second, -, hlooks, -⟩ := id hsees
    obtain ⟨own, hown, hrelease⟩ := hheld.claims i h hi (looks_not_letGo hlooks)
    obtain rfl : own = handle := by
      rw [hown] at hlookup
      exact Option.some.inj hlookup
    exact ⟨h, rfl, hrelease, hsees⟩

end Adoptions

end CiaoHost.Codex
