import CiaoHost.Session.RegisterFrame
import CiaoHost.Session.Mappings

/-! Where a session keeps its bridge: operations that leave every session in place, the
registration that brings a bridge along, and the end of an adopted hold. -/

namespace CiaoHost.Session

open Protocol Lib Lib.Checks Lib.KeyedList

variable {sv : Supervisor} {env : Env} {op : Op}

def Op.stationary : Op → Bool
  | .register .. | .registerObserver .. | .disconnect .. | .endObserved .. | .endAdopted .. | .refreshRoute ..
  | .downgradeRoute .. | .removeBinding .. | .sweep => false
  | _ => true

lemma Op.relocates_of_stationary (h : op.stationary) : op.relocates = false := by
  cases op <;> first | rfl | cases h

lemma Op.registration_of_stationary (h : op.stationary) : op.registration = none := by
  cases op <;> first | rfl | cases h

def Settled (s s' : LiveSession) : Prop :=
  SamePlace s s' ∧ s'.snapshot.processGeneration = s.snapshot.processGeneration

lemma Settled.refl (s : LiveSession) : Settled s s := ⟨⟨rfl, rfl, rfl⟩, rfl⟩

namespace Supervisor

def AllSettled (sv sv' : Supervisor) : Prop :=
  ∀ id, Option.Rel Settled (sv.sessions.lookup id) (sv'.sessions.lookup id)

variable {id : String} {sv' : Supervisor} {r : NormalizedRegistration} {sender : Option ℕ}
   {registered : RegisteredAgentSession}

lemma settled_of_eq (h : sv'.sessions.lookup id = sv.sessions.lookup id) :
    Option.Rel Settled (sv.sessions.lookup id) (sv'.sessions.lookup id) := by
  rw [h]
  cases sv.sessions.lookup id with
  | none => exact .none
  | some s => exact .some (.refl s)

lemma AllSettled.refl (sv : Supervisor) : sv.AllSettled sv := fun _ => settled_of_eq rfl

variable {sv'' : Supervisor} {reason : String} {generation : ℕ}

lemma AllSettled.trans (h : sv.AllSettled sv') (h' : sv'.AllSettled sv'') : sv.AllSettled sv'' := by
  intro id
  have hfirst := h id
  have hsecond := h' id
  generalize sv.sessions.lookup id = before at hfirst
  generalize sv'.sessions.lookup id = between at hfirst hsecond
  cases hfirst with
  | none => exact hsecond
  | some hs =>
    cases hafter : sv''.sessions.lookup id with
    | none =>
      rw [hafter] at hsecond
      cases hsecond
    | some s'' =>
      rw [hafter] at hsecond
      cases hsecond with
      | some hs' => exact .some ⟨hs.1.trans hs'.1, hs'.2.trans hs.2⟩

theorem step_settled (hop : op.stationary) : sv.AllSettled (sv.step env op) := by
  intro id
  cases sv.step_change env op id with
  | kept hs _ => exact settled_of_eq hs
  | moved s effect hs hmoved hs' _ _ =>
    rw [hs, hs']
    exact .some ⟨hmoved.place (Op.relocates_of_stationary hop), hmoved.identity.generation⟩
  | removed hs' hleaves =>
    cases hs : sv.sessions.lookup id with
    | none =>
      rw [hs']
      exact .none
    | some s =>
      cases hleaves s hs with
      | exited | unbound | swept => cases hop
      | superseded _ r sender hopr | migrated _ r sender hopr =>
        rw [Op.registration_of_stationary hop] at hopr
        cases hopr
  | installed fenced r sender live mapping h hid =>
    have hregisters := h.registers
    rw [Op.registration_of_stationary hop] at hregisters
    cases hregisters

structure Rests (sv sv' : Supervisor) : Prop where
  settled : sv.AllSettled sv'
  store : sv.metadata.Advances sv'.metadata

lemma Rests.refl (sv : Supervisor) : sv.Rests sv := ⟨.refl sv, .refl _⟩

lemma Rests.trans (h : sv.Rests sv') (h' : sv'.Rests sv'') : sv.Rests sv'' :=
  ⟨h.settled.trans h'.settled, h.store.trans h'.store⟩

theorem step_rests (hop : op.stationary) : sv.Rests (sv.step env op) := by
  refine ⟨step_settled hop, ?_⟩
  cases sv.step_kept env op with
  | advanced h => exact h
  | assigned r sender live fenced hopr =>
    rw [Op.registration_of_stationary hop] at hopr
    cases hopr

lemma Fenced.settled {s s' : LiveSession} (h : Fenced s s') : Settled s s' := by
  rcases h with rfl | ⟨answered, hr, rfl⟩
  · exact .refl _
  · exact ⟨hr.sameHold.place.trans ⟨rfl, rfl, rfl⟩, hr.sameHold.generation⟩

lemma registerNew_refused {e : String}
    (h : (sv.registerNew env r sender).2 = .error e) : sv.AllSettled (sv.registerNew env r sender).1 := by
  rw [registerNew] at h ⊢
  split at h
  · exact .refl sv
  · dsimp only at h ⊢
    split at h
    · next fenced e hfence =>
      rcases fenceSuperseded_cases sv env (sv.mappedSessionId r) with
        ⟨-, heq⟩ | ⟨id', s, effect, -, hs, ⟨e', hsup, heq⟩ | ⟨-, heq⟩⟩
      · cases hfence.symm.trans heq
      · cases hfence.symm.trans heq
        intro id
        by_cases hid : id = id'
        · subst hid
          have hr := (s.supersedeInFlight_issued sv.metadata id env 1 s.inFlightCommands).receipted
          rw [hsup] at hr
          rw [hs, putEffect, put, KeyedMap.lookup_insert_self]
          exact .some ⟨hr.sameHold.place, hr.sameHold.generation⟩
        · exact settled_of_eq (by simp [putEffect, put, hid])
      · cases hfence.symm.trans heq
    · next fenced live hfence =>
      split at h
      · next assigned e' hassign =>
        rw [assignMapping] at hassign
        simp only [Prod.mk.injEq] at hassign
        obtain ⟨rfl, -⟩ := hassign
        intro id
        have hrel := fenced_lookup hfence id
        change Option.Rel Settled (sv.sessions.lookup id) (fenced.sessions.lookup id)
        generalize sv.sessions.lookup id = before at hrel
        generalize fenced.sessions.lookup id = after at hrel
        cases hrel with
        | none => exact .none
        | some hs => exact .some hs.settled
      · cases h

section

variable (h : (sv.registerNew env r sender).2 = .ok registered)

include h

lemma registerNew_others (hid : id ≠ registered.sessionId)
    (hprevious : sv.mappedSessionId r ≠ some id) :
    (sv.registerNew env r sender).1.sessions.lookup id = sv.sessions.lookup id ∨
      (sv.registerNew env r sender).1.sessions.lookup id = none ∧
        ∃ s, sv.sessions.lookup id = some s ∧ s.bridgeSender = none := by
  obtain ⟨fenced, live, mapping, store, hfence, -, rfl, hafter⟩ := registerNew_ok h
  have hkept : fenced.sessions.lookup id = sv.sessions.lookup id := (fenced_other hfence hprevious).1
  rw [hafter, installSession_lookup, if_neg hid]
  by_cases hdisplaced : id ∈ { fenced with metadata := store }.displacedIds r (sv.mappedSessionId r) mapping.sessionId
  · right
    rw [if_pos hdisplaced]
    refine ⟨rfl, ?_⟩
    rcases mem_displacedIds.mp hdisplaced with hsuperseded | ⟨hmapped, -⟩
    · obtain ⟨s, hs, hbridge, -, -⟩ := mem_supersededIds.mp hsuperseded
      exact ⟨s, hkept ▸ hs, hbridge⟩
    · exact absurd hmapped hprevious
  · left
    rw [if_neg hdisplaced]
    exact hkept

lemma registerNew_own :
    ∃ s, (sv.registerNew env r sender).1.sessions.lookup registered.sessionId = some s ∧
      s.snapshot.topology = r.topology ∧ s.bridgeSender = sender ∧
      s.snapshot.processGeneration = registered.processGeneration := by
  obtain ⟨fenced, live, mapping, store, -, -, rfl, hafter⟩ := registerNew_ok h
  rw [hafter, installSession_lookup, if_pos rfl]
  exact ⟨_, rfl, rfl, rfl, rfl⟩

lemma registerNew_adopted (hadopted : r.topology = "adopted") :
    registered.sessionId = r.upstreamIdentity := by
  obtain ⟨fenced, live, mapping, store, -, hassign, rfl, -⟩ := registerNew_ok h
  have hpreferred : (fenced.metadata.registrationClaim r live env.now).preferredSessionId = some r.upstreamIdentity := by
    rw [MetadataStore.registrationClaim, hadopted]
    rfl
  rw [MetadataStore.assign] at hassign
  rcases MetadataStore.register_cases fenced.metadata (fenced.metadata.registrationClaim r live env.now) (env.ids 0)
      env.epoch (env.disk 0) with ⟨e, heq⟩ | ⟨-, ⟨m, -, heq⟩ | ⟨-, heq⟩⟩
  · cases hassign.symm.trans heq
  all_goals
    rw [heq, Prod.mk.injEq] at hassign
    obtain ⟨-, hanswer⟩ := hassign
    cases hdisk : env.disk 0 with
    | error e =>
      rw [hdisk] at hanswer
      cases hanswer
    | ok u =>
      rw [hdisk] at hanswer
      cases hanswer
      simp [MetadataStore.reclaim, MetadataStore.mint, hpreferred]

end

lemma endAdopted_other {other : String} (hother : other ≠ id) :
    (sv.endAdoptedSession env id generation reason).sessions.lookup other = sv.sessions.lookup other := by
  rw [endAdoptedSession]
  cases sv.sessions.lookup id with
  | none => rfl
  | some s =>
    dsimp only
    split
    · rfl
    · exact KeyedMap.lookup_insert_ne hother

lemma endAdopted_own {s : LiveSession}
    (hs : sv.sessions.lookup id = some s) (hgeneration : s.snapshot.processGeneration = generation) {s' : LiveSession}
    (hs' : (sv.endAdoptedSession env id generation reason).sessions.lookup id = some s') :
    s'.snapshot.topology ≠ "adopted" := by
  rw [endAdoptedSession, hs] at hs'
  dsimp only at hs'
  split at hs'
  · next hrefused =>
    rw [hs, Option.some.injEq] at hs'
    subst hs'
    exact hrefused.resolve_right (not_not.mpr hgeneration)
  · have hput : (sv.put id (s.adoptedEnd env.now reason)).sessions.lookup id = some s' := hs'
    rw [put, KeyedMap.lookup_insert_self, Option.some.injEq] at hput
    subst hput
    have hattached : (s.adoptedEnd env.now reason).1.snapshot.topology = "attached" := rfl
    rw [hattached]
    decide

end Supervisor

end CiaoHost.Session
