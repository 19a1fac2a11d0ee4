import CiaoHost.Session.Outcomes

/-! The outcome of a registration, through its three lock sections. -/

namespace CiaoHost.Session

open Protocol Lib Lib.Checks

namespace Supervisor

variable {sv : Supervisor} {env : Env} {op : Op}

lemma fenceSuperseded_cases (sv : Supervisor) (env : Env) (mapped : Option String) :
    ((∀ id ∈ mapped, sv.sessions.lookup id = none) ∧ sv.fenceSuperseded env mapped = (sv, .ok none)) ∨
    ∃ id s effect, mapped = some id ∧ sv.sessions.lookup id = some s ∧
      ((∃ e, LiveSession.supersedeInFlight id env 1 s sv.metadata s.inFlightCommands = (effect, .error e) ∧
          sv.fenceSuperseded env mapped = (sv.putEffect id effect, .error e)) ∨
        (LiveSession.supersedeInFlight id env 1 s sv.metadata s.inFlightCommands = (effect, .ok ()) ∧
          sv.fenceSuperseded env mapped =
            (sv.putEffect id { effect with session := { effect.session with inFlightCommands := [] } },
              .ok (some effect.session.snapshot.revision)))) := by
  cases mapped with
  | none => exact .inl ⟨by simp, rfl⟩
  | some id =>
    cases hs : sv.sessions.lookup id with
    | none => exact .inl ⟨by simpa using hs, by simp [fenceSuperseded, hs]⟩
    | some s =>
      obtain ⟨effect, answer, hfence⟩ : ∃ effect answer,
          LiveSession.supersedeInFlight id env 1 s sv.metadata s.inFlightCommands = (effect, answer) := ⟨_, _, rfl⟩
      refine .inr ⟨id, s, effect, rfl, hs, ?_⟩
      cases answer with
      | error e => exact .inl ⟨e, hfence, by simp [fenceSuperseded, hs, hfence]⟩
      | ok u => exact .inr ⟨hfence, by simp [fenceSuperseded, hs, hfence]⟩

def Fenced (s s' : LiveSession) : Prop :=
  s' = s ∨ ∃ answered, s.Receipted answered ∧ s' = { answered with inFlightCommands := [] }

variable {mapped : Option String} {fenced : Supervisor} {live : Option ℕ} {id sessionId : String}
   {r : NormalizedRegistration}

section

variable (h : sv.fenceSuperseded env mapped = (fenced, .ok live))

include h

lemma fenced_lookup (id : String) :
    Option.Rel Fenced (sv.sessions.lookup id) (fenced.sessions.lookup id) := by
  have hsame : Option.Rel Fenced (sv.sessions.lookup id) (sv.sessions.lookup id) := by
    cases sv.sessions.lookup id with
    | none => exact .none
    | some s => exact .some (.inl rfl)
  rcases fenceSuperseded_cases sv env mapped with ⟨-, heq⟩ | ⟨id', s, effect, -, hs, ⟨e, -, heq⟩ | ⟨hsup, heq⟩⟩
  · rw [h, Prod.mk.injEq] at heq
    exact heq.1 ▸ hsame
  · rw [h, Prod.mk.injEq] at heq
    cases heq.2
  · rw [h, Prod.mk.injEq] at heq
    rw [heq.1]
    by_cases hid : id = id'
    · subst hid
      have hr := (s.supersedeInFlight_issued sv.metadata id env 1 s.inFlightCommands).receipted
      rw [hsup] at hr
      rw [hs]
      rw [putEffect, put, KeyedMap.lookup_insert_self]
      exact .some (.inr ⟨_, hr, rfl⟩)
    · simpa [putEffect, put, hid] using hsame

lemma fenced_other (hid : mapped ≠ some id) :
    fenced.sessions.lookup id = sv.sessions.lookup id ∧ fenced.framesOf id = sv.framesOf id := by
  rcases fenceSuperseded_cases sv env mapped with ⟨-, heq⟩ | ⟨id', s, effect, hmapped, -, ⟨e, -, heq⟩ | ⟨-, heq⟩⟩
  · rw [h, Prod.mk.injEq] at heq
    rw [heq.1]
    exact ⟨rfl, rfl⟩
  · simp [h] at heq
  · rw [h, Prod.mk.injEq] at heq
    have hne : id ≠ id' := fun heq => hid (heq ▸ hmapped)
    rw [heq.1]
    exact ⟨by simp [putEffect, put, hne], by simp [framesOf, putEffect, put, hne.symm]⟩

end

lemma Fenced.kept {s s' : LiveSession} (h : Fenced s s') : s'.bridgeSender = s.bridgeSender ∧
    s'.processId = s.processId ∧ s'.toTimeline = s.toTimeline ∧
    s'.snapshot.processGeneration = s.snapshot.processGeneration ∧
    s'.snapshot.snapshotEpoch = s.snapshot.snapshotEpoch := by
  rcases h with rfl | ⟨answered, ⟨revision, receipts, now, rfl⟩, rfl⟩
  · exact ⟨rfl, rfl, rfl, rfl, rfl⟩
  · exact ⟨rfl, rfl, rfl, rfl, rfl⟩

lemma mem_supersededIds :
    id ∈ sv.supersededIds r sessionId ↔ ∃ s, sv.sessions.lookup id = some s ∧ s.bridgeSender = none ∧
      s.processId = r.processId ∧ id ≠ sessionId := by
  simp only [supersededIds, List.mem_map, List.mem_filter, decide_eq_true_eq]
  constructor
  · rintro ⟨⟨id, s⟩, ⟨hmem, hs⟩, rfl⟩
    exact ⟨s, KeyedMap.mem_entries.mp hmem, hs⟩
  · rintro ⟨s, hlookup, hs⟩
    exact ⟨⟨id, s⟩, ⟨KeyedMap.mem_entries.mpr hlookup, hs⟩, rfl⟩

lemma mem_displacedIds : id ∈ sv.displacedIds r mapped sessionId ↔
      id ∈ sv.supersededIds r sessionId ∨ mapped = some id ∧ id ≠ sessionId := by
  cases mapped with
  | none => simp [displacedIds]
  | some previousId =>
    by_cases hid : previousId = sessionId
    · simp only [displacedIds, Option.filter, hid, ne_eq, not_true_eq_false, decide_false, Bool.false_eq_true,
        if_false, Option.toList_none, List.append_nil, Option.some.injEq]
      exact ⟨.inl, fun h => h.resolve_right fun ⟨heq, hne⟩ => hne heq.symm⟩
    · simp only [displacedIds, Option.filter, hid, ne_eq, not_false_eq_true, decide_true, if_true,
        Option.toList_some, List.mem_append, List.mem_singleton, Option.some.injEq]
      exact or_congr_right ⟨fun h => ⟨h.symm, h ▸ hid⟩, fun h => h.1.symm⟩

lemma not_mem_displacedIds : sessionId ∉ sv.displacedIds r mapped sessionId := by
  rw [mem_displacedIds, mem_supersededIds]
  rintro (⟨s, -, -, -, h⟩ | ⟨-, h⟩) <;> exact h rfl

section

variable (r : NormalizedRegistration) (sender : Option ℕ) (mapped : Option String) (mapping : IdentityMapping) (snapshot : AgentSessionSnapshot)

lemma installSession_lookup (id : String) :
    (sv.installSession env r sender mapped mapping snapshot).sessions.lookup id =
      if id = mapping.sessionId then some (registeredSession r sender (env.ids 1) env.now snapshot
        (sv.inheritedTimeline mapping))
      else if id ∈ sv.displacedIds r mapped mapping.sessionId then none else sv.sessions.lookup id := by
  have hinherited : ((sv.displacedIds r mapped mapping.sessionId).foldl (removeSession · env.now) sv).inheritedTimeline
      mapping = sv.inheritedTimeline mapping := by
    unfold inheritedTimeline
    rw [removeAll_lookup, if_neg not_mem_displacedIds]
  simp only [installSession, dropRoute, KeyedMap.lookup_insert, hinherited, removeAll_lookup]

lemma installSession_quiet :
    (sv.installSession env r sender mapped mapping snapshot).published = sv.published ∧
      (sv.installSession env r sender mapped mapping snapshot).metadata = sv.metadata ∧
      (sv.installSession env r sender mapped mapping snapshot).carriedHistory = sv.carriedHistory :=
  removeAll_quiet ..

end

variable {sender : Option ℕ}

lemma displaced_leaves (sv : Supervisor) (hop : op.registration = some (r, sender))
        (hfence : sv.fenceSuperseded env (sv.mappedSessionId r) = (fenced, .ok live))
    (hid : id ∈ fenced.displacedIds r (sv.mappedSessionId r) sessionId) {s : LiveSession}
    (hs : sv.sessions.lookup id = some s) : Leaves sv.metadata env id s op := by
  rcases mem_displacedIds.mp hid with hid | ⟨hmapped, -⟩
  · obtain ⟨s', hs', hbridge, hprocess, -⟩ := mem_supersededIds.mp hid
    have hrel := fenced_lookup hfence id
    rw [hs, hs'] at hrel
    cases hrel with
    | some hrel =>
      obtain ⟨hb, hp, -⟩ := hrel.kept
      exact .superseded op r sender hop (hb ▸ hbridge) (hp ▸ hprocess)
  · exact .migrated op r sender hop hmapped

lemma registerNew_outcome (ended : KeyedMap String ℕ) (hop : op.registration = some (r, sender)) :
    Outcome sv env op ({ sv with ended := ended }.registerNew env r sender).1 := by
  unfold registerNew
  split
  · exact .quiet rfl rfl rfl fun _ _ => .inl
  · next hr =>
    dsimp only
    split
    · next fenced e hfence =>
      rcases fenceSuperseded_cases { sv with ended := ended } env (mappedSessionId { sv with ended := ended } r) with
        ⟨-, heq⟩ | ⟨id, s, effect, hmapped, hs, ⟨e', hsup, heq⟩ | ⟨-, heq⟩⟩
      · simp [hfence] at heq
      · rw [hfence, Prod.mk.injEq] at heq
        have hm : (LiveSession.supersedeInFlight id env 1 s sv.metadata s.inFlightCommands).1 = effect := by
          rw [hsup]
        rw [heq.1]
        exact .put id s effect hs (hm ▸ .fenced op r sender e' hop hr hmapped (by rw [hsup])) rfl rfl rfl fun _ _ => .inl
      · simp [hfence] at heq
    · next fenced live hfence =>
      split
      · next sv' e hassign =>
        rw [assignMapping] at hassign
        simp only [Prod.mk.injEq] at hassign
        obtain ⟨rfl, herror⟩ := hassign
        rcases fenceSuperseded_cases { sv with ended := ended } env (mappedSessionId { sv with ended := ended } r) with
          ⟨hnone, heq⟩ | ⟨id, s, effect, hmapped, hs, ⟨e', -, heq⟩ | ⟨hsup, heq⟩⟩
        · rw [hfence, Prod.mk.injEq, Except.ok.injEq] at heq
          obtain ⟨rfl, rfl⟩ := heq
          exact .unassigned r sender hop hr hnone rfl rfl rfl rfl
        · simp [hfence] at heq
        · rw [hfence, Prod.mk.injEq, Except.ok.injEq] at heq
          obtain ⟨rfl, rfl⟩ := heq
          exact .put id s _ hs (.unassigned op r sender e effect hop hr hmapped hsup herror) rfl rfl rfl fun _ _ => .inl
      · next sv' mapping hassign =>
        rw [assignMapping] at hassign
        simp only [Prod.mk.injEq] at hassign
        obtain ⟨rfl, hok⟩ := hassign
        refine .registered fenced r sender live mapping ⟨hop, hr, ⟨ended, hfence⟩, ?_, ?_, fun id hid => ?_, ?_, ?_⟩
        · rw [(installSession_quiet ..).2.1, ← hok]
        · rw [installSession_lookup, if_pos rfl, (installSession_quiet ..).2.1]
          rfl
        · rw [installSession_lookup, if_neg hid]
          split
          · next hdisplaced =>
            exact .inr ⟨rfl, fun s hs => displaced_leaves { sv with ended := ended } hop hfence hdisplaced hs⟩
          · next hdisplaced =>
            have hmapped : sv.mappedSessionId r ≠ some id := fun heq =>
              hdisplaced (mem_displacedIds.mpr (.inr ⟨heq, hid⟩))
            exact .inl ⟨hmapped, (fenced_other hfence hmapped).1⟩
        · exact (installSession_quiet ..).1
        · rw [(installSession_quiet ..).2.2]
          rcases fenceSuperseded_cases { sv with ended := ended } env
              (mappedSessionId { sv with ended := ended } r) with
            ⟨-, heq⟩ | ⟨id, s, effect, -, -, ⟨e', -, heq⟩ | ⟨-, heq⟩⟩
          · rw [hfence, Prod.mk.injEq] at heq
            rw [heq.1]
          · simp [hfence] at heq
          · rw [hfence, Prod.mk.injEq] at heq
            rw [heq.1]
            rfl

lemma refreshObserverRegistration_cases (sv : Supervisor) (env : Env)
    (hr : r.validate = .ok ()) (hcommands : r.capabilities.commands = .none) :
    (∃ ended, sv.refreshObserverRegistration env r = ({ sv with ended := ended }, .ok none)) ∨
      (Outcome sv env (.registerObserver r) (sv.refreshObserverRegistration env r).1 ∧
        (sv.refreshObserverRegistration env r).2 ≠ .ok none) := by
  unfold refreshObserverRegistration
  split
  · exact .inl ⟨_, rfl⟩
  · next sessionId generation epoch hmapped =>
    cases hs : sv.sessions.lookup sessionId with
    | none => exact .inl ⟨_, rfl⟩
    | some s =>
      by_cases hother : s.snapshot.processGeneration ≠ generation ∨ s.snapshot.snapshotEpoch ≠ epoch
      · simp only [if_pos hother]
        exact .inl ⟨_, rfl⟩
      · simp only [if_neg hother]
        rw [not_or, not_not, not_not] at hother
        obtain ⟨rfl, rfl⟩ := hother
        have hmoved : Moved sv.metadata (sv.carriedHistory.lookup sessionId) env sessionId s
            (.registerObserver r) _ := .observed r hr hcommands hmapped
        right
        by_cases hframes : (s.observe env r).2 = []
        · simp only [hframes, if_true] at hmoved ⊢
          exact ⟨.put sessionId s _ hs hmoved rfl rfl rfl fun _ _ => .inl, by simp⟩
        · simp only [hframes, if_false] at hmoved ⊢
          refine ⟨.put sessionId s _ hs hmoved rfl rfl rfl fun _ _ => .inl, ?_⟩
          simp only [put, Except.map, ne_eq]
          split <;> simp

lemma registerObserver_outcome (r : NormalizedRegistration) :
    Outcome sv env (.registerObserver r) (sv.registerObserver env r).1 := by
  have hop : (Op.registerObserver r).registration = some (r, none) := rfl
  unfold registerObserver
  split
  · exact still_outcome
  · next hr =>
    split
    · exact still_outcome
    · next hcommands =>
      rcases refreshObserverRegistration_cases sv env hr (not_not.mp hcommands) with ⟨ended, heq⟩ | ⟨hout, hne⟩
      · rw [heq]
        exact registerNew_outcome ended hop
      · split
        · next heq =>
          rw [heq] at hout
          exact hout
        · next heq =>
          rw [heq] at hout
          exact hout
        · next heq => exact absurd (by rw [heq]) hne

end Supervisor

end CiaoHost.Session
