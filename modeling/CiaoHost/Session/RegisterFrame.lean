import CiaoHost.Session.Frames

/-! What registering one conversation leaves of the others. -/

namespace CiaoHost.Session

open Protocol Lib Lib.Checks

variable {sv : Supervisor} {env : Env} {op : Op}

variable {routeId : String} {s : LiveSession}

namespace Supervisor

def registrationAnswer (sv : Supervisor) (env : Env) : Op → Option RegisteredAgentSession
  | .register r sender => (sv.registerNew env r (some sender)).2.toOption
  | .registerObserver r => (sv.registerObserver env r).2.toOption
  | _ => none

lemma ok_of_toOption {ε α : Type} {e : Except ε α} {a : α} (h : e.toOption = some a) : e = .ok a := by
  cases e with
  | error e => cases h
  | ok b =>
    cases h
    rfl

def Untouched (sv sv' : Supervisor) (id : String) (s : LiveSession) : Prop :=
  sv'.sessions.lookup id = some s ∧ ∀ routeId ∈ s.routeId, sv'.routes.lookup routeId = sv.routes.lookup routeId

def RoutesApart (sv : Supervisor) : Prop :=
  ∀ id id' s s' routeId, sv.sessions.lookup id = some s → sv.sessions.lookup id' = some s' →
    s.routeId = some routeId → s'.routeId = some routeId → id = id'

variable {id : String} {r : NormalizedRegistration} {registered : RegisteredAgentSession}

lemma removeSession_routes {now : ℕ} (h : ∀ s, sv.sessions.lookup id = some s → s.routeId ≠ some routeId) :
    (sv.removeSession now id).routes.lookup routeId = sv.routes.lookup routeId := by
  rw [removeSession]
  cases hs : sv.sessions.lookup id with
  | none => rfl
  | some s =>
    cases hr : s.routeId with
    | none => simp [hr]
    | some other =>
      have hne : routeId ≠ other := by
        rintro rfl
        exact h s hs hr
      simp [hr, hne]

lemma removeAll_routes (now : ℕ) {ids : List String}
    (h : ∀ id ∈ ids, ∀ s, sv.sessions.lookup id = some s → s.routeId ≠ some routeId) :
    (ids.foldl (removeSession · now) sv).routes.lookup routeId = sv.routes.lookup routeId := by
  induction ids generalizing sv with
  | nil => rfl
  | cons id ids ih =>
    rw [List.foldl_cons, ih]
    · exact removeSession_routes (h id List.mem_cons_self)
    · intro other hother s hs
      rw [removeSession_lookup] at hs
      split at hs
      · cases hs
      · exact h other (List.mem_cons_of_mem _ hother) s hs

lemma fenced_routes {mapped : Option String} {fenced : Supervisor} {live : Option ℕ}
    (h : sv.fenceSuperseded env mapped = (fenced, .ok live)) :
    fenced.routes = sv.routes ∧ ∀ id s', fenced.sessions.lookup id = some s' →
      ∃ s, sv.sessions.lookup id = some s ∧ s'.routeId = s.routeId ∧ s'.bridgeSender = s.bridgeSender ∧
        s'.processId = s.processId := by
  constructor
  · rcases fenceSuperseded_cases sv env mapped with ⟨-, heq⟩ | ⟨id, s, effect, -, -, ⟨e, -, heq⟩ | ⟨-, heq⟩⟩
    · rw [h, Prod.mk.injEq] at heq
      rw [heq.1]
    · simp [h] at heq
    · rw [h, Prod.mk.injEq] at heq
      rw [heq.1]
      rfl
  · intro id s' hs'
    have hrel := fenced_lookup h id
    rw [hs'] at hrel
    generalize sv.sessions.lookup id = before at hrel
    cases hrel with
    | some hfenced =>
      refine ⟨_, rfl, ?_, hfenced.kept.1, hfenced.kept.2.1⟩
      rcases hfenced with rfl | ⟨answered, hreceipted, rfl⟩
      · rfl
      · exact hreceipted.sameHold.routeId

variable {sender : Option ℕ}

lemma registerNew_ok (h : (sv.registerNew env r sender).2 = .ok registered) :
    ∃ fenced live mapping store, sv.fenceSuperseded env (sv.mappedSessionId r) = (fenced, .ok live) ∧
      fenced.metadata.assign env r live = (store, .ok mapping) ∧
      registered = ⟨mapping.sessionId, mapping.processGeneration, mapping.snapshotEpoch, env.ids 1⟩ ∧
      (sv.registerNew env r sender).1 =
        { fenced with metadata := store }.installSession env r sender (sv.mappedSessionId r) mapping
          (registrationSnapshot r env mapping (store.receiptsFor mapping.sessionId mapping.processGeneration
            mapping.snapshotEpoch)) := by
  rw [registerNew] at h ⊢
  split at h
  · cases h
  · dsimp only at h ⊢
    split at h
    · cases h
    · next fenced live hfence =>
      split at h
      · cases h
      · next assigned mapping hassign =>
        rw [assignMapping] at hassign
        simp only [Prod.mk.injEq] at hassign
        obtain ⟨rfl, hanswer⟩ := hassign
        cases h
        exact ⟨fenced, live, mapping, _, hfence, Prod.ext rfl hanswer, rfl, rfl⟩

lemma RoutesApart.registerNew_frame (hroutes : sv.RoutesApart) (h : (sv.registerNew env r sender).2 = .ok registered)
    (hs : sv.sessions.lookup id = some s) (hid : id ≠ registered.sessionId)
    (hprevious : sv.mappedSessionId r ≠ some id) :
    sv.Untouched (sv.registerNew env r sender).1 id s ∨ (s.bridgeSender = none ∧ s.processId = r.processId) := by
  obtain ⟨fenced, live, mapping, store, hfence, -, rfl, hafter⟩ := registerNew_ok h
  obtain ⟨htable, hbefore⟩ := fenced_routes hfence
  have hkept : fenced.sessions.lookup id = some s := (fenced_other hfence hprevious).1.trans hs
  by_cases hdisplaced : id ∈ fenced.displacedIds r (sv.mappedSessionId r) mapping.sessionId
  · right
    rcases mem_displacedIds.mp hdisplaced with hsuperseded | ⟨hmapped, -⟩
    · obtain ⟨s', hs', hbridge, hprocess, -⟩ := mem_supersededIds.mp hsuperseded
      rw [hkept, Option.some.injEq] at hs'
      subst hs'
      exact ⟨hbridge, hprocess⟩
    · exact absurd hmapped hprevious
  · left
    rw [hafter]
    refine ⟨?_, ?_⟩
    · rw [installSession_lookup, if_neg hid]
      exact (if_neg hdisplaced).trans hkept
    · intro routeId hroute
      -- every route that goes belongs to another session
      have hother : ∀ other, other ≠ id → ∀ s', fenced.sessions.lookup other = some s' → s'.routeId ≠ some routeId := by
        intro other hne s' hs' hsame
        obtain ⟨x, hx, hxroute, -, -⟩ := hbefore other s' hs'
        exact hne (hroutes other id x s routeId hx hs (hxroute.symm.trans hsame) hroute)
      have hcleared : ∀ other ∈ fenced.displacedIds r (sv.mappedSessionId r) mapping.sessionId, ∀ s',
          fenced.sessions.lookup other = some s' → s'.routeId ≠ some routeId := by
        intro other hmem
        apply hother
        rintro rfl
        exact hdisplaced hmem
      have hremoved : ((fenced.displacedIds r (sv.mappedSessionId r) mapping.sessionId).foldl (removeSession · env.now)
          { fenced with metadata := store }).routes.lookup routeId = fenced.routes.lookup routeId :=
        removeAll_routes env.now hcleared
      rw [← htable]
      refine Eq.trans ?_ hremoved
      rw [installSession, dropRoute]
      dsimp only
      generalize hown : (KeyedMap.lookup _ mapping.sessionId).bind _ = own
      cases own with
      | none => rfl
      | some ownRoute =>
        rw [removeAll_lookup, if_neg not_mem_displacedIds] at hown
        obtain ⟨s', hs', hown⟩ := Option.bind_eq_some_iff.mp hown
        have hne : routeId ≠ ownRoute := by
          rintro rfl
          exact hother mapping.sessionId (Ne.symm hid) s' hs' hown
        exact KeyedMap.lookup_erase_ne hne

lemma refreshObserver_frame (sv : Supervisor) (env : Env) (r : NormalizedRegistration) :
    (∃ ended, sv.refreshObserverRegistration env r = ({ sv with ended := ended }, .ok none)) ∨
    ∃ sessionId, (sv.refreshObserverRegistration env r).1.routes = sv.routes ∧
      (∀ id, id ≠ sessionId →
        (sv.refreshObserverRegistration env r).1.sessions.lookup id = sv.sessions.lookup id) ∧
      ∀ answer, (sv.refreshObserverRegistration env r).2 = .ok answer → ∃ known, answer = some known ∧
        known.sessionId = sessionId := by
  rw [refreshObserverRegistration]
  split
  · exact .inl ⟨_, rfl⟩
  · next sessionId generation epoch hmapped =>
    dsimp only
    split
    · exact .inl ⟨_, rfl⟩
    · next s hs =>
      split
      · exact .inl ⟨_, rfl⟩
      · right
        refine ⟨sessionId, ?_⟩
        split
        · refine ⟨rfl, fun id hid => KeyedMap.lookup_insert_ne hid, ?_⟩
          intro answer hanswer
          cases hanswer
          exact ⟨_, rfl, rfl⟩
        · refine ⟨rfl, fun id hid => KeyedMap.lookup_insert_ne hid, ?_⟩
          intro answer hanswer
          dsimp only at hanswer
          generalize hwritten : MetadataStore.updateRevision _ _ _ _ _ = written at hanswer
          obtain ⟨store, result⟩ := written
          cases result with
          | error e => cases hanswer
          | ok u =>
            cases hanswer
            exact ⟨_, rfl, rfl⟩

lemma RoutesApart.registerObserver_frame (hroutes : sv.RoutesApart)
    (h : (sv.registerObserver env r).2 = .ok registered)
    (hs : sv.sessions.lookup id = some s) (hid : id ≠ registered.sessionId)
    (hprevious : sv.mappedSessionId r ≠ some id) :
    sv.Untouched (sv.registerObserver env r).1 id s ∨ (s.bridgeSender = none ∧ s.processId = r.processId) := by
  rw [registerObserver] at h ⊢
  split at h
  · cases h
  · split at h
    · cases h
    · rename_i hcommands
      rw [if_neg hcommands]
      rcases sv.refreshObserver_frame env r with ⟨ended, hanew⟩ | ⟨sessionId, htable, hothers, hknown⟩
      · rw [hanew] at h ⊢
        have hapart : RoutesApart { sv with ended := ended } := hroutes
        exact hapart.registerNew_frame h hs hid hprevious
      · generalize sv.refreshObserverRegistration env r = refreshed at h htable hothers hknown
        obtain ⟨after, answer⟩ := refreshed
        cases answer with
        | error e => cases h
        | ok answer =>
          obtain ⟨known, rfl, rfl⟩ := hknown answer rfl
          cases h
          left
          refine ⟨(hothers id hid).trans hs, ?_⟩
          intro routeId _
          exact congrArg (KeyedMap.lookup · routeId) htable

end Supervisor

/-! Routes are drawn afresh, so no two sessions come to share one. -/

lemma LiveSession.disconnected_routeId (s : LiveSession) (id : String) (store : MetadataStore) (env : Env) :
    (s.disconnected id store env).session.routeId = s.routeId := by
  have hanswered := (abandonInFlight_issued { s with bridgeSender := none, adapterActive := false, inFlightCommands := [] }
    store id env 0 s.inFlightCommands).receipted
  rw [disconnected]
  dsimp only
  split <;> exact hanswered.sameHold.routeId

lemma Moved.route_origin {store : MetadataStore} {carried : Option (List TimelineEntry)} {id : String}
    {effect : Effect} (hm : Moved store carried env id s op effect)
    (hroute : effect.session.routeId = some routeId) :
    s.routeId = some routeId ∨ ∃ proof, op = .refreshRoute id proof ∧ routeId = env.ids 0 := by
  by_cases hop : op.relocates = false
  · exact .inl ((hm.place hop).routeId ▸ hroute)
  · cases hm with
    | disconnect token htoken => exact .inl (LiveSession.disconnected_routeId .. ▸ hroute)
    | observedEnd hbridge | adoptedEnd => cases hroute
    | route proof _ =>
      cases proof with
      | none => cases hroute
      | some proof =>
        cases hroute
        exact .inr ⟨_, rfl, rfl⟩
    | routeLost => cases hroute
    | fenced op r sender e hopr | unassigned op r sender e effect hopr =>
      cases op <;> simp [Op.registration] at hopr <;> exact absurd rfl hop
    | _ => exact absurd rfl hop

lemma Supervisor.step_route_origin {id : String}
    (hs : (sv.step env op).sessions.lookup id = some s) (hroute : s.routeId = some routeId) :
    (∃ before, sv.sessions.lookup id = some before ∧ before.routeId = some routeId) ∨
      ∃ proof, op = .refreshRoute id proof ∧ routeId = env.ids 0 := by
  cases sv.step_change env op id with
  | kept hkept _ => exact .inl ⟨s, hkept ▸ hs, hroute⟩
  | moved before effect hbefore hmoved hs' _ _ =>
    rw [hs', Option.some.injEq] at hs
    subst hs
    rcases hmoved.route_origin hroute with hold | hnew
    · exact .inl ⟨before, hbefore, hold⟩
    · exact .inr hnew
  | removed hs' _ =>
    rw [hs'] at hs
    cases hs
  | installed fenced r sender live mapping hr hid =>
    have hsession := hr.session
    rw [hid, hs, Option.some.injEq] at hsession
    subst hsession
    cases hroute

structure World.Routed (w : World) : Prop where
  issued : ∀ id s routeId, w.supervisor.sessions.lookup id = some s → s.routeId = some routeId → routeId ∈ w.issuedIds
  apart : w.supervisor.RoutesApart

lemma World.Routed.step {w : World} (h : w.Routed) {i : Input} (hl : w.Legal i) : (w.step i).Routed where
  issued id s routeId hs hroute := by
    rw [World.step]
    rcases Supervisor.step_route_origin hs hroute with ⟨before, hbefore, hold⟩ | ⟨proof, hop, rfl⟩
    · simp [h.issued id before routeId hbefore hold]
    · simp [hop, Supervisor.draws]
  apart id id' s s' routeId hs hs' hroute hroute' := by
    -- a route just drawn is nobody's yet
    have hfresh : ∀ other before, w.supervisor.sessions.lookup other = some before →
        before.routeId = some (i.env.ids 0) → ∀ id proof, i.op ≠ .refreshRoute id proof := by
      intro other before hbefore hsame id proof hop
      have hissued := h.issued other before _ hbefore hsame
      exact (hl.drawn 0 (by simp [hop, Supervisor.draws])).2.1 hissued
    rcases Supervisor.step_route_origin hs hroute with ⟨x, hx, hxroute⟩ | ⟨proof, hop, rfl⟩ <;>
      rcases Supervisor.step_route_origin hs' hroute' with ⟨y, hy, hyroute⟩ | ⟨proof', hop', hnew⟩
    · exact h.apart id id' x y routeId hx hy hxroute hyroute
    · subst hnew
      exact absurd hop' (hfresh id x hx hxroute id' proof')
    · exact absurd hop (hfresh id' y hy hyroute id proof)
    · rw [hop] at hop'
      cases hop'
      rfl

theorem World.routed_of_reaches {digest : String → String} {w : World}
    (h : Runs.Reaches World.step World.Legal (World.start digest) w) : w.Routed := by
  apply h.invariant (P := World.Routed)
  · constructor
    · intro id s routeId hs
      simp [World.start, Supervisor.empty] at hs
    · intro id id' s s' routeId hs
      simp [World.start, Supervisor.empty] at hs
  · intro w i hw hl
    exact hw.step hl

/-! Whose process a session's agent is. -/

def agentProcess (daemon : ℕ) (child : String → ℕ) (id : String) (recorded : ℕ) : ℕ :=
  if recorded = daemon then child id else recorded

def LeftBehind (daemon : ℕ) (child : String → ℕ) (exited : ℕ → Prop) (r : NormalizedRegistration) (registeredId : String)
    (id : String) (s : LiveSession) : Prop :=
  s.bridgeSender = none ∧
    (agentProcess daemon child id s.processId = agentProcess daemon child registeredId r.processId ∨
      exited (agentProcess daemon child id s.processId))

/-- The conversations released before a pickup are served by nobody any more. -/
def ChildrenGone (sv : Supervisor) (daemon : ℕ) (child : String → ℕ) (exited : ℕ → Prop) (r : NormalizedRegistration) :
    Prop :=
  r.processId = daemon → ∀ id s, sv.sessions.lookup id = some s → s.bridgeSender = none → s.processId = daemon →
    exited (child id)

namespace Sample

def pickUp (n : ℕ) (thread : String) (ids : List String) : Input :=
  ⟨.register (adoptedRegistration thread) n, Sample.env n ids⟩

def first : Input := pickUp 0 "thread-1" ["s-1", "t-1", "r-1"]

def handBack : Input := ⟨.endAdopted "thread-1" 1 "resume_in_terminal", Sample.env 1 []⟩

def second : Input := pickUp 2 "thread-2" ["s-2", "t-2", "r-2"]

def children (id : String) : ℕ := if id = "thread-1" then 101 else 102

end Sample

end CiaoHost.Session
