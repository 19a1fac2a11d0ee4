import CiaoHost.Session.Bridged

/-! Who serves the adopted sessions: the parties that pick threads up and hold them, each with the
session it has a seat on. A thread has one party at a time, and the sessions that are adopted and
bridged are the ones seated on. -/

namespace CiaoHost.Codex

open Protocol Session Lib Lib.KeyedList

structure Seat where
  sessionId : String
  generation : ℕ
  commands : ℕ
  deriving DecidableEq, Repr

inductive Party where
  | call (i : ℕ)
  | hold (i : ℕ)
  deriving DecidableEq, Repr

structure Seating where
  supervisor : Supervisor
  party : Party → Option (String × Option Seat)

def Seat.Serves (o : Seat) (sv : Supervisor) : Prop :=
  ∃ s, sv.sessions.lookup o.sessionId = some s ∧ s.snapshot.topology = "adopted" ∧
    s.bridgeSender = some o.commands ∧ s.snapshot.processGeneration = o.generation

variable {names : String → String}

structure NamedStore (names : String → String) (store : MetadataStore) : Prop where
  digest : Function.Injective store.digest
  mappings : ∀ m ∈ store.mappings, ∃ threadId, m.upstreamDigest = store.digest (names threadId) ∧
    m.sessionId = names threadId

variable {env : Env} {r : NormalizedRegistration} {sv : Supervisor}

namespace NamedStore

variable {store store' : MetadataStore}

section

variable (h : NamedStore names store)

include h

lemma advances (ha : store.Advances store') : NamedStore names store' where
  digest := ha.digest ▸ h.digest
  mappings m' hm' := by
    obtain ⟨m, hm, hadvanced⟩ := exists_related_left ha.mappings hm'
    obtain ⟨threadId, hdigest, hsession⟩ := h.mappings m hm
    exact ⟨threadId, by rw [hadvanced.upstreamDigest, ha.digest, hdigest], by rw [hadvanced.sessionId, hsession]⟩

lemma assign {live : Option ℕ} {threadId : String}
    (hadopted : r.topology = "adopted") (hid : r.upstreamIdentity = names threadId) :
    NamedStore names (store.assign env r live).1 := by
  have hpreferred : (store.registrationClaim r live env.now).preferredSessionId = some (names threadId) := by
    rw [MetadataStore.registrationClaim, hadopted, hid]
    rfl
  rw [MetadataStore.assign]
  rcases store.register_cases (store.registrationClaim r live env.now) (env.ids 0) env.epoch (env.disk 0) with
    ⟨e, heq⟩ | ⟨-, ⟨old, hfind, heq⟩ | ⟨-, heq⟩⟩
  · rw [heq]
    exact h
  · rw [heq]
    refine ⟨h.digest, ?_⟩
    intro m hm
    rcases mem_of_mem_replaceFirst hm with rfl | hm
    · have hold : old.upstreamDigest = store.digest r.upstreamIdentity := by
        simpa [MetadataStore.registrationClaim] using List.find?_some hfind
      exact ⟨threadId, by rw [← hid]; exact hold, by simp [MetadataStore.reclaim, hpreferred]⟩
    · exact h.mappings m hm
  · rw [heq]
    refine ⟨h.digest, ?_⟩
    intro m hm
    rcases List.mem_append.mp hm with hm | hm
    · exact h.mappings m (MetadataStore.mem_makeRoom hm)
    · rw [List.mem_singleton.mp hm]
      refine ⟨threadId, ?_, by simp [MetadataStore.mint, hpreferred]⟩
      rw [← hid]
      rfl

lemma kept {op : Op} (hkept : Kept env op store store')
    (hop : ∀ r sender, op.registration = some (r, sender) →
      r.topology = "adopted" ∧ ∃ threadId, r.upstreamIdentity = names threadId) : NamedStore names store' := by
  cases hkept with
  | advanced ha => exact h.advances ha
  | assigned r sender live fenced hopr ha hassign =>
    obtain ⟨hadopted, threadId, hid⟩ := hop r sender hopr
    rw [hassign]
    exact (h.advances ha).assign hadopted hid

end

lemma mappedSessionId (h : NamedStore names sv.metadata)
    {threadId id : String} (hid : r.upstreamIdentity = names threadId) (hmapped : sv.mappedSessionId r = some id) :
    id = names threadId := by
  obtain ⟨m, hfind, rfl⟩ := Option.map_eq_some_iff.mp hmapped
  obtain ⟨other, hdigest, hsession⟩ := h.mappings m (List.mem_of_find?_eq_some hfind)
  have hsame : m.upstreamDigest = sv.metadata.digest r.upstreamIdentity := by simpa using List.find?_some hfind
  rw [hsession, ← hid]
  exact h.digest (hdigest.symm.trans hsame)

end NamedStore

namespace Seating

structure Good (names : String → String) (g : Seating) : Prop where
  single : ∀ p p' threadId o o', g.party p = some (threadId, o) → g.party p' = some (threadId, o') → p = p'
  named : ∀ p threadId o, g.party p = some (threadId, some o) → o.sessionId = names threadId
  serves : ∀ p threadId o, g.party p = some (threadId, some o) → o.Serves g.supervisor
  served : ∀ id s c, g.supervisor.sessions.lookup id = some s → s.snapshot.topology = "adopted" →
    s.bridgeSender = some c → ∃ p threadId o, g.party p = some (threadId, some o) ∧ o.sessionId = id ∧ o.commands = c
  store : NamedStore names g.supervisor.metadata

variable {g : Seating} {p p' : Party} {threadId : String} {o : Seat}

variable {party : Party → Option (String × Option Seat)} {x : Option (String × Option Seat)}

lemma update_some {q : Party} {y : String × Option Seat} (h : Function.update party p x q = some y) :
    q = p ∧ x = some y ∨ q ≠ p ∧ party q = some y := by
  by_cases hq : q = p
  · subst hq
    rw [Function.update_self] at h
    exact .inl ⟨rfl, h⟩
  · rw [Function.update_of_ne hq] at h
    exact .inr ⟨hq, h⟩

variable {sv' : Supervisor}

lemma serves_settled (h : o.Serves sv) (hs : sv.AllSettled sv') : o.Serves sv' := by
  obtain ⟨s, hlookup, htopology, hbridge, hgeneration⟩ := h
  have hrel := hs o.sessionId
  rw [hlookup] at hrel
  cases hafter : sv'.sessions.lookup o.sessionId with
  | none =>
    rw [hafter] at hrel
    cases hrel
  | some s' =>
    rw [hafter] at hrel
    cases hrel with
    | some hsettled =>
      exact ⟨s', hafter, hsettled.1.topology.trans htopology, hsettled.1.bridgeSender.trans hbridge,
        hsettled.2.trans hgeneration⟩

section

variable (h : g.Good names)

include h

lemma Good.settle (hs : g.supervisor.AllSettled sv')
    (hstore : NamedStore names sv'.metadata) : Good names { g with supervisor := sv' } where
  single := h.single
  named := h.named
  serves p threadId o hp := serves_settled (h.serves p threadId o hp) hs
  served id s' c hs' htopology hbridge := by
    have hrel := hs id
    rw [hs'] at hrel
    cases hbefore : g.supervisor.sessions.lookup id with
    | none =>
      rw [hbefore] at hrel
      cases hrel
    | some s =>
      rw [hbefore] at hrel
      cases hrel with
      | some hsettled =>
        exact h.served id s c hbefore (hsettled.1.topology ▸ htopology) (hsettled.1.bridgeSender ▸ hbridge)
  store := hstore

lemma Good.update (hstore : NamedStore names sv'.metadata)
    (halone : ∀ t o, x = some (t, o) → ∀ q o', q ≠ p → g.party q ≠ some (t, o'))
    (hseat : ∀ t o, x = some (t, some o) → o.sessionId = names t ∧ o.Serves sv')
    (hserves : ∀ q t o, q ≠ p → g.party q = some (t, some o) → o.Serves sv')
    (hserved : ∀ id s c, sv'.sessions.lookup id = some s → s.snapshot.topology = "adopted" → s.bridgeSender = some c →
      (∃ t o, x = some (t, some o) ∧ o.sessionId = id ∧ o.commands = c) ∨
        ∃ q t o, q ≠ p ∧ g.party q = some (t, some o) ∧ o.sessionId = id ∧ o.commands = c) :
    Good names ⟨sv', Function.update g.party p x⟩ where
  single q q' t o o' hq hq' := by
    rcases update_some hq with ⟨rfl, hx⟩ | ⟨hne, hold⟩ <;> rcases update_some hq' with ⟨rfl, hx'⟩ | ⟨hne', hold'⟩
    · rfl
    · exact absurd hold' (halone t o hx q' o' hne')
    · exact absurd hold (halone t o' hx' q o hne)
    · exact h.single q q' t o o' hold hold'
  named q t o hq := by
    rcases update_some hq with ⟨-, hx⟩ | ⟨-, hq⟩
    · exact (hseat t o hx).1
    · exact h.named q t o hq
  serves q t o hq := by
    rcases update_some hq with ⟨-, hx⟩ | ⟨hne, hq⟩
    · exact (hseat t o hx).2
    · exact hserves q t o hne hq
  served id s c hs htopology hbridge := by
    rcases hserved id s c hs htopology hbridge with ⟨t, o, rfl, hrest⟩ | ⟨q, t, o, hne, hq, hrest⟩
    · exact ⟨p, t, o, Function.update_self .., hrest⟩
    · exact ⟨q, t, o, (Function.update_of_ne hne ..).trans hq, hrest⟩
  store := hstore

lemma Good.served_elsewhere (hp : ∀ t o, g.party p ≠ some (t, some o)) {id : String} {s : LiveSession}
    {c : ℕ} (hs : g.supervisor.sessions.lookup id = some s) (htopology : s.snapshot.topology = "adopted")
    (hbridge : s.bridgeSender = some c) :
    ∃ q t o, q ≠ p ∧ g.party q = some (t, some o) ∧ o.sessionId = id ∧ o.commands = c := by
  obtain ⟨q, t, o, hq, hrest⟩ := h.served id s c hs htopology hbridge
  refine ⟨q, t, o, ?_, hq, hrest⟩
  rintro rfl
  exact hp t o hq

lemma Good.enter (hp : g.party p = none) (hfree : ∀ q o, g.party q ≠ some (threadId, o)) :
    Good names { g with party := Function.update g.party p (some (threadId, none)) } := by
  apply h.update h.store
  · rintro t o ⟨⟩ q o' -
    exact hfree q o'
  · nofun
  · exact fun q t o _ hq => h.serves q t o hq
  · exact fun id s c hs htopology hbridge => .inr (h.served_elsewhere (by simp [hp]) hs htopology hbridge)

lemma Good.withdraw (hp : ∀ t o, g.party p ≠ some (t, some o)) :
    Good names { g with party := Function.update g.party p none } := by
  apply h.update (x := none) h.store nofun nofun
  · exact fun q t o _ hq => h.serves q t o hq
  · exact fun id s c hs htopology hbridge => .inr (h.served_elsewhere hp hs htopology hbridge)

lemma Good.finish (hnames : Function.Injective names) {reason : String}
    (hp : g.party p = some (threadId, some o)) :
    Good names ⟨g.supervisor.step env (.endAdopted o.sessionId o.generation reason), Function.update g.party p none⟩ := by
  have hother : ∀ id, id ≠ o.sessionId →
      (g.supervisor.step env (.endAdopted o.sessionId o.generation reason)).sessions.lookup id =
        g.supervisor.sessions.lookup id := fun id hid => Supervisor.endAdopted_other hid
  obtain ⟨s, hs, -, -, hgeneration⟩ := h.serves p threadId o hp
  have hown : ∀ s', (g.supervisor.step env (.endAdopted o.sessionId o.generation reason)).sessions.lookup o.sessionId =
      some s' → s'.snapshot.topology ≠ "adopted" := fun s' hs' => Supervisor.endAdopted_own hs hgeneration hs'
  refine h.update (x := none) ?_ nofun nofun ?_ ?_
  · apply h.store.kept (g.supervisor.step_kept env _)
    intro r sender hop
    cases hop
  · intro q t o' hne hq
    -- another party is at another thread, so its session is another one
    have hid : o'.sessionId ≠ o.sessionId := by
      rw [h.named q t o' hq, h.named p threadId o hp]
      intro hsame
      obtain rfl := hnames hsame
      exact hne (h.single q p t _ _ hq hp)
    obtain ⟨s', hs', hrest⟩ := h.serves q t o' hq
    exact ⟨s', (hother _ hid).trans hs', hrest⟩
  · intro id s' c hs' htopology hbridge
    have hne : id ≠ o.sessionId := by
      rintro rfl
      exact hown s' hs' htopology
    obtain ⟨q, t, x, hq, rfl, hc⟩ := h.served id s' c ((hother id hne).symm.trans hs') htopology hbridge
    refine .inr ⟨q, t, x, ?_, hq, rfl, hc⟩
    rintro rfl
    cases hp.symm.trans hq
    exact hne rfl

end

lemma moved_some {q : Party} {x y : String × Option Seat}
    (h : Function.update (Function.update party p none) p' (some x) q = some y) :
    q = p' ∧ x = y ∨ q ≠ p ∧ party q = some y := by
  rcases update_some h with ⟨hq, hx⟩ | ⟨-, h⟩
  · exact .inl ⟨hq, Option.some.inj hx⟩
  · rcases update_some h with ⟨-, hx⟩ | ⟨hq, h⟩
    · cases hx
    · exact .inr ⟨hq, h⟩

lemma Good.handOver (h : g.Good names) (hp : g.party p = some (threadId, some o)) (hp' : g.party p' = none) :
    Good names { g with
      party := Function.update (Function.update g.party p none) p' (some (threadId, some o)) } where
  single q q' t x x' hq hq' := by
    rcases moved_some hq with ⟨rfl, hx⟩ | ⟨hne, hold⟩ <;> rcases moved_some hq' with ⟨rfl, hx'⟩ | ⟨hne', hold'⟩
    · rfl
    · cases hx
      exact (hne' (h.single q' p threadId _ _ hold' hp)).elim
    · cases hx'
      exact (hne (h.single q p threadId _ _ hold hp)).elim
    · exact h.single q q' t x x' hold hold'
  named q t x hq := by
    rcases moved_some hq with ⟨rfl, hx⟩ | ⟨-, hq⟩
    · cases hx
      exact h.named p threadId o hp
    · exact h.named q t x hq
  serves q t x hq := by
    rcases moved_some hq with ⟨rfl, hx⟩ | ⟨-, hq⟩
    · cases hx
      exact h.serves p threadId o hp
    · exact h.serves q t x hq
  served id s c hs htopology hbridge := by
    obtain ⟨q, t, x, hq, hid, hc⟩ := h.served id s c hs htopology hbridge
    dsimp only
    by_cases hqp : q = p
    · subst hqp
      rw [hp] at hq
      cases hq
      exact ⟨p', threadId, o, by rw [Function.update_self], hid, hc⟩
    · refine ⟨q, t, x, ?_, hid, hc⟩
      rw [Function.update_of_ne, Function.update_of_ne hqp, hq]
      rintro rfl
      rw [hp'] at hq
      cases hq
  store := h.store

lemma Good.take (h : g.Good names) (hnames : Function.Injective names) {c : ℕ}
    {registered : RegisteredAgentSession} (hp : g.party p = some (threadId, none))
    (hadopted : r.topology = "adopted") (hid : r.upstreamIdentity = names threadId)
    (hok : (g.supervisor.registerNew env r (some c)).2 = .ok registered) :
    Good names ⟨g.supervisor.step env (.register r c),
      Function.update g.party p (some (threadId, some ⟨registered.sessionId, registered.processGeneration, c⟩))⟩ := by
  have hsession : registered.sessionId = names threadId := (Supervisor.registerNew_adopted hok hadopted).trans hid
  have hothers := fun id (hne : id ≠ registered.sessionId) => Supervisor.registerNew_others hok hne (by
    intro hmapped
    exact hne ((h.store.mappedSessionId hid hmapped).trans hsession.symm))
  obtain ⟨own, hown, htopology, hbridge, hgeneration⟩ := Supervisor.registerNew_own hok
  have hserves : ∀ q t o, q ≠ p → g.party q = some (t, some o) → o.Serves (g.supervisor.registerNew env r (some c)).1 := by
    intro q t o hne hq
    have hne' : o.sessionId ≠ registered.sessionId := by
      rw [h.named q t o hq, hsession]
      intro hsame
      obtain rfl := hnames hsame
      exact hne (h.single q p t _ _ hq hp)
    obtain ⟨s, hs, hrest⟩ := h.serves q t o hq
    rcases hothers o.sessionId hne' with hkept | ⟨-, s', hs', hnone⟩
    · exact ⟨s, hkept.trans hs, hrest⟩
    · rw [hs, Option.some.injEq] at hs'
      subst hs'
      rw [hnone] at hrest
      cases hrest.2.1
  refine h.update ?_ ?_ ?_ hserves ?_
  · apply h.store.kept (g.supervisor.step_kept env _)
    intro r' sender hop
    cases hop
    exact ⟨hadopted, threadId, hid⟩
  · rintro t o ⟨⟩ q o' hne hq
    exact hne (h.single q p threadId _ _ hq hp)
  · rintro t o ⟨⟩
    exact ⟨hsession, own, hown, htopology.trans hadopted, hbridge, hgeneration⟩
  · intro id s d hs hstopology hsbridge
    by_cases hne : id = registered.sessionId
    · subst hne
      have hsame : own = s := Option.some.inj (hown.symm.trans hs)
      subst hsame
      exact .inl ⟨threadId, _, rfl, rfl, Option.some.inj (hbridge.symm.trans hsbridge)⟩
    · rcases hothers id hne with hkept | ⟨hgone, -⟩
      · exact .inr (h.served_elsewhere (by simp [hp]) (hkept ▸ hs) hstopology hsbridge)
      · cases hs.symm.trans hgone

end Seating

end CiaoHost.Codex
