import CiaoHost.Session.Submissions
import CiaoHost.Session.SoundRun

/-! Receipts are filed under the session of their command, and a command in flight has no final one. -/

namespace CiaoHost.Session

open Protocol Lib Lib.Checks Lib.KeyedList

structure Posted (kind : CommandReceipt → Prop) (s : LiveSession) (store : MetadataStore) (effect : Effect) : Prop where
  booked : store.Booked → effect.store.Booked
  durable : ∀ r ∈ effect.store.receipts, r ∈ store.receipts ∨ kind r
  live : ∀ r ∈ effect.session.receipts, r ∈ s.receipts ∨ kind r

namespace Posted

variable {kind : CommandReceipt → Prop} {s : LiveSession} {store : MetadataStore} {effect effect' : Effect}

lemma refl (s : LiveSession) (store : MetadataStore) (frames : List AgentServerFrame) :
    Posted kind s store ⟨s, frames, store⟩ :=
  ⟨id, fun _ => .inl, fun _ => .inl⟩

lemma trans (h : Posted kind s store effect) (h' : Posted kind effect.session effect.store effect') :
    Posted kind s store effect' := by
  refine ⟨fun hbooked => h'.booked (h.booked hbooked), ?_, ?_⟩
  · intro r hr
    rcases h'.durable r hr with hold | hnew
    · exact h.durable r hold
    · exact .inr hnew
  · intro r hr
    rcases h'.live r hr with hold | hnew
    · exact h.live r hold
    · exact .inr hnew

lemma reframed (h : Posted kind s store effect) (frames : List AgentServerFrame) :
    Posted kind s store ⟨effect.session, frames, effect.store⟩ := ⟨h.booked, h.durable, h.live⟩

end Posted

namespace LiveSession

variable {kind : CommandReceipt → Prop} {s : LiveSession} {store : MetadataStore} {receipt : CommandReceipt}

lemma Issued.posted {now : ℕ} {issue : LiveSession → CommandReceipt → Prop} {effect : Effect}
    (h : Issued now issue s store effect) (hkind : ∀ s r, issue s r → kind r) : Posted kind s store effect := by
  have hposted := h.keeps (P := fun s' store' => Posted kind s store ⟨s', [], store'⟩) ?_ ?_ (.refl s store [])
  · exact hposted.reframed effect.frames
  · intro s' store' r disk hr hp
    have hdurable : ∀ r' ∈ store'.upserted r now, r' ∈ store'.receipts ∨ kind r' := by
      intro r' hr'
      rcases MetadataStore.mem_upserted hr' with rfl | hold
      · exact .inr (hkind s' r' hr)
      · exact .inl hold
    have hbooked := fun hb : store'.Booked => hb.upserted r now
    apply hp.trans
    rw [MetadataStore.upsertReceipt, MetadataStore.persist]
    generalize store'.upserted r now = receipts at hdurable hbooked ⊢
    exact ⟨hbooked, hdurable, fun _ => .inl⟩
  · intro s' store' r hr hp
    refine hp.trans ⟨fun hbooked => hbooked, fun _ => .inl, ?_⟩
    intro r' hr'
    rcases mem_receiptsWith hr' with rfl | hold
    · exact .inr (hkind s' r' hr)
    · exact .inl hold

def LastWord (sessionId : String) (now : ℕ) (commands : List String) (r : CommandReceipt) : Prop :=
  r.sessionId = sessionId ∧ r.updatedAt = now ∧ Supervisor.isFinal r.state ∧ r.commandId ∈ commands

lemma Issued.lastWords {env : Env} {id reason : String} {commands : List String} {effect : Effect}
    (h : Issued env.now (Ambiguous id env.now reason commands) s store effect) :
    Posted (LastWord id env.now commands) s store effect := by
  apply h.posted
  rintro s' r ⟨c, hc, rfl⟩
  exact ⟨rfl, rfl, rfl, hc⟩

end LiveSession

namespace Supervisor

structure Filed (homes : List (String × String)) (clock : ℕ) (sv : Supervisor) : Prop where
  booked : sv.metadata.Booked
  past : ∀ r ∈ sv.metadata.receipts, r.updatedAt ≤ clock
  home : ∀ r ∈ sv.metadata.receipts, (r.commandId, r.sessionId) ∈ homes
  once : ∀ id s, sv.sessions.lookup id = some s → s.inFlightCommands.Nodup
  flying : ∀ id s, sv.sessions.lookup id = some s → ∀ c ∈ s.inFlightCommands,
    (c, id) ∈ homes ∧ ∀ r ∈ sv.metadata.receipts, r.commandId = c → isFinal r.state = false

/-- No final receipt is undone: the store's stays final, and a session gets no other row for it. -/
structure Steady (sv sv' : Supervisor) : Prop where
  durable : ∀ c r, sv.metadata.receipt c = some r → isFinal r.state →
    ∀ r', sv'.metadata.receipt c = some r' → isFinal r'.state
  live : ∀ c r, sv.metadata.receipt c = some r → isFinal r.state →
    ∀ id s', sv'.sessions.lookup id = some s' → ∀ r' ∈ s'.receipts, r'.commandId = c →
      isFinal r'.state ∨ ∃ s, sv.sessions.lookup id = some s ∧ r' ∈ s.receipts

variable {homes homes' : List (String × String)} {clock clock' : ℕ} {sv sv' sv'' : Supervisor}

lemma Steady.refl (sv : Supervisor) : sv.Steady sv := by
  refine ⟨?_, ?_⟩
  · intro c r hr hfinal r' hr'
    rw [hr] at hr'
    exact Option.some.inj hr' ▸ hfinal
  · intro c r hr hfinal id s' hs' r' hr' hid
    exact .inr ⟨s', hs', hr'⟩

structure Eased (sv sv' : Supervisor) : Prop where
  receipts : sv'.metadata.receipts.Sublist sv.metadata.receipts
  sessions : ∀ id s', sv'.sessions.lookup id = some s' →
    (∃ s, sv.sessions.lookup id = some s ∧ s'.inFlightCommands = s.inFlightCommands ∧ ∀ r ∈ s'.receipts, r ∈ s.receipts) ∨
    (s'.inFlightCommands = [] ∧ ∀ r ∈ s'.receipts, r ∈ sv'.metadata.receipts)

lemma Eased.of_same (hsessions : sv'.sessions = sv.sessions) (hmetadata : sv'.metadata = sv.metadata) : sv.Eased sv' := by
  refine ⟨?_, ?_⟩
  · rw [hmetadata]
  · intro id s' hs'
    exact .inl ⟨s', hsessions ▸ hs', rfl, fun _ hr => hr⟩

lemma Filed.eased (h : Filed homes clock sv) (hclock : clock ≤ clock') (he : sv.Eased sv') : Filed homes clock' sv' := by
  refine ⟨h.booked.sublist he.receipts, ?_, ?_, ?_, ?_⟩
  · exact fun r hr => (h.past r (he.receipts.subset hr)).trans hclock
  · exact fun r hr => h.home r (he.receipts.subset hr)
  · intro id s' hs'
    rcases he.sessions id s' hs' with ⟨s, hs, hinFlight, -⟩ | ⟨hinFlight, -⟩
    · rw [hinFlight]
      exact h.once id s hs
    · rw [hinFlight]
      exact List.nodup_nil
  · intro id s' hs' c hc
    rcases he.sessions id s' hs' with ⟨s, hs, hinFlight, -⟩ | ⟨hinFlight, -⟩
    · rw [hinFlight] at hc
      obtain ⟨hhome, hopen⟩ := h.flying id s hs c hc
      exact ⟨hhome, fun r hr => hopen r (he.receipts.subset hr)⟩
    · rw [hinFlight] at hc
      cases hc

lemma Steady.eased (h : sv.Steady sv') (hbooked : sv'.metadata.Booked) (he : sv'.Eased sv'') : sv.Steady sv'' := by
  have hdurable : ∀ c r, sv.metadata.receipt c = some r → isFinal r.state →
      ∀ r' ∈ sv''.metadata.receipts, r'.commandId = c → isFinal r'.state := by
    intro c r hr hfinal r' hr' hid
    apply h.durable c r hr hfinal r'
    exact hid ▸ hbooked.receipt_eq (he.receipts.subset hr')
  refine ⟨?_, ?_⟩
  · intro c r hr hfinal r' hr'
    obtain ⟨hmem, hid⟩ := MetadataStore.mem_of_receipt hr'
    exact hdurable c r hr hfinal r' hmem hid
  · intro c r hr hfinal id s'' hs'' r' hr' hid
    rcases he.sessions id s'' hs'' with ⟨s', hs', -, hreceipts⟩ | ⟨-, hreceipts⟩
    · exact h.live c r hr hfinal id s' hs' r' (hreceipts r' hr') hid
    · exact .inl (hdurable c r hr hfinal r' (hreceipts r' hr') hid)

structure Posts (kind : CommandReceipt → Prop) (id : String) (sv sv' : Supervisor) : Prop where
  booked : sv.metadata.Booked → sv'.metadata.Booked
  durable : ∀ r ∈ sv'.metadata.receipts, r ∈ sv.metadata.receipts ∨ kind r
  own : ∃ s s', sv.sessions.lookup id = some s ∧ sv'.sessions.lookup id = some s' ∧
    ∀ r ∈ s'.receipts, r ∈ s.receipts ∨ kind r
  others : ∀ other, other ≠ id → sv'.sessions.lookup other = sv.sessions.lookup other

variable {kind : CommandReceipt → Prop} {id : String}

lemma posts_putEffect {s : LiveSession} {effect : Effect}
    (hs : sv.sessions.lookup id = some s) (hposted : Posted kind s sv.metadata effect)
    (hsessions : sv'.sessions = sv.sessions.insert id effect.session) (hmetadata : sv'.metadata = effect.store) :
    sv.Posts kind id sv' := by
  refine ⟨?_, ?_, ⟨s, effect.session, hs, ?_, hposted.live⟩, ?_⟩
  · rw [hmetadata]
    exact hposted.booked
  · rw [hmetadata]
    exact hposted.durable
  · rw [hsessions, KeyedMap.lookup_insert_self]
  · intro other hother
    rw [hsessions, KeyedMap.lookup_insert_ne hother]

lemma Steady.posts (hbooked : sv.metadata.Booked)
    (h : sv.Posts kind id sv')
    (hkind : ∀ r, kind r → isFinal r.state ∨ ∀ r' ∈ sv.metadata.receipts, r'.commandId = r.commandId →
      isFinal r'.state = false) : sv.Steady sv' := by
  have hfinal : ∀ c r, sv.metadata.receipt c = some r → isFinal r.state →
      ∀ r', kind r' → r'.commandId = c → isFinal r'.state := by
    intro c r hr hfinal r' hr' hid
    obtain ⟨hmem, hc⟩ := MetadataStore.mem_of_receipt hr
    rcases hkind r' hr' with hnew | hopen
    · exact hnew
    · rw [hopen r hmem (hc.trans hid.symm)] at hfinal
      cases hfinal
  refine ⟨?_, ?_⟩
  · intro c r hr hr0 r' hr'
    obtain ⟨hmem, hid⟩ := MetadataStore.mem_of_receipt hr'
    rcases h.durable r' hmem with hold | hnew
    · have heq := hbooked.receipt_eq hold
      rw [hid, hr] at heq
      exact Option.some.inj heq ▸ hr0
    · exact hfinal c r hr hr0 r' hnew hid
  · intro c r hr hr0 other s' hs' r' hr' hid
    by_cases hother : other = id
    · subst hother
      obtain ⟨s, after, hs, hafter, hlive⟩ := h.own
      rw [hs'] at hafter
      cases hafter
      rcases hlive r' hr' with hold | hnew
      · exact .inr ⟨s, hs, hold⟩
      · exact .inl (hfinal c r hr hr0 r' hnew hid)
    · exact .inr ⟨s', (h.others other hother) ▸ hs', hr'⟩

lemma home_unique {homes : List (String × String)} (hhomes : (homes.map Prod.fst).Nodup) {c id' : String}
    (h : (c, id) ∈ homes) (h' : (c, id') ∈ homes) : id = id' :=
  congrArg Prod.snd (List.inj_on_of_nodup_map hhomes h h' rfl)

lemma Filed.posts (hf : Filed homes clock sv)
    (h : sv.Posts kind id sv') (hclock : clock ≤ clock') (hsub : homes ⊆ homes') (hhomes : (homes'.map Prod.fst).Nodup)
    (hkind : ∀ r, kind r → r.updatedAt ≤ clock' ∧ r.sessionId = id ∧ (r.commandId, id) ∈ homes')
    (hown : ∀ s', sv'.sessions.lookup id = some s' → s'.inFlightCommands.Nodup ∧ ∀ c ∈ s'.inFlightCommands,
      (c, id) ∈ homes' ∧ ∀ r ∈ sv'.metadata.receipts, r.commandId = c → isFinal r.state = false) :
    Filed homes' clock' sv' := by
  refine ⟨h.booked hf.booked, ?_, ?_, ?_, ?_⟩
  · intro r hr
    rcases h.durable r hr with hold | hnew
    · exact (hf.past r hold).trans hclock
    · exact (hkind r hnew).1
  · intro r hr
    rcases h.durable r hr with hold | hnew
    · exact hsub (hf.home r hold)
    · obtain ⟨-, hsession, hhome⟩ := hkind r hnew
      rw [hsession]
      exact hhome
  · intro other s' hs'
    by_cases hother : other = id
    · subst hother
      exact (hown s' hs').1
    · rw [h.others other hother] at hs'
      exact hf.once other s' hs'
  · intro other s' hs' c hc
    by_cases hother : other = id
    · subst hother
      exact (hown s' hs').2 c hc
    · rw [h.others other hother] at hs'
      obtain ⟨hhome, hopen⟩ := hf.flying other s' hs' c hc
      refine ⟨hsub hhome, ?_⟩
      intro r hr hid
      rcases h.durable r hr with hold | hnew
      · exact hopen r hold hid
      · -- the command belongs to the other session
        have hthere := (hkind r hnew).2.2
        rw [hid] at hthere
        exact absurd (home_unique hhomes (hsub hhome) hthere) hother

end Supervisor

end CiaoHost.Session
