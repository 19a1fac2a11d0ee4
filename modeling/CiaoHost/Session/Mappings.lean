import CiaoHost.Session.SoundRun

/-! What an operation does to the identity mappings of the store: outside a registration each
mapping stays with its session and its process. -/

namespace CiaoHost.Session

open Protocol Lib Lib.KeyedList

structure IdentityMapping.Advanced (m m' : IdentityMapping) : Prop where
  upstreamDigest : m'.upstreamDigest = m.upstreamDigest
  sessionId : m'.sessionId = m.sessionId
  processNonceDigest : m'.processNonceDigest = m.processNonceDigest
  processGeneration : m'.processGeneration = m.processGeneration
  revisionSeed : m.revisionSeed ≤ m'.revisionSeed

lemma IdentityMapping.Advanced.refl (m : IdentityMapping) : m.Advanced m := ⟨rfl, rfl, rfl, rfl, le_rfl⟩

lemma IdentityMapping.Advanced.trans {m m' m'' : IdentityMapping} (h : m.Advanced m') (h' : m'.Advanced m'') :
    m.Advanced m'' :=
  ⟨h'.1.trans h.1, h'.2.trans h.2, h'.3.trans h.3, h'.4.trans h.4, h.5.trans h'.5⟩

namespace MetadataStore

structure Advances (store store' : MetadataStore) : Prop where
  digest : store'.digest = store.digest
  mappings : List.Forall₂ IdentityMapping.Advanced store.mappings store'.mappings

variable {store : MetadataStore}

lemma Advances.of_mappings {store' : MetadataStore} (hdigest : store'.digest = store.digest)
    (h : store'.mappings = store.mappings) : store.Advances store' :=
  ⟨hdigest, h ▸ List.forall₂_same.mpr fun m _ => .refl m⟩

lemma Advances.refl (store : MetadataStore) : store.Advances store := .of_mappings rfl rfl

lemma Advances.trans {store' store'' : MetadataStore} (h : store.Advances store') (h' : store'.Advances store'') :
    store.Advances store'' where
  digest := h'.digest.trans h.digest
  mappings := by
    apply forall₂_trans ?_ h.mappings h'.mappings
    intro m m' m'' hm hm'
    exact hm.trans hm'

section

variable (store : MetadataStore)

lemma withReceipts_advances (receipts : List CommandReceipt) :
    store.Advances { store with receipts := receipts } := .of_mappings rfl rfl

lemma upsertReceipt_advances (receipt : CommandReceipt) (now : ℕ) (disk : Except String Unit) :
    store.Advances (store.upsertReceipt receipt now disk).1 :=
  store.withReceipts_advances (store.upserted receipt now)

lemma updateMapping_advances (sessionId : String) {change : IdentityMapping → IdentityMapping}
    (hchange : ∀ m, IdentityMapping.Advanced m (change m)) (disk : Except String Unit) :
    store.Advances (store.updateMapping sessionId change disk).1 := by
  rw [updateMapping]
  cases hfind : store.mappings.find? (·.sessionId = sessionId) with
  | none => exact .refl store
  | some m =>
    refine ⟨rfl, ?_⟩
    have hid : m.sessionId = sessionId := by simpa using List.find?_some hfind
    apply forall₂_replaceFirst IdentityMapping.Advanced.refl ?_ (hchange m)
    rw [(hchange m).sessionId, hid, hfind]

lemma updateRevision_advances (sessionId : String) (revision now : ℕ)
    (disk : Except String Unit) : store.Advances (store.updateRevision sessionId revision now disk).1 := by
  apply updateMapping_advances
  intro m
  exact ⟨rfl, rfl, rfl, rfl, le_max_left _ _⟩

lemma updateEpoch_advances (sessionId : String) (epoch now : ℕ) (disk : Except String Unit) :
    store.Advances (store.updateEpoch sessionId epoch now disk).1 := by
  apply updateMapping_advances
  intro m
  exact ⟨rfl, rfl, rfl, rfl, le_rfl⟩

end

end MetadataStore

namespace LiveSession

open MetadataStore

variable {id : String} {s : LiveSession} {store : MetadataStore} {env : Env}

lemma Issued.advances {now : ℕ} {kind : LiveSession → CommandReceipt → Prop} {effect : Effect}
    (h : Issued now kind s store effect) : store.Advances effect.store :=
  h.keeps (P := fun _ store' => store.Advances store')
    (fun _ store' r disk _ hp => hp.trans (store'.upsertReceipt_advances r now disk)) (fun _ _ _ _ hp => hp) (.refl store)

section

variable (s : LiveSession) (store : MetadataStore)

lemma takeCommand_advances (command : AgentCommand) (now clock : ℕ)
    (disk : Except String Unit) : store.Advances (s.takeCommand store command now clock disk).1.store := by
  obtain ⟨effect, flight, hissued, heq, -⟩ := s.takeCommand_issued store now disk command clock
  rw [heq]
  exact hissued.advances

lemma rewriteTo_advances (env : Env) (rewritten : Timeline)
    (complete : Option Bool) (visible : Bool) (reason : String) :
    store.Advances (s.rewriteTo store env rewritten complete visible reason).1.store := by
  apply rewriteTo_keeps (P := fun effect => store.Advances effect.store)
  · exact .refl store
  · exact fun _ _ h => h.trans (updateEpoch_advances ..)
  · exact fun _ _ h => h
  · exact fun _ _ _ h => h
  · exact fun _ _ _ h => h.trans (updateRevision_advances ..)

end

end LiveSession

open MetadataStore LiveSession

variable {sv : Supervisor} {env : Env} {op : Op}

inductive Kept (env : Env) (op : Op) (store store' : MetadataStore) : Prop
  | advanced (h : store.Advances store')
  | assigned (r : NormalizedRegistration) (sender live : Option ℕ) (fenced : MetadataStore)
      (hop : op.registration = some (r, sender)) (h : store.Advances fenced)
      (hassign : store' = (fenced.assign env r live).1)

theorem Moved.kept {store : MetadataStore} {carried : Option (List TimelineEntry)} {id : String} {s : LiveSession}
    {effect : Effect} (hm : Moved store carried env id s op effect) : Kept env op store effect.store := by
  cases hm with
  | snapshot => exact .advanced (rewriteTo_advances ..)
  | backfill | turnRead =>
    exact .advanced (reconcileHistory_keeps (P := fun effect => store.Advances effect.store) (.refl store)
      fun _ _ _ _ _ => rewriteTo_advances ..)
  | answered | delivered => exact .advanced (takeCommand_advances ..)
  | undelivered command sender receipt reason effect hc hid hnew htaken hreason =>
    have hfirst := s.takeCommand_advances store command env.now env.now (env.disk 0)
    rw [htaken] at hfirst
    exact .advanced (hfirst.trans (persistOrPublishReceipt_issued ..).advances)
  | receipt commandId state evidence reasonCode =>
    obtain ⟨effect, flight, hissued, heq, -⟩ :=
      s.landReceipt_issued store (s.bridgeReceipt id env.now commandId state evidence reasonCode) env
    rw [heq]
    exact .advanced hissued.advances
  | disconnect => exact .advanced (abandonInFlight_issued ..).advances
  | observed r hr hnone h =>
    dsimp only
    split
    · exact .advanced (.refl store)
    · exact .advanced (updateRevision_advances ..)
  | fenced => exact .advanced (supersedeInFlight_issued ..).advances
  | unassigned op r sender e effect hop hr hmapped hsup hassign =>
    have hfenced := (s.supersedeInFlight_issued store id env 1 s.inFlightCommands).advances
    rw [hsup] at hfenced
    exact .assigned r sender _ _ hop hfenced rfl
  | _ => exact .advanced (.refl store)

lemma Supervisor.fenced_advances {mapped : Option String} {fenced : Supervisor} {answer : Except String (Option ℕ)}
    (h : sv.fenceSuperseded env mapped = (fenced, answer)) : sv.metadata.Advances fenced.metadata := by
  rcases fenceSuperseded_cases sv env mapped with ⟨-, heq⟩ | ⟨id, s, effect, -, -, ⟨e, hsup, heq⟩ | ⟨hsup, heq⟩⟩
  · cases h.symm.trans heq
    exact .refl _
  all_goals
    have hfenced := (s.supersedeInFlight_issued sv.metadata id env 1 s.inFlightCommands).advances
    rw [hsup] at hfenced
    cases h.symm.trans heq
    exact hfenced

theorem Supervisor.step_kept (sv : Supervisor) (env : Env) (op : Op) :
    Kept env op sv.metadata (sv.step env op).metadata := by
  cases sv.step_outcome env op with
  | quiet hs hp hm => exact .advanced (hm ▸ .refl _)
  | put id s effect hs hmoved hs' hp hm => exact hm ▸ hmoved.kept
  | expired hop h => exact .advanced (h ▸ .refl _)
  | removed ids hids hs hp hm => exact .advanced (hm ▸ .refl _)
  | unassigned r sender hop hr hmapped hs hp hm => exact .assigned r sender none _ hop (.refl _) hm
  | registered fenced r sender live mapping h =>
    obtain ⟨ended, hfence⟩ := h.fence
    have hfenced := fenced_advances hfence
    exact .assigned r sender live fenced.metadata h.registers hfenced (by rw [h.assign])

end CiaoHost.Session
