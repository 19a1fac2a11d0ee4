import CiaoHost.Session.SoundTimeline

/-! What every operation writes to the store is well formed. -/

namespace CiaoHost.Session

open Protocol Lib Lib.Checks Lib.Saturating Lib.KeyedList

structure IdentityMapping.Sound (m : IdentityMapping) : Prop where
  sessionId : validOpaqueId m.sessionId = .ok ()
  generation : m.processGeneration ≠ 0
  epoch : m.snapshotEpoch ≠ 0
  seed : m.revisionSeed ≠ 0

namespace MetadataStore

structure Sound (store : MetadataStore) : Prop where
  mappings : ∀ m ∈ store.mappings, m.Sound
  receipts : ∀ r ∈ store.receipts, r.validate = .ok ()

variable {store : MetadataStore}

variable {now epoch : ℕ} {disk : Except String Unit} {sessionId : String} {claim : Claim}

lemma mem_upserted {receipt r : CommandReceipt} (h : r ∈ store.upserted receipt now) :
    r = receipt ∨ r ∈ store.receipts := by
  have hmem := List.mem_of_mem_drop h
  rw [mem_sortByKey, List.mem_filter] at hmem
  split at hmem
  · split at hmem
    · exact mem_of_mem_replaceFirst hmem.1
    · exact .inr hmem.1
  · rcases List.mem_append.mp hmem.1 with hmem | hmem
    · exact .inr hmem
    · exact .inl (List.mem_singleton.mp hmem)

section

variable (h : store.Sound)

include h

lemma sound_withReceipts {receipts : List CommandReceipt}
    (hr : ∀ r ∈ receipts, r.validate = .ok ()) : { store with receipts := receipts }.Sound :=
  ⟨h.mappings, hr⟩

lemma Sound.upsertReceipt {receipt : CommandReceipt} (hr : receipt.validate = .ok ())
    : (store.upsertReceipt receipt now disk).1.Sound := by
  have hreceipts : ∀ r ∈ store.upserted receipt now, r.validate = .ok () := by
    intro r hmem
    rcases mem_upserted hmem with rfl | hmem
    · exact hr
    · exact h.receipts r hmem
  exact sound_withReceipts h hreceipts

lemma Sound.updateMapping {change : IdentityMapping → IdentityMapping}
    (hchange : ∀ m, m.Sound → (change m).Sound) :
    (store.updateMapping sessionId change disk).1.Sound := by
  unfold MetadataStore.updateMapping
  split
  · exact h
  · next mapping hfind =>
    refine ⟨fun m hm => ?_, h.receipts⟩
    rcases mem_of_mem_replaceFirst hm with rfl | hm
    · exact hchange _ (h.mappings _ (List.mem_of_find?_eq_some hfind))
    · exact h.mappings m hm

lemma Sound.updateRevision {revision : ℕ} :
    (store.updateRevision sessionId revision now disk).1.Sound := by
  unfold MetadataStore.updateRevision
  apply h.updateMapping
  intro m hm
  have hseed := hm.seed
  exact { hm with seed := by dsimp only; omega }

lemma Sound.updateEpoch (hepoch : epoch ≠ 0)
    : (store.updateEpoch sessionId epoch now disk).1.Sound := by
  unfold MetadataStore.updateEpoch
  apply h.updateMapping
  exact fun _ hm => { hm with epoch := hepoch }

end

variable {m : IdentityMapping}

lemma reclaim_sound (hid : ∀ preferred ∈ claim.preferredSessionId, validOpaqueId preferred = .ok ())
    (hepoch : epoch ≠ 0) (hm : m.Sound) : (reclaim claim epoch m).Sound := by
  refine ⟨?_, ?_, ?_, (bump_pos _).ne'⟩
  · cases hp : claim.preferredSessionId with
    | none => simpa [reclaim, hp] using hm.sessionId
    | some preferred => simpa [reclaim, hp] using hid preferred hp
  · simp only [reclaim]
    split
    · exact hm.generation
    · exact (bump_pos _).ne'
  · simp only [reclaim]
    split
    · exact hepoch
    · exact hm.epoch

lemma mem_makeRoom {mappings : List IdentityMapping} (h : m ∈ makeRoom mappings) : m ∈ mappings := by
  unfold makeRoom at h
  split at h
  · exact mem_sortByKey.mp (List.mem_of_mem_tail h)
  · exact h

lemma register_cases (store : MetadataStore) (claim : Claim) (freshId : String) (epoch : ℕ)
    (disk : Except String Unit) :
    (∃ e, store.register claim freshId epoch disk = (store, .error e)) ∨
    (∀ preferred ∈ claim.preferredSessionId, validOpaqueId preferred = .ok ()) ∧
    ((∃ mapping, store.mappings.find? (·.upstreamDigest = store.digest claim.upstreamIdentity) = some mapping ∧
      store.register claim freshId epoch disk =
        ({ store with
            mappings := replaceFirst IdentityMapping.upstreamDigest (reclaim claim epoch mapping) store.mappings
            receipts := store.receiptsAfterMove claim mapping },
          disk.map fun _ => reclaim claim epoch mapping)) ∨
      store.mappings.find? (·.upstreamDigest = store.digest claim.upstreamIdentity) = none ∧
      store.register claim freshId epoch disk =
        ({ store with mappings := makeRoom store.mappings ++ [store.mint claim freshId epoch] },
          disk.map fun _ => store.mint claim freshId epoch)) := by
  unfold register
  split
  · exact .inl ⟨_, rfl⟩
  · next hvalid =>
    dsimp only
    split
    · exact .inl ⟨_, rfl⟩
    · refine .inr ⟨fun preferred hp => ?_, ?_⟩
      · by_contra hne
        exact hvalid ⟨preferred, hp, hne⟩
      · cases hfind : store.mappings.find? (·.upstreamDigest = store.digest claim.upstreamIdentity) with
        | none =>
          refine .inr ⟨rfl, ?_⟩
          cases disk <;> rfl
        | some mapping =>
          refine .inl ⟨mapping, rfl, ?_⟩
          cases disk <;> rfl

lemma Sound.register (h : store.Sound) {freshId : String} (hid : validOpaqueId freshId = .ok ())
    (hepoch : epoch ≠ 0) :
    (store.register claim freshId epoch disk).1.Sound ∧
      ∀ mapping, (store.register claim freshId epoch disk).2 = .ok mapping → mapping.Sound := by
  rcases register_cases store claim freshId epoch disk with
    ⟨e, heq⟩ | ⟨hpreferred, ⟨old, hfind, heq⟩ | ⟨-, heq⟩⟩
  · rw [heq]
    exact ⟨h, by simp⟩
  · have hnew := reclaim_sound hpreferred hepoch (h.mappings old (List.mem_of_find?_eq_some hfind))
    rw [heq]
    refine ⟨⟨fun m hm => ?_, fun r hr => ?_⟩, fun mapping hmap => ?_⟩
    · rcases mem_of_mem_replaceFirst hm with rfl | hm
      · exact hnew
      · exact h.mappings m hm
    · unfold receiptsAfterMove at hr
      split at hr
      · exact h.receipts r (List.mem_filter.mp hr).1
      · exact h.receipts r hr
    · cases disk with
      | error e => cases hmap
      | ok u => cases hmap; exact hnew
  · have hnew : (store.mint claim freshId epoch).Sound := by
      refine ⟨?_, by simp [mint], hepoch, by simp [mint]⟩
      cases hp : claim.preferredSessionId with
      | none => simpa [mint, hp] using hid
      | some preferred => simpa [mint, hp] using hpreferred preferred hp
    rw [heq]
    refine ⟨⟨fun m hm => ?_, h.receipts⟩, fun mapping hmap => ?_⟩
    · rcases List.mem_append.mp hm with hm | hm
      · exact h.mappings m (mem_makeRoom hm)
      · exact List.mem_singleton.mp hm ▸ hnew
    · cases disk with
      | error e => cases hmap
      | ok u => cases hmap; exact hnew

end MetadataStore

end CiaoHost.Session
