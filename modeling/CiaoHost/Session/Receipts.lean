import CiaoHost.Session.SoundStore
import CiaoHost.Session.Frames

/-! Receipts in the store and in a session: what one posting leaves in both, and the moves that post
nothing. -/

namespace CiaoHost.Session

open Protocol Lib Lib.Checks Lib.KeyedList

namespace MetadataStore

variable {store : MetadataStore} {receipt r : CommandReceipt} {clock : ℕ}

def receiptBound : ℕ := maxIdentityMappings * maxCommandReceipts

structure Booked (store : MetadataStore) : Prop where
  once : (store.receipts.map CommandReceipt.commandId).Nodup
  bound : store.receipts.length ≤ receiptBound

structure Current (store : MetadataStore) (receipt : CommandReceipt) (clock : ℕ) : Prop where
  newest : ∀ r ∈ store.receipts, r.commandId = receipt.commandId → r.updatedAt ≤ receipt.updatedAt
  fresh : clock - receipt.updatedAt ≤ receiptTtlSeconds
  room : (∀ r ∈ store.receipts, r.updatedAt ≤ receipt.updatedAt) ∨ store.receipts.length < receiptBound

lemma Booked.receipt_eq (h : store.Booked) (hr : r ∈ store.receipts) : store.receipt r.commandId = some r :=
  find_eq_some_of_mem h.once hr

lemma Booked.sublist {store' : MetadataStore} (h : store.Booked) (hsub : store'.receipts.Sublist store.receipts) :
    store'.Booked :=
  ⟨List.Nodup.sublist (hsub.map _) h.once, hsub.length_le.trans h.bound⟩

lemma mem_of_receipt {commandId : String} (h : store.receipt commandId = some r) :
    r ∈ store.receipts ∧ r.commandId = commandId :=
  ⟨List.mem_of_find?_eq_some h, by simpa using List.find?_some h⟩

def entered (store : MetadataStore) (receipt : CommandReceipt) : List CommandReceipt :=
  match store.receipts.find? (·.commandId = receipt.commandId) with
  | some existing =>
    if existing.updatedAt ≤ receipt.updatedAt then replaceFirst CommandReceipt.commandId receipt store.receipts
    else store.receipts
  | none => store.receipts ++ [receipt]

def unexpired (store : MetadataStore) (receipt : CommandReceipt) (now : ℕ) : List CommandReceipt :=
  sortByKey CommandReceipt.updatedAt
    ((store.entered receipt).filter fun r => now - r.updatedAt ≤ receiptTtlSeconds)

lemma upserted_eq (store : MetadataStore) (receipt : CommandReceipt) (now : ℕ) : store.upserted receipt now =
    (store.unexpired receipt now).drop ((store.unexpired receipt now).length - receiptBound) := rfl

lemma entered_nodup (h : store.Booked) : ((store.entered receipt).map CommandReceipt.commandId).Nodup := by
  rw [entered]
  cases hfind : store.receipts.find? (·.commandId = receipt.commandId) with
  | some existing =>
    dsimp only
    split
    · rw [map_key_replaceFirst]
      exact h.once
    · exact h.once
  | none =>
    rw [List.map_append, List.map_singleton, ← List.concat_eq_append]
    apply h.once.concat
    intro hmem
    obtain ⟨r, hr, hid⟩ := List.mem_map.mp hmem
    have hnone := List.find?_eq_none.mp hfind r hr
    simp [hid] at hnone

lemma unexpired_nodup (h : store.Booked) (now : ℕ) :
    ((store.unexpired receipt now).map CommandReceipt.commandId).Nodup := by
  rw [unexpired]
  apply ((sortByKey_perm _ _).map _).nodup_iff.mpr
  exact List.Nodup.sublist (List.filter_sublist.map _) (entered_nodup h)

lemma Booked.upserted (h : store.Booked) (receipt : CommandReceipt) (now : ℕ) :
    { store with receipts := store.upserted receipt now }.Booked := by
  have hcut : store.upserted receipt now =
    (store.unexpired receipt now).drop ((store.unexpired receipt now).length - receiptBound) := upserted_eq ..
  refine ⟨?_, ?_⟩
  · simp only [hcut]
    exact List.Nodup.sublist ((List.drop_sublist _ _).map _) (unexpired_nodup h now)
  · simp only [hcut, List.length_drop]
    omega

lemma mem_entered_self (h : store.Current receipt clock) : receipt ∈ store.entered receipt := by
  rw [entered]
  cases hfind : store.receipts.find? (·.commandId = receipt.commandId) with
  | some existing =>
    have hmem := List.mem_of_find?_eq_some hfind
    have hid : existing.commandId = receipt.commandId := by simpa using List.find?_some hfind
    dsimp only
    rw [if_pos (h.newest existing hmem hid)]
    exact mem_replaceFirst_self (hid ▸ List.mem_map_of_mem hmem)
  | none => exact List.mem_append_right _ (List.mem_singleton_self _)

lemma sortByKey_concat {rank : CommandReceipt → ℕ} {l : List CommandReceipt} (h : ∀ r ∈ l, rank r ≤ rank receipt) :
    sortByKey rank (l ++ [receipt]) = sortByKey rank l ++ [receipt] := by
  have hinsert : ∀ (m : List CommandReceipt) (y : CommandReceipt), rank y ≤ rank receipt →
      (m ++ [receipt]).orderedInsert (rank · ≤ rank ·) y = m.orderedInsert (rank · ≤ rank ·) y ++ [receipt] := by
    intro m y hy
    induction m with
    | nil => simp [hy]
    | cons z zs ih =>
      rw [List.cons_append, List.orderedInsert, List.orderedInsert]
      split
      · rfl
      · rw [ih, List.cons_append]
  induction l with
  | nil => rfl
  | cons y ys ih =>
    have hrest := ih fun r hr => h r (List.mem_cons_of_mem y hr)
    rw [sortByKey] at hrest
    rw [sortByKey, List.cons_append, List.insertionSort_cons, hrest, hinsert _ _ (h y List.mem_cons_self)]
    rfl

lemma entered_length (store : MetadataStore) (receipt : CommandReceipt) :
    (store.entered receipt).length ≤ store.receipts.length ∨ store.entered receipt = store.receipts ++ [receipt] := by
  rw [entered]
  cases store.receipts.find? (·.commandId = receipt.commandId) with
  | some existing =>
    dsimp only
    split
    · exact .inl length_replaceFirst.le
    · exact .inl le_rfl
  | none => exact .inr rfl

lemma mem_unexpired_self (h : store.Current receipt clock) : receipt ∈ store.unexpired receipt clock := by
  rw [unexpired, mem_sortByKey, List.mem_filter]
  exact ⟨mem_entered_self h, by simpa using h.fresh⟩

lemma unexpired_length_le (store : MetadataStore) (receipt : CommandReceipt) (now : ℕ) :
    (store.unexpired receipt now).length ≤ (store.entered receipt).length := by
  rw [unexpired, length_sortByKey]
  exact List.length_filter_le _ _

lemma mem_upserted_self (hb : store.Booked) (hc : store.Current receipt clock) :
    receipt ∈ store.upserted receipt clock := by
  have hall : (store.unexpired receipt clock).length ≤ receiptBound → receipt ∈ store.upserted receipt clock := by
    intro hlength
    rw [upserted_eq, Nat.sub_eq_zero_of_le hlength, List.drop_zero]
    exact mem_unexpired_self hc
  have hle := store.unexpired_length_le receipt clock
  rcases store.entered_length receipt with hlength | hpushed
  · exact hall (hle.trans (hlength.trans hb.bound))
  · rcases hc.room with hlate | hroom
    · -- pushed behind receipts that are no later, it is the last to be cut
      have hkept : (store.receipts ++ [receipt]).filter (fun r => clock - r.updatedAt ≤ receiptTtlSeconds) =
          store.receipts.filter (fun r => clock - r.updatedAt ≤ receiptTtlSeconds) ++ [receipt] := by
        have hfresh := hc.fresh
        rw [List.filter_append, List.filter_singleton]
        simp [hfresh]
      have hlast : store.unexpired receipt clock = sortByKey CommandReceipt.updatedAt
          (store.receipts.filter fun r => clock - r.updatedAt ≤ receiptTtlSeconds) ++ [receipt] := by
        rw [unexpired, hpushed, hkept]
        exact sortByKey_concat fun r hr => hlate r (List.mem_filter.mp hr).1
      have hbound : 0 < receiptBound := by decide
      rw [upserted_eq, hlast, List.drop_append_of_le_length]
      · exact List.mem_append_right _ (List.mem_singleton_self _)
      · rw [List.length_append, List.length_singleton]
        omega
    · apply hall
      rw [hpushed, List.length_append, List.length_singleton] at hle
      omega

lemma receipt_upserted_self (hb : store.Booked) (hc : store.Current receipt clock) :
    { store with receipts := store.upserted receipt clock }.receipt receipt.commandId = some receipt := by
  have hbooked := hb.upserted receipt clock
  have hmem := mem_upserted_self hb hc
  generalize store.upserted receipt clock = receipts at hbooked hmem ⊢
  exact hbooked.receipt_eq hmem

end MetadataStore

namespace LiveSession

def receipts (s : LiveSession) : List CommandReceipt := s.snapshot.latestCommandReceipts

def receipt (s : LiveSession) (commandId : String) : Option CommandReceipt :=
  s.receipts.find? (·.commandId = commandId)

variable {s s' : LiveSession} {receipt r : CommandReceipt}

lemma find_receiptsWith (receipts : List CommandReceipt) (receipt : CommandReceipt) :
    (receiptsWith receipts receipt).find? (·.commandId = receipt.commandId) = some receipt := by
  rw [receiptsWith]
  split
  · rename_i hany
    apply find_replaceFirst_self
    simpa [List.any_eq_true] using hany
  · rename_i hany
    have hnone : ∀ l : List CommandReceipt, l ⊆ receipts →
        (l ++ [receipt]).find? (·.commandId = receipt.commandId) = some receipt := by
      intro l hl
      rw [List.find?_append, List.find?_eq_none.mpr]
      · simp
      · intro r hr hid
        exact hany (List.any_eq_true.mpr ⟨r, hl hr, hid⟩)
    rw [AgentSessionSnapshot.boundReceipts]
    split
    · rename_i hlong
      cases receipts with
      | nil => exact absurd hlong (by simp [maxCommandReceipts])
      | cons first rest => exact hnone rest (List.subset_cons_self _ _)
    · exact hnone receipts (List.Subset.refl _)

variable {store : MetadataStore}

lemma persistAndPublishReceipt_agrees {clock : ℕ} {disk : Except String Unit}
    (hb : store.Booked) (hc : store.Current receipt clock)
    (hok : (s.persistAndPublishReceipt store clock disk receipt).2 = .ok ()) :
    (s.persistAndPublishReceipt store clock disk receipt).1.session.receipt receipt.commandId = some receipt ∧
    (s.persistAndPublishReceipt store clock disk receipt).1.store.receipt receipt.commandId = some receipt := by
  cases disk with
  | error e => cases hok
  | ok _ => exact ⟨find_receiptsWith _ _, MetadataStore.receipt_upserted_self hb hc⟩

structure Calm (s s' : LiveSession) : Prop where
  sender : s'.bridgeSender = s.bridgeSender
  inFlight : s'.inFlightCommands = s.inFlightCommands
  receipts : ∀ r ∈ s'.receipts, r ∈ s.receipts

lemma Resting.calm (h : Resting s s') : s.Calm s' := ⟨h.bridgeSender, h.inFlight, h.receipts⟩

section

variable (store : MetadataStore)

lemma updateMapping_receipts (sessionId : String) (change : IdentityMapping → IdentityMapping)
    (disk : Except String Unit) : (store.updateMapping sessionId change disk).1.receipts = store.receipts := by
  rw [MetadataStore.updateMapping]
  split
  · rfl
  · rfl

lemma rewriteTo_stored (env : Env) (rewritten : Timeline) (complete : Option Bool)
    (visible : Bool) (reason : String) :
    (s.rewriteTo store env rewritten complete visible reason).1.store.receipts = store.receipts := by
  apply rewriteTo_keeps (P := fun effect => effect.store.receipts = store.receipts)
  · rfl
  · exact fun _ _ h => (updateMapping_receipts ..).trans h
  · exact fun _ _ h => h
  · exact fun _ _ _ h => h
  · exact fun _ _ _ h => (updateMapping_receipts ..).trans h

end

end LiveSession

open LiveSession

theorem Moved.calm {store : MetadataStore} {carried : Option (List TimelineEntry)} {env : Env} {id : String}
    {s : LiveSession} {op : Op} {effect : Effect} (hm : Moved store carried env id s op effect)
    (hop : op.posts = false) : s.Calm effect.session ∧ effect.store.receipts = store.receipts := by
  refine ⟨?_, ?_⟩
  · cases hm.course with
    | restated h => exact h.resting.calm
    | rewrote _ h => exact h.calm
    | issued hposts => exact absurd hposts (by simp [hop])
    | relocated hrelocates =>
      cases hm with
      | observedEnd | route | routeLost => exact ⟨rfl, rfl, fun _ hr => hr⟩
      | disconnect | adoptedEnd => cases hop
      | fenced op r sender e hopr | unassigned op r sender e effect hopr =>
        exact absurd (Op.posts_of_registration hopr) (by simp [hop])
      | _ => cases hrelocates
  · cases hm with
    | snapshot => exact rewriteTo_stored ..
    | backfill | turnRead =>
      exact reconcileHistory_keeps (P := fun effect => effect.store.receipts = store.receipts) rfl
        fun _ _ _ _ _ => rewriteTo_stored ..
    | answered | delivered | undelivered | receipt | disconnect | observed => cases hop
    | fenced op r sender e hopr | unassigned op r sender e effect hopr =>
      exact absurd (Op.posts_of_registration hopr) (by simp [hop])
    | _ => rfl

end CiaoHost.Session
