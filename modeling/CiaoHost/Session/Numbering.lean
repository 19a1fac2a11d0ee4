import CiaoHost.Session.Rewrite

/-! The representation invariant of a timeline, and the operations of the live tail and of the
host bound that keep it. -/

namespace CiaoHost.Session.Timeline

open Protocol Lib Lib.Saturating Lib.KeyedList

/-- Rows have distinct ids and strictly increasing positive numbers below the next one; every
source names a row under its number; no row has two record sources. -/
structure WellNumbered (t : Timeline) : Prop where
  ids : (t.history.map TimelineEntry.entryId).Nodup
  sorted : t.history.Pairwise (·.sequence < ·.sequence)
  positive : ∀ e ∈ t.history, 0 < e.sequence
  below : ∀ e ∈ t.history, e.sequence < t.nextSequence
  mapped : ∀ source m, t.sourceEntries.lookup source = some m →
    ∃ e ∈ t.history, e.entryId = m.entryId ∧ e.sequence = m.sequence
  named : ∀ source source' m m', t.sourceEntries.lookup source = some m →
    t.sourceEntries.lookup source' = some m' → m.settled = false → m'.settled = false →
    m.entryId = m'.entryId → source = source'
  next : 0 < t.nextSequence

def ids (t : Timeline) : List String := t.history.map TimelineEntry.entryId

lemma wellNumbered_empty : WellNumbered .empty where
  ids := by simp [empty]
  sorted := by simp [empty]
  positive := by simp [empty]
  below := by simp [empty]
  mapped := by simp [empty]
  named := by simp [empty]
  next := by simp [empty]

variable {t : Timeline}

variable {e : TimelineEntry} {id : String}

variable {e' : TimelineEntry} {m : SourceEntryMapping} {source : String}

section

variable (h : t.WellNumbered) (he : e ∈ t.history) (he' : e' ∈ t.history)

include h he he'

lemma WellNumbered.eq_of_id (hid : e.entryId = e'.entryId) : e = e' :=
  List.inj_on_of_nodup_map h.ids he he' hid

lemma WellNumbered.eq_of_sequence (hs : e.sequence = e'.sequence) : e = e' := by
  have hnd : (t.history.map TimelineEntry.sequence).Nodup := by
    rw [List.Nodup, List.pairwise_map]
    exact h.sorted.imp fun hlt => hlt.ne
  exact List.inj_on_of_nodup_map hnd he he' hs

end

lemma mem_ids_iff : id ∈ t.ids ↔ ∃ e ∈ t.history, e.entryId = id := by
  simp [ids]

lemma row_eq_none_iff : t.row id = none ↔ id ∉ t.ids := by
  simp [row, ids, List.find?_eq_none]

lemma row_some (h : t.row id = some e) : e ∈ t.history ∧ e.entryId = id :=
  ⟨List.mem_of_find?_eq_some h, by simpa using List.find?_some h⟩

lemma WellNumbered.row_of_mapped (h : t.WellNumbered) (hm : t.sourceEntries.lookup source = some m) :
    ∃ e, t.row m.entryId = some e ∧ e.sequence = m.sequence := by
  obtain ⟨e, he, hid, hs⟩ := h.mapped source m hm
  cases hr : t.row m.entryId with
  | none => exact absurd (mem_ids_iff.mpr ⟨e, he, hid⟩) (row_eq_none_iff.mp hr)
  | some e' =>
    obtain ⟨he', hid'⟩ := row_some hr
    rw [h.eq_of_id he' he (hid'.trans hid.symm)]
    exact ⟨e, rfl, hs⟩

lemma normalizeEntry_known {e : NormalizedTimelineEntry} (freshId : String)
    (hm : t.sourceEntries.lookup e.sourceId = some m) : t.normalizeEntry freshId e = (t, normalizedRow e m) := by
  simp [normalizeEntry, hm]

lemma normalizeEntry_new {e : NormalizedTimelineEntry} (freshId : String)
    (hm : t.sourceEntries.lookup e.sourceId = none) :
    t.normalizeEntry freshId e =
      ({ t with
          sourceEntries := t.sourceEntries.insert e.sourceId ⟨freshId, t.nextSequence, false⟩
          nextSequence := bump t.nextSequence },
        normalizedRow e ⟨freshId, t.nextSequence, false⟩) := by
  simp [normalizeEntry, hm]

lemma WellNumbered.replaceRow (h : t.WellNumbered) (hm : t.sourceEntries.lookup source = some m)
    (hid : e.entryId = m.entryId) (hs : e.sequence = m.sequence) : (t.replaceRow e).WellNumbered := by
  obtain ⟨old, hold, holdId, hsequence⟩ := h.mapped source m hm
  replace hid : old.entryId = e.entryId := holdId.trans hid.symm
  replace hs : old.sequence = e.sequence := hsequence.trans hs.symm
  have hseq : (replaceFirst TimelineEntry.entryId e t.history).map TimelineEntry.sequence =
      t.history.map TimelineEntry.sequence := by
    refine map_replaceFirst _ fun y hy hye => ?_
    rw [h.eq_of_id hy hold (hye.trans hid.symm), hs]
  have hrow : ∀ z ∈ replaceFirst TimelineEntry.entryId e t.history, ∃ y ∈ t.history,
      y.entryId = z.entryId ∧ y.sequence = z.sequence := by
    intro z hz
    rcases mem_of_mem_replaceFirst hz with rfl | hz
    · exact ⟨old, hold, hid, hs⟩
    · exact ⟨z, hz, rfl, rfl⟩
  refine ⟨?_, ?_, ?_, ?_, ?_, h.named, h.next⟩
  · simpa [Timeline.replaceRow] using h.ids
  · have hsorted := h.sorted
    rw [← List.pairwise_map (f := TimelineEntry.sequence) (R := (· < ·))] at hsorted ⊢
    simpa [Timeline.replaceRow, hseq] using hsorted
  · intro z hz
    obtain ⟨y, hy, -, hys⟩ := hrow z hz
    exact hys ▸ h.positive y hy
  · intro z hz
    obtain ⟨y, hy, -, hys⟩ := hrow z hz
    exact hys ▸ h.below y hy
  · intro source m hm
    obtain ⟨y, hy, hyid, hys⟩ := h.mapped source m hm
    by_cases hye : y.entryId = e.entryId
    · have hmem : e ∈ replaceFirst TimelineEntry.entryId e t.history :=
        (mem_replaceFirst_iff h.ids (hye ▸ List.mem_map_of_mem hy)).mpr (.inl rfl)
      refine ⟨e, hmem, hye ▸ hyid, ?_⟩
      rw [← hs, ← h.eq_of_id hy hold (hye.trans hid.symm), hys]
    · have hmem : y ∈ replaceFirst TimelineEntry.entryId e t.history :=
        (mem_replaceFirst_iff h.ids (hid ▸ List.mem_map_of_mem hold)).mpr (.inr ⟨hy, hye⟩)
      exact ⟨y, hmem, hyid, hys⟩

def addRow (t : Timeline) (source : String) (e : TimelineEntry) : Timeline :=
  { t with
    sourceEntries := t.sourceEntries.insert source ⟨e.entryId, t.nextSequence, false⟩
    nextSequence := bump t.nextSequence }.insertRow e

lemma mem_addRow {row : TimelineEntry} : row ∈ (t.addRow source e).history ↔ row ∈ t.history ∨ row = e := by
  simp [addRow, insertRow]

lemma addRow_nodup (hids : t.ids.Nodup) (hfresh : e.entryId ∉ t.ids) : (t.addRow source e).ids.Nodup := by
  rw [ids, addRow, insertRow, ((sortByKey_perm _ _).map _).nodup_iff, List.map_append, List.nodup_append]
  refine ⟨hids, by simp, ?_⟩
  rintro a ha b hb rfl
  simp only [List.map_cons, List.map_nil, List.mem_singleton] at hb
  exact hfresh (hb ▸ ha)

lemma WellNumbered.addRow (h : t.WellNumbered) (hfresh : e.entryId ∉ t.ids) (hs : e.sequence = t.nextSequence)
    (hroom : t.nextSequence < u64Max) :
    (t.addRow source e).WellNumbered := by
  have hhist : (t.addRow source e).history = sortByKey TimelineEntry.sequence (t.history ++ [e]) := rfl
  have hnd : ((t.history ++ [e]).map TimelineEntry.sequence).Nodup := by
    rw [List.map_append, List.nodup_append]
    refine ⟨?_, by simp, ?_⟩
    · rw [List.Nodup, List.pairwise_map]
      exact h.sorted.imp fun hlt => hlt.ne
    · rintro a ha b hb rfl
      obtain ⟨y, hy, rfl⟩ := List.mem_map.mp ha
      have hlt := h.below y hy
      simp only [List.map_cons, List.map_nil, List.mem_singleton] at hb
      omega
  have hnext : (t.addRow source e).nextSequence = t.nextSequence + 1 := bump_eq hroom
  refine ⟨?_, ?_, ?_, ?_, ?_, ?_, ?_⟩
  · exact addRow_nodup h.ids hfresh
  · exact hhist ▸ sortByKey_strict hnd
  · intro z hz
    rcases mem_addRow.mp hz with hz | rfl
    · exact h.positive z hz
    · exact hs ▸ h.next
  · intro z hz
    rw [hnext]
    rcases mem_addRow.mp hz with hz | rfl
    · exact (h.below z hz).trans (Nat.lt_succ_self _)
    · omega
  · intro source' m hm
    rcases KeyedMap.lookup_insert_cases hm with ⟨rfl, rfl⟩ | ⟨-, hm⟩
    · exact ⟨e, mem_addRow.mpr (.inr rfl), rfl, hs⟩
    · obtain ⟨y, hy, hyid, hys⟩ := h.mapped source' m hm
      exact ⟨y, mem_addRow.mpr (.inl hy), hyid, hys⟩
  · intro s₁ s₂ m₁ m₂ h₁ h₂ hset₁ hset₂ hid
    rcases KeyedMap.lookup_insert_cases h₁ with ⟨rfl, rfl⟩ | ⟨-, h₁'⟩ <;>
      rcases KeyedMap.lookup_insert_cases h₂ with ⟨rfl, rfl⟩ | ⟨-, h₂'⟩
    · rfl
    · obtain ⟨y, hy, hyid, -⟩ := h.mapped s₂ m₂ h₂'
      exact absurd (mem_ids_iff.mpr ⟨y, hy, hyid.trans hid.symm⟩) hfresh
    · obtain ⟨y, hy, hyid, -⟩ := h.mapped s₁ m₁ h₁'
      exact absurd (mem_ids_iff.mpr ⟨y, hy, hyid.trans hid⟩) hfresh
    · exact h.named s₁ s₂ m₁ m₂ h₁' h₂' hset₁ hset₂ hid
  · omega

lemma replaceRow_ids (e : TimelineEntry) : (t.replaceRow e).ids = t.ids := by
  simp [ids, replaceRow]

/-- The row of a source is replaced in its place, or opened under a fresh id and the next number. -/
inductive Put (freshId source : String) (e : TimelineEntry) (t : Timeline) : Timeline → Prop
  | replaced (m : SourceEntryMapping) (hm : t.sourceEntries.lookup source = some m) (hid : e.entryId = m.entryId)
      (hs : e.sequence = m.sequence) : Put freshId source e t (t.replaceRow e)
  | opened (hnone : t.sourceEntries.lookup source = none) (hid : e.entryId = freshId) (hfresh : e.entryId ∉ t.ids)
      (hs : e.sequence = t.nextSequence) : Put freshId source e t (t.addRow source e)

section

variable {t' : Timeline} {freshId : String} (hput : t.Put freshId source e t')

include hput

lemma Put.numbered (h : t.WellNumbered) (hroom : t.nextSequence < u64Max) : t'.WellNumbered := by
  cases hput with
  | replaced m hm hid hs => exact h.replaceRow hm hid hs
  | opened hnone hid hfresh hs => exact h.addRow hfresh hs hroom

lemma Put.ids (h : id ∈ t'.ids) : id ∈ t.ids ∨ id = freshId := by
  cases hput with
  | replaced m hm hid hs => exact .inl (replaceRow_ids e ▸ h)
  | opened hnone hid hfresh hs =>
    obtain ⟨row, hrow, rfl⟩ := mem_ids_iff.mp h
    rcases mem_addRow.mp hrow with hmem | rfl
    · exact .inl (mem_ids_iff.mpr ⟨row, hmem, rfl⟩)
    · exact .inr hid

end

lemma WellNumbered.removeAt (h : t.WellNumbered) {index : ℕ} {removed : TimelineEntry}
    (hr : t.history[index]? = some removed) : (t.removeAt index removed).WellNumbered := by
  have hsub : (t.removeAt index removed).history.Sublist t.history := List.eraseIdx_sublist ..
  refine ⟨h.ids.sublist (hsub.map _), h.sorted.sublist hsub, fun e he => h.positive e (hsub.subset he),
    fun e he => h.below e (hsub.subset he), ?_, ?_, h.next⟩
  · intro source m hm
    simp only [Timeline.removeAt, KeyedMap.lookup_retain, Option.filter_eq_some_iff, decide_eq_true_eq] at hm
    obtain ⟨e, he, hid, hs⟩ := h.mapped source m hm.1
    refine ⟨e, ?_, hid, hs⟩
    have hne : e ≠ removed := fun heq => hm.2 (heq ▸ hid.symm)
    obtain ⟨n, hn⟩ := List.mem_iff_getElem?.mp he
    refine List.mem_eraseIdx_iff_getElem?.mpr ⟨n, fun heq => hne ?_, hn⟩
    rw [heq, hr] at hn
    exact (Option.some.inj hn).symm
  · intro s₁ s₂ m₁ m₂ h₁ h₂
    simp only [Timeline.removeAt, KeyedMap.lookup_retain, Option.filter_eq_some_iff] at h₁ h₂
    exact h.named s₁ s₂ m₁ m₂ h₁.1 h₂.1

lemma evict_induction {P : Timeline → Prop} (hstep : ∀ t bytes removed, P t → overBound bytes t.history →
      t.history[evictionIndex t.history]? = some removed → P (t.removeAt (evictionIndex t.history) removed))
    (fuel bytes : ℕ) (h : P t) : P (t.evict fuel bytes) := by
  induction fuel generalizing t bytes with
  | zero => exact h
  | succ fuel ih =>
    unfold evict
    split
    · next hover =>
      split
      · exact h
      · next removed hr => exact ih _ (hstep t bytes removed h hover hr)
    · exact h

lemma enforceHistoryBound_within (h : ¬ overBound (decodedBytes t.history) t.history) :
    t.enforceHistoryBound.1 = t := by
  rw [enforceHistoryBound]
  cases t.history.length with
  | zero => rfl
  | succ fuel =>
    dsimp only
    rw [evict, if_neg h]

lemma WellNumbered.enforceHistoryBound (h : t.WellNumbered) : t.enforceHistoryBound.1.WellNumbered :=
  evict_induction (fun _ _ _ h _ hr => h.removeAt hr) _ _ h

end CiaoHost.Session.Timeline
