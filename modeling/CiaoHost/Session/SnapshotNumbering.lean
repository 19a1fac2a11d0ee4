import CiaoHost.Session.Numbering

/-! A complete bridge snapshot, with or without an inherited transcript, keeps the timeline well
numbered when its entries name distinct rows. -/

namespace CiaoHost.Session.Timeline

open Protocol Lib Lib.Saturating Lib.KeyedList

structure Consistent (t : Timeline) : Prop where
  numbered : ∀ s s' m m', t.sourceEntries.lookup s = some m → t.sourceEntries.lookup s' = some m' →
    (m.entryId = m'.entryId ↔ m.sequence = m'.sequence)
  positive : ∀ s m, t.sourceEntries.lookup s = some m → 0 < m.sequence
  below : ∀ s m, t.sourceEntries.lookup s = some m → m.sequence < t.nextSequence
  named : ∀ s s' m m', t.sourceEntries.lookup s = some m → t.sourceEntries.lookup s' = some m' →
    m.settled = false → m'.settled = false → m.entryId = m'.entryId → s = s'
  next : 0 < t.nextSequence

variable {t : Timeline}

lemma WellNumbered.consistent (h : t.WellNumbered) : t.Consistent where
  numbered s s' m m' hm hm' := by
    obtain ⟨e, he, hid, hs⟩ := h.mapped s m hm
    obtain ⟨e', he', hid', hs'⟩ := h.mapped s' m' hm'
    rw [← hid, ← hid', ← hs, ← hs']
    exact ⟨fun heq => congrArg _ (h.eq_of_id he he' heq), fun heq => congrArg _ (h.eq_of_sequence he he' heq)⟩
  positive s m hm := by
    obtain ⟨e, he, -, hs⟩ := h.mapped s m hm
    exact hs ▸ h.positive e he
  below s m hm := by
    obtain ⟨e, he, -, hs⟩ := h.mapped s m hm
    exact hs ▸ h.below e he
  named := h.named
  next := h.next

def unnamed (t : Timeline) (id : String) : Prop :=
  ∀ s m, t.sourceEntries.lookup s = some m → m.entryId ≠ id

lemma WellNumbered.unnamed (h : t.WellNumbered) {id : String} (hid : id ∉ t.ids) : t.unnamed id := by
  rintro s m hm rfl
  obtain ⟨e, he, heid, -⟩ := h.mapped s m hm
  exact hid (mem_ids_iff.mpr ⟨e, he, heid⟩)

@[simp] lemma raiseRevision_sourceId (t : Timeline) (e : NormalizedTimelineEntry) :
    (t.raiseRevision e).sourceId = e.sourceId := by
  unfold raiseRevision
  split
  · split <;> rfl
  · rfl

lemma Consistent.insert (h : t.Consistent) {source id : String} (hnew : t.sourceEntries.lookup source = none)
    (hid : t.unnamed id) (hroom : t.nextSequence < u64Max) :
    Consistent { t with
      sourceEntries := t.sourceEntries.insert source ⟨id, t.nextSequence, false⟩
      nextSequence := bump t.nextSequence } := by
  refine ⟨?_, ?_, ?_, ?_, bump_pos _⟩
  · intro s s' m m' hm hm'
    rcases KeyedMap.lookup_insert_cases hm with ⟨-, rfl⟩ | ⟨-, hm⟩ <;>
      rcases KeyedMap.lookup_insert_cases hm' with ⟨-, rfl⟩ | ⟨-, hm'⟩
    · simp
    · have hlt := h.below s' m' hm'
      exact ⟨fun heq => absurd heq.symm (hid s' m' hm'), fun heq => absurd heq hlt.ne'⟩
    · have hlt := h.below s m hm
      exact ⟨fun heq => absurd heq (hid s m hm), fun heq => absurd heq hlt.ne⟩
    · exact h.numbered s s' m m' hm hm'
  · intro s m hm
    rcases KeyedMap.lookup_insert_cases hm with ⟨-, rfl⟩ | ⟨-, hm⟩
    · exact h.next
    · exact h.positive s m hm
  · intro s m hm
    simp only [bump_eq hroom]
    rcases KeyedMap.lookup_insert_cases hm with ⟨-, rfl⟩ | ⟨-, hm⟩
    · exact Nat.lt_succ_self _
    · exact (h.below s m hm).trans (Nat.lt_succ_self _)
  · intro s s' m m' hm hm' hset hset' heq
    rcases KeyedMap.lookup_insert_cases hm with ⟨rfl, rfl⟩ | ⟨-, hold⟩ <;>
      rcases KeyedMap.lookup_insert_cases hm' with ⟨rfl, rfl⟩ | ⟨-, hold'⟩
    · rfl
    · exact absurd heq.symm (hid s' m' hold')
    · exact absurd heq (hid s m hold)
    · exact h.named s s' m m' hold hold' hset hset' heq

def IsRowOf (t : Timeline) (e : NormalizedTimelineEntry) (row : TimelineEntry) : Prop :=
  ∃ m revision, t.sourceEntries.lookup e.sourceId = some m ∧
    (revision = e.sourceRevision ∨ ∃ previous, revision = bump previous) ∧
    row = normalizedRow { e with sourceRevision := revision } m

structure Normalized (ids : ℕ → String) (index : ℕ) (t : Timeline) (entries : List NormalizedTimelineEntry)
    (t' : Timeline) (rows : List TimelineEntry) : Prop where
  consistent : t'.Consistent
  next : t.nextSequence ≤ t'.nextSequence ∧ t'.nextSequence ≤ t.nextSequence + entries.length
  kept : ∀ s m, t.sourceEntries.lookup s = some m → t'.sourceEntries.lookup s = some m
  rows : List.Forall₂ t'.IsRowOf entries rows
  origin : ∀ s m, t'.sourceEntries.lookup s = some m → t.sourceEntries.lookup s = some m ∨
    t.sourceEntries.lookup s = none ∧ m.settled = false ∧ t.nextSequence ≤ m.sequence ∧
      ∃ n, index ≤ n ∧ n < index + entries.length ∧ m.entryId = ids n

lemma raiseRevision_cases (t : Timeline) (e : NormalizedTimelineEntry) :
    ∃ revision, (revision = e.sourceRevision ∨ ∃ previous, revision = bump previous) ∧
      t.raiseRevision e = { e with sourceRevision := revision } := by
  unfold raiseRevision
  split
  · next previous _ =>
    split
    · exact ⟨_, .inr ⟨previous, rfl⟩, rfl⟩
    · exact ⟨_, .inl rfl, rfl⟩
  · exact ⟨_, .inl rfl, rfl⟩

lemma normalizeAll_spec {ids : ℕ → String} {index : ℕ} {entries : List NormalizedTimelineEntry} (hc : t.Consistent)
    (hfresh : ∀ n, index ≤ n → n < index + entries.length → t.unnamed (ids n))
    (hinj : ∀ n, index ≤ n → n < index + entries.length → ∀ m < n, ids m ≠ ids n)
    (hroom : t.nextSequence + entries.length ≤ u64Max) :
    Normalized ids index t entries (normalizeAll ids index t entries).1 (normalizeAll ids index t entries).2 := by
  induction entries generalizing index t with
  | nil => exact ⟨hc, ⟨le_rfl, le_rfl⟩, fun _ _ h => h, .nil, fun _ _ h => .inl h⟩
  | cons e entries ih =>
    simp only [List.length_cons] at hfresh hinj hroom
    obtain ⟨revision, hrev, hraise⟩ := raiseRevision_cases t e
    cases hm : t.sourceEntries.lookup e.sourceId with
    | some m =>
      have hnorm : t.normalizeEntry (ids index) (t.raiseRevision e) =
          (t, normalizedRow { e with sourceRevision := revision } m) := by
        rw [normalizeEntry_known (m := m) _ (by simpa using hm), hraise]
      have hrest := @ih t (index + 1) hc (fun n h1 h2 => hfresh n (by omega) (by omega))
        (fun n h1 h2 => hinj n (by omega) (by omega)) (by omega)
      simp only [normalizeAll, hnorm]
      refine ⟨hrest.consistent, ⟨hrest.next.1, ?_⟩, hrest.kept, ?_, fun s m' h => ?_⟩
      · have hle := hrest.next.2
        simp only [List.length_cons]
        omega
      · exact .cons ⟨m, revision, hrest.kept _ _ hm, hrev, rfl⟩ hrest.rows
      · refine (hrest.origin s m' h).imp_right ?_
        rintro ⟨hnone, hset, hle, n, h1, h2, hid⟩
        exact ⟨hnone, hset, hle, n, by omega, by simp only [List.length_cons]; omega, hid⟩
    | none =>
      let t₁ : Timeline := { t with
        sourceEntries := t.sourceEntries.insert e.sourceId ⟨ids index, t.nextSequence, false⟩
        nextSequence := bump t.nextSequence }
      have hnorm : t.normalizeEntry (ids index) (t.raiseRevision e) =
          (t₁, normalizedRow { e with sourceRevision := revision } ⟨ids index, t.nextSequence, false⟩) := by
        rw [normalizeEntry_new _ (by simpa using hm), raiseRevision_sourceId, hraise]
      have hnext : t₁.nextSequence = t.nextSequence + 1 := bump_eq (by omega)
      have hc₁ : t₁.Consistent := hc.insert hm (hfresh index le_rfl (by omega)) (by omega)
      have hfresh₁ : ∀ n, index + 1 ≤ n → n < index + 1 + entries.length → t₁.unnamed (ids n) := by
        intro n h1 h2 s m' hm'
        rcases KeyedMap.lookup_insert_cases hm' with ⟨-, rfl⟩ | ⟨-, hm'⟩
        · exact hinj n (by omega) (by omega) index (by omega)
        · exact hfresh n (by omega) (by omega) s m' hm'
      have hrest := @ih t₁ (index + 1) hc₁ hfresh₁ (fun n h1 h2 => hinj n (by omega) (by omega))
        (by omega)
      have hkept : ∀ s m', t.sourceEntries.lookup s = some m' → t₁.sourceEntries.lookup s = some m' := by
        intro s m' hs
        have hne : s ≠ e.sourceId := by
          rintro rfl
          rw [hm] at hs
          cases hs
        simpa [t₁, hne] using hs
      simp only [normalizeAll, hnorm]
      refine ⟨hrest.consistent, ⟨by have := hrest.next.1; omega, ?_⟩,
        fun s m' hs => hrest.kept _ _ (hkept s m' hs), ?_, fun s m' h => ?_⟩
      · have hle := hrest.next.2
        simp only [List.length_cons]
        omega
      · exact .cons ⟨_, revision, hrest.kept _ _ (KeyedMap.lookup_insert_self ..), hrev, rfl⟩ hrest.rows
      · rcases hrest.origin s m' h with h | ⟨hnone, hset, hle, n, h1, h2, hid⟩
        · rcases KeyedMap.lookup_insert_cases h with ⟨rfl, rfl⟩ | ⟨-, h⟩
          · exact .inr ⟨hm, rfl, le_rfl, index, le_rfl, by simp, rfl⟩
          · exact .inl h
        · have hs : t.sourceEntries.lookup s = none := by
            cases hl : t.sourceEntries.lookup s with
            | none => rfl
            | some m'' => exact absurd (hnone ▸ hkept s m'' hl) (by simp)
          exact .inr ⟨hs, hset, by omega, n, by omega, by simp only [List.length_cons]; omega, hid⟩

/-- No two entries of a snapshot name the same row: no source comes twice, and no record source
comes together with a settled alias of its row. -/
def namesDistinctRows (t : Timeline) (entries : List NormalizedTimelineEntry) : Prop :=
  entries.Pairwise fun a b => a.sourceId ≠ b.sourceId ∧
    ∀ m ∈ t.sourceEntries.lookup a.sourceId, ∀ m' ∈ t.sourceEntries.lookup b.sourceId,
      m.entryId ≠ m'.entryId

instance (t : Timeline) (entries : List NormalizedTimelineEntry) : Decidable (t.namesDistinctRows entries) :=
  inferInstanceAs (Decidable (List.Pairwise _ _))

lemma IsRowOf.entryId {e : NormalizedTimelineEntry} {row : TimelineEntry} (h : t.IsRowOf e row) :
    ∃ m, t.sourceEntries.lookup e.sourceId = some m ∧ row.entryId = m.entryId ∧ row.sequence = m.sequence := by
  obtain ⟨m, revision, hm, -, rfl⟩ := h
  exact ⟨m, hm, rfl, rfl⟩

variable {rows : List TimelineEntry}

section ReplaceRows

variable {ids : ℕ → String} {entries : List NormalizedTimelineEntry}

lemma WellNumbered.normalizeAll (h : t.WellNumbered) (hfresh : ∀ n < entries.length, ids n ∉ t.ids)
    (hinj : ∀ n < entries.length, ∀ m < n, ids m ≠ ids n)
    (hroom : t.nextSequence + entries.length ≤ u64Max) :
    Normalized ids 0 t entries (Timeline.normalizeAll ids 0 t entries).1
      (Timeline.normalizeAll ids 0 t entries).2 :=
  normalizeAll_spec h.consistent (fun n _ hn => h.unnamed (hfresh n (by omega)))
    (fun n _ hn => hinj n (by omega)) hroom

lemma Normalized.ids_distinct {t' : Timeline} (h : t.WellNumbered)
    (hn : Normalized ids 0 t entries t' rows) (hfresh : ∀ n < entries.length, ids n ∉ t.ids)
    (hdist : t.namesDistinctRows entries) : (rows.map TimelineEntry.entryId).Nodup := by
  rw [List.Nodup, List.pairwise_map]
  refine pairwise_of_related hn.rows hdist ?_
  rintro a b x y ⟨hne, hrows⟩ hx hy heq
  obtain ⟨m, hm, hxid, -⟩ := hx.entryId
  obtain ⟨m', hm', hyid, -⟩ := hy.entryId
  have hmm : m.entryId = m'.entryId := by rw [← hxid, ← hyid, heq]
  -- a row is old on both sides, new on both sides, or its fresh id was never in use
  rcases hn.origin _ m hm with hold | ⟨-, hset, -, n, -, hlt, hid⟩ <;>
    rcases hn.origin _ m' hm' with hold' | ⟨-, hset', -, n', -, hlt', hid'⟩
  · exact hrows m hold m' hold' hmm
  · exact h.unnamed (hfresh n' (by omega)) _ m hold (hmm.trans hid')
  · exact h.unnamed (hfresh n (by omega)) _ m' hold' (hmm.symm.trans hid)
  · exact hne (hn.consistent.named _ _ m m' hm hm' hset hset' hmm)

theorem WellNumbered.replaceRows (h : t.WellNumbered) (hdist : t.namesDistinctRows entries)
    (hfresh : ∀ n < entries.length, ids n ∉ t.ids)
    (hinj : ∀ n < entries.length, ∀ m < n, ids m ≠ ids n)
    (hroom : t.nextSequence + entries.length ≤ u64Max) : (t.replaceRows ids entries).WellNumbered := by
  have hn := h.normalizeAll hfresh hinj hroom
  have hids := hn.ids_distinct h hfresh hdist
  set t' := (Timeline.normalizeAll ids 0 t entries).1
  set rows := (Timeline.normalizeAll ids 0 t entries).2
  have hrow : ∀ row ∈ rows, ∃ e ∈ entries, t'.IsRowOf e row := fun row hr => exists_related_left hn.rows hr
  have hseq : (rows.map TimelineEntry.sequence).Nodup := by
    rw [List.Nodup, List.pairwise_map] at hids ⊢
    refine hids.imp_of_mem fun {x y} hx hy hne heq => hne ?_
    obtain ⟨a, -, ha⟩ := hrow x hx
    obtain ⟨b, -, hb⟩ := hrow y hy
    obtain ⟨m, hm, hxid, hxs⟩ := ha.entryId
    obtain ⟨m', hm', hyid, hys⟩ := hb.entryId
    rw [hxid, hyid]
    exact (hn.consistent.numbered _ _ m m' hm hm').mpr (by rw [← hxs, ← hys, heq])
  have hhist : (t.replaceRows ids entries).history = sortByKey TimelineEntry.sequence rows := rfl
  refine ⟨?_, hhist ▸ sortByKey_strict hseq, ?_, ?_, ?_, ?_, hn.consistent.next⟩
  · rwa [hhist, ((sortByKey_perm _ _).map _).nodup_iff]
  · intro row hr
    obtain ⟨e, -, hrow⟩ := hrow row (by simpa [hhist] using hr)
    obtain ⟨m, hm, -, hs⟩ := hrow.entryId
    exact hs ▸ hn.consistent.positive _ m hm
  · intro row hr
    obtain ⟨e, -, hrow⟩ := hrow row (by simpa [hhist] using hr)
    obtain ⟨m, hm, -, hs⟩ := hrow.entryId
    exact hs ▸ hn.consistent.below _ m hm
  · intro source m hm
    simp only [Timeline.replaceRows, KeyedMap.lookup_retain, Option.filter_eq_some_iff,
      decide_eq_true_eq, List.mem_map] at hm
    obtain ⟨hm, e, he, rfl⟩ := hm
    obtain ⟨row, hr, hrow⟩ := exists_related_right hn.rows he
    obtain ⟨m', hm', hid, hs⟩ := hrow.entryId
    have hmm : m' = m := Option.some.inj (hm'.symm.trans hm)
    exact ⟨row, by simpa [hhist] using hr, hmm ▸ hid, hmm ▸ hs⟩
  · intro s s' m m' hm hm'
    simp only [Timeline.replaceRows, KeyedMap.lookup_retain, Option.filter_eq_some_iff] at hm hm'
    exact hn.consistent.named s s' m m' hm.1 hm'.1

end ReplaceRows

@[simp] lemma numberFrom_ids (first : ℕ) (rows : List TimelineEntry) :
    (numberFrom first rows).map TimelineEntry.entryId = rows.map TimelineEntry.entryId := by
  simp only [numberFrom, List.map_map]
  rw [← List.zipIdx_map_fst 0 rows, List.map_map]
  simp [Function.comp_def]

@[simp] lemma numberFrom_sequences (first : ℕ) (rows : List TimelineEntry) :
    (numberFrom first rows).map TimelineEntry.sequence = List.range' first rows.length := by
  simp only [numberFrom, List.map_map]
  have hcomp : (TimelineEntry.sequence ∘ fun x : TimelineEntry × ℕ => { x.1 with sequence := first + x.2 }) =
      (first + ·) ∘ Prod.snd := rfl
  rw [hcomp, ← List.map_map, List.zipIdx_map_snd, List.map_add_range']
  simp

variable {e : TimelineEntry}

lemma numberFrom_bounds {first : ℕ}
    (he : e ∈ numberFrom first rows) : first ≤ e.sequence ∧ e.sequence < first + rows.length := by
  have hmem : e.sequence ∈ (numberFrom first rows).map TimelineEntry.sequence := List.mem_map_of_mem he
  simpa using hmem

lemma WellNumbered.shifted (h : t.WellNumbered) {count : ℕ} (hroom : t.nextSequence + count ≤ u64Max)
    (he : e ∈ t.history) : (shiftRow count e).sequence = e.sequence + count := by
  have hlt := h.below e he
  exact satAdd_eq (by omega)

theorem WellNumbered.prependCarried (h : t.WellNumbered) {carried : List TimelineEntry}
    (hids : (carried.map TimelineEntry.entryId).Nodup) (hdisj : ∀ e ∈ carried, e.entryId ∉ t.ids)
    (hroom : t.nextSequence + carried.length ≤ u64Max) : (t.prependCarried carried).WellNumbered := by
  have hshift := fun {e} => h.shifted hroom (e := e)
  have hhist : (t.prependCarried carried).history =
      numberFrom 1 carried ++ t.history.map (shiftRow carried.length) := rfl
  have hnext : (t.prependCarried carried).nextSequence = t.nextSequence + carried.length := satAdd_eq hroom
  refine ⟨?_, ?_, ?_, ?_, ?_, ?_, by have := h.next; omega⟩
  · have hold : (t.history.map (shiftRow carried.length)).map TimelineEntry.entryId = t.ids := by
      simp [Timeline.ids, Function.comp_def, shiftRow]
    rw [hhist, List.map_append, numberFrom_ids, hold, List.nodup_append]
    refine ⟨hids, h.ids, ?_⟩
    rintro a ha b hb rfl
    obtain ⟨e, he, rfl⟩ := List.mem_map.mp ha
    exact hdisj e he hb
  · rw [hhist, List.pairwise_append]
    refine ⟨?_, ?_, ?_⟩
    · rw [← List.pairwise_map (f := TimelineEntry.sequence) (R := (· < ·)), numberFrom_sequences]
      exact List.pairwise_lt_range'
    · rw [List.pairwise_map]
      refine h.sorted.imp_of_mem fun {a b} ha hb hlt => ?_
      rw [hshift ha, hshift hb]
      omega
    · intro a ha b hb
      obtain ⟨e, he, rfl⟩ := List.mem_map.mp hb
      have hbound := numberFrom_bounds ha
      have hpos := h.positive e he
      rw [hshift he]
      omega
  · intro a ha
    rw [hhist, List.mem_append, List.mem_map] at ha
    rcases ha with ha | ⟨e, he, rfl⟩
    · exact (numberFrom_bounds ha).1
    · have hpos := h.positive e he
      rw [hshift he]
      omega
  · intro a ha
    rw [hnext]
    rw [hhist, List.mem_append, List.mem_map] at ha
    rcases ha with ha | ⟨e, he, rfl⟩
    · have hbound := numberFrom_bounds ha
      have hpos := h.next
      omega
    · have hlt := h.below e he
      rw [hshift he]
      omega
  · intro source m hm
    simp only [Timeline.prependCarried, KeyedMap.lookup_mapValues, Option.map_eq_some_iff] at hm
    obtain ⟨m, hm, rfl⟩ := hm
    obtain ⟨e, he, hid, hs⟩ := h.mapped source m hm
    refine ⟨shiftRow carried.length e, ?_, hid, by simp [shiftRow, shiftMapping, hs]⟩
    rw [hhist]
    exact List.mem_append_right _ (List.mem_map_of_mem he)
  · intro s s' m m' hm hm'
    simp only [Timeline.prependCarried, KeyedMap.lookup_mapValues, Option.map_eq_some_iff] at hm hm'
    obtain ⟨m, hm, rfl⟩ := hm
    obtain ⟨m', hm', rfl⟩ := hm'
    exact h.named s s' m m' hm hm'

end CiaoHost.Session.Timeline
