import CiaoHost.Session.TextDeltas

/-! A write to the row of one source, and what it leaves of the rows of other sources. -/

namespace CiaoHost.Session

open Protocol Lib Lib.Saturating Lib.KeyedList

namespace Timeline

variable {t t' : Timeline} {source : String} {e : TimelineEntry}

def Written (source : String) (e : TimelineEntry) (t t' : Timeline) : Prop :=
  ∃ freshId put, t.Put freshId source e put ∧ t' = put.enforceHistoryBound.1

variable {x : String} {m : SourceEntryMapping}

lemma WellNumbered.bounded_row (h : t.WellNumbered) (hm : t.enforceHistoryBound.1.sourceEntries.lookup x = some m) :
    t.sourceEntries.lookup x = some m ∧ t.enforceHistoryBound.1.row m.entryId = t.row m.entryId := by
  obtain ⟨row, hrow, -⟩ := h.enforceHistoryBound.row_of_mapped hm
  obtain ⟨hbefore, hsame⟩ := sourceRow_bounded h.ids hm hrow
  exact ⟨hbefore, hrow.trans hsame.symm⟩

section

variable (hw : t.Written source e t')

include hw

lemma Written.numbered (h : t.WellNumbered) (hroom : t.nextSequence < u64Max) :
    t'.WellNumbered := by
  obtain ⟨freshId, put, hput, rfl⟩ := hw
  exact (hput.numbered h hroom).enforceHistoryBound

lemma Written.own (h : t.WellNumbered) (hroom : t.nextSequence < u64Max)
    (hm : t'.sourceEntries.lookup source = some m) :
    t'.row m.entryId = some e ∧ (t.sourceEntries.lookup source = some m ∨ m.settled = false) := by
  obtain ⟨freshId, put, hput, rfl⟩ := hw
  have hnumbered := hput.numbered h hroom
  obtain ⟨hbefore, hrow⟩ := hnumbered.bounded_row hm
  cases hput with
  | replaced own hown hid hs =>
    obtain rfl : own = m := Option.some.inj (hown.symm.trans hbefore)
    refine ⟨?_, .inl hown⟩
    rw [hrow, ← hid]
    obtain ⟨old, hold, holdId, -⟩ := h.mapped source own hown
    exact replaceRow_row h.ids (List.mem_map.mpr ⟨old, hold, holdId.trans hid.symm⟩)
  | opened hnone hid hfresh hs =>
    have hopened : (t.addRow source e).sourceEntries.lookup source = some ⟨e.entryId, t.nextSequence, false⟩ :=
      KeyedMap.lookup_insert_self ..
    obtain rfl : m = ⟨e.entryId, t.nextSequence, false⟩ := Option.some.inj (hbefore.symm.trans hopened)
    refine ⟨?_, .inr rfl⟩
    rw [hrow]
    exact row_eq_of_mem hnumbered.ids (mem_addRow.mpr (.inr rfl))

lemma Written.mapped_ne (hx : x ≠ source)
    (hm : t'.sourceEntries.lookup x = some m) : t.sourceEntries.lookup x = some m := by
  obtain ⟨freshId, put, hput, rfl⟩ := hw
  have hbefore := enforceHistoryBound_mapped hm
  cases hput with
  | replaced own hlookup hid hs => exact hbefore
  | opened hnone hid hfresh hs => rwa [addRow, insertRow, KeyedMap.lookup_insert_ne hx] at hbefore

lemma Written.row_ne (h : t.WellNumbered) (hroom : t.nextSequence < u64Max)
    (hown : ∀ own, t.sourceEntries.lookup source = some own → own.settled = false) (hx : x ≠ source)
    (hm : t'.sourceEntries.lookup x = some m) (hsettled : m.settled = false) :
    t'.row m.entryId = t.row m.entryId := by
  have hheld := hw.mapped_ne hx hm
  obtain ⟨freshId, put, hput, rfl⟩ := hw
  have hnumbered := hput.numbered h hroom
  obtain ⟨hbefore, hrow⟩ := hnumbered.bounded_row hm
  cases hput with
  | replaced own hlookup hid hs =>
    have hne : m.entryId ≠ e.entryId := by
      intro hsame
      exact hx (h.named x source m own hheld hlookup hsettled (hown own hlookup) (hsame.trans hid))
    -- the row is one of those that stayed
    obtain ⟨row, hrow', -⟩ := hnumbered.row_of_mapped hbefore
    obtain ⟨hmem, hrowId⟩ := row_some hrow'
    rcases mem_of_mem_replaceFirst hmem with rfl | hmem
    · exact absurd hrowId.symm hne
    · rw [hrow, hrow', ← hrowId]
      exact (row_eq_of_mem h.ids hmem).symm
  | opened hnone hid hfresh hs =>
    obtain ⟨old, hold, -⟩ := h.row_of_mapped hheld
    obtain ⟨hmem, holdId⟩ := row_some hold
    rw [hrow, hold, ← holdId]
    exact row_eq_of_mem hnumbered.ids (mem_addRow.mpr (.inl hmem))

end

end Timeline

namespace LiveSession

variable {s : LiveSession} {now : ℕ} {freshId : String}

section

variable (h : s.toTimeline.WellNumbered) (hfresh : freshId ∉ s.ids)

include h hfresh

lemma upsertEntry_written {e : NormalizedTimelineEntry}
    (hnewer : ∀ m row, s.sourceEntries.lookup e.sourceId = some m → s.row m.entryId = some row →
      row.entryRevision < e.sourceRevision) :
    ∃ m, s.toTimeline.Written e.sourceId (Timeline.normalizedRow e m) (s.upsertEntry now freshId e).1.toTimeline := by
  have happended := @upsertEntry_appended s now freshId h hfresh e
  generalize s.upsertEntry now freshId e = result at happended ⊢
  cases happended with
  | ignored hlate =>
    obtain ⟨m, row, hm, hrow, hle⟩ := hlate
    exact absurd hle (not_le.mpr (hnewer m row hm hrow))
  | put t row hrow hput =>
    obtain ⟨m, rfl⟩ := hrow
    exact ⟨m, freshId, t, hput, (publishEntry_rows ..).1⟩

lemma appendText_written (d : NormalizedTextDelta) :
    (s.appendText now freshId d).1.1.toTimeline = s.toTimeline ∨
      ∃ e, e.entryRevision = d.sourceRevision ∧
        s.toTimeline.Written d.sourceId e (s.appendText now freshId d).1.1.toTimeline := by
  have happended := @appendText_appended s now freshId h hfresh d
  generalize (s.appendText now freshId d).1 = result at happended ⊢
  cases happended with
  | ignored _ => exact .inl rfl
  | put t e hrevision hput => exact .inr ⟨e, hrevision, freshId, t, hput, (publishEntry_rows ..).1⟩

end

end LiveSession

end CiaoHost.Session
