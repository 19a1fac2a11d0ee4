import CiaoHost.Session.Run
import CiaoHost.Session.ReconcileNumbering
import CiaoHost.Protocol.FitSnapshot

/-! Every retained row is one the wire can carry, whatever order the operations came in. -/

namespace CiaoHost.Session

open Protocol Lib Lib.Checks Lib.Text Lib.Saturating Lib.KeyedList

structure Retained (e : TimelineEntry) : Prop where
  entryId : validOpaqueId e.entryId = .ok ()
  revision : e.entryRevision ≠ 0 ∧ e.entryRevision ≤ u64Max
  timestamp : e.timestamp ≠ 0 ∧ e.timestamp ≤ u64Max
  state : validToken e.state = .ok ()
  kind : validToken e.kind = .ok ()
  body : e.body.validateWithin maxRetainedTextBytes = .ok ()
  truncation : e.truncation.validate = .ok () ∧ Truncation.typed e.truncation
  whole : e.truncation.reasonCode ≠ some truncationBodyAvailable

variable {e : TimelineEntry} {rows : List SourcedRow} {row : SourcedRow} {next : ℕ}

lemma Retained.fittable (h : Retained e) (hseq : e.sequence ≠ 0) : e.Fittable where
  entryId := h.entryId
  nonzero := ⟨h.revision.1, hseq, h.timestamp.1⟩
  state := h.state
  kind := h.kind
  body := h.body
  truncation := h.truncation.1
  promise := by rw [TimelineEntry.validatePromise, if_neg h.whole]

lemma Retained.withSequence (h : Retained e) (sequence : ℕ) : Retained { e with sequence := sequence } := { h with }

structure Accepted (e : NormalizedTimelineEntry) : Prop where
  valid : e.validate = .ok ()
  typed : e.typed

lemma Accepted.retained {e : NormalizedTimelineEntry} (h : Accepted e) {m : SourceEntryMapping}
    (hid : validOpaqueId m.entryId = .ok ()) : Retained (Timeline.normalizedRow e m) := by
  have hv := h.valid
  simp only [NormalizedTimelineEntry.validate, refuseAdapterBodyAvailable, bind_ok, refuseIf_ok, not_or] at hv
  obtain ⟨-, hstate, hkind, hbody, htrunc, hwhole, hrev, htime⟩ := hv
  exact ⟨hid, ⟨hrev, h.typed.1⟩, ⟨htime, h.typed.2.1⟩, hstate, hkind, hbody, ⟨htrunc, h.typed.2.2⟩, hwhole⟩

lemma Accepted.withRevision {e : NormalizedTimelineEntry} (h : Accepted e) {revision : ℕ} (hne : revision ≠ 0)
    (hle : revision ≤ u64Max) : Accepted { e with sourceRevision := revision } := by
  refine ⟨?_, hle, h.typed.2⟩
  have hv := h.valid
  simp only [NormalizedTimelineEntry.validate, bind_ok, refuseIf_ok, not_or] at hv ⊢
  obtain ⟨hsource, hstate, hkind, hbody, htrunc, hwhole, -, htime⟩ := hv
  exact ⟨hsource, hstate, hkind, hbody, htrunc, hwhole, hne, htime⟩

variable {ids : ℕ → String} {previous : ℕ} {run : List SourcedRow}

namespace Timeline

structure Sound (t : Timeline) : Prop where
  rows : ∀ e ∈ t.history, Retained e ∧ e.sequence ≠ 0
  mapped : ∀ source m, t.sourceEntries.lookup source = some m →
    validOpaqueId m.entryId = .ok () ∧ m.sequence ≠ 0
  next : t.nextSequence ≠ 0

variable {t : Timeline}

lemma sound_empty : empty.Sound := ⟨by simp [empty], by simp [empty], by simp [empty]⟩

section

variable (h : t.Sound)

include h

lemma Sound.normalizeEntry {freshId : String} (hid : validOpaqueId freshId = .ok ())
    {e : NormalizedTimelineEntry} (he : Accepted e) :
    (t.normalizeEntry freshId e).1.Sound ∧
      Retained (t.normalizeEntry freshId e).2 ∧ (t.normalizeEntry freshId e).2.sequence ≠ 0 := by
  unfold Timeline.normalizeEntry
  split
  · next m hm =>
    obtain ⟨hmid, hseq⟩ := h.mapped _ m hm
    exact ⟨h, he.retained hmid, hseq⟩
  · refine ⟨⟨h.rows, fun source m hm => ?_, (bump_pos _).ne'⟩, he.retained hid, h.next⟩
    rcases KeyedMap.lookup_insert_cases hm with ⟨-, rfl⟩ | ⟨-, hm⟩
    · exact ⟨hid, h.next⟩
    · exact h.mapped source m hm

lemma Sound.insertRow (he : Retained e ∧ e.sequence ≠ 0) : (t.insertRow e).Sound := by
  refine ⟨fun e' he' => ?_, h.mapped, h.next⟩
  rw [Timeline.insertRow, mem_sortByKey, List.mem_append, List.mem_singleton] at he'
  rcases he' with he' | rfl
  · exact h.rows e' he'
  · exact he

lemma Sound.replaceRow (he : Retained e ∧ e.sequence ≠ 0) : (t.replaceRow e).Sound := by
  refine ⟨fun e' he' => ?_, h.mapped, h.next⟩
  rcases mem_of_mem_replaceFirst he' with rfl | he'
  · exact he
  · exact h.rows e' he'

lemma Sound.removeAt (index : ℕ) (removed : TimelineEntry) : (t.removeAt index removed).Sound := by
  refine ⟨fun e he => h.rows e (List.mem_of_mem_eraseIdx he), fun source m hm => ?_, h.next⟩
  rw [Timeline.removeAt, KeyedMap.lookup_retain, Option.filter_eq_some_iff] at hm
  exact h.mapped source m hm.1

lemma Sound.enforceHistoryBound : t.enforceHistoryBound.1.Sound :=
  evict_induction (fun _ _ removed ht _ _ => ht.removeAt _ removed) _ _ h

end

lemma raiseRevision_accepted (t : Timeline) {e : NormalizedTimelineEntry} (he : Accepted e) :
    Accepted (t.raiseRevision e) := by
  unfold Timeline.raiseRevision
  split
  · split
    · exact he.withRevision (bump_pos _).ne' (bump_le _)
    · exact he
  · exact he

variable {entries : List NormalizedTimelineEntry}

lemma Sound.normalizeAll {index : ℕ} (h : t.Sound)
    (hids : ∀ n, index ≤ n → n < index + entries.length → validOpaqueId (ids n) = .ok ())
    (he : ∀ e ∈ entries, Accepted e) :
    (normalizeAll ids index t entries).1.Sound ∧
      ∀ row ∈ (normalizeAll ids index t entries).2, Retained row ∧ row.sequence ≠ 0 := by
  induction entries generalizing index t with
  | nil => exact ⟨h, by simp [Timeline.normalizeAll]⟩
  | cons e entries ih =>
    simp only [List.length_cons] at hids
    obtain ⟨hfirst, hrow⟩ := h.normalizeEntry (hids index le_rfl (by omega))
      (raiseRevision_accepted t (he e List.mem_cons_self))
    obtain ⟨hrest, hrows⟩ := @ih _ (index + 1) hfirst (fun n h1 h2 => hids n (by omega) (by omega))
      fun e' he' => he e' (List.mem_cons_of_mem _ he')
    refine ⟨hrest, fun row hr => ?_⟩
    rcases List.mem_cons.mp hr with rfl | hr
    · exact hrow
    · exact hrows row hr

lemma Sound.replaceRows (h : t.Sound)
    (hids : ∀ n < entries.length, validOpaqueId (ids n) = .ok ()) (he : ∀ e ∈ entries, Accepted e) :
    (t.replaceRows ids entries).Sound := by
  obtain ⟨hall, hrows⟩ := @Sound.normalizeAll ids t entries 0 h (fun n _ hn => hids n (by omega)) he
  refine ⟨fun e he => hrows e (mem_sortByKey.mp he), fun source m hm => ?_, hall.next⟩
  rw [Timeline.replaceRows, KeyedMap.lookup_retain, Option.filter_eq_some_iff] at hm
  exact hall.mapped source m hm.1

lemma Sound.prependCarried (h : t.Sound) {carried : List TimelineEntry} (hc : ∀ e ∈ carried, Retained e) :
    (t.prependCarried carried).Sound := by
  have hshift : ∀ n, n ≠ 0 → satAdd n carried.length ≠ 0 := fun n hn => by
    unfold satAdd u64Max
    omega
  refine ⟨fun e he => ?_, fun source m hm => ?_, hshift _ h.next⟩
  · rcases List.mem_append.mp he with he | he
    · simp only [numberFrom, List.mem_map, Prod.exists] at he
      obtain ⟨row, offset, hmem, rfl⟩ := he
      exact ⟨(hc row (List.fst_mem_of_mem_zipIdx hmem)).withSequence _, by simp⟩
    · obtain ⟨row, hr, rfl⟩ := List.mem_map.mp he
      exact ⟨(h.rows row hr).1.withSequence _, hshift _ (h.rows row hr).2⟩
  · simp only [Timeline.prependCarried, KeyedMap.lookup_mapValues, Option.map_eq_some_iff] at hm
    obtain ⟨m', hm', rfl⟩ := hm
    obtain ⟨hid, hseq⟩ := h.mapped source m' hm'
    exact ⟨hid, hshift _ hseq⟩

end Timeline

lemma repair_retained (he : Retained e) {record : Option NormalizedTimelineEntry}
    (hr : ∀ r ∈ record, Accepted r) (source : Option String) (rekey : Bool) :
    Retained (repair e source record rekey).row.1 := by
  unfold repair
  split
  · exact he
  · next record =>
    dsimp only
    split
    · have h := (hr record rfl).retained (m := ⟨e.entryId, 0, false⟩) he.entryId
      refine ⟨he.entryId, ⟨?_, ?_⟩, h.timestamp, h.state, he.kind, h.body, h.truncation, h.whole⟩
      · have hne := h.revision.1
        simp only [Timeline.normalizedRow] at hne
        dsimp only
        omega
      · exact max_le (satAdd_le _ _) h.revision.2
    · exact he

lemma numberedRows_mem (h : row ∈ numberedRows next rows) :
    ∃ r ∈ rows, ∃ sequence, row = ({ r.1 with sequence := sequence }, r.2) := by
  have hmem := List.mem_map_of_mem (f := fun r : SourcedRow => ({ r.1 with sequence := 0 }, r.2)) h
  rw [numberedRows_map (fun _ _ => rfl)] at hmem
  obtain ⟨r, hr, heq⟩ := List.mem_map.mp hmem
  exact ⟨r, hr, row.1.sequence,
    (congrArg (fun x : SourcedRow => ({ x.1 with sequence := row.1.sequence }, x.2)) heq).symm⟩

lemma numberRestoredRows_pos (hnext : next ≠ 0) (hfit : (numberRestoredRows next previous run rows).2 = true) :
    ∀ row ∈ (numberRestoredRows next previous run rows).1, row.1.sequence ≠ 0 := by
  induction rows generalizing previous run with
  | nil =>
    intro row hr
    have hb := (numberRows_bounds hr).1
    omega
  | cons first rest ih =>
    intro row hr
    unfold numberRestoredRows at hfit hr
    split at hfit
    · next hzero =>
      rw [if_pos hzero] at hr
      exact ih hfit row hr
    · next hzero =>
      rw [if_neg hzero] at hr
      split at hfit
      · next hroom =>
        rw [if_pos hroom] at hr
        rcases List.mem_append.mp hr with hr | hr
        · have hb := (numberRows_bounds hr).1
          omega
        · rcases List.mem_cons.mp hr with rfl | hr
          · exact hzero
          · exact ih hfit row hr
      · cases hfit

lemma numberedRows_pos (hnext : next ≠ 0) : ∀ row ∈ numberedRows next rows, row.1.sequence ≠ 0 := by
  intro row hr
  unfold numberedRows at hr
  split at hr
  · next hfit => exact numberRestoredRows_pos hnext hfit row hr
  · rw [renumberDensely_eq, List.mem_map] at hr
    obtain ⟨x, hx, rfl⟩ := hr
    have hstart : 1 ≤ denseStart (numberRestoredRows next 0 [] rows).1 := by
      unfold denseStart
      split <;> omega
    simp only [u64Max]
    omega

namespace Timeline

variable {t : Timeline}

variable {authority : List NormalizedTimelineEntry} {plan : List Planned}

section

variable (h : t.Sound) (hids : ∀ n < plan.length, validOpaqueId (ids n) = .ok ()) (ha : ∀ r ∈ authority, Accepted r)

include h hids ha

lemma Sound.plannedRows :
    ∀ row ∈ t.plannedRows ids plan authority, Retained row.1 ∧ row.1.sequence ≠ 0 := by
  intro row hr
  refine ⟨?_, numberedRows_pos h.next row hr⟩
  obtain ⟨r, hrebuilt, sequence, rfl⟩ := numberedRows_mem hr
  refine Retained.withSequence ?_ sequence
  rcases rebuild_mem hrebuilt with ⟨index, -, e, source, record, rekey, he, hrecord, rfl⟩ | ⟨n, record, -, hn, hrecord, rfl⟩
  · exact repair_retained (h.rows e (List.mem_of_getElem? he)).1 (fun r hr => ha r (hrecord r hr)) source rekey
  · exact (ha record hrecord).retained (hids n (by omega))

lemma Sound.applyReconcilePlan : (t.applyReconcilePlan ids plan authority).1.Sound := by
  have hrows := h.plannedRows hids ha
  refine ⟨fun e he => ?_, fun source m hm => ?_, ?_⟩
  · rw [applyReconcilePlan_history] at he
    obtain ⟨row, hr, rfl⟩ := List.mem_map.mp he
    exact hrows row hr
  · rw [applyReconcilePlan_sources] at hm
    rcases mapAlias_cases hm with hm | ⟨-, hseq⟩
    · obtain ⟨row, hr, -, rfl⟩ := mapRow_cases hm
      exact ⟨(hrows row hr).1.entryId, (hrows row hr).2⟩
    · obtain ⟨row, hr, hid, hs⟩ := sequenceOf_some hseq
      exact ⟨hid ▸ (hrows row hr).1.entryId, hs ▸ (hrows row hr).2⟩
  · rw [applyReconcilePlan_next]
    have hnext := h.next
    dsimp only
    split
    · omega
    · simp [satAdd, u64Max]

end

end Timeline

end CiaoHost.Session
