import CiaoHost.Session.Shown
import CiaoHost.Session.Renumbering

/-! A plan that keeps every row of a timeline where it stands leaves the session as it was. -/

namespace CiaoHost.Session

open Protocol Lib Lib.Saturating Lib.KeyedList

lemma rebuild_kept {old : List TimelineEntry} (hids : (old.map TimelineEntry.entryId).Nodup)
    (authority : List NormalizedTimelineEntry) (ids : ℕ → String) (sourceOf : KeyedMap String String) :
    rebuild old authority ids sourceOf 0 (Alignment.heldBetween 0 old.length) =
      ⟨old.map fun e => (e, sourceOf.lookup e.entryId), [], false⟩ := by
  have hpieces : ((Alignment.heldBetween 0 old.length).zipIdx).filterMap (piece old authority ids sourceOf) =
      old.map fun e => ⟨(e, sourceOf.lookup e.entryId), none, false⟩ := by
    apply List.ext_getElem?
    intro k
    rw [pieces_get, Alignment.heldBetween, List.getElem?_map, List.getElem?_map, Nat.sub_zero]
    · by_cases hk : k < old.length
      · rw [List.getElem?_range' hk, Nat.zero_add, Nat.one_mul, List.getElem?_eq_getElem hk]
        simp [piece, Alignment.heldRow, repair, hk]
      · rw [List.getElem?_eq_none (by simpa using hk), List.getElem?_eq_none (not_lt.mp hk)]
        rfl
    · intro item hitem
      obtain ⟨index, hindex, rfl⟩ := List.mem_map.mp hitem
      rw [List.mem_range'_1] at hindex
      exact (by omega : index < old.length)
  rw [rebuild_eq hids (by rw [Alignment.heldIndices_heldBetween]; exact List.pairwise_lt_range'), hpieces, assemble]
  simp

lemma numberRestoredRows_numbered {next previous : ℕ} {rows : List SourcedRow}
    (hsorted : rows.Pairwise (·.1.sequence < ·.1.sequence)) (habove : ∀ row ∈ rows, previous < row.1.sequence) :
    numberRestoredRows next previous [] rows = (rows, true) := by
  induction rows generalizing previous with
  | nil => rfl
  | cons row rest ih =>
    rw [List.pairwise_cons] at hsorted
    have hrow := habove row List.mem_cons_self
    have hroom : ([] : List SourcedRow).length < row.1.sequence - previous := by
      rw [List.length_nil]
      omega
    rw [numberRestoredRows, if_neg (by omega), if_pos hroom, ih hsorted.2 hsorted.1]
    rfl

namespace Timeline

variable {t : Timeline}

variable {id source : String} {rows : List SourcedRow}

lemma mem_settledAliases : (source, id) ∈ t.settledAliases ↔
    ∃ m, t.sourceEntries.lookup source = some m ∧ m.settled = true ∧ m.entryId = id := by
  rw [settledAliases, List.mem_filterMap]
  constructor
  · rintro ⟨⟨key, m⟩, hmem, halias⟩
    dsimp only at halias
    split at halias
    · next hsettled =>
      cases halias
      exact ⟨m, KeyedMap.mem_entries.mp hmem, hsettled, rfl⟩
    · cases halias
  · rintro ⟨m, hm, hsettled, rfl⟩
    refine ⟨⟨source, m⟩, KeyedMap.mem_entries.mpr hm, ?_⟩
    dsimp only
    rw [if_pos hsettled]

lemma sequenceOf_row (hids : (rows.map (·.1.entryId)).Nodup) {row : SourcedRow}
    (h : row ∈ rows) : sequenceOf rows row.1.entryId = some row.1.sequence := by
  rw [sequenceOf]
  cases hfound : rows.reverse.find? (·.1.entryId = row.1.entryId) with
  | none =>
    rw [List.find?_eq_none] at hfound
    exact absurd (decide_eq_true rfl) (hfound row (List.mem_reverse.mpr h))
  | some found =>
    have hsame : found.1.entryId = row.1.entryId := by simpa using List.find?_some hfound
    rw [List.inj_on_of_nodup_map hids (List.mem_reverse.mp (List.mem_of_find?_eq_some hfound)) h hsame]
    rfl

variable {aliases : List (String × String)}

lemma mapAlias_other (h : source ∉ aliases.map Prod.fst) (found : KeyedMap String SourceEntryMapping) :
    (aliases.foldl (mapAlias rows) found).lookup source = found.lookup source := by
  rw [foldl_mapAlias]
  apply KeyedMap.lookup_foldl_insert_other
  rintro entry hentry rfl
  obtain ⟨settled, hin, hsettled⟩ := List.mem_filterMap.mp hentry
  obtain ⟨sequence, -, rfl⟩ := Option.map_eq_some_iff.mp hsettled
  exact h (List.mem_map_of_mem hin)

lemma mapAlias_lookup {sequence : ℕ}
    (h : (source, id) ∈ aliases) (hunique : ∀ id', (source, id') ∈ aliases → id' = id)
    (hsequence : sequenceOf rows id = some sequence) (found : KeyedMap String SourceEntryMapping) :
    (aliases.foldl (mapAlias rows) found).lookup source = some ⟨id, sequence, true⟩ := by
  rw [foldl_mapAlias]
  have hmem : (source, ⟨id, sequence, true⟩) ∈ aliases.filterMap (settledOn rows) :=
    List.mem_filterMap.mpr ⟨_, h, by rw [settledOn, hsequence]; rfl⟩
  refine @KeyedMap.lookup_foldl_insert _ _ _ _ Prod.fst Prod.snd _ _ hmem ?_ found
  intro entry hentry hkey
  obtain ⟨⟨key, id'⟩, hin, hsettled⟩ := List.mem_filterMap.mp hentry
  obtain ⟨sequence', hsequence', rfl⟩ := Option.map_eq_some_iff.mp hsettled
  dsimp only at hkey hsequence'
  subst hkey
  rw [hunique id' hin, hsequence, Option.some.injEq] at hsequence'
  rw [hunique id' hin, hsequence']

lemma mapRow_other (h : ∀ row ∈ rows, row.2 ≠ some source) : (rows.foldl mapRow ∅).lookup source = none := by
  cases hlookup : (rows.foldl mapRow ∅).lookup source with
  | none => rfl
  | some m =>
    obtain ⟨row, hrow, hsource, -⟩ := mapRow_cases hlookup
    exact absurd hsource (h row hrow)

structure Same (t t' : Timeline) : Prop where
  history : t'.history = t.history
  nextSequence : t'.nextSequence = t.nextSequence
  sources : ∀ source, t'.sourceEntries.lookup source = t.sourceEntries.lookup source

theorem WellNumbered.unchanged (h : t.WellNumbered) (ids : ℕ → String) (authority : List NormalizedTimelineEntry) :
    t.Same (t.applyReconcilePlan ids (Alignment.heldBetween 0 t.history.length) authority).1 ∧
      (t.applyReconcilePlan ids (Alignment.heldBetween 0 t.history.length) authority).2 = false := by
  have hrebuilt := rebuild_kept h.ids authority ids t.sourceOf
  generalize hrows : t.history.map (fun e => (e, t.sourceOf.lookup e.entryId)) = rows at hrebuilt
  have hmem : ∀ e ∈ t.history, (e, t.sourceOf.lookup e.entryId) ∈ rows := by
    intro e he
    rw [← hrows]
    exact List.mem_map_of_mem he
  have hrow : ∀ row ∈ rows, row.1 ∈ t.history ∧ row.2 = t.sourceOf.lookup row.1.entryId := by
    intro row hr
    rw [← hrows] at hr
    obtain ⟨e, he, rfl⟩ := List.mem_map.mp hr
    exact ⟨he, rfl⟩
  have hhistory : rows.map Prod.fst = t.history := by
    rw [← hrows, List.map_map]
    exact List.map_id _
  have hids : (rows.map (·.1.entryId)).Nodup := by
    have hfst := congrArg (List.map TimelineEntry.entryId) hhistory
    rw [List.map_map] at hfst
    exact hfst ▸ h.ids
  have hsorted : rows.Pairwise (·.1.sequence < ·.1.sequence) := by
    have hpairs := h.sorted
    rw [← hhistory, List.pairwise_map] at hpairs
    exact hpairs
  have hnumbered : numberRestoredRows t.nextSequence 0 [] rows = (rows, true) :=
    numberRestoredRows_numbered hsorted fun row hr => h.positive row.1 (hrow row hr).1
  have hnewest : satAdd ((rows.getLast?.map (·.1.sequence)).getD 0) 1 ≤ t.nextSequence := by
    rw [satAdd]
    cases hlast : rows.getLast? with
    | none => exact (min_le_left _ _).trans h.next
    | some last => exact (min_le_left _ _).trans (h.below last.1 (hrow last (List.mem_of_getLast? hlast)).1)
  have happlied : t.applyReconcilePlan ids (Alignment.heldBetween 0 t.history.length) authority =
      (⟨t.settledAliases.foldl (mapAlias rows) (rows.foldl mapRow ∅), t.history, t.nextSequence⟩, false) := by
    have hcount : heldCount (Alignment.heldBetween 0 t.history.length) = t.history.length := by
      rw [heldCount, Alignment.heldBetween, List.countP_map]
      exact (List.countP_eq_length.mpr fun _ _ => rfl).trans (by simp)
    rw [Timeline.applyReconcilePlan, hcount, hrebuilt]
    simp only [hnumbered, if_true, List.append_nil, hhistory, max_eq_left hnewest]
    simp
  rw [happlied]
  refine ⟨⟨rfl, rfl, fun source => ?_⟩, rfl⟩
  dsimp only
  -- a live source maps its row, a settled one is an alias, and no other source is mapped
  cases hsource : t.sourceEntries.lookup source with
  | none =>
    rw [mapAlias_other, mapRow_other]
    · intro row hr hnamed
      obtain ⟨m, hm, -⟩ := sourceOf_sound ((hrow row hr).2.symm.trans hnamed)
      rw [hsource] at hm
      cases hm
    · intro halias
      obtain ⟨⟨key, id⟩, hpair, rfl⟩ := List.mem_map.mp halias
      obtain ⟨m, hm, -⟩ := mem_settledAliases.mp hpair
      rw [hsource] at hm
      cases hm
  | some m =>
    obtain ⟨e, he, hid, hsequence⟩ := h.mapped source m hsource
    cases hsettled : m.settled with
    | true =>
      have hnumber : sequenceOf rows m.entryId = some m.sequence := by
        rw [← hid, ← hsequence]
        exact sequenceOf_row hids (hmem e he)
      rw [mapAlias_lookup (mem_settledAliases.mpr ⟨m, hsource, hsettled, rfl⟩) (fun id' hid' => ?_) hnumber, ← hsettled]
      obtain ⟨m', hm', -, rfl⟩ := mem_settledAliases.mp hid'
      rw [hsource] at hm'
      cases hm'
      rfl
    | false =>
      have hlive : t.sourceOf.lookup e.entryId = some source :=
        (sourceOf_iff h.named).mpr ⟨m, hsource, hsettled, hid.symm⟩
      rw [mapAlias_other, mapRow_lookup (hmem e he) hlive, hid, hsequence, ← hsettled]
      · intro row hr hnamed
        obtain ⟨m', hm', -, hid'⟩ := sourceOf_sound ((hrow row hr).2.symm.trans hnamed)
        rw [hsource] at hm'
        cases hm'
        exact List.inj_on_of_nodup_map hids hr (hmem e he) (hid'.symm.trans hid.symm)
      · intro halias
        obtain ⟨⟨key, id⟩, hpair, rfl⟩ := List.mem_map.mp halias
        obtain ⟨m', hm', hsettled', -⟩ := mem_settledAliases.mp hpair
        rw [hsource] at hm'
        cases hm'
        rw [hsettled] at hsettled'
        cases hsettled'

lemma rewritten_self {before after : Timeline} (h : after.history = before.history) :
    rewritten before.heldSequences after.heldSequences = false := by
  have hsame : after.heldSequences = before.heldSequences := by rw [heldSequences, h, heldSequences]
  rw [hsame, rewritten, Bool.or_eq_false_iff, List.any_eq_false, List.any_eq_false]
  constructor
  · rintro ⟨id, sequence⟩ hheld
    rw [KeyedMap.mem_entries] at hheld
    simp [hheld]
  · rintro ⟨id, sequence⟩ hheld
    rw [KeyedMap.mem_entries] at hheld
    simp [hheld]

end Timeline

namespace LiveSession

variable {s : LiveSession}

structure Untouched (s : LiveSession) (store : MetadataStore) (result : Effect × Except String Unit) : Prop where
  timeline : s.toTimeline.Same result.1.session.toTimeline
  snapshot : result.1.session.snapshot = s.snapshot
  frames : result.1.frames = []
  store : result.1.store = store
  answer : result.2 = .ok ()

lemma Untouched.refl (s : LiveSession) (store : MetadataStore) : s.Untouched store (⟨s, [], store⟩, .ok ()) :=
  ⟨⟨rfl, rfl, fun _ => rfl⟩, rfl, rfl, rfl, rfl⟩

/-- The coverage a read leaves is one it has already left. -/
def Covered (s : LiveSession) (complete : Option Bool) : Prop :=
  ∀ covered, complete = some covered → s.snapshot.capabilities.history = (historyCoverage covered).1 ∧
    s.snapshot.timelineWindow.historyBoundary = (historyCoverage covered).2

variable {complete : Option Bool}

lemma Covered.coverAfter (h : s.Covered complete) : s.coverAfter complete false = (s, false) := by
  cases complete with
  | none => rfl
  | some covered =>
    obtain ⟨hhistory, hboundary⟩ := h covered rfl
    rw [LiveSession.coverAfter, setHistoryCoverage]
    simp only [Bool.not_false, Bool.and_true, ← hhistory, ← hboundary]
    simp

lemma rewriteTo_same (store : MetadataStore) (env : Env) {rewritten : Timeline} (hsame : s.toTimeline.Same rewritten)
    (hwithin : ¬ Timeline.overBound (Timeline.decodedBytes s.history) s.history)
    (hcovered : s.Covered complete) (reasonCode : String) :
    s.Untouched store (s.rewriteTo store env rewritten complete false reasonCode) := by
  have hrewritten : Timeline.rewritten s.heldSequences rewritten.heldSequences = false :=
    Timeline.rewritten_self hsame.history
  have hfence : { s with toTimeline := rewritten }.fenceRewrittenHistory store s.heldSequences env =
      (⟨{ s with toTimeline := rewritten }, [], store⟩, .ok false) := by
    rw [fenceRewrittenHistory]
    exact if_neg (by rw [hrewritten]; simp)
  have hbound : ¬ Timeline.overBound (Timeline.decodedBytes rewritten.history) rewritten.history := by
    rw [hsame.history]
    exact hwithin
  have hkept : rewritten.enforceHistoryBound = (rewritten, false) := by
    apply Prod.ext
    · exact Timeline.enforceHistoryBound_within hbound
    · exact decide_eq_false hbound
  have hcover : ({ s with toTimeline := rewritten } : LiveSession).coverAfter complete false =
      ({ s with toTimeline := rewritten }, false) :=
    Covered.coverAfter hcovered
  rw [rewriteTo, hfence]
  dsimp only
  rw [hkept]
  dsimp only
  rw [hcover]
  exact ⟨hsame, rfl, rfl, rfl, rfl⟩

end LiveSession

end CiaoHost.Session
