import CiaoHost.Session.NumberedRun
import CiaoHost.Lib.Runs

/-! Text that arrives in deltas: what the row of one source keeps of the deltas that were taken, whatever is
duplicated, reordered or missing. -/

namespace CiaoHost.Session

open Protocol Lib Lib.Checks Lib.Text Lib.Saturating Lib.KeyedList

section Texts

def retained (deltas : List NormalizedTextDelta) : String :=
  deltas.foldl (fun shown d => cut (shown ++ d.delta) maxRetainedTextBytes) ""

def concatenated (deltas : List NormalizedTextDelta) : String := deltas.foldl (fun all d => all ++ d.delta) ""

variable {deltas : List NormalizedTextDelta} {d : NormalizedTextDelta}

section

variable (deltas : List NormalizedTextDelta)

lemma retained_append (d : NormalizedTextDelta) :
    retained (deltas ++ [d]) = cut (retained deltas ++ d.delta) maxRetainedTextBytes := by
  simp only [retained, List.foldl_append, List.foldl_cons, List.foldl_nil]

lemma concatenated_append (d : NormalizedTextDelta) :
    concatenated (deltas ++ [d]) = concatenated deltas ++ d.delta := by
  simp only [concatenated, List.foldl_append, List.foldl_cons, List.foldl_nil]

lemma byteLen_retained : byteLen (retained deltas) ≤ maxRetainedTextBytes := by
  induction deltas using List.reverseRecOn with
  | nil => exact Nat.zero_le _
  | append_singleton deltas d _ =>
    rw [retained_append]
    exact byteLen_cut _ _

end

lemma retained_eq (h : byteLen (concatenated deltas) ≤ maxRetainedTextBytes) : retained deltas = concatenated deltas := by
  induction deltas using List.reverseRecOn with
  | nil => rfl
  | append_singleton deltas d ih =>
    rw [concatenated_append, byteLen_append] at h
    rw [retained_append, concatenated_append, ih (by omega)]
    exact cut_eq_self (by rw [byteLen_append]; omega)

/-- The next delta has nothing that would fit behind a text that lost some. -/
def Filled (deltas : List NormalizedTextDelta) (d : NormalizedTextDelta) : Prop :=
  maxRetainedTextBytes < byteLen (concatenated deltas) →
    ∀ c ∈ d.delta.toList.head?, maxRetainedTextBytes < byteLen (retained deltas) + c.utf8Size

lemma takeWithin_full {w : Char → ℕ} {n : ℕ} {xs ys : List Char} (hxs : weight w xs ≤ n)
    (hys : ∀ c ∈ ys.head?, n < weight w xs + w c) : takeWithin w n (xs ++ ys) = xs := by
  induction xs generalizing n with
  | nil =>
    cases ys with
    | nil => rfl
    | cons c ys =>
      have hc := hys c rfl
      rw [weight_nil, Nat.zero_add] at hc
      rw [List.nil_append, takeWithin, if_neg (by omega)]
  | cons x xs ih =>
    rw [weight_cons] at hxs
    rw [List.cons_append, takeWithin, if_pos (by omega), ih (by omega)]
    intro c hc
    have hfull := hys c hc
    rw [weight_cons] at hfull
    omega

lemma retained_prefix (h : (retained deltas).toList <+: (concatenated deltas).toList) (hfilled : Filled deltas d) :
    (retained (deltas ++ [d])).toList <+: (concatenated (deltas ++ [d])).toList := by
  rw [retained_append, concatenated_append, cut, String.toList_ofList, String.toList_append, String.toList_append]
  by_cases hfits : byteLen (concatenated deltas) ≤ maxRetainedTextBytes
  · rw [retained_eq hfits]
    exact takeWithin_isPrefix ..
  · rw [takeWithin_full (byteLen_retained deltas) (hfilled (not_le.mp hfits))]
    exact h.trans (List.prefix_append ..)

end Texts

namespace Timeline

variable {t t' : Timeline} {source : String}

def sourceRow (t : Timeline) (source : String) : Option TimelineEntry :=
  (t.sourceEntries.lookup source).bind fun mapping => t.row mapping.entryId

variable {e : TimelineEntry} {m : SourceEntryMapping}

lemma row_eq_of_mem (hids : t.ids.Nodup) (he : e ∈ t.history) : t.row e.entryId = some e :=
  find_eq_some_of_mem hids he

lemma enforceHistoryBound_mapped
    (h : t.enforceHistoryBound.1.sourceEntries.lookup source = some m) : t.sourceEntries.lookup source = some m := by
  have hkept : ∀ m, t.enforceHistoryBound.1.sourceEntries.lookup source = some m →
      t.sourceEntries.lookup source = some m := by
    apply evict_induction (P := fun t' => ∀ m, t'.sourceEntries.lookup source = some m →
      t.sourceEntries.lookup source = some m)
    · intro t' _ removed ih _ _ m hm
      rw [removeAt, KeyedMap.lookup_retain, Option.filter_eq_some_iff] at hm
      exact ih m hm.1
    · exact fun m hm => hm
  exact hkept m h

lemma sourceRow_bounded (hids : t.ids.Nodup) (hm : t.enforceHistoryBound.1.sourceEntries.lookup source = some m)
    (he : t.enforceHistoryBound.1.row m.entryId = some e) :
    t.sourceEntries.lookup source = some m ∧ t.row m.entryId = some e := by
  obtain ⟨hmem, hid⟩ := row_some he
  refine ⟨enforceHistoryBound_mapped hm, ?_⟩
  rw [← hid]
  exact row_eq_of_mem hids (t.enforceHistoryBound_sublist.subset hmem)

lemma kept_row (hids : t.ids.Nodup) (hm : t.sourceEntries.lookup source = some m) (he : t.row m.entryId = some e)
    (hkept : (t.enforceHistoryBound.1.sourceRow source).isSome) :
    t.enforceHistoryBound.1.sourceEntries.lookup source = some m ∧ t.enforceHistoryBound.1.row m.entryId = some e := by
  obtain ⟨found, hfound⟩ := Option.isSome_iff_exists.mp hkept
  obtain ⟨m', hm', hrow⟩ := Option.bind_eq_some_iff.mp hfound
  -- the bound did not take the row, so it is still the one the source names
  obtain ⟨hbefore, hfound⟩ := sourceRow_bounded hids hm' hrow
  obtain rfl : m' = m := Option.some.inj (hbefore.symm.trans hm)
  obtain rfl : found = e := Option.some.inj (hfound.symm.trans he)
  exact ⟨hm', hrow⟩

lemma replaceRow_row (hids : t.ids.Nodup) (hheld : e.entryId ∈ t.ids) : (t.replaceRow e).row e.entryId = some e := by
  apply row_eq_of_mem
  · rwa [replaceRow_ids]
  · exact (mem_replaceFirst_iff hids hheld).mpr (.inl rfl)

lemma enforceHistoryBound_nodup (hids : t.ids.Nodup) : t.enforceHistoryBound.1.ids.Nodup :=
  hids.sublist (t.enforceHistoryBound_sublist.map _)

end Timeline

namespace LiveSession

variable {s : LiveSession} {now : ℕ} {freshId : String} {d : NormalizedTextDelta} {m : SourceEntryMapping}
  {row : TimelineEntry} {shown : String}

section

variable (hm : s.sourceEntries.lookup d.sourceId = some m)

include hm

lemma previousSourceRevision_mapped (hrow : s.row m.entryId = some row) :
    s.previousSourceRevision d.sourceId = some row.entryRevision := by
  rw [Timeline.previousSourceRevision, hm]
  change (s.row m.entryId).bind _ = _
  rw [hrow]
  rfl

lemma appendText_stale (hrow : s.row m.entryId = some row)
    (hstale : d.sourceRevision ≤ row.entryRevision) : (s.appendText now freshId d).1.1 = s := by
  rw [appendText, if_pos]
  left
  rw [previousSourceRevision_mapped hm hrow, Option.any_some]
  exact decide_eq_true hstale

lemma appendText_newer (hsettled : m.settled = false)
    (hrow : s.row m.entryId = some row) (hkind : row.kind = d.kind) (hbody : row.body = .text shown)
    (hnewer : row.entryRevision < d.sourceRevision) :
    (s.appendText now freshId d).1.1.toTimeline =
      (s.toTimeline.replaceRow (growText row shown d)).enforceHistoryBound.1 := by
  rw [appendText, if_neg]
  · rw [hm]
    dsimp only
    rw [hrow]
    dsimp only
    rw [if_neg (not_not.mpr hkind), hbody]
    exact (publishEntry_rows _ _ _).1
  · rw [previousSourceRevision_mapped hm hrow, hm, Option.any_some, Option.any_some, hsettled]
    simp only [decide_eq_true_eq, not_le.mpr hnewer, Bool.false_eq_true, or_self, not_false_eq_true]

end

lemma appendText_opens (hm : s.sourceEntries.lookup d.sourceId = none) (hfresh : freshId ∉ s.ids) :
    (s.appendText now freshId d).1.1.toTimeline =
      (s.toTimeline.addRow d.sourceId
        (Timeline.normalizedRow (openText d) ⟨freshId, s.nextSequence, false⟩)).enforceHistoryBound.1 := by
  have hnew := @Timeline.normalizeEntry_new s.toTimeline (openText d) freshId hm
  have hnone : s.toTimeline.row freshId = none := Timeline.row_eq_none_iff.mpr hfresh
  rw [appendText, if_neg]
  · rw [hm]
    dsimp only
    rw [hnew]
    dsimp only
    rw [if_neg]
    · exact (publishEntry_rows _ _ _).1
    · change ¬ (s.toTimeline.row freshId).isSome
      rw [hnone]
      exact Bool.false_ne_true
  · rw [Timeline.previousSourceRevision, hm]
    simp

end LiveSession

structure Fed where
  supervisor : Supervisor
  accepted : List NormalizedTextDelta

structure Arrival where
  env : Env
  delta : NormalizedTextDelta

def accept (accepted : List NormalizedTextDelta) (d : NormalizedTextDelta) : List NormalizedTextDelta :=
  if d.validate = .ok () ∧ ∀ a ∈ accepted, a.sourceRevision < d.sourceRevision then accepted ++ [d] else accepted

namespace Fed

def step (sessionId : String) (f : Fed) (a : Arrival) : Fed :=
  ⟨(f.supervisor.appendBridgeText a.env sessionId a.delta).1, accept f.accepted a.delta⟩

variable (sessionId source kind : String)

def row (f : Fed) : Option TimelineEntry :=
  (f.supervisor.sessions.lookup sessionId).bind fun s => s.toTimeline.sourceRow source

/-- Deltas of one source and kind, whose row is opened under a fresh id and is not evicted. -/
def Arrives (f : Fed) (a : Arrival) : Prop :=
  a.delta.sourceId = source ∧ a.delta.kind = kind ∧
    (∀ s ∈ f.supervisor.sessions.lookup sessionId, s.sourceEntries.lookup source = none → a.env.ids 0 ∉ s.ids) ∧
    ((f.step sessionId a).accepted ≠ [] → ((f.step sessionId a).row sessionId source).isSome)

structure Holds (s : LiveSession) (accepted : List NormalizedTextDelta) (row : TimelineEntry) : Prop where
  mapped : ∃ m, s.sourceEntries.lookup source = some m ∧ m.settled = false ∧ s.row m.entryId = some row
  body : row.body = .text (retained accepted)
  kind : row.kind = kind
  latest : ∃ a ∈ accepted, a.sourceRevision = row.entryRevision
  bound : ∀ a ∈ accepted, a.sourceRevision ≤ row.entryRevision
  whole : row.truncation.truncated = false →
    accepted.map NormalizedTextDelta.sourceRevision = List.range' 1 accepted.length ∧
      byteLen (concatenated accepted) ≤ maxRetainedTextBytes

def Keeps (f : Fed) : Prop :=
  ∃ s, f.supervisor.sessions.lookup sessionId = some s ∧ s.ids.Nodup ∧
    (f.accepted = [] ∧ s.sourceEntries.lookup source = none ∨ ∃ row, Holds source kind s f.accepted row)

variable {sessionId source kind} {f : Fed} {a : Arrival} {s : LiveSession} {d : NormalizedTextDelta} {row : TimelineEntry}
  {accepted : List NormalizedTextDelta}

lemma Holds.sourceRow (h : Holds source kind s accepted row) : s.toTimeline.sourceRow source = some row := by
  obtain ⟨m, hm, -, hrow⟩ := h.mapped
  rw [Timeline.sourceRow, hm]
  exact hrow

lemma step_invalid (hinvalid : a.delta.validate ≠ .ok ()) : f.step sessionId a = f := by
  have hrefused : (f.supervisor.appendBridgeText a.env sessionId a.delta).1 = f.supervisor := by
    rw [Supervisor.appendBridgeText, Supervisor.guarded.eq_def]
    split
    · next hvalid => exact absurd hvalid hinvalid
    · rfl
  have hnone : accept f.accepted a.delta = f.accepted := if_neg fun h => hinvalid h.1
  rw [step, hrefused, hnone]

lemma step_session (hs : f.supervisor.sessions.lookup sessionId = some s) (hvalid : a.delta.validate = .ok ()) :
    (f.step sessionId a).supervisor.sessions.lookup sessionId =
      some (s.appendText a.env.now (a.env.ids 0) a.delta).1.1 := by
  rw [step, Supervisor.appendBridgeText, Supervisor.guarded.eq_def, hvalid]
  dsimp only
  rw [Supervisor.withSession, hs]
  exact KeyedMap.lookup_insert_self ..

lemma Holds.count_eq (h : Holds source kind s accepted row)
    (hwhole : accepted.map NormalizedTextDelta.sourceRevision = List.range' 1 accepted.length) :
    row.entryRevision = accepted.length := by
  obtain ⟨a, ha, hlatest⟩ := h.latest
  have hpositive : 0 < accepted.length := List.length_pos_of_mem ha
  have hin : row.entryRevision ∈ List.range' 1 accepted.length := by
    rw [← hwhole, ← hlatest]
    exact List.mem_map_of_mem ha
  have hlast : accepted.length ∈ accepted.map NormalizedTextDelta.sourceRevision := by
    rw [hwhole, List.mem_range'_1]
    omega
  obtain ⟨b, hb, hrevision⟩ := List.mem_map.mp hlast
  have hbound := h.bound b hb
  rw [List.mem_range'_1] at hin
  omega

lemma growText_whole {shown : String} (hwhole : (growText row shown d).truncation.truncated = false) :
    row.truncation.truncated = false ∧ d.sourceRevision = satAdd row.entryRevision 1 ∧
      byteLen (shown ++ d.delta) ≤ maxRetainedTextBytes := by
  simp only [growText] at hwhole
  by_cases hover : maxRetainedTextBytes < byteLen (shown ++ d.delta)
  · rw [if_pos hover] at hwhole
    cases hwhole
  · rw [if_neg hover] at hwhole
    by_cases htruncated : row.truncation.truncated = true
    · rw [if_pos htruncated, htruncated] at hwhole
      cases hwhole
    · rw [if_neg htruncated] at hwhole
      by_cases hgap : d.sourceRevision = satAdd row.entryRevision 1
      · exact ⟨Bool.not_eq_true _ ▸ htruncated, hgap, not_lt.mp hover⟩
      · rw [if_pos hgap] at hwhole
        cases hwhole

lemma Holds.grow_whole (h : Holds source kind s accepted row) (hnewer : row.entryRevision < d.sourceRevision)
    (hwhole : (growText row (retained accepted) d).truncation.truncated = false) :
    (accepted ++ [d]).map NormalizedTextDelta.sourceRevision = List.range' 1 (accepted ++ [d]).length ∧
      byteLen (concatenated (accepted ++ [d])) ≤ maxRetainedTextBytes := by
  obtain ⟨hrow, hnext, hfits⟩ := growText_whole hwhole
  obtain ⟨hrevisions, hshort⟩ := h.whole hrow
  have hcount := h.count_eq hrevisions
  have hsucc : d.sourceRevision = accepted.length + 1 := by
    have hle : satAdd row.entryRevision 1 ≤ row.entryRevision + 1 := min_le_left _ _
    omega
  constructor
  · rw [List.map_append, hrevisions, List.length_append, List.length_singleton, List.range'_concat, List.map_singleton,
      hsucc, Nat.one_mul, Nat.add_comm]
  · rw [concatenated_append, ← retained_eq hshort]
    exact hfits

variable {freshId : String}

lemma Holds.grow (h : Holds source kind s accepted row) (hids : s.ids.Nodup) (hsource : d.sourceId = source)
    (hkind : d.kind = kind) (hnewer : row.entryRevision < d.sourceRevision) {now : ℕ}
    (hkept : ((s.appendText now freshId d).1.1.toTimeline.sourceRow source).isSome) :
    (s.appendText now freshId d).1.1.ids.Nodup ∧
      ∃ grown, Holds source kind (s.appendText now freshId d).1.1 (accepted ++ [d]) grown := by
  obtain ⟨m, hm, hsettled, hrow⟩ := h.mapped
  obtain ⟨hmem, hid⟩ := Timeline.row_some hrow
  subst hsource
  have htimeline := @LiveSession.appendText_newer s now freshId d m row _ hm hsettled hrow (h.kind.trans hkind.symm)
    h.body hnewer
  have hreplaced : (s.toTimeline.replaceRow (growText row (retained accepted) d)).ids.Nodup := by
    rw [Timeline.replaceRow_ids]
    exact hids
  have hgrown : (s.toTimeline.replaceRow (growText row (retained accepted) d)).row m.entryId =
      some (growText row (retained accepted) d) := by
    rw [← hid]
    exact Timeline.replaceRow_row hids (List.mem_map.mpr ⟨row, hmem, rfl⟩)
  rw [htimeline] at hkept
  obtain ⟨hmapped, hkept⟩ := Timeline.kept_row hreplaced hm hgrown hkept
  rw [← htimeline] at hmapped hkept
  refine ⟨htimeline ▸ Timeline.enforceHistoryBound_nodup hreplaced, growText row (retained accepted) d,
    ⟨m, hmapped, hsettled, hkept⟩, ?_, h.kind, ?_, ?_, h.grow_whole hnewer⟩
  · rw [retained_append]
    rfl
  · exact ⟨d, List.mem_append_right _ (List.mem_singleton_self d), rfl⟩
  · intro b hb
    rcases List.mem_append.mp hb with hb | hb
    · exact (h.bound b hb).trans hnewer.le
    · rw [List.mem_singleton.mp hb]
      exact le_refl d.sourceRevision

lemma openText_whole (hwhole : (openText d).truncation.truncated = false) : d.sourceRevision = 1 := by
  by_contra hgap
  simp only [openText] at hwhole
  by_cases htruncated : d.truncation.truncated = true
  · rw [if_neg (fun h => h.2 htruncated), htruncated] at hwhole
    cases hwhole
  · rw [if_pos ⟨hgap, htruncated⟩] at hwhole
    cases hwhole

lemma delta_fits (hvalid : d.validate = .ok ()) : byteLen d.delta ≤ maxRetainedTextBytes := by
  simp only [NormalizedTextDelta.validate, bind_ok, refuseIf_ok, not_or, not_lt] at hvalid
  exact hvalid.2.2.2.2.2.2

lemma Holds.opens (hids : s.ids.Nodup) (hnone : s.sourceEntries.lookup source = none) (hsource : d.sourceId = source)
    (hkind : d.kind = kind) (hvalid : d.validate = .ok ()) {now : ℕ} (hfresh : freshId ∉ s.ids)
    (hkept : ((s.appendText now freshId d).1.1.toTimeline.sourceRow source).isSome) :
    (s.appendText now freshId d).1.1.ids.Nodup ∧
      ∃ opened, Holds source kind (s.appendText now freshId d).1.1 [d] opened := by
  subst hsource
  have htimeline := @LiveSession.appendText_opens s now freshId d hnone hfresh
  generalize hopened : Timeline.normalizedRow (openText d) ⟨freshId, s.nextSequence, false⟩ = opened at htimeline
  have hid : opened.entryId = freshId := by rw [← hopened]; rfl
  have hnodup : (s.toTimeline.addRow d.sourceId opened).ids.Nodup := Timeline.addRow_nodup hids (hid ▸ hfresh)
  have hrow : (s.toTimeline.addRow d.sourceId opened).row opened.entryId = some opened :=
    Timeline.row_eq_of_mem hnodup (Timeline.mem_addRow.mpr (.inr rfl))
  rw [htimeline] at hkept
  obtain ⟨hmapped, hkept⟩ := Timeline.kept_row hnodup (KeyedMap.lookup_insert_self ..) hrow hkept
  rw [← htimeline] at hmapped hkept
  have hlength := delta_fits hvalid
  have hall : concatenated [d] = d.delta := by simp [concatenated]
  refine ⟨htimeline ▸ Timeline.enforceHistoryBound_nodup hnodup, opened, ⟨_, hmapped, rfl, hkept⟩, ?_, ?_, ?_, ?_, ?_⟩
  · rw [retained_eq (hall ▸ hlength), hall, ← hopened]
    rfl
  · rw [← hopened]
    exact hkind
  · exact ⟨d, List.mem_singleton_self d, by rw [← hopened]; rfl⟩
  · intro b hb
    rw [List.mem_singleton.mp hb, ← hopened]
    exact le_refl d.sourceRevision
  · intro hwhole
    rw [← hopened] at hwhole
    have hone : d.sourceRevision = 1 := openText_whole hwhole
    exact ⟨by simp [hone], hall ▸ hlength⟩

lemma Keeps.step (h : f.Keeps sessionId source kind) (harrives : f.Arrives sessionId source kind a) :
    (f.step sessionId a).Keeps sessionId source kind := by
  obtain ⟨s, hs, hids, hrow⟩ := h
  obtain ⟨hsource, hkind, hfresh, hkept⟩ := harrives
  by_cases hvalid : a.delta.validate = .ok ()
  · have hnext := @step_session sessionId f a s hs hvalid
    have hfound : (f.step sessionId a).accepted ≠ [] →
        ((s.appendText a.env.now (a.env.ids 0) a.delta).1.1.toTimeline.sourceRow source).isSome := by
      intro hsome
      have hkept := hkept hsome
      rw [Fed.row, hnext] at hkept
      exact hkept
    refine ⟨_, hnext, ?_⟩
    rcases hrow with ⟨hnil, hnone⟩ | ⟨row, hrow⟩
    · have hfirst : (f.step sessionId a).accepted = [a.delta] := by
        change accept f.accepted a.delta = _
        rw [accept, hnil, if_pos ⟨hvalid, nofun⟩]
        rfl
      rw [hfirst] at hfound ⊢
      obtain ⟨hnodup, opened⟩ := Holds.opens hids hnone hsource hkind hvalid (hfresh s hs hnone) (hfound (List.cons_ne_nil _ _))
      exact ⟨hnodup, .inr opened⟩
    · by_cases hnewer : row.entryRevision < a.delta.sourceRevision
      · have hmore : (f.step sessionId a).accepted = f.accepted ++ [a.delta] := by
          change accept f.accepted a.delta = _
          rw [accept, if_pos ⟨hvalid, fun b hb => (hrow.bound b hb).trans_lt hnewer⟩]
        rw [hmore] at hfound ⊢
        obtain ⟨hnodup, grown⟩ := hrow.grow hids hsource hkind hnewer (hfound (by simp))
        exact ⟨hnodup, .inr grown⟩
      · -- a duplicate or a straggler changes nothing
        obtain ⟨b, hb, hlatest⟩ := hrow.latest
        obtain ⟨m, hm, -, hmrow⟩ := hrow.mapped
        have hsame : (f.step sessionId a).accepted = f.accepted := by
          change accept f.accepted a.delta = _
          rw [accept, if_neg fun h => hnewer (hlatest ▸ h.2 b hb)]
        have hstill : (s.appendText a.env.now (a.env.ids 0) a.delta).1.1 = s :=
          LiveSession.appendText_stale (hsource ▸ hm) hmrow (not_lt.mp hnewer)
        rw [hsame, hstill]
        exact ⟨hids, .inr ⟨row, hrow⟩⟩
  · rw [step_invalid hvalid]
    exact ⟨s, hs, hids, hrow⟩

lemma Keeps.of_reaches {start : Fed} (hstart : start.accepted = [])
    (hsession : ∃ s, start.supervisor.sessions.lookup sessionId = some s ∧ s.ids.Nodup ∧
      s.sourceEntries.lookup source = none)
    (hreach : Runs.Reaches (Fed.step sessionId) (Arrives sessionId source kind) start f) : f.Keeps sessionId source kind := by
  apply hreach.invariant (P := Keeps sessionId source kind)
  · obtain ⟨s, hs, hids, hnone⟩ := hsession
    exact ⟨s, hs, hids, .inl ⟨hstart, hnone⟩⟩
  · intro f a h harrives
    exact h.step harrives

end Fed

end CiaoHost.Session
