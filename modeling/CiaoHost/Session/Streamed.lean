import CiaoHost.Session.TextDeltas

/-! Streamed text is a beginning of what was sent, unless a later delta fills the room that a wide character left. -/

namespace CiaoHost.Session

open Protocol Lib Lib.Checks Lib.Text Lib.KeyedList

namespace Fed

variable {sessionId source kind : String} {f : Fed} {a : Arrival} {s : LiveSession} {d : NormalizedTextDelta}
  {row : TimelineEntry} {accepted : List NormalizedTextDelta}

section Alone

structure Alone (source : String) (s : LiveSession) : Prop where
  mapped : ∀ m, s.sourceEntries.lookup source = some m → s.ids = [m.entryId]
  unmapped : s.sourceEntries.lookup source = none → s.history = []
  short : ∀ e ∈ s.history, byteLen e.entryId + byteLen e.kind ≤ 1024

lemma byteLen_chunkState (finalChunk : Bool) : byteLen (chunkState finalChunk) ≤ 16 := by
  cases finalChunk <;> decide

lemma enforceHistoryBound_alone {t : Timeline} {e : TimelineEntry} (ht : t.history = [e])
    (hshort : byteLen e.entryId + byteLen e.kind ≤ 1024) {finalChunk : Bool} (hstate : e.state = chunkState finalChunk)
    {u : String} (hbody : e.body = .text u) (hu : byteLen u ≤ maxRetainedTextBytes) : t.enforceHistoryBound.1 = t := by
  apply Timeline.enforceHistoryBound_within
  have hchunk := byteLen_chunkState finalChunk
  have hbytes : Timeline.decodedBytes t.history = byteLen e.entryId + byteLen e.state + byteLen e.kind + byteLen u := by
    simp [Timeline.decodedBytes, ht, TimelineEntry.decodedBytes, hbody, TimelineBody.decodedBytes]
  rw [hstate] at hbytes
  rw [Timeline.overBound, hbytes, ht, List.length_singleton]
  unfold maxRetainedTextBytes at hu
  unfold maxHostTimelineBytes maxHostTimelineEntries
  omega

lemma Alone.of_timeline {m : SourceEntryMapping} {e : TimelineEntry} (hm : s.sourceEntries.lookup source = some m)
    (hhistory : s.history = [e]) (hid : e.entryId = m.entryId) (hshort : byteLen e.entryId + byteLen e.kind ≤ 1024) :
    Alone source s ∧ (s.toTimeline.sourceRow source).isSome := by
  refine ⟨⟨fun m' hm' => ?_, fun hnone => ?_, fun e' he' => ?_⟩, ?_⟩
  · cases hm.symm.trans hm'
    rw [Timeline.ids, hhistory, List.map_singleton, hid]
  · cases hm.symm.trans hnone
  · rw [hhistory] at he'
    rw [List.mem_singleton.mp he']
    exact hshort
  · rw [Timeline.sourceRow, hm, Option.bind_some, Timeline.row, hhistory]
    simp [hid]

lemma Alone.opens (halone : Alone source s) (hnone : s.sourceEntries.lookup source = none)
    (hsource : d.sourceId = source) (hvalid : d.validate = .ok ()) {now : ℕ} {freshId : String}
    (hshort : byteLen freshId + byteLen d.kind ≤ 1024) :
    Alone source (s.appendText now freshId d).1.1 ∧
      ((s.appendText now freshId d).1.1.toTimeline.sourceRow source).isSome := by
  subst hsource
  have hempty := halone.unmapped hnone
  have hfresh : freshId ∉ s.ids := by
    rw [Timeline.ids, hempty]
    exact List.not_mem_nil
  have htimeline := @LiveSession.appendText_opens s now freshId d hnone hfresh
  generalize hopened : Timeline.normalizedRow (openText d) ⟨freshId, s.nextSequence, false⟩ = opened at htimeline
  have hhistory : (s.toTimeline.addRow d.sourceId opened).history = [opened] := by
    rw [Timeline.addRow, Timeline.insertRow, hempty]
    rfl
  have hkind : byteLen opened.entryId + byteLen opened.kind ≤ 1024 := by
    rw [← hopened]
    exact hshort
  rw [@enforceHistoryBound_alone _ opened hhistory hkind d.finalChunk (by rw [← hopened]; rfl) d.delta
    (by rw [← hopened]; rfl) (delta_fits hvalid)] at htimeline
  have hmapped : (s.toTimeline.addRow d.sourceId opened).sourceEntries.lookup d.sourceId =
      some ⟨opened.entryId, s.nextSequence, false⟩ := KeyedMap.lookup_insert_self ..
  exact Alone.of_timeline (htimeline ▸ hmapped) (htimeline ▸ hhistory) rfl hkind

lemma Alone.grow (halone : Alone source s) (h : Holds source kind s accepted row) (hsource : d.sourceId = source)
    (hkind : d.kind = kind) (hnewer : row.entryRevision < d.sourceRevision) {now : ℕ} {freshId : String} :
    Alone source (s.appendText now freshId d).1.1 ∧
      ((s.appendText now freshId d).1.1.toTimeline.sourceRow source).isSome := by
  obtain ⟨m, hm, hsettled, hrow⟩ := h.mapped
  obtain ⟨hmem, hid⟩ := Timeline.row_some hrow
  have hids := halone.mapped m hm
  have hhistory : s.history = [row] := by
    obtain ⟨e, he⟩ := List.length_eq_one_iff.mp ((List.length_map ..).symm.trans (congrArg List.length hids))
    rw [he] at hmem
    rw [he, List.mem_singleton.mp hmem]
  subst hsource
  have htimeline := @LiveSession.appendText_newer s now freshId d m row _ hm hsettled hrow (h.kind.trans hkind.symm)
    h.body hnewer
  generalize hgrown : growText row (retained accepted) d = grown at htimeline
  have hreplaced : (s.toTimeline.replaceRow grown).history = [grown] := by
    rw [Timeline.replaceRow, hhistory, ← hgrown]
    simp [replaceFirst, growText]
  have hshort : byteLen grown.entryId + byteLen grown.kind ≤ 1024 := by
    rw [← hgrown]
    exact halone.short row hmem
  rw [@enforceHistoryBound_alone _ grown hreplaced hshort d.finalChunk (by rw [← hgrown]; rfl)
    (cut (retained accepted ++ d.delta) maxRetainedTextBytes) (by rw [← hgrown]; rfl) (byteLen_cut _ _)] at htimeline
  have hmapped : (s.toTimeline.replaceRow grown).sourceEntries.lookup d.sourceId = some m := hm
  exact Alone.of_timeline (htimeline ▸ hmapped) (htimeline ▸ hreplaced) (by rw [← hgrown]; exact hid) hshort

lemma Alone.arrives (hs : f.supervisor.sessions.lookup sessionId = some s) (halone : Alone source s)
    (hkeeps : f.Keeps sessionId source kind) (hsource : a.delta.sourceId = source) (hkind : a.delta.kind = kind)
    (hshort : byteLen (a.env.ids 0) + byteLen kind ≤ 1024) (hvalid : a.delta.validate = .ok ()) :
    f.Arrives sessionId source kind a ∧
      ∃ s', (f.step sessionId a).supervisor.sessions.lookup sessionId = some s' ∧ Alone source s' := by
  obtain ⟨s', hs', hids, hrow⟩ := hkeeps
  cases hs.symm.trans hs'
  have hnext := @step_session sessionId f a s hs hvalid
  have hafter : Alone source (s.appendText a.env.now (a.env.ids 0) a.delta).1.1 ∧
      ((s.appendText a.env.now (a.env.ids 0) a.delta).1.1.toTimeline.sourceRow source).isSome := by
    rcases hrow with ⟨-, hnone⟩ | ⟨row, hrow⟩
    · exact halone.opens hnone hsource hvalid (hkind.symm ▸ hshort)
    · by_cases hnewer : row.entryRevision < a.delta.sourceRevision
      · exact halone.grow hrow hsource hkind hnewer
      · obtain ⟨m, hm, -, hmrow⟩ := hrow.mapped
        rw [LiveSession.appendText_stale (hsource ▸ hm) hmrow (not_lt.mp hnewer)]
        exact ⟨halone, Option.isSome_iff_exists.mpr ⟨row, hrow.sourceRow⟩⟩
  refine ⟨⟨hsource, hkind, fun s' hs' hnone => ?_, fun _ => ?_⟩, _, hnext, hafter.1⟩
  · cases hs.symm.trans hs'
    rw [Timeline.ids, halone.unmapped hnone]
    exact List.not_mem_nil
  · rw [Fed.row, hnext]
    exact hafter.2

lemma Alone.reaches {start : Fed} (hreach : Runs.Reaches (step sessionId) (Arrives sessionId source kind) start f)
    (hs : f.supervisor.sessions.lookup sessionId = some s) (halone : Alone source s)
    (hkeeps : f.Keeps sessionId source kind) {arrivals : List Arrival}
    (harrivals : ∀ a ∈ arrivals, a.delta.sourceId = source ∧ a.delta.kind = kind ∧
      byteLen (a.env.ids 0) + byteLen kind ≤ 1024 ∧ a.delta.validate = .ok ()) :
    Runs.Reaches (step sessionId) (Arrives sessionId source kind) start (arrivals.foldl (step sessionId) f) := by
  induction arrivals generalizing f s with
  | nil => exact hreach
  | cons a arrivals ih =>
    obtain ⟨hsource, hkind, hshort, hvalid⟩ := harrivals a List.mem_cons_self
    obtain ⟨harrives, s', hs', halone'⟩ := halone.arrives hs hkeeps hsource hkind hshort hvalid
    exact ih (hreach.tail a harrives) hs' halone' (hkeeps.step harrives)
      fun b hb => harrivals b (List.mem_cons_of_mem a hb)

end Alone

lemma accept_newer (hvalid : d.validate = .ok ()) (hnewer : ∀ a ∈ accepted, a.sourceRevision < d.sourceRevision) :
    accept accepted d = accepted ++ [d] := if_pos ⟨hvalid, hnewer⟩

lemma accept_cases (accepted : List NormalizedTextDelta) (d : NormalizedTextDelta) :
    accept accepted d = accepted ++ [d] ∨ accept accepted d = accepted := by
  rw [accept]
  split
  · exact .inl rfl
  · exact .inr rfl

namespace Sample

def start : Fed := ⟨⟨(∅ : KeyedMap String LiveSession).insert "s-1" (Session.Sample.session Timeline.empty), ∅, ∅, ∅,
  ⟨id, [], []⟩, [], []⟩, []⟩

def delta (revision : ℕ) (text : String) : NormalizedTextDelta :=
  ⟨"m-1", revision, 50, "assistant_message", text, false, ⟨false, none, none⟩⟩

def arrival (revision : ℕ) (text : String) : Arrival := ⟨Session.Sample.env revision ["e-1"], delta revision text⟩

def filler (n : ℕ) : String := String.ofList (List.replicate n 'a')

lemma byteLen_filler (n : ℕ) : byteLen (filler n) = n := by
  have ha : Char.utf8Size 'a' = 1 := by decide
  rw [filler, byteLen_ofList, weight_replicate, ha, Nat.mul_one]

lemma delta_valid {revision : ℕ} (hrevision : revision ≠ 0) {text : String} (htext : byteLen text ≤ maxRetainedTextBytes) :
    (delta revision text).validate = .ok () := by
  have hsource : validSourceId "m-1" = .ok () := by decide
  have hkind : validToken "assistant_message" = .ok () := by decide
  have htruncation : Truncation.validate ⟨false, none, none⟩ = .ok () := by decide
  have hbody : refuseAdapterBodyAvailable ⟨false, none, none⟩ = .ok () := by decide
  simp only [NormalizedTextDelta.validate, delta, hsource, hkind, htruncation, hbody, bind_ok, true_and]
  simp [hrevision, htext]

lemma start_session : ∃ s, start.supervisor.sessions.lookup "s-1" = some s ∧ s.ids.Nodup ∧
    s.sourceEntries.lookup "m-1" = none :=
  ⟨_, KeyedMap.lookup_insert_self .., List.nodup_nil, rfl⟩

lemma start_reaches {arrivals : List (ℕ × String)}
    (harrivals : ∀ a ∈ arrivals, a.1 ≠ 0 ∧ byteLen a.2 ≤ maxRetainedTextBytes) :
    Runs.Reaches (step "s-1") (Arrives "s-1" "m-1" "assistant_message") start
      ((arrivals.map fun a => arrival a.1 a.2).foldl (step "s-1") start) := by
  have hs : start.supervisor.sessions.lookup "s-1" = some (Session.Sample.session Timeline.empty) :=
    KeyedMap.lookup_insert_self ..
  have halone : Alone "m-1" (Session.Sample.session Timeline.empty) := ⟨nofun, fun _ => rfl, nofun⟩
  refine halone.reaches .refl hs ⟨_, hs, List.nodup_nil, .inl ⟨rfl, rfl⟩⟩ fun a ha => ?_
  obtain ⟨⟨revision, text⟩, hmem, rfl⟩ := List.mem_map.mp ha
  obtain ⟨hrevision, htext⟩ := harrivals _ hmem
  have hshort : byteLen "e-1" + byteLen "assistant_message" ≤ 1024 := by decide
  exact ⟨rfl, rfl, hshort, delta_valid hrevision htext⟩

end Sample

theorem row_streams_start {start : Fed} (hstart : start.accepted = [])
    (hsession : ∃ s, start.supervisor.sessions.lookup sessionId = some s ∧ s.ids.Nodup ∧
      s.sourceEntries.lookup source = none) :
    (∀ f, Runs.Reaches (step sessionId) (Arrives sessionId source kind) start f → f.accepted ≠ [] →
      ∃ row u, f.row sessionId source = some row ∧ row.body = .text u ∧ u = retained f.accepted ∧
        byteLen u ≤ maxRetainedTextBytes ∧
        (byteLen (concatenated f.accepted) ≤ maxRetainedTextBytes → u = concatenated f.accepted) ∧
        (f.accepted.map NormalizedTextDelta.sourceRevision ≠ List.range' 1 f.accepted.length ∨
          u ≠ concatenated f.accepted → row.truncation.truncated = true)) ∧
    ∀ f, Runs.Reaches (step sessionId)
        (fun f a => Arrives sessionId source kind f a ∧ Filled f.accepted a.delta) start f →
      (retained f.accepted).toList <+: (concatenated f.accepted).toList := by
  constructor
  · intro f hreach hsome
    obtain ⟨s, hs, -, ⟨hnil, -⟩ | ⟨row, hrow⟩⟩ := Keeps.of_reaches hstart hsession hreach
    · exact absurd hnil hsome
    · refine ⟨row, retained f.accepted, ?_, hrow.body, rfl, byteLen_retained _, retained_eq, fun hlost => ?_⟩
      · rw [Fed.row, hs]
        exact hrow.sourceRow
      · by_contra hwhole
        obtain ⟨hrevisions, hshort⟩ := hrow.whole (Bool.not_eq_true _ ▸ hwhole)
        rcases hlost with hskipped | hdropped
        · exact hskipped hrevisions
        · exact hdropped (retained_eq hshort)
  · intro f hreach
    apply hreach.invariant (P := fun f => (retained f.accepted).toList <+: (concatenated f.accepted).toList)
    · rw [hstart]
      exact List.prefix_refl _
    · intro f a h hallowed
      change (retained (accept f.accepted a.delta)).toList <+: (concatenated (accept f.accepted a.delta)).toList
      rcases accept_cases f.accepted a.delta with hmore | hsame
      · rw [hmore]
        exact retained_prefix h hallowed.2
      · rw [hsame]
        exact h

theorem row_streams_start_gap :
    ∃ row u, (([(1, "he"), (1, "he"), (3, "llo")].map fun a => Sample.arrival a.1 a.2).foldl (step "s-1")
        Sample.start).row "s-1" "m-1" = some row ∧ row.body = .text u ∧ u = "hello" ∧ row.truncation.truncated = true := by
  have hreach := @Sample.start_reaches [(1, "he"), (1, "he"), (3, "llo")] (by decide)
  have haccepted : (([(1, "he"), (1, "he"), (3, "llo")].map fun a => Sample.arrival a.1 a.2).foldl (step "s-1")
      Sample.start).accepted = [Sample.delta 1 "he", Sample.delta 3 "llo"] := by decide +kernel
  obtain ⟨row, u, hrow, hbody, -, -, hwhole, hmarked⟩ := (@row_streams_start "s-1" "m-1" "assistant_message" _ rfl
    Sample.start_session).1 _ hreach (by rw [haccepted]; exact List.cons_ne_nil _ _)
  rw [haccepted] at hwhole hmarked
  exact ⟨row, u, hrow, hbody, hwhole (by decide), hmarked (.inl (by decide))⟩

namespace Sample

def straddling (n : ℕ) : List NormalizedTextDelta := [delta 1 (filler n), delta 2 "é", delta 3 "b"]

def straddlingArrivals (n : ℕ) : List (ℕ × String) := [(1, filler n), (2, "é"), (3, "b")]

variable {n : ℕ}

section

variable (hn : n + 1 = maxRetainedTextBytes)

include hn

lemma straddling_accepted :
    (((straddlingArrivals n).map fun a => arrival a.1 a.2).foldl (step "s-1") start).accepted = straddling n := by
  have hfiller : byteLen (filler n) ≤ maxRetainedTextBytes := by
    rw [byteLen_filler]
    omega
  simp only [straddlingArrivals, List.map_cons, List.map_nil, List.foldl_cons, List.foldl_nil, step, arrival, start]
  have hfirst : accept [] (delta 1 (filler n)) = [delta 1 (filler n)] :=
    accept_newer (delta_valid (by decide) hfiller) (List.forall_mem_nil _)
  have hsecond : accept [delta 1 (filler n)] (delta 2 "é") = [delta 1 (filler n), delta 2 "é"] :=
    accept_newer (delta_valid (by decide) (by decide)) (by simp [delta])
  rw [hfirst, hsecond]
  exact accept_newer (delta_valid (by decide) (by decide)) (by simp [delta])

lemma straddling_retained : retained (straddling n) = filler n ++ "b" := by
  have hfiller := byteLen_filler n
  have hfirst : retained [delta 1 (filler n)] = filler n := by
    have hall : concatenated [delta 1 (filler n)] = filler n := by simp [concatenated, delta]
    rw [retained_eq (by rw [hall]; omega), hall]
  -- the wide character goes, and leaves one byte
  have hsecond : retained ([delta 1 (filler n)] ++ [delta 2 "é"]) = filler n := by
    have hwide : Char.utf8Size 'é' = 2 := by decide
    rw [retained_append, hfirst, cut, String.toList_append, takeWithin_full, String.ofList_toList]
    · rw [← byteLen]
      omega
    · intro c hc
      have hc : c = 'é' := (Option.some.inj hc).symm
      rw [← byteLen, hc]
      omega
  have hthird : retained (([delta 1 (filler n)] ++ [delta 2 "é"]) ++ [delta 3 "b"]) = filler n ++ "b" := by
    have hone : byteLen "b" = 1 := by decide
    have hfits : byteLen (filler n ++ "b") ≤ maxRetainedTextBytes := by
      rw [byteLen_append]
      omega
    rw [retained_append, hsecond]
    exact cut_eq_self hfits
  exact hthird

lemma straddling_reaches :
    Runs.Reaches (step "s-1") (Arrives "s-1" "m-1" "assistant_message") start
      (((straddlingArrivals n).map fun a => arrival a.1 a.2).foldl (step "s-1") start) := by
  have hshort : ∀ a ∈ [(2, "é"), (3, "b")], a.1 ≠ 0 ∧ byteLen a.2 ≤ maxRetainedTextBytes := by decide
  refine start_reaches fun a ha => ?_
  rcases List.mem_cons.mp ha with rfl | ha
  · refine ⟨Nat.one_ne_zero, ?_⟩
    rw [byteLen_filler]
    omega
  · exact hshort a ha

end

end Sample

theorem later_delta_fills_the_gap :
    ∃ n f, n + 1 = maxRetainedTextBytes ∧
      Runs.Reaches (step "s-1") (Arrives "s-1" "m-1" "assistant_message") Sample.start f ∧
      f.accepted = Sample.straddling n ∧
      (∃ row, f.row "s-1" "m-1" = some row ∧ row.body = .text (Sample.filler n ++ "b")) ∧
      ¬ (Sample.filler n ++ "b").toList <+: (concatenated f.accepted).toList := by
  obtain ⟨n, hn⟩ : ∃ n, n + 1 = maxRetainedTextBytes := ⟨1048575, rfl⟩
  have hreach := Sample.straddling_reaches hn
  refine ⟨n, _, hn, hreach, Sample.straddling_accepted hn, ?_, ?_⟩
  · obtain ⟨s, hs, -, ⟨hnil, -⟩ | ⟨row, hrow⟩⟩ := Keeps.of_reaches rfl Sample.start_session hreach
    · rw [Sample.straddling_accepted hn] at hnil
      cases hnil
    · refine ⟨row, ?_, ?_⟩
      · rw [Fed.row, hs]
        exact hrow.sourceRow
      · rw [hrow.body, Sample.straddling_accepted hn, Sample.straddling_retained hn]
  · have hall : (concatenated (Sample.straddling n)).toList = (Sample.filler n).toList ++ ['é', 'b'] := by
      simp [concatenated, Sample.straddling, Sample.delta]
    rw [Sample.straddling_accepted hn, hall, String.toList_append, List.prefix_append_right_inj]
    decide

end Fed

end CiaoHost.Session
