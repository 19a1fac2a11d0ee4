import Mathlib
import CiaoHost.Session.Run
import CiaoHost.Protocol.FitSize

/-! Pages of a session's history, and the chain of them that a phone asks for one after the other. -/

namespace CiaoHost.Session

open Protocol Lib Lib.JsonSize

def maxTimelinePageBytes : ℕ := 256 * 1024

def u32Max : ℕ := 2 ^ 32 - 1

structure TimelinePage where
  v : ℕ
  messageType : String
  sessionId : String
  snapshotEpoch : ℕ
  processGeneration : ℕ
  entries : List TimelineEntry
  hasOlder : Bool
  nextBeforeSequence : Option ℕ
  aggregateBytes : ℕ
  deriving DecidableEq, Repr

def pageBytes (entries : List TimelineEntry) : ℕ := arr (entries.map TimelineEntry.size)

def trimPage : List TimelineEntry → List TimelineEntry
  | [] => []
  | oldest :: rest => if maxTimelinePageBytes < pageBytes (oldest :: rest) then trimPage rest else oldest :: rest

namespace LiveSession

def pageEntries (s : LiveSession) (beforeSequence limit : ℕ) : List TimelineEntry :=
  let candidates := ((s.history.filter (·.sequence < beforeSequence)).reverse.take limit).map fitEntryAlone
  trimPage candidates.reverse

def hasOlderThan (s : LiveSession) (entries : List TimelineEntry) : Bool :=
  entries.head?.any fun first => s.history.any fun entry => entry.sequence < first.sequence

end LiveSession

namespace Supervisor

def page (sv : Supervisor) (sessionId : String) (beforeSequence limit : ℕ) : Option TimelinePage :=
  if limit = 0 ∨ maxTimelinePageEntries < limit then none
  else (sv.sessions.lookup sessionId).map fun s =>
    let entries := s.pageEntries beforeSequence limit
    let hasOlder := s.hasOlderThan entries
    { v := agentProtocolVersion
      messageType := "agent_timeline_page"
      sessionId := sessionId
      snapshotEpoch := s.snapshot.snapshotEpoch
      processGeneration := s.snapshot.processGeneration
      entries := entries
      hasOlder := hasOlder
      nextBeforeSequence :=
        if hasOlder then some ((entries.head?.map TimelineEntry.sequence).getD beforeSequence) else none
      aggregateBytes := min (pageBytes entries) u32Max }

/-- The pages asked for one after the other, with these limits, each below the sequence the last one
named, until one says that nothing is older. -/
def pagesBack (sv : Supervisor) (sessionId : String) : List ℕ → ℕ → Option (List TimelinePage)
  | [], _ => none
  | limit :: limits, beforeSequence =>
    match sv.page sessionId beforeSequence limit with
    | none => none
    | some page =>
      if page.hasOlder then
        match page.nextBeforeSequence with
        | none => none
        | some next => (sv.pagesBack sessionId limits next).map (page :: ·)
      else some [page]

end Supervisor

lemma trimPage_suffix (entries : List TimelineEntry) : trimPage entries <:+ entries := by
  induction entries with
  | nil => exact List.suffix_rfl
  | cons oldest rest ih =>
    rw [trimPage]
    split
    · exact ih.trans (List.suffix_cons oldest rest)
    · exact List.suffix_rfl

lemma trimPage_ne_nil {entries : List TimelineEntry} (hsize : ∀ e ∈ entries, e.size ≤ maxAgentFrameBytes)
    (hne : entries ≠ []) : trimPage entries ≠ [] := by
  induction entries with
  | nil => exact absurd rfl hne
  | cons oldest rest ih =>
    rw [trimPage]
    split
    · next hover =>
      apply ih fun e he => hsize e (List.mem_cons_of_mem _ he)
      rintro rfl
      have hone := hsize oldest List.mem_cons_self
      simp only [pageBytes, arr, List.map_cons, List.map_nil, List.sum_cons, List.sum_nil,
        maxTimelinePageBytes] at hover
      rw [maxAgentFrameBytes] at hone
      omega
    · exact List.cons_ne_nil _ _

namespace LiveSession

variable {s : LiveSession} {beforeSequence limit : ℕ}

variable (beforeSequence) in
lemma pageEntries_spec (hrows : ∀ e ∈ s.history, e.Fittable ∧ e.InRange) (hlimit : limit ≠ 0) :
    ∃ older newer, s.history.filter (·.sequence < beforeSequence) = older ++ newer ∧
      s.pageEntries beforeSequence limit = newer.map fitEntryAlone ∧
      (s.history.filter (·.sequence < beforeSequence) ≠ [] → newer ≠ []) := by
  set below := s.history.filter (·.sequence < beforeSequence) with hbelow
  obtain ⟨rest, hsplit⟩ : (below.reverse.take limit).reverse <:+ below := by
    rw [← List.reverse_prefix, List.reverse_reverse]
    exact List.take_prefix _ _
  have hentries : s.pageEntries beforeSequence limit =
      trimPage ((below.reverse.take limit).reverse.map fitEntryAlone) := by
    rw [pageEntries, List.map_reverse]
  set candidates := (below.reverse.take limit).reverse with hcandidates
  obtain ⟨trimmed, htrim⟩ := trimPage_suffix (candidates.map fitEntryAlone)
  obtain ⟨oldest, newer, hparts, holdest, hnewer⟩ := List.append_eq_map_iff.mp htrim
  refine ⟨rest ++ oldest, newer, ?_, ?_, fun hne => ?_⟩
  · rw [← hsplit, hparts, List.append_assoc]
  · rw [hentries, ← hnewer]
  · have hmem : ∀ e ∈ candidates, e ∈ s.history := fun e he =>
      List.mem_of_mem_filter (hsplit ▸ List.mem_append_right rest he : e ∈ below)
    have hsome : candidates ≠ [] := by
      rw [hcandidates]
      simp [hne, hlimit]
    have hkept : trimPage (candidates.map fitEntryAlone) ≠ [] := by
      apply trimPage_ne_nil
      · intro e he
        obtain ⟨e', he', rfl⟩ := List.mem_map.mp he
        exact fitEntryAlone_size (hrows e' (hmem e' he')).1 (hrows e' (hmem e' he')).2
      · simpa using hsome
    rintro rfl
    exact hkept hnewer.symm

lemma filter_below_first (hsorted : s.history.Pairwise (·.sequence < ·.sequence)) {older rest : List TimelineEntry}
    {first : TimelineEntry} (h : s.history.filter (·.sequence < beforeSequence) = older ++ first :: rest) :
    s.history.filter (·.sequence < first.sequence) = older := by
  have hfirst : first.sequence < beforeSequence := by
    have hmem : first ∈ s.history.filter (·.sequence < beforeSequence) := by simp [h]
    simpa using (List.mem_filter.mp hmem).2
  have hparts : (older ++ first :: rest).Pairwise (·.sequence < ·.sequence) := h ▸ hsorted.filter _
  obtain ⟨-, hlater, hcross⟩ := List.pairwise_append.mp hparts
  have hnested : s.history.filter (·.sequence < first.sequence) =
      (s.history.filter (·.sequence < beforeSequence)).filter (·.sequence < first.sequence) := by
    rw [List.filter_filter]
    apply List.filter_congr
    intro e _
    by_cases hlt : e.sequence < first.sequence
    · simp [hlt, hlt.trans hfirst]
    · simp [hlt]
  have hbefore : older.filter (·.sequence < first.sequence) = older := by
    rw [List.filter_eq_self]
    intro e he
    simpa using hcross e he first List.mem_cons_self
  have hafter : (first :: rest).filter (·.sequence < first.sequence) = [] := by
    rw [List.filter_eq_nil_iff]
    intro e he
    rcases List.mem_cons.mp he with rfl | he
    · simp
    · simpa using ((List.pairwise_cons.mp hlater).1 e he).le
  rw [hnested, h, List.filter_append, hbefore, hafter, List.append_nil]

end LiveSession

namespace Sample

def withHoles : LiveSession := session ⟨∅, [row "e-1" 2 "user_message" "a", row "e-2" 5 "tool" "b",
  row "e-3" 6 "assistant_message" "c", row "e-4" 9 "user_message" "d"], 10⟩

def holding (s : LiveSession) : Supervisor :=
  ⟨(∅ : KeyedMap String LiveSession).insert "s-1" s, ∅, ∅, ∅, ⟨id, [], []⟩, [], []⟩

end Sample

namespace Supervisor

variable {sv : Supervisor} {sessionId : String} {s : LiveSession}

theorem pages_cover_history (hs : sv.sessions.lookup sessionId = some s)
    (hsorted : s.history.Pairwise (·.sequence < ·.sequence)) (hrows : ∀ e ∈ s.history, e.Fittable ∧ e.InRange)
    (beforeSequence : ℕ) (limits : List ℕ) (hlimits : ∀ limit ∈ limits, 1 ≤ limit ∧ limit ≤ maxTimelinePageEntries)
    (hcalls : s.history.length < limits.length) :
    ∃ pages, sv.pagesBack sessionId limits beforeSequence = some pages ∧
      pages.reverse.flatMap TimelinePage.entries =
        (s.history.filter (·.sequence < beforeSequence)).map fitEntryAlone := by
  -- Each page takes at least one of the rows still below its sequence.
  replace hcalls : (s.history.filter (·.sequence < beforeSequence)).length < limits.length :=
    (List.length_filter_le _ _).trans_lt hcalls
  induction limits generalizing beforeSequence with
  | nil => simp at hcalls
  | cons limit limits ih =>
    obtain ⟨hlow, hhigh⟩ := hlimits limit List.mem_cons_self
    obtain ⟨older, newer, hsplit, hentries, hnonempty⟩ :=
      LiveSession.pageEntries_spec beforeSequence hrows (by omega : limit ≠ 0)
    rw [pagesBack, page, if_neg (by omega), hs]
    dsimp only [Option.map_some]
    cases newer with
    | nil =>
      have hbelow : s.history.filter (·.sequence < beforeSequence) = [] := by
        by_contra hne
        exact hnonempty hne rfl
      rw [hentries]
      exact ⟨_, rfl, by simp [hbelow]⟩
    | cons first rest =>
      have hsequence : (fitEntryAlone first).sequence = first.sequence := (fitEntryAlone_sameRow first).sequence
      have hbelow := LiveSession.filter_below_first hsorted hsplit
      have holder : s.hasOlderThan (s.pageEntries beforeSequence limit) = !older.isEmpty := by
        rw [← hbelow, hentries, Bool.eq_iff_iff]
        simp [LiveSession.hasOlderThan, hsequence]
      rw [holder, hentries]
      cases older with
      | nil =>
        refine ⟨_, rfl, ?_⟩
        rw [hsplit]
        simp
      | cons oldest others =>
        have hfewer : (s.history.filter (·.sequence < first.sequence)).length < limits.length := by
          simp only [hsplit, hbelow, List.length_append, List.length_cons] at hcalls ⊢
          omega
        obtain ⟨pages, hpages, hjoined⟩ :=
          ih first.sequence (fun limit hmem => hlimits limit (List.mem_cons_of_mem _ hmem)) hfewer
        simp only [List.isEmpty_cons, Bool.not_false, if_true, List.map_cons, List.head?_cons, Option.map_some,
          Option.getD_some, hsequence, hpages]
        refine ⟨_, rfl, ?_⟩
        rw [List.reverse_cons, List.flatMap_append, hjoined, hbelow, hsplit]
        simp

theorem pages_cover_history_below_nine :
    ∃ pages, (Sample.holding Sample.withHoles).pagesBack "s-1" [2, 1, 64, 1, 1] 9 = some pages ∧
      pages.reverse.flatMap TimelinePage.entries =
        ([Sample.row "e-1" 2 "user_message" "a", Sample.row "e-2" 5 "tool" "b",
          Sample.row "e-3" 6 "assistant_message" "c"].map fitEntryAlone) := by
  refine pages_cover_history (s := Sample.withHoles) (KeyedMap.lookup_insert_self ..) (by decide) ?_ 9
    [2, 1, 64, 1, 1] (by decide) (by decide)
  intro e he
  simp only [Sample.withHoles, Sample.session, registeredSession, LiveSession.refreshSnapshotWindow, List.mem_cons,
    List.not_mem_nil, or_false] at he
  rcases he with rfl | rfl | rfl | rfl <;>
    exact ⟨(TimelineEntry.validate_ok.mp (by decide)).2, by decide, by decide, by decide, fun n hn => by cases hn⟩

end Supervisor

end CiaoHost.Session
