import CiaoHost.Protocol.FitValid

/-! The wire copy of a snapshot: a well-formed one stays well formed, and only the oldest rows of
its window go. -/

namespace CiaoHost.Protocol

open Lib.Checks Lib.Text Lib.JsonSize TimelineEntry

namespace AgentSessionSnapshot

variable {s : AgentSessionSnapshot}

structure CutTo (s r : AgentSessionSnapshot) : Prop where
  same : { r with timelineWindow := s.timelineWindow } = s
  rows : ∃ gone, List.Forall₂ SameRow (s.timelineWindow.entries.drop gone) r.timelineWindow.entries
  kept : s.timelineWindow.entries ≠ [] → r.timelineWindow.entries ≠ []

lemma CutTo.refl (s : AgentSessionSnapshot) : CutTo s s :=
  ⟨rfl, ⟨0, by simpa using List.forall₂_same.mpr fun e _ => SameRow.refl e⟩, id⟩

lemma forall₂_sameRow_trans {a b c : List TimelineEntry} (hab : List.Forall₂ SameRow a b)
    (hbc : List.Forall₂ SameRow b c) : List.Forall₂ SameRow a c := by
  induction hab generalizing c with
  | nil => exact hbc
  | cons h _ ih =>
    cases hbc with
    | cons h' hbc => exact .cons (h.trans h') (ih hbc)

variable {r : AgentSessionSnapshot}

lemma CutTo.trans {q : AgentSessionSnapshot} (h : CutTo s r) (h' : CutTo r q) : CutTo s q := by
  obtain ⟨gone, hrows⟩ := h.rows
  obtain ⟨gone', hrows'⟩ := h'.rows
  refine ⟨?_, ⟨gone + gone', ?_⟩, fun hne => h'.kept (h.kept hne)⟩
  · have hr := h.same
    rw [← h'.same] at hr
    exact hr
  · rw [← List.drop_drop]
    exact forall₂_sameRow_trans (List.forall₂_drop gone' hrows) hrows'

lemma forall₂_map_sequence {a b : List TimelineEntry} (h : List.Forall₂ SameRow a b) :
    b.map TimelineEntry.sequence = a.map TimelineEntry.sequence := by
  induction h with
  | nil => rfl
  | cons h _ ih => simp [h.sequence, ih]

lemma CutTo.sorted (h : CutTo s r) (hs : s.timelineWindow.entries.Pairwise (·.sequence < ·.sequence)) :
    r.timelineWindow.entries.Pairwise (·.sequence < ·.sequence) := by
  obtain ⟨gone, hrows⟩ := h.rows
  have hmap : (r.timelineWindow.entries.map TimelineEntry.sequence).Pairwise (· < ·) := by
    rw [forall₂_map_sequence hrows, List.pairwise_map]
    exact hs.sublist (List.drop_sublist _ _)
  rwa [List.pairwise_map] at hmap

def CountsWindow (frameLen : AgentSessionSnapshot → ℕ) : Prop :=
  ∀ s : AgentSessionSnapshot, CountsText fun candidate => frameLen (s.withEntries [candidate])

lemma countsWindow_snapshotFrame (v : ℕ) : CountsWindow fun s => encodedFrameLen (.sessionSnapshot v s) := by
  intro s wire t hb
  have hentries : wire.size ≤ arr ([wire].map TimelineEntry.size) := le_arr (by simp)
  have hwindow : arr ([wire].map TimelineEntry.size) ≤ (s.withEntries [wire]).timelineWindow.size :=
    le_obj (f := ("entries", arr ([wire].map TimelineEntry.size))) (by simp [withEntries])
  have hsnapshot : (s.withEntries [wire]).timelineWindow.size ≤ (s.withEntries [wire]).size :=
    le_obj (f := ("timeline_window", (s.withEntries [wire]).timelineWindow.size)) (by simp)
  have hframe : (s.withEntries [wire]).size ≤ encodedFrameLen (.sessionSnapshot v (s.withEntries [wire])) :=
    le_obj (f := ("snapshot", (s.withEntries [wire]).size)) (by simp)
  exact (jsonLen_le_size hb).trans (hentries.trans (hwindow.trans (hsnapshot.trans hframe)))

lemma dropOldest_wellFormed {first : TimelineEntry} {rest : List TimelineEntry}
    (h : s.timelineWindow.WellFormed) (hentries : s.timelineWindow.entries = first :: rest) (hne : rest ≠ []) :
    (s.dropOldest rest).timelineWindow.WellFormed where
  count := by
    have hcount := h.count
    simp only [hentries, List.length_cons] at hcount
    exact (Nat.le_succ _).trans hcount
  boundary := h.boundary
  entries := fun e he => h.entries e (by simp [hentries, show e ∈ rest from he])
  oldest := rfl
  newest := by
    rw [show (s.dropOldest rest).timelineWindow.newestSequence = s.timelineWindow.newestSequence from rfl,
      h.newest, hentries, List.getLast?_cons_of_ne_nil hne]
    rfl

variable {entries : List TimelineEntry} {frameLen : AgentSessionSnapshot → ℕ}

lemma withEntries_wellFormed (h : s.timelineWindow.WellFormed)
    (hrows : List.Forall₂ SameRow s.timelineWindow.entries entries)
    (hvalid : ∀ e ∈ entries, e.validate = .ok ()) : (s.withEntries entries).timelineWindow.WellFormed := by
  have hmap := forall₂_map_sequence hrows
  refine ⟨hrows.length_eq ▸ h.count, h.boundary, hvalid, ?_, ?_⟩
  · rw [← List.head?_map, show (s.withEntries entries).timelineWindow.entries = entries from rfl, hmap,
      List.head?_map]
    exact h.oldest
  · rw [← List.getLast?_map, show (s.withEntries entries).timelineWindow.entries = entries from rfl, hmap,
      List.getLast?_map]
    exact h.newest

lemma validate_fittable {e : TimelineEntry} (h : e.validate = .ok ()) : e.Fittable := (validate_ok.mp h).2

lemma dropToFit_cut (hcount : CountsWindow frameLen) (hentries : s.timelineWindow.entries = entries)
    (h : s.timelineWindow.WellFormed) :
    CutTo s (dropToFit frameLen s entries) ∧ (dropToFit frameLen s entries).timelineWindow.WellFormed := by
  induction entries generalizing s with
  | nil => exact ⟨.refl s, h⟩
  | cons first rest ih =>
    cases rest with
    | nil =>
      unfold dropToFit
      split
      · exact ⟨.refl s, h⟩
      · have hrow := fitEntryToFrame_sameRow first fun candidate => frameLen (s.withEntries [candidate])
        have hrows : List.Forall₂ SameRow s.timelineWindow.entries
            [fitEntryToFrame first fun candidate => frameLen (s.withEntries [candidate])] := by
          rw [hentries]
          exact .cons hrow .nil
        refine ⟨⟨rfl, ⟨0, hrows⟩, fun _ => List.cons_ne_nil _ _⟩, withEntries_wellFormed h hrows ?_⟩
        simpa using fitEntryToFrame_valid (hcount s) (validate_fittable (h.entries first (by simp [hentries])))
    | cons next rest =>
      unfold dropToFit
      split
      · exact ⟨.refl s, h⟩
      · obtain ⟨hcut, hform⟩ := ih (s := s.dropOldest (next :: rest)) rfl
          (dropOldest_wellFormed h hentries (by simp))
        have hdrop : CutTo s (s.dropOldest (next :: rest)) := by
          refine ⟨rfl, ⟨1, ?_⟩, fun _ => List.cons_ne_nil _ _⟩
          rw [hentries]
          exact List.forall₂_same.mpr fun e _ => SameRow.refl e
        exact ⟨hdrop.trans hcut, hform⟩

lemma fitWithEnvelope_cut (hcount : CountsWindow frameLen) (h : s.timelineWindow.WellFormed) :
    CutTo s (s.fitWithEnvelope frameLen) ∧ (s.fitWithEnvelope frameLen).timelineWindow.WellFormed := by
  have hrows : List.Forall₂ SameRow s.timelineWindow.entries (s.timelineWindow.entries.map fitEntryAlone) := by
    rw [List.forall₂_map_right_iff]
    exact List.forall₂_same.mpr fun e _ => fitEntryAlone_sameRow e
  have hvalid : ∀ e ∈ s.timelineWindow.entries.map fitEntryAlone, e.validate = .ok () := by
    intro e he
    obtain ⟨e', he', rfl⟩ := List.mem_map.mp he
    exact fitEntryAlone_valid (validate_fittable (h.entries e' he'))
  obtain ⟨hcut, hform⟩ := dropToFit_cut hcount (s := s.withEntries (s.timelineWindow.entries.map fitEntryAlone))
    rfl (withEntries_wellFormed h hrows hvalid)
  have hfit : CutTo s (s.withEntries (s.timelineWindow.entries.map fitEntryAlone)) :=
    ⟨rfl, ⟨0, hrows⟩, by simp [withEntries]⟩
  exact ⟨hfit.trans hcut, hform⟩

lemma WellFormed.of_cut (h : s.WellFormed) (hcut : CutTo s r)
    (hform : r.timelineWindow.WellFormed) : r.WellFormed := by
  have hs := hcut.same
  rw [← hs] at h
  exact { h with window := hform }

lemma Coherent.of_cut (h : s.Coherent) (hcut : CutTo s r) : r.Coherent := by
  have hsorted := hcut.sorted h.sorted
  have hs := hcut.same
  rw [← hs] at h
  exact { h with sorted := hsorted }

theorem fitToFrame_valid (h : s.WellFormed) (hc : s.Coherent) : s.fitToFrame.validate = .ok () := by
  obtain ⟨hcut, hform⟩ := fitWithEnvelope_cut (countsWindow_snapshotFrame agentProtocolVersion) h.window
  exact (h.of_cut hcut hform).validate_ok.mpr (hc.of_cut hcut)

end AgentSessionSnapshot

end CiaoHost.Protocol
