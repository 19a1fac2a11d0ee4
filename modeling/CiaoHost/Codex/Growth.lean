import CiaoHost.Codex.Items

/-! Reading a thread again after it has grown. -/

namespace CiaoHost.Codex

open Session

variable {keyedDigest : String → String → String → String} {liveRunId turnId : String} {timestamp : ℕ}

lemma prefix_mapItems (entries : List NormalizedTimelineEntry) (items : List ThreadItem) :
    entries <+: mapItems keyedDigest turnId timestamp entries items := by
  induction items generalizing entries with
  | nil => exact List.prefix_rfl
  | cons item rest ih =>
    rw [mapItems]
    split
    · exact (List.prefix_append _ _).trans (ih _)
    · exact ih _

lemma mapItems_grown (entries : List NormalizedTimelineEntry) (items more : List ThreadItem) :
    mapItems keyedDigest turnId timestamp entries items <+:
      mapItems keyedDigest turnId timestamp entries (items ++ more) := by
  induction items generalizing entries with
  | nil => exact prefix_mapItems entries more
  | cons item rest ih =>
    -- a row's id holds its place in the record, which what is appended behind it leaves alone
    rw [List.cons_append, mapItems, mapItems]
    split
    · exact ih _
    · exact ih _

lemma prefix_mapTurns (entries : List NormalizedTimelineEntry) (prompt : Option String) (turns : List ThreadTurn) :
    entries <+: (mapTurns keyedDigest liveRunId (entries, prompt) turns).1 := by
  induction turns generalizing entries prompt with
  | nil => exact List.prefix_rfl
  | cons turn rest ih =>
    rw [mapTurns]
    split
    · exact ih _ _
    · exact (prefix_mapItems _ _).trans (ih _ _)

variable (keyedDigest liveRunId) (turns : List ThreadTurn) (turn : ThreadTurn) (items : List ThreadItem)
  (more : List ThreadTurn)

lemma mapTurns_grown (entries : List NormalizedTimelineEntry) (prompt : Option String) :
    (mapTurns keyedDigest liveRunId (entries, prompt) (turns ++ [turn])).1 <+:
      (mapTurns keyedDigest liveRunId (entries, prompt)
        (turns ++ { turn with items := turn.items ++ items } :: more)).1 := by
  induction turns generalizing entries prompt with
  | nil =>
    simp only [List.nil_append, mapTurns]
    split
    · exact prefix_mapTurns _ _ more
    · exact (mapItems_grown _ _ items).trans (prefix_mapTurns _ _ more)
  | cons first rest ih =>
    rw [List.cons_append, List.cons_append, mapTurns, mapTurns]
    split
    · exact ih _ _
    · exact ih _ _

/-- A second read is the first followed by the rows of what was appended since, cut to the newest. -/
theorem grown_record_keeps_rows :
    let grown := turns ++ { turn with items := turn.items ++ items } :: more
    let rows := fun turns => (mapTurns keyedDigest liveRunId ([], none) turns).1
    let read := fun turns => (mapThreadHistory keyedDigest (some turns) liveRunId).entries
    let shown := read (turns ++ [turn]) ++ (rows grown).drop (rows (turns ++ [turn])).length
    rows (turns ++ [turn]) <+: rows grown ∧ read grown = shown.drop (shown.length - maxHistoryEntries) := by
  have hnewest : ∀ turns, (mapThreadHistory keyedDigest (some turns) liveRunId).entries =
      (mapTurns keyedDigest liveRunId ([], none) turns).1.drop
        ((mapTurns keyedDigest liveRunId ([], none) turns).1.length - maxHistoryEntries) := by
    intro turns
    rw [mapThreadHistory, Option.getD_some]
    generalize mapTurns keyedDigest liveRunId ([], none) turns = mapped
    generalize maxHistoryEntries = bound
    dsimp only
    split
    · rfl
    · next hfew => rw [Nat.sub_eq_zero_of_le (not_lt.mp hfew), List.drop_zero]
  have hgrown := mapTurns_grown keyedDigest liveRunId turns turn items more [] none
  refine ⟨hgrown, ?_⟩
  obtain ⟨later, hlater⟩ := hgrown
  simp only [hnewest, ← hlater, List.drop_left]
  generalize (mapTurns keyedDigest liveRunId ([], none) (turns ++ [turn])).1 = whole
  generalize maxHistoryEntries = bound
  rw [← List.drop_append_of_le_length (Nat.sub_le _ _), List.drop_drop]
  congr 1
  simp only [List.length_drop, List.length_append]
  omega

end CiaoHost.Codex
