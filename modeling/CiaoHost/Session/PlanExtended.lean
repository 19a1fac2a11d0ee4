import CiaoHost.Session.ReconcileNumbering
import CiaoHost.Session.LongestChain

/-! A read that begins with the rows already held, each under its own source: the plan keeps every
held row and adds the rest of the read at the end. -/

namespace CiaoHost.Session

open Protocol Lib Lib.Text

/-! The chain of matches is its own longest increasing chain. -/

def diagonal (first count : ℕ) : List (ℕ × ℕ) := (List.range' first count).map fun k => (k, k)

lemma diagonal_get {n k : ℕ} (hk : k < n) : (diagonal 0 n)[k]? = some (k, k) := by
  rw [diagonal, List.getElem?_map, List.getElem?_range' hk]
  simp

lemma longestIncreasingChain_diagonal (n : ℕ) : longestIncreasingChain (diagonal 0 n) = diagonal 0 n := by
  apply longestIncreasingChain_of_increasing
  rw [diagonal, List.pairwise_map]
  exact List.Pairwise.imp (fun hlt => ⟨hlt, hlt⟩) List.pairwise_lt_range'

/-! The plan. -/

structure Alignment.Extends (a : Alignment) (sources : List String) : Prop where
  held : a.held.map HeldEntry.source = sources.map some
  fits : sources <+: a.authority.map NormalizedTimelineEntry.sourceId
  distinct : (a.authority.map NormalizedTimelineEntry.sourceId).Nodup
  mode : a.mode.isTurn = false

namespace Alignment

variable {a : Alignment} {sources : List String}

lemma bySource_lookup (hdistinct : (a.authority.map NormalizedTimelineEntry.sourceId).Nodup) {k : ℕ}
    {entry : NormalizedTimelineEntry} (hk : a.authority[k]? = some entry) : a.bySource.lookup entry.sourceId = some k := by
  rw [bySource]
  have hmem : (entry, k) ∈ a.authority.zipIdx := List.mem_zipIdx_iff_getElem?.mpr hk
  refine @KeyedMap.lookup_foldl_insert _ _ _ _ (fun x => x.1.sourceId) (fun x => x.2) _ _ hmem ?_ ∅
  -- no other place has the source
  rintro ⟨entry', k'⟩ hmem' hsource
  rw [List.mem_zipIdx_iff_getElem?] at hmem'
  have hlt : k' < (a.authority.map NormalizedTimelineEntry.sourceId).length := by
    simpa using (List.getElem?_eq_some_iff.mp hmem').1
  apply (List.getElem?_inj hlt hdistinct).mp
  dsimp only at hmem' hsource
  simp only [List.getElem?_map, hmem', hk, Option.map_some, hsource]

section

variable (h : a.Extends sources)

include h

lemma Extends.length : a.held.length = sources.length := by
  have hlength := congrArg List.length h.held
  simpa using hlength

lemma Extends.sharedRows : a.sharedRows = diagonal 0 sources.length := by
  have hone : a.sharedRows = a.held.zipIdx.filterMap fun x => some (x.2, x.2) := by
    refine List.filterMap_congr ?_
    rintro ⟨row, k⟩ hx
    rw [List.mem_zipIdx_iff_getElem?] at hx
    have hsource := congrArg (·[k]?) h.held
    simp only [List.getElem?_map, hx, Option.map_some] at hsource
    obtain ⟨source, hk, hrow⟩ := Option.map_eq_some_iff.mp hsource.symm
    have hauthority : (a.authority.map NormalizedTimelineEntry.sourceId)[k]? = some source := by
      rw [← hk]
      exact (List.prefix_iff_getElem?.mp h.fits k (List.getElem?_eq_some_iff.mp hk).1).trans
        (List.getElem?_eq_getElem (List.getElem?_eq_some_iff.mp hk).1).symm
    rw [List.getElem?_map] at hauthority
    obtain ⟨entry, hentry, rfl⟩ := Option.map_eq_some_iff.mp hauthority
    dsimp only
    rw [← hrow, Option.bind_some, bySource_lookup h.distinct hentry]
    rfl
  have hmap : a.held.zipIdx.filterMap (fun x => some (x.2, x.2)) = a.held.zipIdx.map fun x => (x.2, x.2) :=
    congrFun List.filterMap_eq_map _
  rw [hone, hmap]
  apply List.ext_getElem?
  intro k
  rw [List.getElem?_map, List.getElem?_zipIdx]
  by_cases hk : k < sources.length
  · have hk' : k < a.held.length := by rw [h.length]; exact hk
    rw [diagonal_get hk, List.getElem?_eq_getElem hk']
    simp
  · have hk' : a.held[k]? = none := List.getElem?_eq_none (by rw [h.length]; omega)
    have hout : (diagonal 0 sources.length)[k]? = none := List.getElem?_eq_none (by simp [diagonal]; omega)
    rw [hk', hout]
    rfl

lemma Extends.isNew (k : ℕ) : a.isNew k = decide (sources.length ≤ k) := by
  rw [Alignment.isNew, h.sharedRows, Bool.eq_iff_iff]
  simp [diagonal]

lemma Extends.newBetween_none {first last : ℕ} (hlast : last ≤ sources.length) :
    a.newBetween first last = [] := by
  rw [Alignment.newBetween, List.filter_eq_nil_iff]
  intro k hk
  rw [h.isNew, decide_eq_true_eq]
  rw [List.mem_range'_1] at hk
  omega

lemma Extends.newBetween_all {first last : ℕ} (hfirst : sources.length ≤ first) :
    a.newBetween first last = List.range' first (last - first) := by
  rw [Alignment.newBetween, List.filter_eq_self]
  intro k hk
  rw [h.isNew, decide_eq_true_eq]
  rw [List.mem_range'_1] at hk
  omega

lemma Extends.planAnchors (k count : ℕ) (hk : k + (count + 1) = sources.length) :
    a.planAnchors (diagonal k (count + 1)) =
      (List.range' k (count + 1)).map (fun i => Planned.held i (a.refreshOf i i) false) ++
        (List.range' sources.length (a.authority.length - sources.length)).map .new := by
  induction count generalizing k with
  | zero =>
    have hone : diagonal k 1 = [(k, k)] := rfl
    have hlength := h.length
    rw [hone, Alignment.planAnchors]
    simp only [List.head?_nil, Option.getD_none, Alignment.planAnchors, List.append_nil]
    rw [planGap, h.newBetween_all (by omega)]
    have hgap : List.range' (k + 1) (a.held.length - (k + 1)) = [] := by
      rw [hlength, ← hk]
      simp
    rw [hgap]
    simp only [mergeGap]
    rw [← hk]
    rfl
  | succ count ih =>
    have hcons : diagonal k (count + 1 + 1) = (k, k) :: diagonal (k + 1) (count + 1) := rfl
    have hhead : (diagonal (k + 1) (count + 1)).head? = some (k + 1, k + 1) := rfl
    rw [hcons, Alignment.planAnchors, hhead, ih (k + 1) (by omega)]
    simp only [Option.getD_some]
    rw [planGap, h.newBetween_none (by omega)]
    simp only [Nat.sub_self, List.range'_zero, List.filter_nil, mergeGap, List.map_nil]
    rfl

theorem Extends.planReconcile :
    a.planReconcile = some ((List.range sources.length).map (fun i => Planned.held i (a.refreshOf i i) false) ++
      (List.range' sources.length (a.authority.length - sources.length)).map .new) := by
  rw [Alignment.planReconcile, h.sharedRows, longestIncreasingChain_diagonal]
  cases hn : sources.length with
  | zero =>
    have hheld : a.held.length = 0 := h.length.trans hn
    rw [show diagonal 0 0 = [] from rfl]
    dsimp only
    rw [h.mode, hheld, h.newBetween_all (by omega), heldBetween]
    simp
  | succ n =>
    have hcons : diagonal 0 (n + 1) = (0, 0) :: diagonal 1 n := rfl
    have hanchors := h.planAnchors 0 n (by omega)
    rw [hcons]
    dsimp only
    rw [← hcons, hanchors, planStart, h.mode, h.newBetween_none (by omega), heldBetween]
    simp [List.range_eq_range', hn]

end

end Alignment

end CiaoHost.Session
