import CiaoHost.Session.Settled
import CiaoHost.Session.PlanExtended

/-! The plan for a timeline that a plan was just carried out on: each item of the first plan is a row of the
second alignment, and its rows are anchored exactly where the first plan placed them. -/

namespace CiaoHost.Session

open Protocol Lib Lib.Text

def contentOf (entry : TimelineEntry) : TimelineBody × Truncation × String := (entry.body, entry.truncation, entry.state)

def recordContent (record : NormalizedTimelineEntry) : TimelineBody × Truncation × String :=
  (record.body, record.truncation, record.state)

lemma differs_eq (entry : TimelineEntry) (record : NormalizedTimelineEntry) :
    differs entry record = decide (contentOf entry ≠ recordContent record) := by
  rw [differs, contentOf, recordContent, Bool.eq_iff_iff]
  simp only [Bool.or_eq_true, decide_eq_true_eq, ne_eq, Prod.mk.injEq, not_and_or]
  tauto

lemma refreshes_congr {entry entry' : TimelineEntry} (h : contentOf entry = contentOf entry')
    (record : NormalizedTimelineEntry) (mode : ReconcileMode) :
    refreshes entry record mode = refreshes entry' record mode := by
  have hstate : entry.state = entry'.state := congrArg (·.2.2) h
  rw [refreshes, refreshes, differs_eq, differs_eq, h, hstate]

namespace Alignment

variable (a : Alignment)

inductive Role : Planned → Prop
  | restored (n : ℕ) (hlt : n < a.authority.length) (hscope : ¬ a.BeforeScope n) : Role (.new n)
  | early (index : ℕ) (hlt : index < a.held.length) (hfirst : ∀ anchor ∈ a.anchors, index < anchor.1) : Role (heldRow index)
  | kept (g : Gap) (hg : g ∈ a.gaps) (index : ℕ) (hrow : index ∈ gapHeld g)
      (halone : a.isDisplay index = true → a.shownIn (a.gapReplies g) index = false) : Role (heldRow index)
  | anchor (g : Gap) (hg : g ∈ a.gaps) : Role (a.anchorOf g)
  | taken (g : Gap) (hg : g ∈ a.gaps) (index reply : ℕ) (hrow : index ∈ gapHeld g) (hdisplay : a.isDisplay index = true)
      (hlt : reply < a.authority.length) (hscope : ¬ a.BeforeScope reply) : Role (.held index (some reply) true)

variable {a}

variable {n : ℕ} {g : Gap}

lemma in_scope_of_anchor (hg : g ∈ a.gaps) (hle : g.authorityIndex ≤ n) : ¬ a.BeforeScope n := by
  rintro ⟨-, -, first, hfirst, hlt⟩
  have hfrom := (first_le hfirst (a.anchor_of_gap hg)).2
  dsimp only at hfrom
  omega

lemma planOf_role (hg : g ∈ a.gaps) {item : Planned} (h : item ∈ a.planOf g) : a.Role item := by
  obtain ⟨hfst, hsnd⟩ := a.pairs_sublist ((gapHeld g).filter a.isDisplay) ((a.gapNew g).filter a.isReply)
  have hnew : ∀ n ∈ a.gapNew g, n < a.authority.length ∧ ¬ a.BeforeScope n := by
    intro n hn
    obtain ⟨hlow, hhigh, -⟩ := a.mem_newBetween.mp hn
    exact ⟨hhigh.trans_le (a.gaps_bounds hg).2.1.2, in_scope_of_anchor hg (by omega)⟩
  cases a.mergeGap_origin h with
  | restored n hn => exact .restored n (hnew n hn).1 (hnew n hn).2
  | kept index hrow halone => exact .kept g hg index hrow halone
  | taken index reply hrow _ hpair =>
    have hdisplay := hfst.subset (List.mem_map_of_mem (f := Prod.fst) (mem_of_lookup hpair))
    have hreply := hsnd.subset (List.mem_map_of_mem (f := Prod.snd) (mem_of_lookup hpair))
    have hfound := hnew reply (List.mem_filter.mp hreply).1
    exact .taken g hg index reply hrow (List.mem_filter.mp hdisplay).2 hfound.1 hfound.2

variable {plan : List Planned}

theorem planReconcile_role (h : a.planReconcile = some plan) {item : Planned} (hitem : item ∈ plan) : a.Role item := by
  rcases a.mem_plan h hitem with ⟨n, hn, rfl⟩ | ⟨index, hindex, rfl⟩ | ⟨g, hg, hgap⟩
  · rcases a.front_back with hboth | ⟨hnone, -⟩
    · rw [hboth, mem_newBetween] at hn
      refine .restored n (hn.2.1.trans_le a.start_within.2) ?_
      rintro ⟨hturn, hpart, -⟩
      -- a read that does not reach back restores nothing there
      have hmem : n ∈ a.front ++ a.back := hboth ▸ a.mem_newBetween.mpr hn
      rw [front, back, hturn, hpart] at hmem
      simp at hmem
    · rw [hnone] at hn
      cases hn
  · exact .early index (hindex.trans_le a.start_within.1) fun anchor hx => hindex.trans_le (a.start_le hx).1
  · rcases List.mem_cons.mp hgap with rfl | hgap
    · exact .anchor g hg
    · exact planOf_role hg hgap

variable {anchor : ℕ × ℕ}

lemma gap_of_anchor {anchors : List (ℕ × ℕ)} (h : anchor ∈ anchors) :
    ∃ g ∈ a.gapsAfter anchors, g.heldIndex = anchor.1 ∧ g.authorityIndex = anchor.2 := by
  induction anchors with
  | nil => cases h
  | cons first rest ih =>
    rcases List.mem_cons.mp h with rfl | h
    · exact ⟨_, List.mem_cons_self, rfl, rfl⟩
    · obtain ⟨g, hg, hsame⟩ := ih h
      exact ⟨g, List.mem_cons_of_mem _ hg, hsame⟩

lemma gap_next {anchors : List (ℕ × ℕ)} (h : g ∈ a.gapsAfter anchors) :
    (g.heldEnd, g.authorityEnd) ∈ anchors ∨ g.heldEnd = a.held.length ∧ g.authorityEnd = a.authority.length := by
  induction anchors with
  | nil => cases h
  | cons first rest ih =>
    rcases List.mem_cons.mp h with rfl | h
    · cases rest with
      | nil => exact .inr ⟨rfl, rfl⟩
      | cons next rest => exact .inl (List.mem_cons_of_mem _ List.mem_cons_self)
    · exact (ih h).imp_left (List.mem_cons_of_mem _)

lemma anchors_mono {x y : ℕ × ℕ} (hx : x ∈ a.anchors) (hy : y ∈ a.anchors) (hle : x.1 ≤ y.1) : x.2 ≤ y.2 := by
  rcases Nat.eq_or_lt_of_le hle with heq | hlt
  · have hlookup := lookup_anchor a.anchors_increase hx
    rw [heq, lookup_anchor a.anchors_increase hy] at hlookup
    exact (Option.some.inj hlookup).ge
  · exact (lookup_increases a.anchors_increase (lookup_anchor a.anchors_increase hx)
      (lookup_anchor a.anchors_increase hy) hlt).le

lemma anchor_planned (h : a.planReconcile = some plan) (hanchor : anchor ∈ a.anchors) :
    ∃ g ∈ a.gaps, g.heldIndex = anchor.1 ∧ g.authorityIndex = anchor.2 ∧ a.anchorOf g ∈ plan := by
  obtain ⟨g, hg, hheld, hauthority⟩ := gap_of_anchor (a := a) hanchor
  refine ⟨g, hg, hheld, hauthority, ?_⟩
  rw [(a.planReconcile_eq h).1]
  simp only [List.mem_append, List.mem_flatMap]
  exact .inr (.inr (.inr ⟨g, hg, List.mem_cons_self⟩))

variable {index : ℕ}

lemma place_in_scope (h : a.planReconcile = some plan) {item : Planned} (hitem : item ∈ plan)
    (hplace : a.recordPlace item = some n) : n < a.authority.length ∧ ¬ a.BeforeScope n := by
  cases planReconcile_role h hitem with
  | restored m hlt hscope =>
    cases hplace
    exact ⟨hlt, hscope⟩
  | early index hlt hfirst => exact absurd hplace (by simp [heldRow, recordPlace, a.lookup_between fun x hx => (hfirst x hx).ne'])
  | kept g hg index hrow halone => exact absurd hplace (by simp [heldRow, recordPlace, a.lookup_between (a.gap_unanchored hg hrow)])
  | anchor g hg =>
    rw [recordPlace_anchor hg, Option.some.injEq] at hplace
    exact ⟨hplace ▸ a.anchor_authority_lt (a.anchor_of_gap hg), in_scope_of_anchor hg hplace.le⟩
  | taken g hg index reply hrow hdisplay hlt hscope =>
    cases hplace
    exact ⟨hlt, hscope⟩

lemma refreshOf_some {m : ℕ} (h : a.refreshOf index n = some m) : m = n ∧ n < a.authority.length := by
  rw [refreshOf] at h
  split at h
  · next row record hrow hrecord =>
    split at h
    · cases h
      exact ⟨rfl, (List.getElem?_eq_some_iff.mp hrecord).1⟩
    · cases h
  · cases h

lemma planned_record (h : a.planReconcile = some plan) {rekey : Bool}
    (hitem : .held index (some n) rekey ∈ plan) : n < a.authority.length := by
  generalize heq : Planned.held index (some n) rekey = item at hitem
  cases planReconcile_role h hitem with
  | restored | early | kept => cases heq
  | anchor g hg =>
    cases hrefresh : a.refreshOf g.heldIndex g.authorityIndex with
    | none =>
      rw [anchorOf, hrefresh] at heq
      cases heq
    | some m =>
      rw [anchorOf, hrefresh] at heq
      cases heq
      obtain ⟨rfl, hlt⟩ := refreshOf_some hrefresh
      exact hlt
  | taken g hg i reply hrow hdisplay hlt hscope =>
    cases heq
    exact hlt

/-! What one item of the plan leaves on the timeline. -/

variable (a) in
def sourceAfter : Planned → Option String
  | .new n => (a.authority[n]?).map NormalizedTimelineEntry.sourceId
  | .held _ (some n) true => (a.authority[n]?).map NormalizedTimelineEntry.sourceId
  | .held index _ _ => (a.held[index]?).bind HeldEntry.source

variable (a) in
def contentAfter : Planned → Option (TimelineBody × Truncation × String)
  | .new n => (a.authority[n]?).map recordContent
  | .held _ (some n) _ => (a.authority[n]?).map recordContent
  | .held index none _ => (a.held[index]?).map fun row => contentOf row.entry

structure Yields (a : Alignment) (item : Planned) (row : HeldEntry) : Prop where
  source : row.source = a.sourceAfter item
  content : some (contentOf row.entry) = a.contentAfter item
  number : ∀ index refresh rekey, item = .held index refresh rekey → a.mode.after.isSome = true →
    (a.held[index]?).map (·.entry.sequence) = some row.entry.sequence

structure Follows (a : Alignment) (plan : List Planned) (b : Alignment) : Prop where
  authority : b.authority = a.authority
  mode : b.mode = a.mode
  stem : b.liveOnlyPrefix = a.liveOnlyPrefix
  length : b.held.length = plan.length
  rows : ∀ (position : ℕ) (item : Planned) (row : HeldEntry), plan[position]? = some item →
    b.held[position]? = some row → a.Yields item row

/-- The record names no source twice and has every row it shares with the timeline in the timeline's order, and
no display is kept alone before a paired one. -/
structure Alignable (a : Alignment) : Prop where
  sorted : a.held.Pairwise (·.entry.sequence < ·.entry.sequence)
  orderly : ∀ g ∈ a.gaps, a.Orderly g
  distinct : (a.authority.map NormalizedTimelineEntry.sourceId).Nodup
  uncrossed : a.sharedRows.Pairwise Before

lemma mem_sharedRows :
    (index, n) ∈ a.sharedRows ↔ ((a.held[index]?).bind HeldEntry.source).bind a.bySource.lookup = some n := by
  rw [sharedRows, List.mem_filterMap]
  constructor
  · rintro ⟨⟨row, index'⟩, hmem, hshared⟩
    obtain ⟨authority, hlookup, heq⟩ := Option.map_eq_some_iff.mp hshared
    cases heq
    rw [List.mk_mem_zipIdx_iff_getElem?.mp hmem]
    exact hlookup
  · intro hlookup
    obtain ⟨source, hsource, hfound⟩ := Option.bind_eq_some_iff.mp hlookup
    obtain ⟨row, hrow, hrowSource⟩ := Option.bind_eq_some_iff.mp hsource
    refine ⟨(row, index), List.mk_mem_zipIdx_iff_getElem?.mpr hrow, ?_⟩
    rw [Option.map_eq_some_iff]
    exact ⟨n, by rw [hrowSource]; exact hfound, rfl⟩

lemma Alignable.anchors (h : a.Alignable) : a.anchors = a.sharedRows := longestIncreasingChain_of_increasing h.uncrossed

lemma Alignable.lookup (h : a.Alignable) (index : ℕ) :
    a.anchors.lookup index = ((a.held[index]?).bind HeldEntry.source).bind a.bySource.lookup := by
  cases hshared : ((a.held[index]?).bind HeldEntry.source).bind a.bySource.lookup with
  | some n =>
    have hmem : (index, n) ∈ a.anchors := by
      rw [h.anchors]
      exact mem_sharedRows.mpr hshared
    exact lookup_anchor a.anchors_increase hmem
  | none =>
    apply a.lookup_between
    rintro ⟨i, n⟩ hmem rfl
    rw [h.anchors, mem_sharedRows, hshared] at hmem
    cases hmem

lemma Alignable.place (h : a.Alignable) (hplan : a.planReconcile = some plan) {item : Planned} (hitem : item ∈ plan) :
    (a.sourceAfter item).bind a.bySource.lookup = a.recordPlace item := by
  have hrecord : ∀ n, n < a.authority.length →
      ((a.authority[n]?).map NormalizedTimelineEntry.sourceId).bind a.bySource.lookup = some n := by
    intro n hlt
    rw [List.getElem?_eq_getElem hlt]
    exact bySource_lookup h.distinct (List.getElem?_eq_getElem hlt)
  cases planReconcile_role hplan hitem with
  | restored n hlt hscope => exact hrecord n hlt
  | early index hlt hfirst | kept g hg index hrow halone => exact (h.lookup index).symm
  | anchor g hg =>
    have hlookup := (h.lookup g.heldIndex).symm
    rw [anchorOf]
    cases a.refreshOf g.heldIndex g.authorityIndex <;> exact hlookup
  | taken g hg index reply hrow hdisplay hlt hscope => exact hrecord reply hlt

variable (a) in
def placed (plan : List Planned) : List (ℕ × ℕ) :=
  plan.zipIdx.filterMap fun (item, position) => (a.recordPlace item).map fun n => (position, n)

variable {position : ℕ}

lemma mem_placed :
    (position, n) ∈ a.placed plan ↔ ∃ item, plan[position]? = some item ∧ a.recordPlace item = some n := by
  rw [placed, List.mem_filterMap]
  constructor
  · rintro ⟨⟨item, position'⟩, hmem, hplace⟩
    obtain ⟨m, hm, heq⟩ := Option.map_eq_some_iff.mp hplace
    cases heq
    exact ⟨item, List.mk_mem_zipIdx_iff_getElem?.mp hmem, hm⟩
  · rintro ⟨item, hitem, hplace⟩
    refine ⟨(item, position), List.mk_mem_zipIdx_iff_getElem?.mpr hitem, ?_⟩
    rw [Option.map_eq_some_iff]
    exact ⟨n, hplace, rfl⟩

lemma filterMap_zipIdx {α : Type} (place : α → Option ℕ) (l : List α) :
    l.zipIdx.filterMap (fun (x, position) => (place x).map fun n => (position, n)) =
      (l.map place).zipIdx.filterMap fun (found, position) => found.map fun n => (position, n) := by
  rw [List.zipIdx_map, List.filterMap_map]
  rfl

variable {b : Alignment}

section

variable (hf : a.Follows plan b)

include hf

lemma Follows.bySource : b.bySource = a.bySource := by
  rw [Alignment.bySource, hf.authority, Alignment.bySource]

lemma Follows.row {item : Planned} (h : plan[position]? = some item) :
    ∃ row, b.held[position]? = some row ∧ a.Yields item row := by
  have hlt : position < b.held.length := hf.length ▸ (List.getElem?_eq_some_iff.mp h).1
  exact ⟨b.held[position], List.getElem?_eq_getElem hlt, hf.rows position item _ h (List.getElem?_eq_getElem hlt)⟩

lemma Follows.item (h : position < b.held.length) :
    ∃ item row, plan[position]? = some item ∧ item ∈ plan ∧ b.held[position]? = some row ∧ a.Yields item row := by
  have hget := List.getElem?_eq_getElem (hf.length ▸ h)
  obtain ⟨row, hrow, hyields⟩ := hf.row hget
  exact ⟨_, row, hget, List.getElem_mem _, hrow, hyields⟩

theorem Follows.sharedRows (h : a.Alignable) (hplan : a.planReconcile = some plan) :
    b.sharedRows = a.placed plan := by
  have hpoints : b.held.map (fun row => row.source.bind b.bySource.lookup) = plan.map a.recordPlace := by
    apply List.ext_getElem?
    intro position
    rw [List.getElem?_map, List.getElem?_map]
    cases hitem : plan[position]? with
    | none =>
      rw [List.getElem?_eq_none (hf.length ▸ List.getElem?_eq_none_iff.mp hitem)]
      rfl
    | some item =>
      obtain ⟨row, hrow, hyields⟩ := hf.row hitem
      rw [hrow, Option.map_some, Option.map_some, hyields.source, hf.bySource,
        h.place hplan (List.mem_of_getElem? hitem)]
  rw [placed, filterMap_zipIdx, ← hpoints]
  exact filterMap_zipIdx (fun row => row.source.bind b.bySource.lookup) b.held

theorem Follows.anchors (h : a.Alignable) (hplan : a.planReconcile = some plan) :
    b.anchors = a.placed plan := by
  rw [Alignment.anchors, hf.sharedRows h hplan]
  apply longestIncreasingChain_of_increasing
  have hplaces := a.recordPlaces_sorted h.sorted h.orderly hplan
  rw [List.pairwise_filterMap] at hplaces
  rw [placed, List.pairwise_filterMap]
  have hitems : plan.zipIdx.Pairwise fun x y => x.2 < y.2 := by
    have hpositions : (plan.zipIdx.map Prod.snd).Pairwise (· < ·) := by
      rw [List.zipIdx_map_snd]
      exact List.pairwise_lt_range'
    exact List.pairwise_map.mp hpositions
  have hrecord : plan.zipIdx.Pairwise fun x y => ∀ m, a.recordPlace x.1 = some m → ∀ n, a.recordPlace y.1 = some n → m < n := by
    rw [← List.zipIdx_map_fst 0 plan, List.pairwise_map] at hplaces
    exact hplaces
  refine hitems.imp₂ (fun x y hposition hplace p hp q hq => ?_) hrecord
  obtain ⟨m, hm, rfl⟩ := Option.map_eq_some_iff.mp hp
  obtain ⟨n, hn, rfl⟩ := Option.map_eq_some_iff.mp hq
  exact ⟨hposition, hplace m hm n hn⟩

end

lemma position_lt (hplan : a.planReconcile = some plan) {p q i j : ℕ} {x y : Planned} (hx : plan[p]? = some x)
    (hy : plan[q]? = some y) (hi : heldIndex x = some i) (hj : heldIndex y = some j) (hlt : i < j) : p < q := by
  have hsorted := (a.planReconcile_sorted hplan).1
  rw [heldIndices, List.pairwise_filterMap] at hsorted
  obtain ⟨hp, rfl⟩ := List.getElem?_eq_some_iff.mp hx
  obtain ⟨hq, rfl⟩ := List.getElem?_eq_some_iff.mp hy
  rcases Nat.lt_trichotomy p q with hpq | rfl | hqp
  · exact hpq
  · rw [hi, Option.some.injEq] at hj
    omega
  · have hle := List.pairwise_iff_getElem.mp hsorted q p hq hp hqp j hj i hi
    omega

lemma position_eq (hplan : a.planReconcile = some plan) {p q i : ℕ} {x y : Planned} (hx : plan[p]? = some x)
    (hy : plan[q]? = some y) (hi : heldIndex x = some i) (hj : heldIndex y = some i) : p = q := by
  have hsorted := (a.planReconcile_sorted hplan).1
  rw [heldIndices, List.pairwise_filterMap] at hsorted
  obtain ⟨hp, rfl⟩ := List.getElem?_eq_some_iff.mp hx
  obtain ⟨hq, rfl⟩ := List.getElem?_eq_some_iff.mp hy
  rcases Nat.lt_trichotomy p q with hlt | heq | hlt
  · exact absurd (List.pairwise_iff_getElem.mp hsorted p q hp hq hlt i hi i hj) (lt_irrefl _)
  · exact heq
  · exact absurd (List.pairwise_iff_getElem.mp hsorted q p hq hp hlt i hj i hi) (lt_irrefl _)

lemma early_position (hturn : a.mode.isTurn = true) (hplan : a.planReconcile = some plan) {p : ℕ}
    (hp : plan[p]? = some (heldRow index)) (hearly : ∀ anchor ∈ a.anchors, index < anchor.1) {q : ℕ} {item : Planned}
    (hq : plan[q]? = some item) (hplace : a.recordPlace item = some n) : p < q := by
  obtain ⟨heq, hanchored⟩ := a.planReconcile_eq hplan
  have hbefore : index < a.start.1 := hearly _ (List.mem_of_head? (a.head_start (hanchored hturn)))
  have hlength : (heldBetween 0 a.start.1).length = a.start.1 := by simp [heldBetween]
  rw [heq, front, if_pos hturn, List.map_nil, List.nil_append] at hp hq
  have hin : p < a.start.1 := by
    by_contra hge
    rw [List.getElem?_append_right (by omega)] at hp
    have hmem : index ∈ heldIndices (a.back.map Planned.new ++ a.gaps.flatMap fun g => a.anchorOf g :: a.planOf g) :=
      List.mem_filterMap.mpr ⟨_, List.mem_of_getElem? hp, rfl⟩
    rw [heldIndices_append, heldIndices_map_new, List.nil_append, heldIndices, List.filterMap_flatMap] at hmem
    have hrow := (List.Sublist.flatMap_right a.gaps fun g _ => (a.mergeGap_sublist ..).cons_cons g.heldIndex).subset hmem
    rw [a.gaps_held, List.mem_range'_1] at hrow
    omega
  have hout : a.start.1 ≤ q := by
    by_contra hlt
    -- what stands before the first anchor has no place in the record
    rw [List.getElem?_append_left (by omega), heldBetween, List.getElem?_map] at hq
    obtain ⟨index', hindex', rfl⟩ := Option.map_eq_some_iff.mp hq
    have hmem := List.mem_of_getElem? hindex'
    rw [List.mem_range'_1] at hmem
    have hnone : a.anchors.lookup index' = none := a.lookup_between fun anchor hx heq => by
      have hfrom := (a.start_le hx).1
      omega
    exact absurd hplace (by simp [heldRow, recordPlace, hnone])
  omega

section

variable (hf : a.Follows plan b) (hitem : plan[position]? = some (heldRow index))

include hf hitem

lemma Follows.isDisplay (hdisplay : b.isDisplay position = true) : a.isDisplay index = true := by
  obtain ⟨row, hrow, hyields⟩ := hf.row hitem
  rw [Alignment.isDisplay, hf.mode, hf.stem, hrow] at hdisplay
  rw [Alignment.isDisplay]
  simp only [Bool.and_eq_true, Bool.not_eq_true', Option.bind_some] at hdisplay ⊢
  obtain ⟨⟨hturn, hbefore⟩, hstem⟩ := hdisplay
  refine ⟨⟨hturn, ?_⟩, ?_⟩
  · cases hafter : a.afterTurn index with
    | false => rfl
    | true =>
      obtain ⟨mark, hmark, hin⟩ := (Option.any_eq_true _ _).mp hafter
      obtain ⟨old, hold, hle⟩ := (Option.any_eq_true _ _).mp hin
      have hnumber := hyields.number index none false rfl (by rw [hmark]; rfl)
      rw [hold, Option.map_some, Option.some.injEq] at hnumber
      rw [Alignment.afterTurn, hf.mode, hmark, hrow] at hbefore
      simp only [Option.any_some, ← hnumber, hle] at hbefore
      cases hbefore
  · have hsource : row.source = (a.held[index]?).bind HeldEntry.source := hyields.source
    rw [← hsource]
    exact hstem

lemma Follows.heldText :
    b.heldText position = a.heldText index := by
  obtain ⟨row, hrow, hyields⟩ := hf.row hitem
  have hcontent : some (contentOf row.entry) = (a.held[index]?).map fun row => contentOf row.entry := hyields.content
  obtain ⟨old, hold, hsame⟩ := Option.map_eq_some_iff.mp hcontent.symm
  have hbody : old.entry.body = row.entry.body := congrArg Prod.fst hsame
  rw [Alignment.heldText, Alignment.heldText, hrow, hold, Option.bind_some, Option.bind_some, hbody]

end

section Second

variable (hf : a.Follows plan b) (h : a.Alignable) (hplan : a.planReconcile = some plan)

include hf h hplan

lemma Follows.anchor_iff :
    (position, n) ∈ b.anchors ↔ ∃ item, plan[position]? = some item ∧ a.recordPlace item = some n := by
  rw [hf.anchors h hplan]
  exact mem_placed

lemma Follows.anchored (hmem : a.anchors ≠ []) : b.anchors ≠ [] := by
  obtain ⟨anchor, hanchor⟩ := List.exists_mem_of_ne_nil _ hmem
  obtain ⟨g, hg, -, -, hitem⟩ := anchor_planned hplan hanchor
  obtain ⟨position, hposition⟩ := List.mem_iff_getElem?.mp hitem
  have hplaced := (hf.anchor_iff h hplan).mpr ⟨_, hposition, recordPlace_anchor hg⟩
  exact List.ne_nil_of_mem hplaced

lemma Follows.taken (hlt : index < a.authority.length) (hnew : b.isNew index = true) : b.BeforeScope index := by
  have hunplaced : ∀ item ∈ plan, a.recordPlace item ≠ some index := by
    intro item hitem hplace
    obtain ⟨position, hposition⟩ := List.mem_iff_getElem?.mp hitem
    have hplaced : (position, index) ∈ b.sharedRows := by
      rw [hf.sharedRows h hplan]
      exact mem_placed.mpr ⟨item, hposition, hplace⟩
    rw [isNew, decide_eq_true_eq] at hnew
    exact hnew (List.mem_map_of_mem (f := Prod.snd) hplaced)
  cases hold : a.isNew index with
  | false =>
    rw [isNew, decide_eq_false_iff_not, not_not] at hold
    obtain ⟨anchor, hanchor, rfl⟩ := List.mem_map.mp hold
    rw [← h.anchors] at hanchor
    obtain ⟨g, hg, -, hauthority, hitem⟩ := anchor_planned hplan hanchor
    exact absurd (hauthority ▸ recordPlace_anchor hg) (hunplaced _ hitem)
  | true =>
    obtain ⟨start, htaken, hbefore⟩ := a.recordIndices_eq h.sorted h.orderly hplan
    have hstart : index < start := by
      by_contra hle
      have hmem : index ∈ plan.filterMap recordIndex := by
        rw [htaken]
        exact a.mem_newBetween.mpr ⟨not_lt.mp hle, hlt, hold⟩
      obtain ⟨item, hitem, hindex⟩ := List.mem_filterMap.mp hmem
      exact hunplaced item hitem (a.recordPlace_of_recordIndex hindex)
    obtain ⟨hturn, hpart, first, hfirst, hless⟩ := hbefore index hstart
    obtain ⟨second, hsecond⟩ : ∃ second, b.anchors.head? = some second := by
      have hne := hf.anchored h hplan (List.ne_nil_of_mem (List.mem_of_head? hfirst))
      exact ⟨_, List.head?_eq_some_head hne⟩
    refine ⟨hf.mode ▸ hturn, hf.mode ▸ hpart, second, hsecond, ?_⟩
    obtain ⟨item, hitem, hplace⟩ := (hf.anchor_iff h hplan).mp (List.mem_of_head? hsecond)
    have hscope := (place_in_scope hplan (List.mem_of_getElem? hitem) hplace).2
    by_contra hle
    exact hscope ⟨hturn, hpart, first, hfirst, (not_lt.mp hle).trans_lt hless⟩

lemma Follows.current (hanchor : anchor ∈ b.anchors) : b.refreshOf anchor.1 anchor.2 = none := by
  obtain ⟨position, n⟩ := anchor
  obtain ⟨item, hitem, hplace⟩ := (hf.anchor_iff h hplan).mp hanchor
  obtain ⟨row, hrow, hyields⟩ := hf.row hitem
  have hmem := List.mem_of_getElem? hitem
  obtain ⟨record, hrecord⟩ : ∃ record, a.authority[n]? = some record :=
    ⟨_, List.getElem?_eq_getElem (place_in_scope hplan hmem hplace).1⟩
  have hsame : some (contentOf row.entry) = some (recordContent record) → refreshes row.entry record b.mode = false := by
    intro heq
    rw [refreshes, differs_eq, Option.some.inj heq]
    simp
  have hcurrent : refreshes row.entry record b.mode = false := by
    have hcontent := hyields.content
    cases planReconcile_role hplan hmem with
    | restored m hlt hscope =>
      cases hplace
      rw [contentAfter, hrecord] at hcontent
      exact hsame hcontent
    | early index hlt hfirst =>
      exact absurd hplace (by simp [heldRow, recordPlace, a.lookup_between fun x hx => (hfirst x hx).ne'])
    | kept g hg index hrow halone =>
      exact absurd hplace (by simp [heldRow, recordPlace, a.lookup_between (a.gap_unanchored hg hrow)])
    | anchor g hg =>
      rw [recordPlace_anchor hg, Option.some.injEq] at hplace
      subst hplace
      have hold := List.getElem?_eq_getElem (a.anchors_lt (a.anchor_of_gap hg))
      rw [anchorOf] at hcontent
      rw [refreshOf, hold, hrecord] at hcontent
      dsimp only at hcontent
      split at hcontent
      · rw [contentAfter, hrecord] at hcontent
        exact hsame hcontent
      · next hkept =>
        rw [contentAfter, hold] at hcontent
        rw [hf.mode, refreshes_congr (Option.some.inj hcontent)]
        simpa using hkept
    | taken g hg index reply hrow hdisplay hlt hscope =>
      cases hplace
      rw [contentAfter, hrecord] at hcontent
      exact hsame hcontent
  rw [refreshOf, hrow, hf.authority, hrecord]
  dsimp only
  rw [hcurrent]
  simp

lemma Follows.gap_within {g' : Gap} (hg : g ∈ a.gaps) (hg' : g' ∈ b.gaps)
    (hposition : position ∈ gapHeld g') (hindex : index ∈ gapHeld g) (hitem : plan[position]? = some (heldRow index)) :
    g.authorityIndex ≤ g'.authorityIndex ∧ g'.authorityEnd ≤ g.authorityEnd := by
  obtain ⟨hends, hauthority, hapart⟩ := b.gaps_bounds hg'
  rw [gapHeld, List.mem_range'_1] at hposition hindex
  have hanchored : ∀ anchor ∈ a.anchors, ∃ q item, plan[q]? = some item ∧ heldIndex item = some anchor.1 ∧
      (q, anchor.2) ∈ b.anchors := by
    intro anchor hanchor
    obtain ⟨g₀, hg₀, hheld, hplace, hmem⟩ := anchor_planned hplan hanchor
    obtain ⟨q, hq⟩ := List.mem_iff_getElem?.mp hmem
    refine ⟨q, _, hq, by rw [← hheld]; rfl, (hf.anchor_iff h hplan).mpr ⟨_, hq, ?_⟩⟩
    rw [recordPlace_anchor hg₀, hplace]
  constructor
  · obtain ⟨q, item, hq, hheld, hmem⟩ := hanchored _ (a.anchor_of_gap hg)
    have hlt := position_lt hplan hq hitem hheld rfl (by omega)
    refine anchors_mono hmem (b.anchor_of_gap hg') ?_
    rcases hapart _ hmem with hle | hle
    · exact hle
    · dsimp only at hle
      omega
  · rcases gap_next hg with hnext | ⟨-, hlast⟩
    · obtain ⟨q, item, hq, hheld, hmem⟩ := hanchored _ hnext
      have hlt := position_lt hplan hitem hq rfl hheld (by omega)
      have hbeyond : g'.heldEnd ≤ q := by
        rcases hapart _ hmem with hle | hle
        · dsimp only at hle
          omega
        · exact hle
      rcases gap_next hg' with hnext' | ⟨hlast', -⟩
      · exact anchors_mono hnext' hmem hbeyond
      · have hinside := b.anchors_lt hmem
        dsimp only at hinside
        omega
    · rw [hlast, ← hf.authority]
      exact hauthority.2

lemma Follows.shown (hg : g ∈ b.gaps) (hposition : position ∈ gapHeld g)
    (hdisplay : b.isDisplay position = true) : b.shownIn (b.gapReplies g) position = false := by
  have hends := (b.gaps_bounds hg).1
  have hturn : a.mode.isTurn = true := by
    rw [Alignment.isDisplay, hf.mode] at hdisplay
    simp only [Bool.and_eq_true] at hdisplay
    exact hdisplay.1.1
  have hlt : position < b.held.length := by
    rw [gapHeld, List.mem_range'_1] at hposition
    omega
  obtain ⟨item, row, hitem, hmem, hrow, hyields⟩ := hf.item hlt
  have hunplaced : ∀ n, a.recordPlace item ≠ some n := fun n hplace =>
    b.gap_unanchored hg hposition _ ((hf.anchor_iff h hplan).mpr ⟨item, hitem, hplace⟩) rfl
  cases planReconcile_role hplan hmem with
  | restored n _ _ => exact absurd rfl (hunplaced n)
  | anchor g₀ hg₀ => exact absurd (recordPlace_anchor hg₀) (hunplaced _)
  | taken _ _ _ reply _ _ _ _ => exact absurd rfl (hunplaced reply)
  | early index _ hfirst =>
    obtain ⟨other, hother, hplace⟩ := (hf.anchor_iff h hplan).mp (b.anchor_of_gap hg)
    have hbefore := early_position hturn hplan hitem hfirst hother hplace
    rw [gapHeld, List.mem_range'_1] at hposition
    omega
  | kept g₀ hg₀ index hindex halone =>
    have halone := halone (hf.isDisplay hitem hdisplay)
    obtain ⟨hfrom, hto⟩ := hf.gap_within h hplan hg₀ hg hposition hindex hitem
    cases hshown : b.shownIn (b.gapReplies g) position with
    | false => rfl
    | true =>
      -- the reply it shows is one of the first gap too
      rw [shownIn, hf.heldText hitem] at hshown
      obtain ⟨shown, htext, hin⟩ := (Option.any_eq_true _ _).mp hshown
      obtain ⟨reply, hlow, hhigh, hreply, whole, hwhole, heq⟩ := b.mem_gapReplies (of_decide_eq_true hin)
      rw [isReply, hf.authority] at hreply
      rw [recordText, hf.authority] at hwhole
      have hgap : trim shown ∈ a.gapReplies g₀ := by
        rw [gapReplies, List.mem_filterMap]
        refine ⟨reply, List.mem_filter.mpr ⟨?_, hreply⟩, ?_⟩
        · rw [List.mem_range'_1]
          omega
        · rw [recordText, hwhole, Option.map_some, heq]
      rw [shownIn, htext, Option.any_some, decide_eq_false_iff_not] at halone
      exact absurd hgap halone

theorem Follows.settled : b.Settled where
  taken := fun index hlt hnew => hf.taken h hplan (hf.authority ▸ hlt) hnew
  current := fun _ hanchor => hf.current h hplan hanchor
  shown := fun _ hg _ hposition hdisplay => hf.shown h hplan hg hposition hdisplay
  anchored := by
    intro hturn
    exact hf.anchored h hplan ((a.planReconcile_eq hplan).2 (hf.mode ▸ hturn))

end Second

end Alignment

end CiaoHost.Session
