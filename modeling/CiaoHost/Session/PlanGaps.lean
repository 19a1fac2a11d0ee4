import CiaoHost.Session.PlanOrder

/-! The gaps of a reconcile plan: a plan is the rows before the first anchor and then every anchor
with the gap that follows it. -/

namespace CiaoHost.Session

open Protocol Lib Lib.Text

structure Gap where
  heldIndex : ℕ
  authorityIndex : ℕ
  heldEnd : ℕ
  authorityEnd : ℕ
  deriving DecidableEq, Repr

namespace Alignment

variable (a : Alignment)

def anchors : List (ℕ × ℕ) := longestIncreasingChain a.sharedRows

def gapsAfter : List (ℕ × ℕ) → List Gap
  | [] => []
  | anchor :: rest =>
    let next := rest.head?.getD (a.held.length, a.authority.length)
    ⟨anchor.1, anchor.2, next.1, next.2⟩ :: gapsAfter rest

def gaps : List Gap := a.gapsAfter a.anchors

def gapHeld (g : Gap) : List ℕ := List.range' (g.heldIndex + 1) (g.heldEnd - (g.heldIndex + 1))

def gapNew (g : Gap) : List ℕ := a.newBetween (g.authorityIndex + 1) g.authorityEnd

def gapPairs (g : Gap) : List (ℕ × ℕ) :=
  a.pairDisplaysWithReplies ((gapHeld g).filter a.isDisplay) ((a.gapNew g).filter a.isReply)

def gapReplies (g : Gap) : List (List Char) :=
  ((List.range' g.authorityIndex (g.authorityEnd - g.authorityIndex)).filter a.isReply).filterMap fun index =>
    (a.recordText index).map trim

lemma range'_split {i j k : ℕ} (hij : i ≤ j) (hjk : j ≤ k) :
    List.range' i (j - i) ++ List.range' j (k - j) = List.range' i (k - i) := by
  have happend := List.range'_append_1 (s := i) (m := j - i) (n := k - j)
  rwa [show i + (j - i) = j by omega, show j - i + (k - j) = k - i by omega] at happend

lemma range'_from {i j : ℕ} (h : i < j) : i :: List.range' (i + 1) (j - (i + 1)) = List.range' i (j - i) := by
  rw [show j - i = j - (i + 1) + 1 by omega, List.range'_succ]

def planOf (g : Gap) : List Planned := a.mergeGap (a.gapPairs g) (a.gapReplies g) (gapHeld g) (a.gapNew g)

def anchorOf (g : Gap) : Planned := .held g.heldIndex (a.refreshOf g.heldIndex g.authorityIndex) false

lemma planAnchors_eq (anchors : List (ℕ × ℕ)) :
    a.planAnchors anchors = (a.gapsAfter anchors).flatMap fun g => a.anchorOf g :: a.planOf g := by
  induction anchors with
  | nil => rfl
  | cons anchor rest ih =>
    rw [planAnchors, gapsAfter, List.flatMap_cons, ih]
    rfl

lemma anchors_increase : a.anchors.Pairwise Before := longestIncreasingChain_increases a.sharedRows_fst

lemma anchors_lt {anchor : ℕ × ℕ} (h : anchor ∈ a.anchors) : anchor.1 < a.held.length :=
  a.sharedRows_lt (longestIncreasingChain_subset h)

lemma bySource_sound {source : String} {index : ℕ} (h : a.bySource.lookup source = some index) :
    ∃ record, a.authority[index]? = some record ∧ record.sourceId = source := by
  rcases @KeyedMap.of_lookup_foldl_insert _ _ _ ∅ source index (NormalizedTimelineEntry × ℕ) (·.1.sourceId) Prod.snd
    a.authority.zipIdx h with ⟨x, hx, rfl, rfl⟩ | hnone
  · exact ⟨x.1, List.mk_mem_zipIdx_iff_getElem?.mp hx, rfl⟩
  · cases hnone

lemma sharedRows_spec {pair : ℕ × ℕ} (h : pair ∈ a.sharedRows) : ∃ row record, a.held[pair.1]? = some row ∧
    a.authority[pair.2]? = some record ∧ row.source = some record.sourceId := by
  obtain ⟨⟨row, index⟩, hmem, hshared⟩ := List.mem_filterMap.mp h
  obtain ⟨authority, hlookup, rfl⟩ := Option.map_eq_some_iff.mp hshared
  obtain ⟨source, hsource, hfound⟩ := Option.bind_eq_some_iff.mp hlookup
  obtain ⟨record, hrecord, rfl⟩ := a.bySource_sound hfound
  exact ⟨row, record, List.mk_mem_zipIdx_iff_getElem?.mp hmem, hrecord, hsource⟩

lemma anchor_authority_lt {anchor : ℕ × ℕ} (h : anchor ∈ a.anchors) : anchor.2 < a.authority.length := by
  obtain ⟨-, record, -, hrecord, -⟩ := a.sharedRows_spec (longestIncreasingChain_subset h)
  exact (List.getElem?_eq_some_iff.mp hrecord).1

lemma anchor_not_new {anchor : ℕ × ℕ} (h : anchor ∈ a.anchors) : a.isNew anchor.2 = false := by
  have hmem := List.mem_map_of_mem (f := Prod.snd) (longestIncreasingChain_subset h)
  simp [isNew, hmem]

section Gaps

variable {anchors rest : List (ℕ × ℕ)} {anchor : ℕ × ℕ} {g : Gap}

lemma anchor_of_gap (h : g ∈ a.gapsAfter anchors) : (g.heldIndex, g.authorityIndex) ∈ anchors := by
  induction anchors with
  | nil => cases h
  | cons anchor rest ih =>
    rcases List.mem_cons.mp h with rfl | h
    · exact List.mem_cons_self
    · exact List.mem_cons_of_mem _ (ih h)

lemma next_anchor (hsorted : (anchor :: rest).Pairwise Before)
    (hin : ∀ x ∈ anchor :: rest, Before x (a.held.length, a.authority.length)) :
    Before anchor (rest.head?.getD (a.held.length, a.authority.length)) ∧
      ∀ x ∈ rest, (rest.head?.getD (a.held.length, a.authority.length)).1 ≤ x.1 := by
  rw [List.pairwise_cons] at hsorted
  cases rest with
  | nil => exact ⟨hin anchor List.mem_cons_self, nofun⟩
  | cons next rest =>
    refine ⟨hsorted.1 next List.mem_cons_self, fun x hx => ?_⟩
    rcases List.mem_cons.mp hx with rfl | hx
    · exact le_rfl
    · exact ((List.pairwise_cons.mp hsorted.2).1 x hx).1.le

lemma next_within (hin : ∀ x ∈ rest, Before x (a.held.length, a.authority.length)) :
    (rest.head?.getD (a.held.length, a.authority.length)).1 ≤ a.held.length ∧
      (rest.head?.getD (a.held.length, a.authority.length)).2 ≤ a.authority.length := by
  cases rest with
  | nil => exact ⟨le_rfl, le_rfl⟩
  | cons next rest => exact ⟨(hin next List.mem_cons_self).1.le, (hin next List.mem_cons_self).2.le⟩

lemma gap_bounds (hsorted : anchors.Pairwise Before)
    (hin : ∀ x ∈ anchors, Before x (a.held.length, a.authority.length))
    (hg : g ∈ a.gapsAfter anchors) : (g.heldIndex < g.heldEnd ∧ g.heldEnd ≤ a.held.length) ∧
      (g.authorityIndex < g.authorityEnd ∧ g.authorityEnd ≤ a.authority.length) ∧
      ∀ anchor ∈ anchors, anchor.1 ≤ g.heldIndex ∨ g.heldEnd ≤ anchor.1 := by
  induction anchors with
  | nil => cases hg
  | cons anchor rest ih =>
    have hrest : ∀ x ∈ rest, Before x (a.held.length, a.authority.length) := fun x hx => hin x (List.mem_cons_of_mem _ hx)
    rcases List.mem_cons.mp hg with rfl | hlater
    · obtain ⟨hnext, hlater⟩ := a.next_anchor hsorted hin
      obtain ⟨hheld, hauthority⟩ := a.next_within hrest
      refine ⟨⟨hnext.1, hheld⟩, ⟨hnext.2, hauthority⟩, fun x hx => ?_⟩
      rcases List.mem_cons.mp hx with rfl | hx
      · exact .inl le_rfl
      · exact .inr (hlater x hx)
    · rw [List.pairwise_cons] at hsorted
      obtain ⟨hheldEnd, hauthorityEnd, hapart⟩ := ih hsorted.2 hrest hlater
      refine ⟨hheldEnd, hauthorityEnd, fun x hx => ?_⟩
      rcases List.mem_cons.mp hx with rfl | hx
      · exact .inl (hsorted.1 _ (a.anchor_of_gap hlater)).1.le
      · exact hapart x hx

lemma anchor_within (h : anchor ∈ a.anchors) : Before anchor (a.held.length, a.authority.length) :=
  ⟨a.anchors_lt h, a.anchor_authority_lt h⟩

lemma gaps_bounds (hg : g ∈ a.gaps) : (g.heldIndex < g.heldEnd ∧ g.heldEnd ≤ a.held.length) ∧
    (g.authorityIndex < g.authorityEnd ∧ g.authorityEnd ≤ a.authority.length) ∧
    ∀ anchor ∈ a.anchors, anchor.1 ≤ g.heldIndex ∨ g.heldEnd ≤ anchor.1 :=
  a.gap_bounds a.anchors_increase (fun _ h => a.anchor_within h) hg

/-- Where the first anchor stands, or both ends if there is none. -/
def start : ℕ × ℕ := a.anchors.head?.getD (a.held.length, a.authority.length)

lemma head_start (h : a.anchors ≠ []) : a.anchors.head? = some a.start := by
  obtain ⟨first, rest, heq⟩ := List.exists_cons_of_ne_nil h
  rw [start, heq]
  rfl

lemma start_within : a.start.1 ≤ a.held.length ∧ a.start.2 ≤ a.authority.length :=
  a.next_within fun _ h => a.anchor_within h

variable {a} in
lemma first_le {first : ℕ × ℕ} (hfirst : a.anchors.head? = some first) (h : anchor ∈ a.anchors) :
    first.1 ≤ anchor.1 ∧ first.2 ≤ anchor.2 := by
  have hsorted := a.anchors_increase
  obtain ⟨rest, hanchors⟩ := List.head?_eq_some_iff.mp hfirst
  rw [hanchors] at hsorted h
  rcases List.mem_cons.mp h with rfl | h
  · exact ⟨le_rfl, le_rfl⟩
  · exact ⟨((List.pairwise_cons.mp hsorted).1 anchor h).1.le, ((List.pairwise_cons.mp hsorted).1 anchor h).2.le⟩

lemma start_le (h : anchor ∈ a.anchors) : a.start.1 ≤ anchor.1 ∧ a.start.2 ≤ anchor.2 :=
  first_le (a.head_start (List.ne_nil_of_mem h)) h

/-- The gaps cover either side from the first anchor to the end, each place once. -/
lemma gapsAfter_cover (side : ℕ × ℕ → ℕ) (hside : ∀ x y, Before x y → side x < side y)
    (hsorted : anchors.Pairwise Before) (hin : ∀ x ∈ anchors, Before x (a.held.length, a.authority.length)) :
    ((a.gapsAfter anchors).flatMap fun g => List.range' (side (g.heldIndex, g.authorityIndex))
        (side (g.heldEnd, g.authorityEnd) - side (g.heldIndex, g.authorityIndex))) =
      List.range' (side (anchors.head?.getD (a.held.length, a.authority.length)))
        (side (a.held.length, a.authority.length) - side (anchors.head?.getD (a.held.length, a.authority.length))) := by
  induction anchors with
  | nil => simp [gapsAfter]
  | cons anchor rest ih =>
    have hrest : ∀ x ∈ rest, Before x (a.held.length, a.authority.length) := fun x hx => hin x (List.mem_cons_of_mem _ hx)
    have hnext := hside _ _ (a.next_anchor hsorted hin).1
    rw [gapsAfter, List.flatMap_cons, ih (List.pairwise_cons.mp hsorted).2 hrest]
    apply range'_split hnext.le
    cases rest with
    | nil => exact le_rfl
    | cons next rest => exact (hside _ _ (hrest next List.mem_cons_self)).le

lemma gaps_held : a.gaps.flatMap (fun g => g.heldIndex :: gapHeld g) =
    List.range' a.start.1 (a.held.length - a.start.1) := by
  refine Eq.trans (List.flatMap_congr fun g hg => ?_)
    (a.gapsAfter_cover Prod.fst (fun _ _ h => h.1) a.anchors_increase fun _ h => a.anchor_within h)
  exact range'_from (a.gaps_bounds hg).1.1

lemma gaps_new : a.gaps.flatMap a.gapNew = a.newBetween a.start.2 a.authority.length := by
  rw [newBetween, start, ← a.gapsAfter_cover Prod.snd (fun _ _ h => h.2) a.anchors_increase
    fun _ h => a.anchor_within h, List.filter_flatMap]
  refine List.flatMap_congr fun g hg => ?_
  dsimp only
  rw [← range'_from (a.gaps_bounds hg).2.1.1, List.filter_cons_of_neg (by simp [a.anchor_not_new (a.anchor_of_gap hg)])]
  rfl

lemma gaps_places : (a.gaps.flatMap fun g => g.authorityIndex :: a.gapNew g).Sublist
    (List.range' a.start.2 (a.authority.length - a.start.2)) := by
  rw [start, ← a.gapsAfter_cover Prod.snd (fun _ _ h => h.2) a.anchors_increase fun _ h => a.anchor_within h]
  refine List.Sublist.flatMap_right _ fun g hg => ?_
  dsimp only
  rw [← range'_from (a.gaps_bounds hg).2.1.1]
  exact List.filter_sublist.cons_cons _

end Gaps

variable {item : Planned} {plan : List Planned} {index : ℕ} {rows : List ℕ}

def shownIn (replies : List (List Char)) (index : ℕ) : Bool := (a.heldText index).any fun shown => trim shown ∈ replies

def keptAlone (pairs : List (ℕ × ℕ)) (replies : List (List Char)) (index : ℕ) : Bool :=
  a.isDisplay index && (pairs.lookup index).isNone && !(a.heldText index).any fun shown => trim shown ∈ replies

lemma not_display_of_after (h : a.afterTurn index = true) : a.isDisplay index = false := by simp [isDisplay, h]

/-- What a merge writes for its first row, and what it still has to restore then. -/
inductive Merges (pairs : List (ℕ × ℕ)) (replies : List (List Char)) (row : ℕ) (pending : List ℕ) :
    List Planned → List ℕ → Prop
  | flushed (hwhy : a.afterTurn row = true ∨ a.keptAlone pairs replies row = true) :
      Merges pairs replies row pending (pending.map .new ++ [heldRow row]) []
  | taken (reply : ℕ) (hbefore : a.afterTurn row = false) (hpair : pairs.lookup row = some reply) :
      Merges pairs replies row pending ((pending.takeWhile (· < reply)).map .new ++ [.held row (some reply) true])
        (if (pending.dropWhile (· < reply)).head? = some reply then (pending.dropWhile (· < reply)).tail
          else pending.dropWhile (· < reply))
  | dropped (hdisplay : a.isDisplay row = true) (hshown : a.shownIn replies row = true) :
      Merges pairs replies row pending [] pending
  | plain (hbefore : a.afterTurn row = false) (hplain : a.isDisplay row = false) :
      Merges pairs replies row pending [heldRow row] pending

inductive Merged (pairs : List (ℕ × ℕ)) (replies : List (List Char)) (rows pending : List ℕ) : Planned → Prop
  | restored (n : ℕ) (hn : n ∈ pending) : Merged pairs replies rows pending (.new n)
  | kept (index : ℕ) (hrow : index ∈ rows) (halone : a.isDisplay index = true → a.shownIn replies index = false) :
      Merged pairs replies rows pending (heldRow index)
  | taken (index reply : ℕ) (hrow : index ∈ rows) (hbefore : a.afterTurn index = false)
      (hpair : pairs.lookup index = some reply) : Merged pairs replies rows pending (.held index (some reply) true)

variable {replies : List (List Char)} {pairs : List (ℕ × ℕ)}

lemma mergeGap_cons (pairs : List (ℕ × ℕ)) (replies : List (List Char)) (row : ℕ) (rest pending : List ℕ) :
    ∃ block later, a.Merges pairs replies row pending block later ∧
      a.mergeGap pairs replies (row :: rest) pending = block ++ a.mergeGap pairs replies rest later := by
  rw [mergeGap]
  split
  · next hafter => exact ⟨_, _, .flushed (.inl hafter), by simp⟩
  · next hbefore =>
    have hbefore : a.afterTurn row = false := by simpa using hbefore
    split
    · next reply hpair => exact ⟨_, _, .taken reply hbefore hpair, by simp⟩
    · next hnone =>
      split
      · next hdisplay =>
        split
        · next hshown => exact ⟨_, _, .dropped hdisplay hshown, rfl⟩
        · next hshown =>
          exact ⟨_, _, .flushed (.inr (by simpa [keptAlone, hdisplay, hnone] using hshown)), by simp⟩
      · next hplain => exact ⟨_, _, .plain hbefore (by simpa using hplain), rfl⟩

variable {row : ℕ} {pending later : List ℕ} {block : List Planned}

lemma Merges.later_subset (h : a.Merges pairs replies row pending block later) : later ⊆ pending := by
  cases h with
  | flushed hwhy => exact List.nil_subset _
  | taken reply hbefore hpair =>
    split
    · exact fun n hn => (List.dropWhile_sublist _).subset (List.mem_of_mem_tail hn)
    · exact (List.dropWhile_sublist _).subset
  | dropped | plain => exact List.Subset.refl _

lemma mergeGap_sublist (pairs : List (ℕ × ℕ)) (gapReplies : List (List Char)) (rows pending : List ℕ) :
    (heldIndices (a.mergeGap pairs gapReplies rows pending)).Sublist rows := by
  induction rows generalizing pending with
  | nil => simp [mergeGap]
  | cons row rest ih =>
    obtain ⟨block, later, hmerges, heq⟩ := a.mergeGap_cons pairs gapReplies row rest pending
    have hblock : (heldIndices block).Sublist [row] := by
      cases hmerges <;> simp [heldIndices_heldRow]
    rw [heq, heldIndices_append]
    exact hblock.append (ih later)

lemma Merged.mono {rows' pending' : List ℕ}
    (h : a.Merged pairs replies rows pending item) (hrows : rows ⊆ rows')
    (hpending : pending ⊆ pending') : a.Merged pairs replies rows' pending' item := by
  cases h with
  | restored n hn => exact .restored n (hpending hn)
  | kept index hrow halone => exact .kept index (hrows hrow) halone
  | taken index reply hrow hbefore hpair => exact .taken index reply (hrows hrow) hbefore hpair

lemma Merges.merged (h : a.Merges pairs replies row pending block later) (hitem : item ∈ block) :
    a.Merged pairs replies (row :: rows) pending item := by
  have hrestored : ∀ l ⊆ pending, item ∈ l.map Planned.new → a.Merged pairs replies (row :: rows) pending item := by
    intro l hl hmem
    obtain ⟨n, hn, rfl⟩ := List.mem_map.mp hmem
    exact .restored n (hl hn)
  cases h with
  | flushed hwhy =>
    rcases List.mem_append.mp hitem with hitem | hitem
    · exact hrestored _ (List.Subset.refl _) hitem
    · rw [List.mem_singleton.mp hitem]
      refine .kept row List.mem_cons_self fun hdisplay => ?_
      rcases hwhy with hafter | halone
      · rw [a.not_display_of_after hafter] at hdisplay
        cases hdisplay
      · simp only [keptAlone, Bool.and_eq_true, Bool.not_eq_true'] at halone
        exact halone.2
  | taken reply hbefore hpair =>
    rcases List.mem_append.mp hitem with hitem | hitem
    · exact hrestored _ (List.takeWhile_sublist _).subset hitem
    · rw [List.mem_singleton.mp hitem]
      exact .taken row reply List.mem_cons_self hbefore hpair
  | dropped hdisplay hshown => cases hitem
  | plain hbefore hplain =>
    rw [List.mem_singleton.mp hitem]
    exact .kept row List.mem_cons_self fun hdisplay => absurd hdisplay (by simp [hplain])

lemma mergeGap_origin (h : item ∈ a.mergeGap pairs replies rows pending) :
    a.Merged pairs replies rows pending item := by
  induction rows generalizing pending with
  | nil =>
    obtain ⟨n, hn, rfl⟩ := List.mem_map.mp h
    exact .restored n hn
  | cons row rest ih =>
    obtain ⟨block, later, hmerges, heq⟩ := a.mergeGap_cons pairs replies row rest pending
    rw [heq] at h
    rcases List.mem_append.mp h with h | h
    · exact hmerges.merged a h
    · exact (ih h).mono a (List.subset_cons_self _ _) (hmerges.later_subset a)

lemma mergeGap_plans (pairs : List (ℕ × ℕ)) (replies : List (List Char)) (pending : List ℕ) (h : index ∈ rows) :
    index ∈ heldIndices (a.mergeGap pairs replies rows pending) ∨
      a.isDisplay index = true ∧ a.shownIn replies index = true := by
  induction rows generalizing pending with
  | nil => cases h
  | cons row rest ih =>
    obtain ⟨block, later, hmerges, heq⟩ := a.mergeGap_cons pairs replies row rest pending
    rw [heq, heldIndices_append, List.mem_append]
    rcases List.mem_cons.mp h with rfl | h
    · cases hmerges with
      | dropped hdisplay hshown => exact .inr ⟨hdisplay, hshown⟩
      | flushed | taken | plain => exact .inl (.inl (by simp [heldIndices_heldRow]))
    · exact (ih later h).imp_left .inr

/-- What the record has before the first anchor goes before the rows that stand there in a backfill, and
behind them for a turn that is read from its start. -/
def front : List ℕ := if a.mode.isTurn then [] else a.newBetween 0 a.start.2

def back : List ℕ := if a.mode.isTurn && a.mode.fromTurnStart then a.newBetween 0 a.start.2 else []

lemma front_back : a.front ++ a.back = a.newBetween 0 a.start.2 ∨
    a.front ++ a.back = [] ∧ a.mode.isTurn = true ∧ a.mode.fromTurnStart = false := by
  rw [front, back]
  cases a.mode.isTurn <;> cases a.mode.fromTurnStart <;> simp

section

variable (h : a.planReconcile = some plan)

include h

lemma planReconcile_eq :
    plan = a.front.map .new ++ (heldBetween 0 a.start.1 ++ (a.back.map .new ++
        a.gaps.flatMap fun g => a.anchorOf g :: a.planOf g)) ∧ (a.mode.isTurn = true → a.anchors ≠ []) := by
  rw [front, back, start, gaps, ← planAnchors_eq, anchors]
  rw [planReconcile] at h
  split at h
  · next hnone =>
    split at h
    · cases h
    · next hmode =>
      cases h
      simp [hnone, hmode, planAnchors]
  · next firstHeld firstAuthority rest hanchors =>
    cases h
    rw [hanchors, planStart]
    refine ⟨?_, fun _ => List.cons_ne_nil _ _⟩
    cases a.mode.isTurn <;> cases a.mode.fromTurnStart <;> simp

lemma mem_plan (hitem : item ∈ plan) : (∃ n ∈ a.front ++ a.back, item = .new n) ∨
    (∃ index < a.start.1, item = heldRow index) ∨ ∃ g ∈ a.gaps, item ∈ a.anchorOf g :: a.planOf g := by
  rw [(a.planReconcile_eq h).1] at hitem
  simp only [List.mem_append, List.mem_map, List.mem_flatMap, heldBetween, List.mem_range'_1] at hitem
  rcases hitem with ⟨n, hn, rfl⟩ | ⟨index, hindex, rfl⟩ | ⟨n, hn, rfl⟩ | hgap
  · exact .inl ⟨n, List.mem_append_left _ hn, rfl⟩
  · exact .inr (.inl ⟨index, by omega, rfl⟩)
  · exact .inl ⟨n, List.mem_append_right _ hn, rfl⟩
  · exact .inr (.inr hgap)

lemma heldIndices_plan : heldIndices plan = List.range' 0 a.start.1 ++
    a.gaps.flatMap fun g => g.heldIndex :: heldIndices (a.planOf g) := by
  rw [(a.planReconcile_eq h).1]
  simp only [heldIndices_append, heldIndices_map_new, heldIndices_heldBetween, List.nil_append, Nat.sub_zero]
  congr 1
  exact List.filterMap_flatMap

theorem planReconcile_sorted :
    (heldIndices plan).Pairwise (· < ·) ∧ ∀ index ∈ heldIndices plan, index < a.held.length := by
  have hrows : (heldIndices plan).Sublist (List.range' 0 (a.held.length - 0)) := by
    rw [a.heldIndices_plan h, ← range'_split (Nat.zero_le _) a.start_within.1, ← gaps_held]
    exact (List.Sublist.refl _).append (List.Sublist.flatMap_right _ fun g _ => (a.mergeGap_sublist ..).cons_cons _)
  refine ⟨List.Pairwise.sublist hrows List.pairwise_lt_range', fun index hindex => ?_⟩
  have hmem := hrows.subset hindex
  rw [List.mem_range'_1] at hmem
  omega

end

structure ShownTwice (index : ℕ) : Prop where
  display : a.isDisplay index = true
  reply : ∃ g ∈ a.gaps, g.heldIndex < index ∧ index < g.heldEnd ∧
    ∃ reply, g.authorityIndex ≤ reply ∧ reply < g.authorityEnd ∧ a.isReply reply = true ∧
      ∃ shown text, a.heldText index = some shown ∧ a.recordText reply = some text ∧ trim shown = trim text

lemma mem_gapReplies {g : Gap} {text : List Char} (h : text ∈ a.gapReplies g) :
    ∃ reply, g.authorityIndex ≤ reply ∧ reply < g.authorityEnd ∧ a.isReply reply = true ∧
      ∃ whole, a.recordText reply = some whole ∧ trim whole = text := by
  obtain ⟨reply, hreply, htext⟩ := List.mem_filterMap.mp h
  obtain ⟨hrange, hkind⟩ := List.mem_filter.mp hreply
  rw [List.mem_range'_1] at hrange
  obtain ⟨whole, hwhole, rfl⟩ := Option.map_eq_some_iff.mp htext
  exact ⟨reply, hrange.1, by omega, hkind, whole, hwhole, rfl⟩

theorem planReconcile_plans (h : a.planReconcile = some plan)
    (hindex : index < a.held.length) : index ∈ heldIndices plan ∨ a.ShownTwice index := by
  rw [a.heldIndices_plan h, List.mem_append]
  by_cases hbefore : index < a.start.1
  · refine .inl (.inl ?_)
    rw [List.mem_range'_1]
    omega
  · have hafter : index ∈ a.gaps.flatMap fun g => g.heldIndex :: gapHeld g := by
      rw [gaps_held, List.mem_range'_1]
      omega
    obtain ⟨g, hg, hrow⟩ := List.mem_flatMap.mp hafter
    rcases List.mem_cons.mp hrow with rfl | hrow
    · exact .inl (.inr (List.mem_flatMap.mpr ⟨g, hg, List.mem_cons_self⟩))
    · rcases a.mergeGap_plans (a.gapPairs g) (a.gapReplies g) (a.gapNew g) hrow with hplanned | ⟨hdisplay, hshown⟩
      · exact .inl (.inr (List.mem_flatMap.mpr ⟨g, hg, List.mem_cons_of_mem _ hplanned⟩))
      · right
        obtain ⟨shown, htext, hmem⟩ := (Option.any_eq_true _ _).mp hshown
        obtain ⟨reply, hfrom, hto, hkind, whole, hwhole, heq⟩ := a.mem_gapReplies (of_decide_eq_true hmem)
        rw [gapHeld, List.mem_range'_1] at hrow
        have hends := (a.gaps_bounds hg).1
        exact ⟨hdisplay, g, hg, by omega, by omega, reply, hfrom, hto, hkind, shown, whole, htext, hwhole, heq.symm⟩

end Alignment

end CiaoHost.Session
