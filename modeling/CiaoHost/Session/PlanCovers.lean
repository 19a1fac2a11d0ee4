import CiaoHost.Session.PlanGaps
import CiaoHost.Session.Run

/-! What a reconcile plan does with the rows of the record: each one the session does not hold is restored
or taken into a held row, once and in the record's order. -/

namespace CiaoHost.Session

open Protocol Lib Lib.Text

def recordIndex : Planned → Option ℕ
  | .new authority => some authority
  | .held _ (some authority) true => some authority
  | .held .. => none

namespace Alignment

variable (a : Alignment)

def recordPlace : Planned → Option ℕ
  | .new authority => some authority
  | .held _ (some authority) true => some authority
  | .held index _ _ => a.anchors.lookup index

lemma recordPlace_of_recordIndex {item : Planned} {n : ℕ} (h : recordIndex item = some n) :
    a.recordPlace item = some n := by
  unfold recordIndex at h
  split at h
  · exact h
  · exact h
  · cases h

section Pairs

variable {displays replies : List ℕ}

lemma pairByText_sublist (displays replies : List ℕ) :
    ((a.pairByText displays replies).map Prod.fst).Sublist displays ∧
      ((a.pairByText displays replies).map Prod.snd).Sublist replies := by
  induction displays generalizing replies with
  | nil => exact ⟨List.Sublist.refl _, List.nil_sublist _⟩
  | cons display rest ih =>
    have hskip := ih replies
    rw [pairByText]
    split
    · exact ⟨hskip.1.cons _, hskip.2⟩
    · split
      · exact ⟨hskip.1.cons _, hskip.2⟩
      · split
        · exact ⟨hskip.1.cons _, hskip.2⟩
        · next reply later hfound =>
          have hlater := ih later
          have hdropped : (reply :: later).Sublist replies := hfound ▸ List.dropWhile_sublist _
          exact ⟨hlater.1.cons_cons _, (hlater.2.cons_cons _).trans hdropped⟩

lemma pairs_sublist (displays replies : List ℕ) :
    ((a.pairDisplaysWithReplies displays replies).map Prod.fst).Sublist displays ∧
      ((a.pairDisplaysWithReplies displays replies).map Prod.snd).Sublist replies := by
  rw [pairDisplaysWithReplies]
  split
  · next hlength =>
    rw [List.map_fst_zip hlength.le, List.map_snd_zip hlength.ge]
    exact ⟨List.Sublist.refl _, List.Sublist.refl _⟩
  · exact a.pairByText_sublist displays replies

lemma pairs_increase (hdisplays : displays.Pairwise (· < ·)) (hreplies : replies.Pairwise (· < ·)) :
    (a.pairDisplaysWithReplies displays replies).Pairwise Before := by
  obtain ⟨hfst, hsnd⟩ := a.pairs_sublist displays replies
  have hleft := hdisplays.sublist hfst
  have hright := hreplies.sublist hsnd
  rw [List.pairwise_map] at hleft hright
  exact hleft.imp₂ (fun _ _ h h' => ⟨h, h'⟩) hright

variable {pairs : List (ℕ × ℕ)}

lemma mem_of_lookup {display reply : ℕ} (h : pairs.lookup display = some reply) : (display, reply) ∈ pairs := by
  induction pairs with
  | nil => cases h
  | cons pair rest ih =>
    obtain ⟨key, value⟩ := pair
    rw [List.lookup_cons] at h
    by_cases hkey : display = key
    · subst hkey
      simp only [beq_self_eq_true] at h
      cases h
      exact List.mem_cons_self
    · have hne : (display == key) = false := by simpa using hkey
      rw [hne] at h
      exact List.mem_cons_of_mem _ (ih h)

lemma lookup_increases (hpairs : pairs.Pairwise Before) {d d' r r' : ℕ}
    (h : pairs.lookup d = some r) (h' : pairs.lookup d' = some r') (hlt : d < d') : r < r' := by
  obtain ⟨i, hi, heq⟩ := List.mem_iff_getElem.mp (mem_of_lookup h)
  obtain ⟨j, hj, heq'⟩ := List.mem_iff_getElem.mp (mem_of_lookup h')
  have horder := List.pairwise_iff_getElem.mp hpairs
  rcases Nat.lt_trichotomy i j with hij | rfl | hji
  · have hbefore := horder i j hi hj hij
    rw [heq, heq'] at hbefore
    exact hbefore.2
  · rw [heq] at heq'
    cases heq'
    omega
  · have hbefore := horder j i hj hi hji
    rw [heq, heq'] at hbefore
    exact absurd hbefore.1 (not_lt.mpr hlt.le)

end Pairs

variable {pairs : List (ℕ × ℕ)} {replies : List (List Char)} {rows pending : List ℕ}

def AfterTurnLast (rows : List ℕ) : Prop := rows.Pairwise fun i j => a.afterTurn i = true → a.afterTurn j = true

variable {place : Planned → Option ℕ} {index first last : ℕ} {anchor : ℕ × ℕ} {g : Gap}

lemma filterMap_restored (hnew : ∀ n, place (.new n) = some n) (l : List ℕ) :
    (l.map Planned.new).filterMap place = l := by
  rw [List.filterMap_map]
  exact (List.filterMap_congr fun n _ => hnew n).trans List.filterMap_some

lemma mergeGap_places (hnew : ∀ n, place (.new n) = some n)
    (hpaired : ∀ i n, place (.held i (some n) true) = some n) (hheld : ∀ i ∈ rows, place (heldRow i) = none)
    (hsorted : rows.Pairwise (· < ·)) (hlast : a.AfterTurnLast rows)
    (hpairs : ∀ i r, pairs.lookup i = some r → a.isDisplay i = true)
    (hincrease : ∀ i j r r', pairs.lookup i = some r → pairs.lookup j = some r' → i < j → r < r')
    (horderly : ∀ i ∈ rows, ∀ j ∈ rows, i < j → a.keptAlone pairs replies i = true → pairs.lookup j = none)
    (hpending : pending.Pairwise (· < ·)) (hopen : ∀ i ∈ rows, ∀ r, pairs.lookup i = some r → r ∈ pending) :
    (a.mergeGap pairs replies rows pending).filterMap place = pending := by
  have hrestored := filterMap_restored hnew
  induction rows generalizing pending with
  | nil => exact hrestored pending
  | cons index rest ih =>
    rw [List.pairwise_cons] at hsorted
    rw [AfterTurnLast, List.pairwise_cons] at hlast
    have hrow := hheld index List.mem_cons_self
    have hih : ∀ {pending : List ℕ}, pending.Pairwise (· < ·) →
        (∀ i ∈ rest, ∀ r, pairs.lookup i = some r → r ∈ pending) →
        (a.mergeGap pairs replies rest pending).filterMap place = pending := fun hp ho =>
      ih (fun i hi => hheld i (List.mem_cons_of_mem _ hi)) hsorted.2 hlast.2
        (fun i hi j hj => horderly i (List.mem_cons_of_mem _ hi) j (List.mem_cons_of_mem _ hj)) hp ho
    obtain ⟨block, left, hmerges, heq⟩ := a.mergeGap_cons pairs replies index rest pending
    have hrest : ∀ i ∈ rest, ∀ r, pairs.lookup i = some r → r ∈ pending := fun i hi =>
      hopen i (List.mem_cons_of_mem _ hi)
    rw [heq, List.filterMap_append]
    cases hmerges with
    | flushed hwhy =>
      -- nothing is paired with a row behind it: no display comes after the turn
      have hnone : ∀ j ∈ rest, pairs.lookup j = none := by
        intro j hj
        rcases hwhy with hafter | halone
        · cases hlookup : pairs.lookup j with
          | none => rfl
          | some r =>
            have hdisplay := hpairs j r hlookup
            rw [a.not_display_of_after (hlast.1 j hj hafter)] at hdisplay
            cases hdisplay
        · exact horderly index List.mem_cons_self j (List.mem_cons_of_mem _ hj) (hsorted.1 j hj) halone
      rw [List.filterMap_append, hrestored, List.filterMap_cons_none hrow, List.filterMap_nil, List.append_nil,
        hih .nil fun j hj r hr => absurd hr (by simp [hnone j hj]), List.append_nil]
    | taken reply hbefore hpair =>
      have hmem := hopen index List.mem_cons_self reply hpair
      obtain ⟨first, later, hsplit⟩ := List.append_of_mem hmem
      obtain ⟨-, hlater, hcross⟩ := List.pairwise_append.mp (hsplit ▸ hpending)
      have hfirst : ∀ n ∈ first, n < reply := fun n hn => hcross n hn reply List.mem_cons_self
      have htake : pending.takeWhile (· < reply) = first := by
        rw [hsplit, List.takeWhile_append_of_pos (by simpa using hfirst)]
        simp
      have hdrop : pending.dropWhile (· < reply) = reply :: later := by
        rw [hsplit, List.dropWhile_append_of_pos (by simpa using hfirst)]
        simp
      rw [htake, hdrop]
      simp only [List.head?_cons, if_true, List.tail_cons]
      rw [List.filterMap_append, hrestored, List.filterMap_cons_some (hpaired index reply),
        hih (List.pairwise_cons.mp hlater).2, hsplit, List.filterMap_nil, List.append_assoc]
      · rfl
      · intro j hj r hr
        have hlt := hincrease index j reply r hpair hr (hsorted.1 j hj)
        have hin := hrest j hj r hr
        rw [hsplit, List.mem_append, List.mem_cons] at hin
        rcases hin with hin | rfl | hin
        · exact absurd (hfirst r hin) (not_lt.mpr hlt.le)
        · exact absurd hlt (lt_irrefl _)
        · exact hin
    | dropped hdisplay hshown => exact hih hpending hrest
    | plain hbefore hplain =>
      rw [List.filterMap_cons_none hrow]
      exact hih hpending hrest

lemma afterTurn_mono (hheld : a.held.Pairwise (·.entry.sequence < ·.entry.sequence)) {i j : ℕ} (hij : i < j)
    (hj : j < a.held.length) (h : a.afterTurn i = true) : a.afterTurn j = true := by
  rw [afterTurn, Option.any_eq_true] at h ⊢
  obtain ⟨mark, hmark, hi⟩ := h
  obtain ⟨row, hrow, hle⟩ := (Option.any_eq_true _ _).mp hi
  obtain ⟨hlt, rfl⟩ := List.getElem?_eq_some_iff.mp hrow
  refine ⟨mark, hmark, (Option.any_eq_true _ _).mpr ⟨a.held[j], List.getElem?_eq_getElem hj, ?_⟩⟩
  have hless := List.pairwise_iff_getElem.mp hheld i j hlt hj hij
  simp only [decide_eq_true_eq] at hle ⊢
  omega

lemma isNew_of_unheld {record : NormalizedTimelineEntry} (hrecord : a.authority[index]? = some record)
    (hunheld : ∀ row ∈ a.held, row.source ≠ some record.sourceId) : a.isNew index = true := by
  rw [isNew, decide_eq_true_eq]
  intro hmem
  obtain ⟨pair, hpair, rfl⟩ := List.mem_map.mp hmem
  obtain ⟨row, record', hrow, hrecord', hsource⟩ := a.sharedRows_spec hpair
  rw [hrecord] at hrecord'
  cases hrecord'
  exact hunheld row (List.mem_of_getElem? hrow) hsource

variable {anchors : List (ℕ × ℕ)} {plan : List Planned}

lemma newBetween_sorted (first last : ℕ) : (a.newBetween first last).Pairwise (· < ·) :=
  List.Pairwise.filter _ List.pairwise_lt_range'

lemma mem_newBetween : index ∈ a.newBetween first last ↔ first ≤ index ∧ index < last ∧ a.isNew index = true := by
  rw [newBetween, List.mem_filter, List.mem_range'_1]
  constructor
  · rintro ⟨⟨h, h'⟩, hnew⟩
    exact ⟨h, by omega, hnew⟩
  · rintro ⟨h, h', hnew⟩
    exact ⟨⟨h, by omega⟩, hnew⟩

/-- In no gap is a display that was kept alone followed by one that a reply was paired with. -/
def Orderly (g : Gap) : Prop :=
  ∀ i ∈ gapHeld g, ∀ j ∈ gapHeld g, i < j → a.keptAlone (a.gapPairs g) (a.gapReplies g) i = true →
    (a.gapPairs g).lookup j = none

instance (g : Gap) : Decidable (a.Orderly g) :=
  inferInstanceAs (Decidable (∀ i ∈ gapHeld g, ∀ j ∈ gapHeld g, i < j →
    a.keptAlone (a.gapPairs g) (a.gapReplies g) i = true → (a.gapPairs g).lookup j = none))

lemma gap_unanchored (hg : g ∈ a.gaps) (hindex : index ∈ gapHeld g) : ∀ anchor ∈ a.anchors, anchor.1 ≠ index := by
  intro anchor hx heq
  rw [gapHeld, List.mem_range'_1] at hindex
  have hends := (a.gaps_bounds hg).1
  rcases (a.gaps_bounds hg).2.2 anchor hx with hle | hle
  · omega
  · omega

lemma planOf_places (hheld : a.held.Pairwise (·.entry.sequence < ·.entry.sequence)) (hg : g ∈ a.gaps)
    (horderly : a.Orderly g) (hnew : ∀ n, place (.new n) = some n)
    (hpaired : ∀ i n, place (.held i (some n) true) = some n) (hrow : ∀ i ∈ gapHeld g, place (heldRow i) = none) :
    (a.planOf g).filterMap place = a.gapNew g := by
  obtain ⟨hends, -, -⟩ := a.gaps_bounds hg
  have hsorted : (gapHeld g).Pairwise (· < ·) := List.pairwise_lt_range'
  obtain ⟨hfst, hsnd⟩ := a.pairs_sublist ((gapHeld g).filter a.isDisplay) ((a.gapNew g).filter a.isReply)
  have hincrease := a.pairs_increase (hsorted.filter a.isDisplay)
    ((a.newBetween_sorted (g.authorityIndex + 1) g.authorityEnd).filter a.isReply)
  refine a.mergeGap_places hnew hpaired hrow hsorted ?_ (fun i r hr => ?_)
    (fun i j r r' hr hr' hij => lookup_increases hincrease hr hr' hij) horderly (a.newBetween_sorted _ _)
    fun i _ r hr => ?_
  · refine hsorted.imp_of_mem fun {i j} _ hj hij hafter => a.afterTurn_mono hheld hij ?_ hafter
    rw [gapHeld, List.mem_range'_1] at hj
    omega
  · have hmem := hfst.subset (List.mem_map_of_mem (f := Prod.fst) (mem_of_lookup hr))
    exact (List.mem_filter.mp hmem).2
  · have hmem := hsnd.subset (List.mem_map_of_mem (f := Prod.snd) (mem_of_lookup hr))
    exact (List.mem_filter.mp hmem).1

def BeforeScope (index : ℕ) : Prop :=
  a.mode.isTurn = true ∧ a.mode.fromTurnStart = false ∧ ∃ first, a.anchors.head? = some first ∧ index < first.2

section

variable (hheld : a.held.Pairwise (·.entry.sequence < ·.entry.sequence)) (horderly : ∀ g ∈ a.gaps, a.Orderly g) (h : a.planReconcile = some plan)

include hheld horderly h

lemma plan_places (hnew : ∀ n, place (.new n) = some n)
    (hpaired : ∀ i n, place (.held i (some n) true) = some n)
    (hrow : ∀ i, (∀ anchor ∈ a.anchors, anchor.1 ≠ i) → place (heldRow i) = none) :
    plan.filterMap place = (a.front ++ a.back) ++
      a.gaps.flatMap fun g => (place (a.anchorOf g)).toList ++ a.gapNew g := by
  have hbefore : (heldBetween 0 a.start.1).filterMap place = [] := by
    rw [heldBetween, List.filterMap_map, List.filterMap_eq_nil_iff]
    intro i hi
    rw [List.mem_range'_1] at hi
    refine hrow i fun anchor hx heq => ?_
    have hle := (a.start_le hx).1
    omega
  have hgaps : (a.gaps.flatMap fun g => a.anchorOf g :: a.planOf g).filterMap place =
      a.gaps.flatMap fun g => (place (a.anchorOf g)).toList ++ a.gapNew g := by
    rw [List.filterMap_flatMap]
    refine List.flatMap_congr fun g hg => ?_
    rw [← a.planOf_places hheld hg (horderly g hg) hnew hpaired fun i hi => hrow i (a.gap_unanchored hg hi),
      List.filterMap_cons]
    cases place (a.anchorOf g) <;> rfl
  rw [(a.planReconcile_eq h).1]
  simp only [List.filterMap_append, filterMap_restored hnew, hbefore, hgaps, List.nil_append, List.append_assoc]

lemma recordIndices_eq :
    ∃ start, plan.filterMap recordIndex = a.newBetween start a.authority.length ∧
      ∀ index < start, a.BeforeScope index := by
  have hanchor : ∀ g, recordIndex (a.anchorOf g) = none := by
    intro g
    rw [anchorOf]
    cases a.refreshOf g.heldIndex g.authorityIndex <;> rfl
  rw [a.plan_places hheld horderly h (fun _ => rfl) (fun _ _ => rfl) fun _ _ => rfl]
  simp only [hanchor, Option.toList_none, List.nil_append]
  rw [a.gaps_new]
  rcases a.front_back with hboth | ⟨hnone, hturn, hscope⟩
  · refine ⟨0, ?_, by simp⟩
    rw [hboth, newBetween, newBetween, newBetween, ← List.filter_append,
      range'_split (Nat.zero_le _) a.start_within.2]
  · refine ⟨a.start.2, by rw [hnone, List.nil_append], fun index hlt => ⟨hturn, hscope, a.start, ?_, hlt⟩⟩
    exact a.head_start ((a.planReconcile_eq h).2 hturn)

end

lemma lookup_anchor (hsorted : anchors.Pairwise Before)
    (h : anchor ∈ anchors) : anchors.lookup anchor.1 = some anchor.2 := by
  induction anchors with
  | nil => cases h
  | cons head rest ih =>
    rw [List.pairwise_cons] at hsorted
    rw [List.lookup_cons]
    rcases List.mem_cons.mp h with rfl | h
    · simp
    · have hne : (anchor.1 == head.1) = false := by simpa using (hsorted.1 anchor h).1.ne'
      rw [hne]
      exact ih hsorted.2 h

lemma lookup_between (h : ∀ anchor ∈ a.anchors, anchor.1 ≠ index) : a.anchors.lookup index = none := by
  cases hlookup : a.anchors.lookup index with
  | none => rfl
  | some authority => exact absurd rfl (h _ (mem_of_lookup hlookup))

variable {a} in
lemma recordPlace_anchor (hg : g ∈ a.gaps) : a.recordPlace (a.anchorOf g) = some g.authorityIndex := by
  have hlookup := lookup_anchor a.anchors_increase (a.anchor_of_gap hg)
  rw [anchorOf]
  cases a.refreshOf g.heldIndex g.authorityIndex <;> exact hlookup

lemma recordPlaces_sorted (hheld : a.held.Pairwise (·.entry.sequence < ·.entry.sequence))
    (horderly : ∀ g ∈ a.gaps, a.Orderly g) (h : a.planReconcile = some plan) :
    (plan.filterMap a.recordPlace).Pairwise (· < ·) := by
  have hrestored : (a.front ++ a.back).Sublist (List.range' 0 (a.start.2 - 0)) := by
    rcases a.front_back with hboth | ⟨hnone, -⟩
    · rw [hboth]
      exact List.filter_sublist
    · rw [hnone]
      exact List.nil_sublist _
  have hgaps : (a.gaps.flatMap fun g => (a.recordPlace (a.anchorOf g)).toList ++ a.gapNew g) =
      a.gaps.flatMap fun g => g.authorityIndex :: a.gapNew g :=
    List.flatMap_congr fun g hg => by rw [recordPlace_anchor hg]; rfl
  rw [a.plan_places hheld horderly h (fun _ => rfl) (fun _ _ => rfl) fun i hi => a.lookup_between hi, hgaps]
  refine List.Pairwise.sublist (hrestored.append a.gaps_places) ?_
  rw [range'_split (Nat.zero_le _) a.start_within.2]
  exact List.pairwise_lt_range'

namespace Sample

def heldAs (entryId : String) (sequence : ℕ) (kind text source : String) : HeldEntry :=
  ⟨Session.Sample.row entryId sequence kind text, some source⟩

def reply (source text : String) : NormalizedTimelineEntry :=
  { Session.Sample.entry source text with kind := "assistant_message" }

def twoDisplays (second : String) : Alignment where
  held := [heldAs "e-1" 1 "user_message" "go" "p", heldAs "e-2" 2 "assistant_message" "foo" "live:1",
    heldAs "e-3" 3 "assistant_message" second "live:2"]
  authority := [Session.Sample.entry "p" "go", reply "r" "barbaz"]
  mode := .turn true none
  liveOnlyPrefix := some "live:"

end Sample

end Alignment

end CiaoHost.Session
