import Mathlib.Data.List.Sort
import Mathlib.Tactic

/-! Lists of rows named by a key, updated in place. -/

namespace CiaoHost.Lib.KeyedList

variable {α β κ : Type} [DecidableEq κ]

def replaceFirst (key : α → κ) (x : α) : List α → List α
  | [] => []
  | y :: ys => if key y = key x then x :: ys else y :: replaceFirst key x ys

def updateFirst (key : α → κ) (k : κ) (f : α → α) : List α → List α
  | [] => []
  | y :: ys => if key y = k then f y :: ys else y :: updateFirst key k f ys

variable {key : α → κ} {x : α} {l : List α}

omit [DecidableEq κ] in
lemma mem_modify {i : ℕ} {f : α → α} (h : x ∈ l.modify i f) : x ∈ l ∨ ∃ y ∈ l, x = f y := by
  obtain ⟨j, hj⟩ := List.mem_iff_getElem?.mp h
  rw [List.getElem?_modify] at hj
  obtain ⟨y, hy, rfl⟩ := Option.map_eq_some_iff.mp hj
  split
  · exact .inr ⟨y, List.mem_of_getElem? hy, rfl⟩
  · exact .inl (List.mem_of_getElem? hy)

lemma map_replaceFirst (f : α → β) (h : ∀ y ∈ l, key y = key x → f y = f x) :
    (replaceFirst key x l).map f = l.map f := by
  induction l with
  | nil => rfl
  | cons y ys ih =>
    simp only [replaceFirst]
    split
    · next hy => simp [h y List.mem_cons_self hy]
    · simp [ih fun z hz => h z (List.mem_cons_of_mem y hz)]

@[simp] lemma map_key_replaceFirst : (replaceFirst key x l).map key = l.map key :=
  map_replaceFirst key fun _ _ h => h

@[simp] lemma length_replaceFirst : (replaceFirst key x l).length = l.length := by
  rw [← List.length_map key, map_key_replaceFirst, List.length_map]

variable {z : α}

lemma mem_of_mem_replaceFirst (h : z ∈ replaceFirst key x l) : z = x ∨ z ∈ l := by
  induction l with
  | nil => simp [replaceFirst] at h
  | cons y ys ih =>
    simp only [replaceFirst] at h
    split at h
    · rcases List.mem_cons.mp h with rfl | hz
      · exact .inl rfl
      · exact .inr (List.mem_cons_of_mem y hz)
    · rcases List.mem_cons.mp h with rfl | hz
      · exact .inr List.mem_cons_self
      · exact (ih hz).imp_right (List.mem_cons_of_mem y)

lemma mem_replaceFirst_self (h : key x ∈ l.map key) : x ∈ replaceFirst key x l := by
  induction l with
  | nil => cases h
  | cons y ys ih =>
    rw [replaceFirst]
    split
    · exact List.mem_cons_self
    · next hy =>
      apply List.mem_cons_of_mem
      apply ih
      simpa [Ne.symm hy] using h

lemma find_replaceFirst_self (h : key x ∈ l.map key) : (replaceFirst key x l).find? (key · = key x) = some x := by
  induction l with
  | nil => cases h
  | cons y ys ih =>
    rw [replaceFirst]
    split
    · simp
    · next hy =>
      rw [List.find?_cons_of_neg (by simpa using hy)]
      apply ih
      simpa [Ne.symm hy] using h

lemma replaceFirst_of_find (h : l.find? (key · = key x) = some x) : replaceFirst key x l = l := by
  induction l with
  | nil => rfl
  | cons y ys ih =>
    by_cases hy : key y = key x
    · have hyx : y = x := by simpa [hy] using h
      simp [replaceFirst, hyx]
    · rw [replaceFirst, if_neg hy, ih (by simpa [hy] using h)]

lemma mem_replaceFirst_iff (hnd : (l.map key).Nodup) (hx : key x ∈ l.map key) :
    z ∈ replaceFirst key x l ↔ z = x ∨ z ∈ l ∧ key z ≠ key x := by
  induction l with
  | nil => simp at hx
  | cons y ys ih =>
    simp only [List.map_cons, List.nodup_cons] at hnd
    simp only [replaceFirst]
    split
    · next hy =>
      have hne : ∀ w ∈ ys, key w ≠ key x := by
        rintro w hw hwx
        exact hnd.1 (hy ▸ hwx ▸ List.mem_map_of_mem hw)
      constructor
      · intro hz
        rcases List.mem_cons.mp hz with rfl | hz
        · exact .inl rfl
        · exact .inr ⟨List.mem_cons_of_mem y hz, hne z hz⟩
      · rintro (rfl | ⟨hz, hzx⟩)
        · exact List.mem_cons_self
        · rcases List.mem_cons.mp hz with rfl | hz
          · exact absurd hy hzx
          · exact List.mem_cons_of_mem x hz
    · next hy =>
      have hx' : key x ∈ ys.map key := by
        simpa [Ne.symm hy] using hx
      simp only [List.mem_cons, ih hnd.2 hx']
      constructor
      · rintro (rfl | rfl | ⟨hz, hzx⟩)
        · exact .inr ⟨.inl rfl, hy⟩
        · exact .inl rfl
        · exact .inr ⟨.inr hz, hzx⟩
      · rintro (rfl | ⟨rfl | hz, hzx⟩)
        · exact .inr (.inl rfl)
        · exact .inl rfl
        · exact .inr (.inr ⟨hz, hzx⟩)

section Related

variable {R : α → β → Prop} {l : List α} {l' : List β}

section

variable (h : List.Forall₂ R l l')

include h

lemma exists_related_left {y : β} (hy : y ∈ l') : ∃ x ∈ l, R x y := by
  induction h with
  | nil => simp at hy
  | cons hxy _ ih =>
    rcases List.mem_cons.mp hy with rfl | hy
    · exact ⟨_, List.mem_cons_self, hxy⟩
    · obtain ⟨x, hx, hxy⟩ := ih hy
      exact ⟨x, List.mem_cons_of_mem _ hx, hxy⟩

lemma exists_related_right (hx : x ∈ l) : ∃ y ∈ l', R x y :=
  exists_related_left h.flip hx

lemma pairwise_of_related {P : α → α → Prop} {Q : β → β → Prop}
    (hl : l.Pairwise P) (hpq : ∀ a b x y, P a b → R a x → R b y → Q x y) : l'.Pairwise Q := by
  induction h with
  | nil => exact .nil
  | cons hax hrest ih =>
    rw [List.pairwise_cons] at hl ⊢
    refine ⟨fun y hy => ?_, ih hl.2⟩
    obtain ⟨b, hb, hby⟩ := exists_related_left hrest hy
    exact hpq _ b _ y (hl.1 b hb) hax hby

end

lemma forall₂_trans {R : α → α → Prop} (htrans : ∀ a b c, R a b → R b c → R a c) {l' l'' : List α}
    (h : List.Forall₂ R l l') (h' : List.Forall₂ R l' l'') : List.Forall₂ R l l'' := by
  induction h generalizing l'' with
  | nil =>
    cases h'
    exact .nil
  | cons hab _ ih =>
    cases h' with
    | cons hbc hrest => exact .cons (htrans _ _ _ hab hbc) (ih hrest)

lemma forall₂_replaceFirst {R : α → α → Prop} {y : α} (hrefl : ∀ a, R a a)
    (hfind : l.find? (key · = key x) = some y) (hxy : R y x) : List.Forall₂ R l (replaceFirst key x l) := by
  induction l with
  | nil => exact .nil
  | cons z zs ih =>
    by_cases hz : key z = key x
    · have hzy : z = y := by simpa [hz] using hfind
      subst hzy
      rw [replaceFirst, if_pos hz]
      exact .cons hxy (List.forall₂_same.mpr fun a _ => hrefl a)
    · rw [replaceFirst, if_neg hz]
      exact .cons (hrefl z) (ih (by simpa [hz] using hfind))

end Related

def sortByKey (rank : α → ℕ) (l : List α) : List α := l.insertionSort (rank · ≤ rank ·)

variable {rank : α → ℕ}

lemma sortByKey_perm (rank : α → ℕ) (l : List α) : (sortByKey rank l).Perm l :=
  List.perm_insertionSort _ l

@[simp] lemma mem_sortByKey {a : α} : a ∈ sortByKey rank l ↔ a ∈ l :=
  (sortByKey_perm rank l).mem_iff

@[simp] lemma length_sortByKey : (sortByKey rank l).length = l.length :=
  (sortByKey_perm rank l).length_eq

lemma sortByKey_sorted (rank : α → ℕ) (l : List α) : (sortByKey rank l).Pairwise (rank · ≤ rank ·) :=
  List.pairwise_insertionSort _ l

lemma sortByKey_strict (h : (l.map rank).Nodup) : (sortByKey rank l).Pairwise (rank · < rank ·) := by
  have hnd : ((sortByKey rank l).map rank).Nodup :=
    ((sortByKey_perm rank l).map rank).nodup_iff.mpr h
  rw [List.Nodup, List.pairwise_map] at hnd
  exact (sortByKey_sorted rank l).imp₂ (fun _ _ hle hne => lt_of_le_of_ne hle hne) hnd

lemma sortByKey_eq_self (h : l.Pairwise (rank · ≤ rank ·)) : sortByKey rank l = l :=
  h.insertionSort_eq

section UpdateFirst

variable {k k' : κ} {f : α → α}

lemma map_key_updateFirst (hf : ∀ y, key (f y) = key y) : (updateFirst key k f l).map key = l.map key := by
  induction l with
  | nil => rfl
  | cons y ys ih =>
    rw [updateFirst]
    split
    · rw [List.map_cons, List.map_cons, hf]
    · rw [List.map_cons, List.map_cons, ih]

lemma mem_of_mem_updateFirst (h : z ∈ updateFirst key k f l) :
    z ∈ l ∨ ∃ y, l.find? (key · = k) = some y ∧ z = f y := by
  induction l with
  | nil => cases h
  | cons y ys ih =>
    rw [updateFirst] at h
    by_cases hy : key y = k
    · rw [if_pos hy] at h
      rcases List.mem_cons.mp h with rfl | hz
      · exact .inr ⟨y, by simp [hy], rfl⟩
      · exact .inl (List.mem_cons_of_mem y hz)
    · rw [if_neg hy] at h
      rcases List.mem_cons.mp h with rfl | hz
      · exact .inl List.mem_cons_self
      · refine (ih hz).imp (List.mem_cons_of_mem y) fun ⟨x, hx, hzx⟩ => ⟨x, ?_, hzx⟩
        rw [List.find?_cons_of_neg (by simpa using hy), hx]

lemma find_updateFirst_self (hf : ∀ y, key (f y) = key y) :
    (updateFirst key k f l).find? (key · = k) = (l.find? (key · = k)).map f := by
  induction l with
  | nil => rfl
  | cons y ys ih =>
    rw [updateFirst]
    by_cases hy : key y = k
    · simp [hy, hf]
    · simp [hy, ih]

lemma find_updateFirst_ne (hf : ∀ y, key (f y) = key y) (hne : k' ≠ k) :
    (updateFirst key k f l).find? (key · = k') = l.find? (key · = k') := by
  induction l with
  | nil => rfl
  | cons y ys ih =>
    rw [updateFirst]
    by_cases hy : key y = k
    · simp [hy, hf, Ne.symm hne]
    · rw [if_neg hy, List.find?_cons, List.find?_cons, ih]

omit [DecidableEq κ] in
lemma find_eq_some_of_mem [DecidableEq κ] (h : (l.map key).Nodup) (hx : x ∈ l) :
    l.find? (key · = key x) = some x := by
  induction l with
  | nil => cases hx
  | cons y ys ih =>
    rw [List.map_cons, List.nodup_cons] at h
    rcases List.mem_cons.mp hx with rfl | hx
    · simp
    · have hne : key y ≠ key x := fun heq => h.1 (heq ▸ List.mem_map_of_mem hx)
      simp [hne, ih h.2 hx]

end UpdateFirst

lemma getElem?_filterMap_of_isSome {α β : Type} {f : α → Option β} {l : List α} (h : ∀ x ∈ l, (f x).isSome = true)
    (k : ℕ) : (l.filterMap f)[k]? = l[k]?.bind f := by
  induction l generalizing k with
  | nil => rfl
  | cons x l ih =>
    obtain ⟨y, hy⟩ := Option.isSome_iff_exists.mp (h x List.mem_cons_self)
    rw [List.filterMap_cons_some hy]
    cases k with
    | zero => exact hy.symm
    | succ k => exact ih (fun z hz => h z (List.mem_cons_of_mem _ hz)) k

end CiaoHost.Lib.KeyedList
