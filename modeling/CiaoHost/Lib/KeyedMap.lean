import Mathlib.Data.List.AList
import Mathlib.Tactic

/-! Finite maps with one value a key, and the bulk updates a hash table offers. -/

namespace CiaoHost.Lib

abbrev KeyedMap (K V : Type) := AList (fun _ : K => V)

namespace KeyedMap

variable {K V : Type} [DecidableEq K]

def lookup (m : KeyedMap K V) (k : K) : Option V := AList.lookup k m

def insert (m : KeyedMap K V) (k : K) (v : V) : KeyedMap K V := AList.insert k v m

def erase (m : KeyedMap K V) (k : K) : KeyedMap K V := AList.erase k m

def retain (p : K → V → Bool) (m : KeyedMap K V) : KeyedMap K V where
  entries := m.entries.filter fun e => p e.1 e.2
  nodupKeys := m.nodupKeys.sublist List.filter_sublist

def mapValues (f : V → V) (m : KeyedMap K V) : KeyedMap K V where
  entries := m.entries.map fun e => ⟨e.1, f e.2⟩
  nodupKeys := by
    have h := m.nodupKeys
    simp only [List.NodupKeys, List.keys, List.map_map] at h ⊢
    exact h

variable {m : KeyedMap K V} {k k' : K} {v : V}

lemma mem_entries : (⟨k, v⟩ : Sigma fun _ : K => V) ∈ m.entries ↔ m.lookup k = some v :=
  (AList.mem_lookup_iff (s := m)).symm

@[simp] lemma lookup_empty (k : K) : (∅ : KeyedMap K V).lookup k = none := AList.lookup_empty k

@[simp] lemma lookup_insert_self (m : KeyedMap K V) (k : K) (v : V) : (m.insert k v).lookup k = some v :=
  AList.lookup_insert m

@[simp] lemma lookup_insert_ne (h : k' ≠ k) : (m.insert k v).lookup k' = m.lookup k' :=
  AList.lookup_insert_ne h

lemma lookup_insert (m : KeyedMap K V) (k k' : K) (v : V) :
    (m.insert k v).lookup k' = if k' = k then some v else m.lookup k' := by
  split
  · next h => subst h; simp
  · next h => simp [h]

@[simp] lemma lookup_erase_self (m : KeyedMap K V) (k : K) : (m.erase k).lookup k = none :=
  AList.lookup_erase k m

@[simp] lemma lookup_erase_ne (h : k' ≠ k) : (m.erase k).lookup k' = m.lookup k' :=
  AList.lookup_erase_ne h

lemma lookup_erase_some (h : (m.erase k).lookup k' = some v) : k' ≠ k ∧ m.lookup k' = some v := by
  have hne : k' ≠ k := by
    rintro rfl
    simp at h
  exact ⟨hne, by rwa [lookup_erase_ne hne] at h⟩

@[simp] lemma lookup_retain (p : K → V → Bool) (m : KeyedMap K V) (k : K) :
    (retain p m).lookup k = (m.lookup k).filter (p k) := by
  apply Option.ext
  intro v
  rw [Option.filter_eq_some_iff, ← mem_entries, ← mem_entries]
  simp [retain]

@[simp] lemma lookup_mapValues (f : V → V) (m : KeyedMap K V) (k : K) :
    (mapValues f m).lookup k = (m.lookup k).map f := by
  apply Option.ext
  intro v
  simp only [Option.map_eq_some_iff, ← mem_entries, mapValues, List.mem_map]
  constructor
  · rintro ⟨e, he, hv⟩
    cases hv
    exact ⟨e.2, he, rfl⟩
  · rintro ⟨w, hw, rfl⟩
    exact ⟨⟨k, w⟩, hw, rfl⟩

@[simp] lemma insert_insert (m : KeyedMap K V) (k : K) (v v' : V) :
    (m.insert k v).insert k v' = m.insert k v' := AList.insert_insert m

lemma lookup_insert_cases {v' : V} (h : (m.insert k v).lookup k' = some v') :
    (k' = k ∧ v' = v) ∨ (k' ≠ k ∧ m.lookup k' = some v') := by
  rw [lookup_insert] at h
  split at h
  · next hk => exact .inl ⟨hk, (Option.some.inj h).symm⟩
  · next hk => exact .inr ⟨hk, h⟩

lemma filter_flatMap_entries {β : Type} (m : KeyedMap K V) (g : V → List β) (k : K) :
    ((m.entries.flatMap fun e => (g e.2).map fun b => (e.1, b)).filter (·.1 = k)).map (·.2) =
      (m.lookup k).elim [] g := by
  have hone : ∀ (k' : K) (bs : List β), ((bs.map fun b => (k', b)).filter (·.1 = k)).map (·.2) =
      if k' = k then bs else [] := by
    intro k' bs
    by_cases hk : k' = k <;> simp [hk, List.filter_map, Function.comp_def]
  obtain ⟨entries, hnodup⟩ := m
  change _ = (List.dlookup k entries).elim [] g
  induction entries with
  | nil => simp
  | cons e es ih =>
    rw [List.nodupKeys_cons] at hnodup
    rw [List.flatMap_cons, List.filter_append, List.map_append, ih hnodup.2, hone]
    by_cases hk : e.1 = k
    · subst hk
      have hnone : List.dlookup e.1 es = none := List.dlookup_eq_none.mpr hnodup.1
      simp [hnone, show List.dlookup e.1 (e :: es) = some e.2 from List.dlookup_cons_eq es e.1 e.2]
    · simp [hk, List.dlookup_cons_ne _ _ (Ne.symm hk)]

section Fold

variable {α : Type} {key : α → K} {val : α → V} {l : List α}

lemma lookup_foldl_insert_of_lookup (hm : m.lookup k = some v) (hagree : ∀ y ∈ l, key y = k → val y = v) :
    (l.foldl (fun m y => m.insert (key y) (val y)) m).lookup k = some v := by
  induction l generalizing m with
  | nil => exact hm
  | cons y l ih =>
    rw [List.foldl_cons]
    apply ih
    · rw [lookup_insert]
      split
      · next hk => rw [hagree y List.mem_cons_self hk.symm]
      · exact hm
    · exact fun z hz => hagree z (List.mem_cons_of_mem _ hz)

lemma lookup_foldl_insert {x : α} (hx : x ∈ l) (hagree : ∀ y ∈ l, key y = key x → val y = val x)
    (m : KeyedMap K V) : (l.foldl (fun m y => m.insert (key y) (val y)) m).lookup (key x) = some (val x) := by
  induction l generalizing m with
  | nil => cases hx
  | cons y l ih =>
    rw [List.foldl_cons]
    have hlater : ∀ z ∈ l, key z = key x → val z = val x := fun z hz => hagree z (List.mem_cons_of_mem _ hz)
    rcases List.mem_cons.mp hx with rfl | hx
    · exact lookup_foldl_insert_of_lookup (lookup_insert_self _ _ _) hlater
    · exact ih hx hlater _

lemma of_lookup_foldl_insert (h : (l.foldl (fun m y => m.insert (key y) (val y)) m).lookup k = some v) :
    (∃ y ∈ l, key y = k ∧ val y = v) ∨ m.lookup k = some v := by
  induction l generalizing m with
  | nil => exact .inr h
  | cons y l ih =>
    rcases ih h with ⟨z, hz, hfound⟩ | hm
    · exact .inl ⟨z, List.mem_cons_of_mem _ hz, hfound⟩
    · rcases lookup_insert_cases hm with ⟨rfl, rfl⟩ | ⟨-, hm⟩
      · exact .inl ⟨y, List.mem_cons_self, rfl, rfl⟩
      · exact .inr hm

lemma lookup_foldl_insert_other (h : ∀ y ∈ l, key y ≠ k) (m : KeyedMap K V) :
    (l.foldl (fun m y => m.insert (key y) (val y)) m).lookup k = m.lookup k := by
  induction l generalizing m with
  | nil => rfl
  | cons y l ih =>
    rw [List.foldl_cons, ih fun z hz => h z (List.mem_cons_of_mem _ hz)]
    exact lookup_insert_ne (h y List.mem_cons_self).symm

end Fold

section Sum

def sumOver (g : K → V → ℕ) (m : KeyedMap K V) : ℕ := (m.entries.map fun e => g e.1 e.2).sum

def sumBy (f : V → ℕ) (m : KeyedMap K V) : ℕ := (m.entries.map fun e => f e.2).sum

variable (g : K → V → ℕ) (f : V → ℕ) (m : KeyedMap K V) (k : K)

lemma sumOver_erase : sumOver g (m.erase k) + ((m.lookup k).map (g k)).getD 0 = sumOver g m := by
  obtain ⟨entries, hnodup⟩ := m
  change ((entries.kerase k).map fun e => g e.1 e.2).sum + ((entries.dlookup k).map (g k)).getD 0 =
    (entries.map fun e => g e.1 e.2).sum
  induction entries with
  | nil => rfl
  | cons e es ih =>
    rw [List.nodupKeys_cons] at hnodup
    by_cases hk : e.1 = k
    · subst hk
      simp [show List.dlookup e.1 (e :: es) = some e.2 from List.dlookup_cons_eq es e.1 e.2, Nat.add_comm]
    · rw [List.kerase_cons_ne (Ne.symm hk), List.dlookup_cons_ne _ _ (Ne.symm hk), List.map_cons, List.sum_cons,
        List.map_cons, List.sum_cons, ← ih hnodup.2, Nat.add_assoc]

lemma sumOver_insert (v : V) : sumOver g (m.insert k v) = g k v + sumOver g (m.erase k) := by
  change (((m.entries.kinsert k v).map fun e => g e.1 e.2)).sum = _
  rw [List.kinsert_def, List.map_cons, List.sum_cons]
  rfl

lemma sumOver_erase_le : sumOver g (m.erase k) ≤ sumOver g m := by
  rw [← sumOver_erase g m k]
  exact Nat.le_add_right _ _

lemma sumBy_erase : sumBy f (m.erase k) + ((m.lookup k).map f).getD 0 = sumBy f m :=
  sumOver_erase (fun _ => f) m k

lemma sumBy_insert (v : V) : sumBy f (m.insert k v) = f v + sumBy f (m.erase k) :=
  sumOver_insert (fun _ => f) m k v

end Sum

end KeyedMap

end CiaoHost.Lib
