import CiaoHost.Codex.Adopt

/-! The items of a thread's record, each under the vendor's name for it and the source its row gets. -/

namespace CiaoHost.Codex

open Protocol Session Lib Lib.Checks

structure VendorItem where
  turnId : String
  itemId : String
  deriving DecidableEq, Repr

abbrev Record := List (VendorItem × String)

variable (keyedDigest : String → String → String → String)

abbrev NamedEntries := List (VendorItem × NormalizedTimelineEntry)

def nameItems (turnId : String) (timestamp : ℕ) : NamedEntries → List ThreadItem → NamedEntries
  | named, [] => named
  | named, item :: rest =>
    match mapItem keyedDigest item turnId named.length timestamp with
    | some entry => nameItems turnId timestamp (named ++ [(⟨turnId, item.id.getD ""⟩, entry)]) rest
    | none => nameItems turnId timestamp named rest

def nameTurns : NamedEntries → List ThreadTurn → NamedEntries
  | named, [] => named
  | named, turn :: rest =>
    nameTurns (nameItems keyedDigest (turn.id.getD "") (max (turn.startedAt.getD 1) 1) named turn.items) rest

def canonicalItems (turns : Option (List ThreadTurn)) : Record :=
  (nameTurns keyedDigest [] (turns.getD [])).map fun x => (x.1, x.2.sourceId)

variable {keyedDigest}

lemma nameItems_entries (turnId : String) (timestamp : ℕ) (named : NamedEntries) (items : List ThreadItem) :
    (nameItems keyedDigest turnId timestamp named items).map Prod.snd =
      mapItems keyedDigest turnId timestamp (named.map Prod.snd) items := by
  induction items generalizing named with
  | nil => rfl
  | cons item rest ih =>
    rw [nameItems, mapItems, List.length_map]
    cases mapItem keyedDigest item turnId named.length timestamp with
    | some entry =>
      dsimp only
      rw [ih, List.map_append, List.map_singleton]
    | none => exact ih named

lemma codexRunId_ne (turnId : String) : codexRunId keyedDigest turnId ≠ "" := by
  intro hempty
  have hlist := congrArg String.toList hempty
  rw [codexRunId, String.toList_append] at hlist
  cases hlist

lemma nameTurns_entries (named : NamedEntries) (prompt : Option String) (turns : List ThreadTurn) :
    (nameTurns keyedDigest named turns).map Prod.snd =
      (mapTurns keyedDigest "" (named.map Prod.snd, prompt) turns).1 := by
  induction turns generalizing named with
  | nil => rfl
  | cons turn rest ih =>
    rw [nameTurns, mapTurns, if_neg (codexRunId_ne _), ih, nameItems_entries]

variable {turns : Option (List ThreadTurn)}

lemma mapThreadHistory_entries (hbound : (canonicalItems keyedDigest turns).length ≤ maxHistoryEntries) :
    (mapThreadHistory keyedDigest turns "").entries = (nameTurns keyedDigest [] (turns.getD [])).map Prod.snd := by
  have hentries := @nameTurns_entries keyedDigest [] none (turns.getD [])
  rw [canonicalItems, List.length_map] at hbound
  have hlength := congrArg List.length hentries
  rw [List.length_map, List.map_nil] at hlength
  rw [mapThreadHistory]
  dsimp only
  rw [if_neg (by omega)]
  exact hentries.symm

lemma mapThreadHistory_sources (hbound : (canonicalItems keyedDigest turns).length ≤ maxHistoryEntries) :
    (mapThreadHistory keyedDigest turns "").entries.map NormalizedTimelineEntry.sourceId =
      (canonicalItems keyedDigest turns).map Prod.snd := by
  rw [mapThreadHistory_entries hbound, canonicalItems, List.map_map, List.map_map]
  rfl

/-! Every row is valid, and its source names its place. -/

def Placed (keyedDigest : String → String → String → String) (named : NamedEntries) : Prop :=
  ∀ k x, named[k]? = some x → x.2.validate = .ok () ∧
    ∃ kind, x.2.sourceId = historySourceId keyedDigest kind x.1.turnId x.1.itemId k

lemma mapItem_some {item : ThreadItem} {turnId : String} {index timestamp : ℕ} {entry : NormalizedTimelineEntry}
    (h : mapItem keyedDigest item turnId index timestamp = some entry) : entry.validate = .ok () ∧
      ∃ kind, entry.sourceId = historySourceId keyedDigest kind turnId (item.id.getD "") index := by
  rw [mapItem] at h
  obtain ⟨kind, -, h⟩ := Option.bind_eq_some_iff.mp h
  dsimp only at h
  split at h
  · next hvalid =>
    rw [Option.some.injEq] at h
    subst h
    exact ⟨hvalid, kind, rfl⟩
  · cases h

variable {named : NamedEntries}

lemma Placed.nameItems (h : Placed keyedDigest named) (turnId : String) (timestamp : ℕ)
    (items : List ThreadItem) : Placed keyedDigest (nameItems keyedDigest turnId timestamp named items) := by
  induction items generalizing named with
  | nil => exact h
  | cons item rest ih =>
    rw [Codex.nameItems]
    split
    · next entry hentry =>
      apply ih
      intro k x hx
      rcases Nat.lt_or_ge k named.length with hk | hk
      · rw [List.getElem?_append_left hk] at hx
        exact h k x hx
      · rw [List.getElem?_append_right hk] at hx
        obtain ⟨hlt, hget⟩ := List.getElem?_eq_some_iff.mp hx
        have hlast : k = named.length := by
          rw [List.length_singleton] at hlt
          omega
        subst hlast
        simp only [Nat.sub_self, List.getElem_cons_zero] at hget
        subst hget
        exact mapItem_some hentry
    · exact ih h

lemma Placed.nameTurns (h : Placed keyedDigest named) (turns : List ThreadTurn) :
    Placed keyedDigest (nameTurns keyedDigest named turns) := by
  induction turns generalizing named with
  | nil => exact h
  | cons turn rest ih => exact ih (h.nameItems _ _ _)

lemma placed_nameTurns (turns : List ThreadTurn) : Placed keyedDigest (nameTurns keyedDigest [] turns) := by
  apply Placed.nameTurns
  intro k x hx
  cases hx

lemma mapThreadHistory_valid (hbound : (canonicalItems keyedDigest turns).length ≤ maxHistoryEntries) :
    ∀ entry ∈ (mapThreadHistory keyedDigest turns "").entries, entry.validate = .ok () := by
  intro entry hentry
  rw [mapThreadHistory_entries hbound] at hentry
  obtain ⟨x, hx, rfl⟩ := List.mem_map.mp hentry
  obtain ⟨k, hk⟩ := List.mem_iff_getElem?.mp hx
  exact (placed_nameTurns _ k x hk).1

lemma eq_of_append_separator {α : Type} [DecidableEq α] {c : α} {x y d e : List α} (hd : c ∉ d) (he : c ∉ e)
    (h : x ++ c :: d = y ++ c :: e) : d = e := by
  have hread : ∀ (x d : List α), c ∉ d → (x ++ c :: d).reverse.takeWhile (· ≠ c) = d.reverse := by
    intro x d hd
    rw [List.reverse_append, List.reverse_cons, List.append_assoc, List.takeWhile_append_of_pos]
    · simp
    · intro a ha
      rw [List.mem_reverse] at ha
      rw [decide_eq_true_eq]
      rintro rfl
      exact hd ha
  have hsame := congrArg (fun l => l.reverse.takeWhile (· ≠ c)) h
  rw [hread x d hd, hread y e he] at hsame
  exact List.reverse_injective hsame

lemma separator_not_digit (n : ℕ) : '\x00' ∉ (toString n).toList := by
  intro hmem
  rw [Nat.toString_eq_ofList_toDigits, String.toList_ofList] at hmem
  have hdigit := Nat.isDigit_of_mem_toDigits (by decide) (by decide) hmem
  cases hdigit

lemma historySourceId_index (hdigest : ∀ kind kind' value value',
      keyedDigest codexHistoryDomain kind value = keyedDigest codexHistoryDomain kind' value' → value = value')
    {kind kind' turnId turnId' itemId itemId' : String} {j k : ℕ}
    (h : historySourceId keyedDigest kind turnId itemId j = historySourceId keyedDigest kind' turnId' itemId' k) :
    j = k := by
  have hvalue := congrArg String.toList (hdigest _ _ _ _ ((String.append_right_inj _).mp h))
  simp only [String.toList_append, List.append_assoc] at hvalue
  have hdigits : (toString j).toList = (toString k).toList := by
    apply eq_of_append_separator (c := '\x00') (x := turnId.toList ++ '\x00' :: itemId.toList)
      (y := turnId'.toList ++ '\x00' :: itemId'.toList) (separator_not_digit j) (separator_not_digit k)
    simpa using hvalue
  simp only [Nat.toString_eq_ofList_toDigits, String.toList_ofList] at hdigits
  rw [← @Nat.ofDigitChars_ten_toDigits j, hdigits, Nat.ofDigitChars_ten_toDigits]

theorem canonicalItems_distinct (hdigest : ∀ kind kind' value value',
      keyedDigest codexHistoryDomain kind value = keyedDigest codexHistoryDomain kind' value' → value = value')
    (turns : Option (List ThreadTurn)) : ((canonicalItems keyedDigest turns).map Prod.snd).Nodup := by
  rw [canonicalItems, List.map_map, List.nodup_iff_getElem?_ne_getElem?]
  intro j k hjk hk hsame
  rw [List.length_map] at hk
  have hj : j < (nameTurns keyedDigest [] (turns.getD [])).length := by omega
  simp only [List.getElem?_map, List.getElem?_eq_getElem hj, List.getElem?_eq_getElem hk, Option.map_some,
    Option.some.injEq, Function.comp_apply] at hsame
  obtain ⟨-, kind, hsource⟩ := placed_nameTurns _ j _ (List.getElem?_eq_getElem hj)
  obtain ⟨-, kind', hsource'⟩ := placed_nameTurns _ k _ (List.getElem?_eq_getElem hk)
  rw [hsource, hsource'] at hsame
  exact absurd (historySourceId_index hdigest hsame) (by omega)

end CiaoHost.Codex
