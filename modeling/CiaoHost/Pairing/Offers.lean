import CiaoHost.Pairing.Ledger

/-! What holds of the offers over every run of the manager: the current one is the only open one unless a claim
whose offer was rejected is completed late, accepted offers stay, and each offer is claimed once more than it is
handed back at most. -/

namespace CiaoHost.Pairing

open Lib PairingManager

namespace Ledger

variable {hash : Capability → BitVec 256} {L L' : Ledger} {call : Call}

def Open (offer : Offer) : Prop := offer.state = .pending ∨ offer.state.isValidating = true

def Sole (L : Ledger) : Prop :=
  ∀ id offer, L.manager.offers.lookup id = some offer → Open offer → L.manager.currentPending = some id

structure Kept (L : Ledger) : Prop where
  current : L.manager.WellCurrent
  offered : ∀ id offer, L.manager.offers.lookup id = some offer → id ∈ L.drawn
  held : ∀ c ∈ L.unresolved, c.pairingId ∈ L.drawn ∧ ∀ offer, L.manager.offers.lookup c.pairingId = some offer →
    offer.state = .validating c.token ∨ ∃ message, offer.state = .rejected message
  apart : (L.unresolved.map PairingClaim.pairingId).Nodup
  counted : ∀ id, L.claims id ≤ L.aborts id + 1
  open_counted : ∀ id offer, L.manager.offers.lookup id = some offer → offer.state = .pending → L.claims id ≤ L.aborts id
  undrawn : ∀ id, id ∉ L.drawn → L.claims id = 0

lemma Kept.start : Kept Ledger.start where
  current := .of_none rfl
  offered := nofun
  held := nofun
  apart := List.nodup_nil
  counted := fun _ => Nat.zero_le _
  open_counted := fun _ _ _ _ => Nat.zero_le _
  undrawn := fun _ _ => rfl

@[simp] lemma bump_self (count : PairingId → ℕ) (id : PairingId) : bump count id id = count id + 1 := if_pos rfl

section

variable {id : PairingId} {c : PairingClaim} {offer : Offer} {m retired : PairingManager} {state : OfferState}
  {drawn : Finset PairingId}

lemma bump_of_ne (count : PairingId → ℕ) {other : PairingId} (h : other ≠ id) : bump count id other = count other :=
  if_neg h

lemma Kept.of_mem_erase (h : L.Kept) {c' : PairingClaim} (hc : c ∈ L.unresolved) (hc' : c' ∈ L.unresolved.erase c) :
    c'.pairingId ≠ c.pairingId := by
  have hnodup : (c :: L.unresolved.erase c).map PairingClaim.pairingId |>.Nodup :=
    ((List.perm_cons_erase hc).map _).nodup_iff.mp h.apart
  rw [List.map_cons, List.nodup_cons] at hnodup
  intro heq
  exact hnodup.1 (heq ▸ List.mem_map_of_mem hc')

lemma Kept.set (h : L.Kept) (hoffer : L.manager.offers.lookup id = some offer) (hm : m.WellCurrent)
    (hoffers : m.offers = L.manager.setState id offer state) {unresolved : List PairingClaim}
    (hheld : ∀ c ∈ unresolved, c.pairingId ≠ id ∧ c ∈ L.unresolved ∨
      c.pairingId = id ∧ (state = .validating c.token ∨ ∃ message, state = .rejected message))
    (hapart : (unresolved.map PairingClaim.pairingId).Nodup) {claims aborts : PairingId → ℕ}
    (hother : ∀ id', id' ≠ id → claims id' = L.claims id' ∧ aborts id' = L.aborts id')
    (hcount : claims id ≤ aborts id + 1) (hopen : state = .pending → claims id ≤ aborts id) :
    Kept { L with manager := m, unresolved := unresolved, claims := claims, aborts := aborts } where
  current := hm
  offered := by
    intro id' offer' hid'
    rw [hoffers, lookup_setState] at hid'
    split at hid'
    · next heq => exact heq ▸ h.offered id offer hoffer
    · exact h.offered id' offer' hid'
  held := by
    intro c hc
    rw [hoffers, lookup_setState]
    rcases hheld c hc with ⟨hne, hc⟩ | ⟨heq, hstate⟩
    · rw [if_neg hne]
      exact h.held c hc
    · rw [if_pos heq]
      exact ⟨heq ▸ h.offered id offer hoffer, fun _ hset => Option.some.inj hset ▸ hstate⟩
  apart := hapart
  counted := by
    intro id'
    by_cases hid : id' = id
    · exact hid ▸ hcount
    · dsimp only
      rw [(hother id' hid).1, (hother id' hid).2]
      exact h.counted id'
  open_counted := by
    intro id' offer' hid' hpending
    rw [hoffers, lookup_setState] at hid'
    split at hid'
    · next heq =>
      cases hid'
      exact heq ▸ hopen hpending
    · next hne =>
      dsimp only
      rw [(hother id' hne).1, (hother id' hne).2]
      exact h.open_counted id' offer' hid' hpending
  undrawn := by
    intro id' hid'
    have hne : id' ≠ id := fun heq => hid' (heq ▸ h.offered id offer hoffer)
    exact (hother id' hne).1.trans (h.undrawn id' hid')

lemma Kept.not_held (h : L.Kept) (hoffer : L.manager.offers.lookup id = some offer)
    (hvalidating : offer.state.isValidating = false) (hrejected : ∀ message, offer.state ≠ .rejected message)
    (hc : c ∈ L.unresolved) : c.pairingId ≠ id := by
  rintro rfl
  rcases (h.held c hc).2 offer hoffer with hstate | ⟨message, hstate⟩
  · simp [hstate, OfferState.isValidating] at hvalidating
  · exact hrejected message hstate

lemma Kept.of_open (h : L.Kept) (hoffer : L.manager.offers.lookup id = some offer)
    (hpending : offer.state = .pending) (hc : c ∈ L.unresolved) : c.pairingId ≠ id :=
  h.not_held hoffer (by simp [hpending, OfferState.isValidating]) (by simp [hpending]) hc

lemma Kept.erased (h : L.Kept) (hc : c ∈ L.unresolved)
    (hoffer : L.manager.offers.lookup c.pairingId = some offer) (hm : m.WellCurrent)
    (hoffers : m.offers = L.manager.setState c.pairingId offer state) (hclosed : state ≠ .pending) :
    Kept { L with manager := m, unresolved := L.unresolved.erase c } :=
  h.set hoffer hm hoffers (fun _ hc' => .inl ⟨h.of_mem_erase hc hc', List.mem_of_mem_erase hc'⟩)
    (h.apart.sublist (List.erase_sublist.map _)) (fun _ _ => ⟨rfl, rfl⟩) (h.counted _) fun hpending => absurd hpending hclosed

lemma lookup_retired {now : ℕ} (hretired : (m.cleanup now).retireCurrent = some retired)
    (hoffer : retired.offers.lookup id = some offer) :
    m.offers.lookup id = some offer ∨
      ∃ old, m.offers.lookup id = some old ∧ old.state = .pending ∧ ∃ message, offer.state = .rejected message := by
  rcases retireCurrent_cases hretired with ⟨rfl, -⟩ | ⟨current, old, -, hold, hpending, rfl⟩
  · exact .inl (lookup_of_cleanup hoffer)
  · rw [lookup_setState] at hoffer
    split at hoffer
    · next heq =>
      cases hoffer
      exact .inr ⟨old, heq ▸ lookup_of_cleanup hold, hpending, _, rfl⟩
    · exact .inl (lookup_of_cleanup hoffer)

lemma Kept.thin (h : L.Kept) (hm : m.WellCurrent) (hdrawn : L.drawn ⊆ drawn)
    (hoffers : ∀ id offer, m.offers.lookup id = some offer →
      L.manager.offers.lookup id = some offer ∨ (∃ message, offer.state = .rejected message) ∧ id ∈ L.drawn ∨
        id ∉ L.drawn ∧ id ∈ drawn) : Kept { L with manager := m, drawn := drawn } where
  current := hm
  offered := by
    intro id offer hid
    rcases hoffers id offer hid with hold | ⟨-, hold⟩ | ⟨-, hnew⟩
    · exact hdrawn (h.offered id offer hold)
    · exact hdrawn hold
    · exact hnew
  held := by
    intro c hc
    refine ⟨hdrawn (h.held c hc).1, fun offer hoffer => ?_⟩
    rcases hoffers _ offer hoffer with hold | ⟨hrejected, -⟩ | ⟨hnew, -⟩
    · exact (h.held c hc).2 offer hold
    · exact .inr hrejected
    · exact absurd (h.held c hc).1 hnew
  apart := h.apart
  counted := h.counted
  open_counted := by
    intro id offer hid hpending
    rcases hoffers id offer hid with hold | ⟨⟨message, hrejected⟩, -⟩ | ⟨hnew, -⟩
    · exact h.open_counted id offer hold hpending
    · rw [hrejected] at hpending
      cases hpending
    · exact (h.undrawn id hnew).trans_le (Nat.zero_le _)
  undrawn := fun id hid => h.undrawn id fun hmem => hid (hdrawn hmem)

lemma Kept.turns (h : L.Kept) (hturns : L.Turns call L') : L'.Kept := by
  cases hturns with
  | still call unresolved hsub =>
    exact ⟨h.current, h.offered, fun c hc => h.held c (hsub.subset hc), h.apart.sublist (hsub.map _), h.counted,
      h.open_counted, h.undrawn⟩
  | idle message hnone =>
    exact ⟨.of_none rfl, h.offered, h.held, h.apart, h.counted, h.open_counted, h.undrawn⟩
  | expires call hoffer hpending =>
    exact h.set hoffer h.current.clear rfl (fun c hc => .inl ⟨h.of_open hoffer hpending hc, hc⟩) h.apart
      (fun _ _ => ⟨rfl, rfl⟩) (h.counted _) OfferState.noConfusion
  | @claimed id offer capability now c hoffer hpending hid =>
    subst hid
    have hcount := h.open_counted _ offer hoffer hpending
    refine h.set hoffer ?_ rfl ?_ ?_ (fun _ hne => ⟨bump_of_ne _ hne, rfl⟩) ?_ OfferState.noConfusion
    · apply h.current.set rfl
      · intro id' hid'
        exact .inr hid'
      · intro _
        exact .inr rfl
    · intro c' hc'
      rcases List.mem_cons.mp hc' with rfl | hc'
      · exact .inr ⟨rfl, .inl rfl⟩
      · exact .inl ⟨h.of_open hoffer hpending hc', hc'⟩
    · rw [List.map_cons, List.nodup_cons]
      refine ⟨fun hmem => ?_, h.apart⟩
      obtain ⟨c', hc', heq⟩ := List.mem_map.mp hmem
      exact h.of_open hoffer hpending hc' heq
    · rw [bump_self]
      exact Nat.succ_le_succ hcount
  | accepts endpointId now hc hoffer hstate => exact h.erased hc hoffer h.current.clear rfl OfferState.noConfusion
  | lapses endpointId now hc hoffer hlate | abandons now hc hoffer hstate =>
    exact h.erased hc hoffer (.of_none rfl) rfl OfferState.noConfusion
  | @returns c offer now hc hoffer hstate =>
    refine h.set hoffer ?_ rfl (fun _ hc' => .inl ⟨h.of_mem_erase hc hc', List.mem_of_mem_erase hc'⟩)
      (h.apart.sublist (List.erase_sublist.map _)) (fun _ hne => ⟨rfl, bump_of_ne _ hne⟩) ?_ (fun _ => ?_)
    · apply h.current.set rfl
      · intro id' hid'
        exact .inl (Option.some.inj hid').symm
      · intro _
        exact .inl rfl
    · rw [bump_self]
      exact (h.counted _).trans (Nat.le_succ _)
    · rw [bump_self]
      exact h.counted c.pairingId
  | connects hoffer hstate =>
    refine h.set hoffer ?_ rfl (fun c hc => .inl ⟨?_, hc⟩) h.apart (fun _ _ => ⟨rfl, rfl⟩) (h.counted _) OfferState.noConfusion
    · apply h.current.set rfl
      · intro id' hid'
        exact .inr hid'
      · intro hid
        -- an accepted offer is not the current one
        rcases h.current _ _ hid hoffer with hopen | hopen <;> simp [hstate, OfferState.isValidating] at hopen
    · exact h.not_held hoffer (by simp [hstate, OfferState.isValidating]) (by simp [hstate]) hc
  | @rejects id offer message hcurrent hoffer =>
    refine h.set hoffer (.of_none rfl) rfl (fun c hc => ?_) h.apart (fun _ _ => ⟨rfl, rfl⟩) (h.counted _) OfferState.noConfusion
    by_cases hid : c.pairingId = id
    · exact .inr ⟨hid, .inr ⟨message, rfl⟩⟩
    · exact .inl ⟨hid, hc⟩
  | refuses now id capability =>
    exact h.thin (h.current.cleanup now) (Finset.subset_insert ..) fun id' offer hid' => .inl (lookup_of_cleanup hid')
  | @creates now id capability retired offer hfresh hretired hpending =>
    refine h.thin ?_ (Finset.subset_insert ..) ?_
    · intro id' offer' hid' hoffer'
      cases hid'
      rw [KeyedMap.lookup_insert_self] at hoffer'
      cases hoffer'
      exact .inl hpending
    · intro id' offer' hid'
      rw [KeyedMap.lookup_insert] at hid'
      split at hid'
      · next heq => exact .inr (.inr (heq.symm ▸ ⟨hfresh, Finset.mem_insert_self ..⟩))
      · rcases lookup_retired hretired hid' with hold | ⟨old, hold, -, hrejected⟩
        · exact .inl hold
        · exact .inr (.inl ⟨hrejected, h.offered id' old hold⟩)

/-- A claim completed at or after the end of its offer's time does not withdraw another offer. -/
def Timely (L : Ledger) : Call → Prop
  | .complete c _ now => ∀ offer ∈ L.manager.offers.lookup c.pairingId, offer.expiresAt ≤ now →
    L.manager.currentPending = none ∨ L.manager.currentPending = some c.pairingId
  | _ => True

instance : ∀ call, Decidable (L.Timely call)
  | .complete c _ now => inferInstanceAs (Decidable (∀ offer ∈ L.manager.offers.lookup c.pairingId,
      offer.expiresAt ≤ now → L.manager.currentPending = none ∨ L.manager.currentPending = some c.pairingId))
  | .create .. | .claim .. | .abort .. | .markConnected .. | .rejectCurrent _ | .status .. => .isTrue trivial

lemma Sole.settle (h : L.Sole) {current : Option PairingId} (hclosed : ¬ Open { offer with state := state })
    (hcurrent : ∀ id', id' ≠ id → L.manager.currentPending = some id' → current = some id') :
    Sole { L with manager := ⟨L.manager.setState id offer state, current⟩ } := by
  intro id' offer' hoffer' hopen
  rw [lookup_setState] at hoffer'
  split at hoffer'
  · cases hoffer'
    exact absurd hopen hclosed
  · next hne => exact hcurrent id' hne (h id' offer' hoffer' hopen)

lemma Sole.keep (h : L.Sole) (hoffer : L.manager.offers.lookup id = some offer) (hopen : Open offer) :
    Sole { L with manager := ⟨L.manager.setState id offer state, some id⟩ } := by
  have hcurrent := h id offer hoffer hopen
  intro id' offer' hoffer' hopen'
  rw [lookup_setState] at hoffer'
  split at hoffer'
  · next heq => exact congrArg some heq.symm
  · exact hcurrent.symm.trans (h id' offer' hoffer' hopen')

lemma clearCurrent_of_ne {id' : PairingId} (hne : id' ≠ id) (h : m.currentPending = some id') :
    m.clearCurrent id = some id' := by
  rw [clearCurrent, h, if_neg (by simpa using hne)]

lemma not_open_of_settled (hpending : offer.state ≠ .pending)
    (hvalidating : offer.state.isValidating = false) : ¬ Open offer := by
  rintro (hopen | hopen)
  · exact hpending hopen
  · exact absurd hopen (by simp [hvalidating])

lemma Sole.creates (h : L.Sole) {now : ℕ} (hretired : (L.manager.cleanup now).retireCurrent = some retired) :
    Sole { L with manager := ⟨retired.offers.insert id offer, some id⟩, drawn := drawn } := by
  intro id' offer' hoffer' hopen
  rw [KeyedMap.lookup_insert] at hoffer'
  split at hoffer'
  · next heq => exact congrArg some heq.symm
  · -- the current offer was the only open one, and it is gone
    rcases retireCurrent_cases hretired with ⟨rfl, hsettled⟩ | ⟨current, old, hcurrent, -, -, rfl⟩
    · obtain ⟨hpending, hvalidating⟩ := hsettled id' offer' (h id' offer' (lookup_of_cleanup hoffer') hopen) hoffer'
      exact absurd hopen (not_open_of_settled hpending hvalidating)
    · rw [lookup_setState] at hoffer'
      split at hoffer'
      · cases hoffer'
        exact absurd hopen (not_open_of_settled OfferState.noConfusion rfl)
      · next hne =>
        exact absurd (Option.some.inj ((h id' offer' (lookup_of_cleanup hoffer') hopen).symm.trans hcurrent)) hne

lemma Sole.turns (h : L.Sole) (htimely : L.Timely call) (hturns : L.Turns call L') : L'.Sole := by
  cases hturns with
  | still call unresolved hsub => exact h
  | idle message hnone =>
    intro id offer hoffer hopen
    rw [hnone id (h id offer hoffer hopen)] at hoffer
    cases hoffer
  | expires call hoffer hpending =>
    exact h.settle (not_open_of_settled OfferState.noConfusion rfl) fun id' hne hid' => clearCurrent_of_ne hne hid'
  | @claimed id offer capability now c hoffer hpending hid =>
    have hkeep := @Sole.keep L id offer (.validating c.token) h hoffer (.inl hpending)
    have hcurrent := h id offer hoffer (.inl hpending)
    intro id' offer' hoffer' hopen'
    exact hcurrent.trans (hkeep id' offer' hoffer' hopen')
  | accepts endpointId now hc hoffer hstate =>
    exact h.settle (not_open_of_settled OfferState.noConfusion rfl) fun id' hne hid' => clearCurrent_of_ne hne hid'
  | @lapses c offer endpointId now hc hoffer hlate =>
    refine h.settle (not_open_of_settled OfferState.noConfusion rfl) fun id' hne hid' => ?_
    rcases htimely offer hoffer hlate with hnone | hown
    · cases hnone.symm.trans hid'
    · exact absurd (Option.some.inj (hid'.symm.trans hown)) hne
  | @abandons c offer now hc hoffer hstate =>
    have hown := h _ offer hoffer (.inr (by rw [hstate]; rfl))
    refine h.settle (not_open_of_settled OfferState.noConfusion rfl) fun id' hne hid' => ?_
    exact absurd (Option.some.inj (hid'.symm.trans hown)) hne
  | returns now hc hoffer hstate => exact h.keep hoffer (.inr (by rw [hstate]; rfl))
  | @connects id offer endpointId connected hoffer hstate =>
    exact h.settle (not_open_of_settled OfferState.noConfusion rfl) fun id' _ hid' => hid'
  | @rejects id offer message hcurrent hoffer =>
    refine h.settle (not_open_of_settled OfferState.noConfusion rfl) fun id' hne hid' => ?_
    exact absurd (Option.some.inj (hid'.symm.trans hcurrent)) hne
  | refuses now id capability =>
    exact fun id' offer hid' hopen => h id' offer (lookup_of_cleanup hid') hopen
  | creates now capability hfresh hretired hpending => exact h.creates hretired

/-- Accepted offers stay accepted by the same device, but for those a call removes by age. -/
def Remains (L : Ledger) (call : Call) (L' : Ledger) : Prop :=
  ∀ id offer endpointId connected, L.manager.offers.lookup id = some offer →
    offer.state = .accepted endpointId connected →
    (∃ connected', L'.manager.offers.lookup id = some { offer with state := .accepted endpointId connected' }) ∨
      L'.manager.offers.lookup id = none ∧ ∃ now pairingId capability, call = .create now pairingId capability ∧
        isRetained now offer = false

lemma Remains.of_offers (h : L'.manager.offers = L.manager.offers) : Remains L call L' := by
  intro id offer endpointId connected hoffer hstate
  refine .inl ⟨connected, ?_⟩
  rw [h, hoffer, ← hstate]

lemma Remains.of_set (hoffers : L'.manager.offers = L.manager.setState id offer state)
    (hoffer : L.manager.offers.lookup id = some offer)
    (hopen : ∀ endpointId connected, offer.state ≠ .accepted endpointId connected) : Remains L call L' := by
  intro id' offer' endpointId connected hoffer' hstate
  have hne : id' ≠ id := by
    rintro rfl
    cases hoffer.symm.trans hoffer'
    exact hopen endpointId connected hstate
  refine .inl ⟨connected, ?_⟩
  rw [hoffers, lookup_setState, if_neg hne, hoffer', ← hstate]

lemma lookup_cleanup (now : ℕ) (hoffer : m.offers.lookup id = some offer) :
    (m.cleanup now).offers.lookup id = some offer ∨
      (m.cleanup now).offers.lookup id = none ∧ isRetained now offer = false := by
  rw [cleanup, KeyedMap.lookup_retain, hoffer, Option.filter_some]
  cases isRetained now offer with
  | true => exact .inl rfl
  | false => exact .inr ⟨rfl, rfl⟩

lemma lookup_retireCurrent (h : m.retireCurrent = some retired) :
    (∀ offer, m.offers.lookup id = some offer → offer.state ≠ .pending → retired.offers.lookup id = some offer) ∧
      (m.offers.lookup id = none → retired.offers.lookup id = none) := by
  rcases retireCurrent_cases h with ⟨rfl, -⟩ | ⟨current, old, -, hold, hpending, rfl⟩
  · exact ⟨fun _ hoffer _ => hoffer, fun hnone => hnone⟩
  · by_cases hid : id = current
    · subst hid
      refine ⟨fun offer hoffer hstate => ?_, fun hnone => ?_⟩
      · cases hold.symm.trans hoffer
        exact absurd hpending hstate
      · cases hold.symm.trans hnone
    · rw [lookup_setState, if_neg hid]
      exact ⟨fun _ hoffer _ => hoffer, fun hnone => hnone⟩

lemma Kept.remains (h : L.Kept) (hturns : L.Turns call L') : Remains L call L' := by
  have hheld : ∀ {c : PairingClaim} {offer : Offer}, c ∈ L.unresolved →
      L.manager.offers.lookup c.pairingId = some offer →
      ∀ endpointId connected, offer.state ≠ .accepted endpointId connected := by
    intro c offer hc hoffer endpointId connected hstate
    rcases (h.held c hc).2 offer hoffer with hvalidating | ⟨message, hrejected⟩
    · cases hstate.symm.trans hvalidating
    · cases hstate.symm.trans hrejected
  cases hturns with
  | still call unresolved hsub | idle message hnone => exact .of_offers rfl
  | expires call hoffer hpending | claimed capability now hoffer hpending hid =>
    exact .of_set rfl hoffer (by simp [hpending])
  | accepts endpointId now hc hoffer hstate | lapses endpointId now hc hoffer hlate =>
    exact .of_set rfl hoffer (hheld hc hoffer)
  | abandons now hc hoffer hstate | returns now hc hoffer hstate => exact .of_set rfl hoffer (hheld hc hoffer)
  | @connects id offer endpointId connected hoffer hstate =>
    intro id' offer' endpointId' connected' hoffer' hstate'
    by_cases hid : id' = id
    · subst hid
      cases hoffer.symm.trans hoffer'
      cases hstate.symm.trans hstate'
      refine .inl ⟨true, ?_⟩
      rw [lookup_setState, if_pos rfl]
    · refine .inl ⟨connected', ?_⟩
      rw [lookup_setState, if_neg hid, hoffer', ← hstate']
  | rejects message hcurrent hoffer =>
    refine .of_set rfl hoffer fun endpointId connected hstate => ?_
    rcases h.current _ _ hcurrent hoffer with hopen | hopen <;> simp [hstate, OfferState.isValidating] at hopen
  | refuses now id capability =>
    intro id' offer endpointId connected hoffer hstate
    rcases lookup_cleanup now hoffer with hkept | ⟨hgone, hage⟩
    · exact .inl ⟨connected, hkept.trans (by rw [← hstate])⟩
    · exact .inr ⟨hgone, now, id, capability, rfl, hage⟩
  | @creates now id capability retired new hfresh hretired hpending =>
    intro id' offer endpointId connected hoffer hstate
    have hne : id' ≠ id := fun heq => hfresh (heq ▸ h.offered id' offer hoffer)
    have hretire := @lookup_retireCurrent id' _ _ hretired
    dsimp only
    rw [KeyedMap.lookup_insert_ne hne]
    rcases lookup_cleanup now hoffer with hkept | ⟨hgone, hage⟩
    · exact .inl ⟨connected, (hretire.1 offer hkept (by simp [hstate])).trans (by rw [← hstate])⟩
    · exact .inr ⟨hretire.2 hgone, now, id, capability, rfl, hage⟩

end

theorem offers_settle_once (hash : Capability → BitVec 256) :
    (∀ L, Runs.Reaches (step hash) (fun L call => L.Fresh call ∧ L.Timely call) start L →
      (∀ id offer, L.manager.offers.lookup id = some offer → Open offer → L.manager.currentPending = some id)) ∧
    ∀ L, Runs.Reaches (step hash) Fresh start L →
      (∀ call, L.Fresh call → Remains L call (L.step hash call)) ∧ ∀ id, L.claims id ≤ L.aborts id + 1 := by
  constructor
  · intro L hreach
    have hboth : L.Kept ∧ L.Sole := by
      apply hreach.invariant (P := fun L => L.Kept ∧ L.Sole)
      · exact ⟨Kept.start, nofun⟩
      · intro L call h hallowed
        have hturns := @step_turns hash _ _ hallowed.1
        exact ⟨h.1.turns hturns, h.2.turns hallowed.2 hturns⟩
    exact hboth.2
  · intro L hreach
    have hkept : L.Kept := by
      apply hreach.invariant (P := Kept)
      · exact Kept.start
      · intro L call h hfresh
        exact h.turns (step_turns hfresh)
    exact ⟨fun call hfresh => hkept.remains (step_turns hfresh), hkept.counted⟩

namespace Sample

def digest : Capability → BitVec 256 := id

def first : PairingClaim := ⟨1, 7, 300, 11⟩

def paired : List Call :=
  [.create 0 1 7, .claim 1 7 1 11, .abort first 2, .claim 1 7 3 11, .complete first "device" 4,
    .markConnected 1 "device"]

def rejected : List Call :=
  [.create 0 1 7, .claim 1 7 1 11, .rejectCurrent "Pairing cancelled.", .create 10 2 8, .complete first "device" 300]

end Sample

theorem offers_settle_once_paired : (∀ call, (Sample.paired.foldl (step Sample.digest) start).Fresh call →
      Remains (Sample.paired.foldl (step Sample.digest) start) call
        ((Sample.paired.foldl (step Sample.digest) start).step Sample.digest call)) ∧
    ∀ id offer, (Sample.paired.foldl (step Sample.digest) start).manager.offers.lookup id = some offer → Open offer →
      (Sample.paired.foldl (step Sample.digest) start).manager.currentPending = some id :=
  ⟨((offers_settle_once Sample.digest).2 _ (Runs.Reaches.refl.of_run (by decide +kernel))).1,
    (offers_settle_once Sample.digest).1 _ (Runs.Reaches.refl.of_run (by decide +kernel))⟩

theorem late_completion_withdraws : Runs.Allowed (step Sample.digest) Fresh start Sample.rejected ∧
    ((Sample.rejected.foldl (step Sample.digest) start).manager.offers.lookup 2).map Offer.state = some .pending ∧
    (Sample.rejected.foldl (step Sample.digest) start).manager.currentPending = none := by
  decide +kernel

end Ledger

end CiaoHost.Pairing
