import CiaoHost.Pairing.Streams
import CiaoHost.Lib.Runs

/-! Whom pairing authorises: an offer that is being committed stays that way until its own stream
settles it, so a device is written for exactly the streams that are accepted. -/

namespace CiaoHost.Pairing

open Lib

namespace PairingManager

variable {hash : Capability → BitVec 256} {m m' : PairingManager} {id : PairingId} {offer : Offer} {state : OfferState} {now token : ℕ}

@[simp] lemma lookup_setState (m : PairingManager) (id id' : PairingId) (offer : Offer) (state : OfferState) :
    (m.setState id offer state).lookup id' = if id' = id then some { offer with state := state } else m.offers.lookup id' :=
  KeyedMap.lookup_insert ..

lemma bind_lookup {id : Option PairingId} {found : PairingId × Offer}
    (h : (id.bind fun current => (m.offers.lookup current).map (current, ·)) = some found) :
    id = some found.1 ∧ m.offers.lookup found.1 = some found.2 := by
  obtain ⟨current, hid, hfind⟩ := Option.bind_eq_some_iff.mp h
  obtain ⟨offer, hoffer, rfl⟩ := Option.map_eq_some_iff.mp hfind
  exact ⟨hid, hoffer⟩

lemma lookup_of_cleanup (h : (m.cleanup now).offers.lookup id = some offer) : m.offers.lookup id = some offer := by
  rw [cleanup, KeyedMap.lookup_retain, Option.filter_eq_some_iff] at h
  exact h.1

lemma retireCurrent_cases (h : m.retireCurrent = some m') :
    (m' = { m with currentPending := none } ∧ ∀ id offer, m.currentPending = some id →
      m.offers.lookup id = some offer → offer.state ≠ .pending ∧ offer.state.isValidating = false) ∨
    ∃ id offer, m.currentPending = some id ∧ m.offers.lookup id = some offer ∧ offer.state = .pending ∧
      m' = ⟨m.setState id offer (.rejected "Replaced by a newer pairing code."), none⟩ := by
  rw [retireCurrent] at h
  split at h
  · next hnone =>
    cases h
    refine .inl ⟨rfl, fun id offer hid hoffer => ?_⟩
    rw [hid, Option.bind_some, hoffer] at hnone
    cases hnone
  · next current old hfound =>
    obtain ⟨hcurrent, hold⟩ := bind_lookup hfound
    split at h
    · next hpending =>
      cases h
      exact .inr ⟨current, old, hcurrent, hold, hpending, rfl⟩
    · cases h
    · next hpending hvalidating =>
      cases h
      refine .inl ⟨rfl, fun id offer hid hoffer => ?_⟩
      cases hcurrent.symm.trans hid
      cases hold.symm.trans hoffer
      refine ⟨hpending, ?_⟩
      cases hstate : old.state with
      | validating token => exact absurd hstate (hvalidating token)
      | _ => rfl

lemma claim_cases (hash : Capability → BitVec 256) (m : PairingManager) (id : PairingId) (capability : Capability)
    (now token : ℕ) :
    (∃ r, m.claim hash id capability now token = (m, .error r)) ∨
    ∃ offer, m.offers.lookup id = some offer ∧ offer.state = .pending ∧
      (m.claim hash id capability now token = (⟨m.setState id offer .expired, m.clearCurrent id⟩, .error .expired) ∨
        m.claim hash id capability now token = ({ m with offers := m.setState id offer (.validating token) },
          .ok ⟨id, offer.capabilityHash, offer.expiresAt, token⟩)) := by
  rw [claim]
  cases hoffer : m.offers.lookup id with
  | none => exact .inl ⟨_, rfl⟩
  | some offer =>
    dsimp only
    cases hstate : offer.state with
    | pending =>
      dsimp only
      split
      · exact .inr ⟨offer, rfl, hstate, .inl rfl⟩
      · split
        · exact .inl ⟨_, rfl⟩
        · exact .inr ⟨offer, rfl, hstate, .inr rfl⟩
    | _ => exact .inl ⟨_, rfl⟩

structure Continues (own : PairingId → Prop) (m m' : PairingManager) : Prop where
  validating : ∀ id, ¬ own id → ∀ offer, m.offers.lookup id = some offer → offer.state.isValidating →
    m'.offers.lookup id = some offer
  accepted : ∀ id, ¬ own id → ∀ offer', m'.offers.lookup id = some offer' → ∃ offer, m.offers.lookup id = some offer ∧
    ∀ endpointId connected, offer.state = .accepted endpointId connected →
      ∃ connected', offer'.state = .accepted endpointId connected'

variable {own : PairingId → Prop}

lemma Continues.mono {own' : PairingId → Prop} (h : Continues own m m') (himp : ∀ id, own id → own' id) :
    Continues own' m m' :=
  ⟨fun id hid => h.validating id fun ho => hid (himp id ho), fun id hid => h.accepted id fun ho => hid (himp id ho)⟩

lemma Continues.of_offers (h : m'.offers = m.offers) : Continues own m m' := by
  refine ⟨fun id _ offer ho _ => ?_, fun id _ offer ho => ?_⟩
  · rw [h, ho]
  · exact ⟨offer, by rwa [← h], fun _ connected hs => ⟨connected, hs⟩⟩

lemma Continues.refl (m : PairingManager) : Continues own m m := .of_offers rfl

lemma Continues.trans {m'' : PairingManager} (h : Continues own m m') (h' : Continues own m' m'') :
    Continues own m m'' := by
  refine ⟨fun id hid offer ho hv => ?_, fun id hid offer ho => ?_⟩
  · exact h'.validating id hid offer (h.validating id hid offer ho hv) hv
  · obtain ⟨mid, hmid, hlater⟩ := h'.accepted id hid offer ho
    obtain ⟨first, hfirst, hearlier⟩ := h.accepted id hid mid hmid
    refine ⟨first, hfirst, fun endpointId connected hs => ?_⟩
    obtain ⟨connected', hs'⟩ := hearlier endpointId connected hs
    exact hlater endpointId connected' hs'

lemma Continues.of_setState (h : m'.offers = m.setState id offer state) : Continues (· = id) m m' := by
  refine ⟨fun id' hid o ho _ => ?_, fun id' hid o ho => ?_⟩
  · rw [h, lookup_setState, if_neg hid, ho]
  · rw [h, lookup_setState, if_neg hid] at ho
    exact ⟨o, ho, fun _ connected hs => ⟨connected, hs⟩⟩

lemma Continues.of_open (ho : m.offers.lookup id = some offer)
    (hv : ¬ offer.state.isValidating) (ha : ∀ e c, offer.state ≠ .accepted e c)
    (h : m'.offers = m.setState id offer state) : Continues own m m' := by
  refine ⟨fun id' _ o ho' hv' => ?_, fun id' _ o ho' => ?_⟩
  · have hne : id' ≠ id := by
      rintro rfl
      cases ho.symm.trans ho'
      exact hv hv'
    rw [h, lookup_setState, if_neg hne, ho']
  · rw [h, lookup_setState] at ho'
    split at ho'
    · next hid => exact ⟨offer, hid ▸ ho, fun e c hs => absurd hs (ha e c)⟩
    · exact ⟨o, ho', fun _ connected hs => ⟨connected, hs⟩⟩

lemma cleanup_continues (h : ∀ id offer, m.offers.lookup id = some offer → offer.state.isValidating → isRetained now offer) :
    Continues own m (m.cleanup now) := by
  refine ⟨fun id _ offer ho hv => ?_, fun id _ offer ho => ?_⟩
  · rw [cleanup, KeyedMap.lookup_retain, ho, Option.filter_some, if_pos (h id offer ho hv)]
  · exact ⟨offer, lookup_of_cleanup ho, fun _ connected hs => ⟨connected, hs⟩⟩

lemma retireCurrent_continues (h : m.retireCurrent = some m') : Continues own m m' := by
  rcases retireCurrent_cases h with ⟨rfl, -⟩ | ⟨id, offer, -, ho, hpending, rfl⟩
  · exact .of_offers rfl
  · exact .of_open ho (by simp [hpending, OfferState.isValidating]) (by simp [hpending]) rfl

lemma create_continues (h : ∀ id offer, m.offers.lookup id = some offer → offer.state.isValidating → isRetained now offer)
    (pairingId : PairingId) (capability : Capability) :
    Continues (· = pairingId) m (m.create hash now pairingId capability).1 := by
  have hclean : Continues (· = pairingId) m (m.cleanup now) := cleanup_continues h
  rw [create]
  split
  · exact hclean
  · next retired hretired =>
    apply hclean.trans
    apply (retireCurrent_continues hretired).trans
    exact @Continues.of_setState retired _ pairingId ⟨hash capability, now, _, .pending⟩ .pending rfl

lemma status_continues (pairingId : Option PairingId) (now : ℕ) : Continues own m (m.status pairingId now).1 := by
  rw [status]
  split
  · exact .refl m
  · next id offer hfound =>
    have ho := (bind_lookup hfound).2
    split
    · next hpending => exact .of_open ho (by simp [hpending.1, OfferState.isValidating]) (by simp [hpending.1]) rfl
    · exact .refl m

def WellCurrent (m : PairingManager) : Prop :=
  ∀ id offer, m.currentPending = some id → m.offers.lookup id = some offer →
    offer.state = .pending ∨ offer.state.isValidating

lemma WellCurrent.of_none (h : m.currentPending = none) : m.WellCurrent := by
  intro id offer hid _
  rw [h] at hid
  cases hid

lemma WellCurrent.set (h : m.WellCurrent) (hoffers : m'.offers = m.setState id offer state)
    (hcurrent : ∀ id', m'.currentPending = some id' → id' = id ∨ m.currentPending = some id')
    (hid : m'.currentPending = some id → state = .pending ∨ state.isValidating) : m'.WellCurrent := by
  intro id' o hid' ho
  rw [hoffers, lookup_setState] at ho
  split at ho
  · next heq =>
    subst heq
    cases ho
    exact hid hid'
  · next hne =>
    rcases hcurrent id' hid' with heq | hold
    · exact absurd heq hne
    · exact h id' o hold ho

lemma clearCurrent_some {id' : PairingId} (h : m.clearCurrent id = some id') : id' ≠ id ∧ m.currentPending = some id' := by
  rw [clearCurrent] at h
  split at h
  · cases h
  · next hne =>
    refine ⟨?_, h⟩
    rintro rfl
    exact hne h

section

variable (h : m.WellCurrent)

include h

lemma WellCurrent.clear : (PairingManager.mk (m.setState id offer state) (m.clearCurrent id)).WellCurrent := by
  apply h.set rfl
  · intro id' hid'
    exact .inr (clearCurrent_some hid').2
  · intro hid
    exact absurd rfl (clearCurrent_some hid).1

lemma WellCurrent.cleanup (now : ℕ) : (m.cleanup now).WellCurrent := by
  exact fun id offer hid ho => h id offer hid (lookup_of_cleanup ho)

lemma WellCurrent.create (now : ℕ) (pairingId : PairingId) (capability : Capability) :
    (m.create hash now pairingId capability).1.WellCurrent := by
  rw [PairingManager.create]
  split
  · exact h.cleanup now
  · intro id offer hid ho
    cases hid
    rw [KeyedMap.lookup_insert_self] at ho
    cases ho
    exact .inl rfl

lemma WellCurrent.claim (pairingId : PairingId) (capability : Capability) (now token : ℕ) :
    (m.claim hash pairingId capability now token).1.WellCurrent := by
  rcases m.claim_cases hash pairingId capability now token with ⟨r, heq⟩ | ⟨offer, -, -, heq | heq⟩ <;> rw [heq]
  · exact h
  · exact h.clear
  · apply h.set rfl
    · intro id' hid'
      exact .inr hid'
    · intro _
      exact .inr rfl

lemma WellCurrent.complete (claim : PairingClaim) (endpointId : String) (now : ℕ) :
    (m.complete claim endpointId now).1.WellCurrent := by
  rw [PairingManager.complete]
  split
  · exact h
  · split
    · exact .of_none rfl
    · split
      · exact h.clear
      · exact h

lemma WellCurrent.abort (claim : PairingClaim) (now : ℕ) : (m.abort claim now).WellCurrent := by
  rw [PairingManager.abort]
  split
  · exact h
  · split
    · exact h
    · split
      · exact .of_none rfl
      · apply h.set rfl
        · intro id' hid'
          exact .inl (Option.some.inj hid').symm
        · intro _
          exact .inl rfl

lemma WellCurrent.markConnected (pairingId : PairingId) (endpointId : String) :
    (m.markConnected pairingId endpointId).WellCurrent := by
  rw [PairingManager.markConnected]
  split
  · exact h
  · next offer ho =>
    split
    · next hstate =>
      split
      · apply h.set rfl
        · intro id' hid'
          exact .inr hid'
        · intro hid
          -- an accepted offer is not the current one
          rcases h _ _ hid ho with hopen | hopen <;> simp [hstate, OfferState.isValidating] at hopen
      · exact h
    · exact h

lemma WellCurrent.status (pairingId : Option PairingId) (now : ℕ) :
    (m.status pairingId now).1.WellCurrent := by
  rw [PairingManager.status]
  split
  · exact h
  · split
    · exact h.clear
    · exact h

end

lemma WellCurrent.rejectCurrent (m : PairingManager) (message : String) : (m.rejectCurrent message).WellCurrent := by
  rw [PairingManager.rejectCurrent]
  split <;> exact .of_none rfl

variable {c : PairingClaim}

variable {capability : Capability} {pairingId : PairingId}

lemma claim_ok (h : m.claim hash pairingId capability now token = (m', .ok c)) :
    ∃ offer, m.offers.lookup pairingId = some offer ∧ offer.state = .pending ∧ c.pairingId = pairingId ∧
      c.token = token ∧ c.expiresAt = offer.expiresAt ∧ m'.offers = m.setState pairingId offer (.validating token) := by
  rcases m.claim_cases hash pairingId capability now token with ⟨r, heq⟩ | ⟨offer, ho, hpending, heq | heq⟩ <;>
    cases heq.symm.trans h
  exact ⟨offer, ho, hpending, rfl, rfl, rfl, rfl⟩

lemma claim_error {r : PairingRejection}
    (h : m.claim hash pairingId capability now token = (m', .error r)) : Continues own m m' := by
  rcases m.claim_cases hash pairingId capability now token with ⟨r, heq⟩ | ⟨offer, ho, hpending, heq | heq⟩ <;>
    cases heq.symm.trans h
  · exact .refl m
  · exact .of_open ho (by simp [hpending, OfferState.isValidating]) (by simp [hpending]) rfl

section

variable (ho : m.offers.lookup c.pairingId = some offer) (hs : offer.state = .validating c.token)

include ho hs

lemma complete_held (hnow : now < offer.expiresAt) (endpointId : String) :
    m.complete c endpointId now = (⟨m.setState c.pairingId offer (.accepted endpointId false),
      m.clearCurrent c.pairingId⟩, .ok ()) := by
  rw [complete, ho]
  dsimp only
  rw [if_neg (by omega), if_pos hs]

lemma abort_held (now : ℕ) :
    ∃ state, (m.abort c now).offers = m.setState c.pairingId offer state := by
  rw [abort, ho]
  dsimp only
  rw [if_neg (by simp [hs])]
  split
  · exact ⟨_, rfl⟩
  · exact ⟨_, rfl⟩

end

lemma markConnected_continues (pairingId : PairingId) (endpointId : String) :
    Continues own m (m.markConnected pairingId endpointId) := by
  rw [markConnected]
  split
  · exact .refl m
  · next offer ho =>
    split
    · next installed _ hs =>
      split
      · refine ⟨fun id _ o ho' hv => ?_, fun id _ o ho' => ?_⟩
        · have hne : id ≠ pairingId := by
            rintro rfl
            cases ho.symm.trans ho'
            simp [hs, OfferState.isValidating] at hv
          simp only [lookup_setState, if_neg hne, ho']
        · simp only [lookup_setState] at ho'
          split at ho'
          · next hid =>
            cases ho'
            refine ⟨offer, hid ▸ ho, fun e c he => ⟨true, ?_⟩⟩
            rw [hs] at he
            cases he
            rfl
          · exact ⟨o, ho', fun _ connected he => ⟨connected, he⟩⟩
      · exact .refl m
    · exact .refl m

lemma rejectCurrent_continues (hcurrent : m.WellCurrent)
    (h : ∀ current ∈ m.currentPending, ∀ offer ∈ m.offers.lookup current, ¬ offer.state.isValidating)
    (message : String) : Continues own m (m.rejectCurrent message) := by
  rw [rejectCurrent]
  split
  · exact .of_offers rfl
  · next current offer hfound =>
    obtain ⟨hid, ho⟩ := bind_lookup hfound
    have hopen := h current hid offer ho
    have hpending : offer.state = .pending := (hcurrent current offer hid ho).resolve_right hopen
    exact .of_open ho hopen (by simp [hpending]) rfl

end PairingManager

end CiaoHost.Pairing
