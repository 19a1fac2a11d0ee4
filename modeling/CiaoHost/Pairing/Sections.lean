import CiaoHost.Pairing.Commitments

/-! What one lock section of a pairing stream does to its own offer, and leaves to the others. -/

namespace CiaoHost.Pairing

open Lib PairingManager

def Stream.Engaged (st : Stream) : Prop :=
  match st.phase with
  | .claimed _ | .refused .. | .committing .. | .written .. => True
  | _ => st.wrote = true

namespace PairedDeviceStore

section

variable (store : PairedDeviceStore)

lemma contains_iff (endpointId : String) :
    store.contains endpointId ↔ endpointId ∈ store.devices.map PairedDevice.endpointId := by
  simp [contains]

lemma contains_upserted (record : PairedDevice) (endpointId : String)
    (h : store.contains endpointId ∨ endpointId = record.endpointId) :
    PairedDeviceStore.contains ⟨store.upserted record⟩ endpointId := by
  rw [contains_iff] at h ⊢
  rw [upserted]
  split
  · next hheld =>
    rw [KeyedList.map_key_replaceFirst]
    rcases h with h | rfl
    · exact h
    · exact (store.contains_iff _).mp hheld
  · have hperm := (List.perm_insertionSort (fun a b : PairedDevice => a.endpointId ≤ b.endpointId)
      (store.devices ++ [record])).map PairedDevice.endpointId
    rw [hperm.mem_iff]
    simpa using h

lemma contains_of_upserted {record : PairedDevice} {endpointId : String}
    (h : PairedDeviceStore.contains ⟨store.upserted record⟩ endpointId) :
    store.contains endpointId ∨ record.endpointId = endpointId := by
  rw [contains_iff] at h ⊢
  rw [upserted] at h
  split at h
  · rw [KeyedList.map_key_replaceFirst] at h
    exact .inl h
  · have hperm := (List.perm_insertionSort (fun a b : PairedDevice => a.endpointId ≤ b.endpointId)
      (store.devices ++ [record])).map PairedDevice.endpointId
    rw [hperm.mem_iff] at h
    simpa [eq_comm] using h

end

end PairedDeviceStore

namespace PairingSystem

variable {hash : Capability → BitVec 256} {sys sys' : PairingSystem} {st : Stream} {c : PairingClaim}
  {manager : PairingManager}

def Holds (sys : PairingSystem) (st : Stream) (c : PairingClaim) : Prop :=
  c.pairingId = st.pairingId ∧ ∃ offer, sys.manager.offers.lookup st.pairingId = some offer ∧
    offer.state = .validating c.token ∧ offer.expiresAt = c.expiresAt

def Took (sys : PairingSystem) (st : Stream) : Prop :=
  sys.store.contains st.endpointId ∧ st.pairingId ∈ sys.issuedIds ∧
    ∀ offer, sys.manager.offers.lookup st.pairingId = some offer →
      ∃ connected, offer.state = .accepted st.endpointId connected

def Fits (sys : PairingSystem) (st : Stream) : Prop :=
  match st.phase with
  | .asked | .allowed _ => st.wrote = false
  | .claimed c => st.wrote = false ∧ sys.Holds st c
  | .refused c _ answer => st.wrote = false ∧ answer ≠ .accepted ∧ sys.Holds st c
  | .committing c commitTime => st.wrote = false ∧ commitTime < c.expiresAt ∧ sys.Holds st c
  | .written c commitTime => st.wrote = true ∧ commitTime < c.expiresAt ∧ sys.store.contains st.endpointId ∧
      sys.Holds st c
  | .serving _ => st.wrote = true ∧ sys.Took st
  | .ended answer => (st.wrote = true ↔ answer = .accepted) ∧ (st.wrote = true → sys.Took st)

structure Keeps (own : PairingId → Prop) (sys sys' : PairingSystem) : Prop where
  offers : Continues own sys.manager sys'.manager
  devices : ∀ endpointId, sys.store.contains endpointId → sys'.store.contains endpointId
  issued : ∀ id ∈ sys.issuedIds, id ∈ sys'.issuedIds

variable {own : PairingId → Prop}

lemma Holds.keep (h : sys.Holds st c) (hk : Keeps own sys sys') (hown : ¬ own st.pairingId) : sys'.Holds st c := by
  obtain ⟨hid, offer, ho, hs, hexpires⟩ := h
  refine ⟨hid, offer, hk.offers.validating _ hown offer ho ?_, hs, hexpires⟩
  rw [hs]
  rfl

lemma Took.keep (h : sys.Took st) (hk : Keeps own sys sys') (hown : ¬ own st.pairingId) : sys'.Took st := by
  obtain ⟨hstore, hissued, haccepted⟩ := h
  refine ⟨hk.devices _ hstore, hk.issued _ hissued, fun offer' ho' => ?_⟩
  obtain ⟨offer, ho, hcontinued⟩ := hk.offers.accepted _ hown offer' ho'
  obtain ⟨connected, hs⟩ := haccepted offer ho
  exact hcontinued _ connected hs

lemma Fits.keep (h : sys.Fits st) (hk : Keeps own sys sys') (hown : st.Engaged → ¬ own st.pairingId) :
    sys'.Fits st := by
  rw [Fits] at h ⊢
  rw [Stream.Engaged] at hown
  cases hp : st.phase with
  | asked | allowed _ =>
    rw [hp] at h
    exact h
  | claimed c =>
    rw [hp] at h hown
    exact ⟨h.1, h.2.keep hk (hown trivial)⟩
  | refused c t answer | committing c t =>
    rw [hp] at h hown
    exact ⟨h.1, h.2.1, h.2.2.keep hk (hown trivial)⟩
  | written c t =>
    rw [hp] at h hown
    exact ⟨h.1, h.2.1, hk.devices _ h.2.2.1, h.2.2.2.keep hk (hown trivial)⟩
  | serving c =>
    rw [hp] at h hown
    exact ⟨h.1, h.2.keep hk (hown h.1)⟩
  | ended answer =>
    rw [hp] at h hown
    exact ⟨h.1, fun hw => (h.2 hw).keep hk (hown hw)⟩

lemma Fits.engaged_offer (h : sys.Fits st) (he : st.Engaged) : (∃ c, sys.Holds st c) ∨ sys.Took st := by
  rw [Fits] at h
  rw [Stream.Engaged] at he
  cases hp : st.phase with
  | asked | allowed _ =>
    simp only [hp] at h he
    rw [he] at h
    cases h
  | claimed c =>
    rw [hp] at h
    exact .inl ⟨c, h.2⟩
  | refused c t answer | committing c t =>
    rw [hp] at h
    exact .inl ⟨c, h.2.2⟩
  | written c t =>
    rw [hp] at h
    exact .inl ⟨c, h.2.2.2⟩
  | serving c =>
    rw [hp] at h
    exact .inr h.2
  | ended answer =>
    rw [hp] at h he
    exact .inr (h.2 he)

variable {offer : Offer} {phase : Phase}

lemma Fits.not_pending (h : sys.Fits st) (he : st.Engaged)
    (ho : sys.manager.offers.lookup st.pairingId = some offer) : offer.state ≠ .pending := by
  intro hpending
  rcases h.engaged_offer he with ⟨c, -, held, hheld, hs, -⟩ | ⟨-, -, htook⟩
  · cases ho.symm.trans hheld
    simp [hpending] at hs
  · obtain ⟨connected, hs⟩ := htook offer ho
    simp [hpending] at hs

structure Settled (sys : PairingSystem) : Prop where
  current : sys.manager.WellCurrent
  issued : ∀ id offer, sys.manager.offers.lookup id = some offer → id ∈ sys.issuedIds
  fits : ∀ (i : ℕ) st, sys.streams[i]? = some st → sys.Fits st
  apart : ∀ (i j : ℕ) a b, sys.streams[i]? = some a → sys.streams[j]? = some b → a.Engaged → b.Engaged →
    a.pairingId = b.pairingId → i = j

lemma Settled.engaged_issued (h : sys.Settled) {i : ℕ} (hi : sys.streams[i]? = some st) (he : st.Engaged) :
    st.pairingId ∈ sys.issuedIds := by
  rcases (h.fits i st hi).engaged_offer he with ⟨c, -, offer, ho, -⟩ | htook
  · exact h.issued _ offer ho
  · exact htook.2.1

lemma Settled.manage (h : sys.Settled) {issued : List PairingId}
    (hk : Keeps own sys { sys with manager := manager, issuedIds := issued }) (hcurrent : manager.WellCurrent)
    (hown : ∀ id, own id → id ∉ sys.issuedIds) (hissued : ∀ id, own id → id ∈ issued) :
    Settled { sys with manager := manager, issuedIds := issued } := by
  refine ⟨hcurrent, fun id offer' ho' => ?_, fun i st hi => ?_, h.apart⟩
  · by_cases hid : own id
    · exact hissued id hid
    · obtain ⟨offer, ho, -⟩ := hk.offers.accepted id hid offer' ho'
      exact hk.issued id (h.issued id offer ho)
  · apply (h.fits i st hi).keep hk
    intro he ho
    exact hown _ ho (h.engaged_issued hi he)

def Concerns (sys : PairingSystem) (st : Stream) : Prop :=
  st.Engaged ∨ ∃ offer, sys.manager.offers.lookup st.pairingId = some offer ∧ offer.state = .pending

structure Sectioned (sys sys' : PairingSystem) (st moved : Stream) : Prop where
  keeps : Keeps (fun id => id = st.pairingId ∧ sys.Concerns st) sys sys'
  current : sys'.manager.WellCurrent
  known : ∀ id offer', sys'.manager.offers.lookup id = some offer' → ∃ offer, sys.manager.offers.lookup id = some offer
  issued : sys'.issuedIds = sys.issuedIds
  name : moved.pairingId = st.pairingId
  fits : sys'.Fits moved
  engaged : moved.Engaged → sys.Concerns st

lemma Keeps.of_manager (h : Continues own sys.manager manager) :
    Keeps own sys { sys with manager := manager } := ⟨h, fun _ => id, fun _ => id⟩

lemma Sectioned.idle (hcurrent : sys.manager.WellCurrent) (limiter : PairingRateLimiter)
    (hfits : sys.Fits { st with phase := phase }) (hengaged : Stream.Engaged { st with phase := phase } → st.Engaged) :
    Sectioned sys { sys with limiter := limiter } st { st with phase := phase } where
  keeps := ⟨.refl _, fun _ => id, fun _ => id⟩
  current := hcurrent
  known _ offer ho := ⟨offer, ho⟩
  issued := rfl
  name := rfl
  fits := hfits
  engaged he := .inl (hengaged he)

lemma Sectioned.settle (hcurrent : manager.WellCurrent) (hc : sys.Holds st c) {state : OfferState}
    (hoffers : manager.offers = sys.manager.setState st.pairingId offer state)
    (hfits : Fits { sys with manager := manager } { st with phase := phase }) (he : st.Engaged) :
    Sectioned sys { sys with manager := manager } st { st with phase := phase } where
  keeps := .of_manager ((Continues.of_setState hoffers).mono fun _ hid => ⟨hid, .inl he⟩)
  current := hcurrent
  known id offer' ho' := by
    rw [hoffers, lookup_setState] at ho'
    split at ho'
    · next hid =>
      obtain ⟨-, held, hheld, -⟩ := hc
      exact ⟨held, hid ▸ hheld⟩
    · exact ⟨offer', ho'⟩
  issued := rfl
  name := rfl
  fits := hfits
  engaged _ := .inl he

lemma runSection_sectioned (hsettled : sys.Settled) (hfits : sys.Fits st) (e : Surroundings) :
    Sectioned sys (sys.runSection hash st e).1 st (sys.runSection hash st e).2 := by
  have hcurrent := hsettled.current
  have h := hfits
  rw [Fits] at h
  rw [runSection]
  cases hp : st.phase with
  | asked =>
    rw [hp] at h
    have hrejected : ∀ r : PairingRejection, sys.Fits { st with phase := .ended r.answer } := fun r =>
      ⟨by simp [h, PairingRejection.answer], by simp [h]⟩
    dsimp only
    split
    · exact Sectioned.idle hcurrent sys.limiter ⟨by simp [h], by simp [h]⟩ (by simp [Stream.Engaged, h])
    · split
      · next r _ => exact Sectioned.idle hcurrent _ (hrejected r) (by simp [Stream.Engaged, h])
      · exact Sectioned.idle hcurrent _ h (by simp [Stream.Engaged, h])
  | allowed now =>
    rw [hp] at h
    have hclaimed := @WellCurrent.claim hash _ hcurrent st.pairingId st.capability now e.token
    dsimp only
    split
    · next manager r hclaim =>
      rw [hclaim] at hclaimed
      have hall : Continues (fun _ => False) sys.manager manager := claim_error hclaim
      exact {
        keeps := .of_manager (claim_error hclaim)
        current := hclaimed
        known := fun id offer' ho' => (hall.accepted id (fun h => h) offer' ho').imp fun _ ho => ho.1
        issued := rfl
        name := rfl
        fits := ⟨by simp [h, PairingRejection.answer], by simp [h]⟩
        engaged := by simp [Stream.Engaged, h] }
    · next manager c hclaim =>
      rw [hclaim] at hclaimed
      obtain ⟨offer, ho, hpending, hid, htoken, hexpires, hoffers⟩ := claim_ok hclaim
      exact {
        keeps := .of_manager ((Continues.of_setState hoffers).mono fun _ hid => ⟨hid, .inr ⟨offer, ho, hpending⟩⟩)
        current := hclaimed
        known := fun id offer' ho' => by
          rw [hoffers, lookup_setState] at ho'
          split at ho'
          · next heq => exact ⟨offer, heq ▸ ho⟩
          · exact ⟨offer', ho'⟩
        issued := rfl
        name := rfl
        fits := ⟨h, hid, { offer with state := .validating e.token }, by simp [hoffers], by rw [htoken], hexpires.symm⟩
        engaged := fun _ => .inr ⟨offer, ho, hpending⟩ }
  | claimed c =>
    rw [hp] at h
    obtain ⟨hwrote, hholds⟩ := h
    have hengaged : st.Engaged := by simp [Stream.Engaged, hp]
    dsimp only
    split
    · exact Sectioned.idle hcurrent sys.limiter ⟨by simp [hwrote], by simp [hwrote]⟩ fun _ => hengaged
    · split
      · exact Sectioned.idle hcurrent sys.limiter ⟨hwrote, by simp [PairingRejection.answer], hholds⟩ fun _ => hengaged
      · split
        · exact Sectioned.idle hcurrent sys.limiter ⟨hwrote, by simp [unusableKey], hholds⟩ fun _ => hengaged
        · next hfresh _ =>
          exact Sectioned.idle hcurrent sys.limiter ⟨hwrote, by omega, hholds⟩ fun _ => hengaged
  | committing c t =>
    rw [hp] at h
    obtain ⟨hwrote, htime, hholds⟩ := h
    have hengaged : st.Engaged := by simp [Stream.Engaged, hp]
    dsimp only
    cases hdisk : e.disk with
    | error message =>
      exact Sectioned.idle hcurrent sys.limiter ⟨hwrote, by simp [persistenceFailed], hholds⟩ fun _ => hengaged
    | ok _ =>
      have hdevices := sys.store.contains_upserted ⟨st.endpointId, t, e.transcriptHash, some e.notificationKey⟩
      exact {
        keeps := ⟨.refl _, fun endpointId hc => hdevices endpointId (.inl hc), fun _ => id⟩
        current := hcurrent
        known := fun _ offer ho => ⟨offer, ho⟩
        issued := rfl
        name := rfl
        fits := ⟨rfl, htime, hdevices _ (.inr rfl), hholds⟩
        engaged := fun _ => .inl hengaged }
  | refused c t answer =>
    rw [hp] at h
    obtain ⟨hwrote, hanswer, hholds⟩ := h
    have hengaged : st.Engaged := by simp [Stream.Engaged, hp]
    obtain ⟨hid, offer, ho, hs, -⟩ := id hholds
    obtain ⟨state, hoffers⟩ := abort_held (hid ▸ ho) hs t
    rw [hid] at hoffers
    apply Sectioned.settle (hcurrent.abort c t) hholds hoffers
    · exact ⟨by simp [hwrote, hanswer], by simp [hwrote]⟩
    · exact hengaged
  | written c t =>
    rw [hp] at h
    obtain ⟨hwrote, htime, hstore, hholds⟩ := h
    have hengaged : st.Engaged := by simp [Stream.Engaged, hp]
    obtain ⟨hid, offer, ho, hs, hexpires⟩ := id hholds
    have hcompleted := hcurrent.complete c st.endpointId t
    have hcomplete := complete_held (hid ▸ ho) hs (hexpires ▸ htime) st.endpointId
    rw [hcomplete, hid] at hcompleted
    dsimp only
    rw [hcomplete, hid]
    apply Sectioned.settle hcompleted hholds rfl
    · refine ⟨hwrote, hstore, hsettled.issued _ offer ho, fun o ho' => ⟨false, ?_⟩⟩
      simp only [lookup_setState, if_pos, Option.some.injEq] at ho'
      rw [← ho']
    · exact hengaged
  | serving c =>
    rw [hp] at h
    obtain ⟨hwrote, htook⟩ := h
    have hengaged : st.Engaged := by simp [Stream.Engaged, hp, hwrote]
    dsimp only
    split
    · exact Sectioned.idle hcurrent sys.limiter ⟨by simp [hwrote], fun _ => htook⟩ fun _ => hengaged
    · have hall : Continues (fun _ => False) sys.manager (sys.manager.markConnected c.pairingId st.endpointId) :=
        markConnected_continues ..
      exact {
        keeps := .of_manager (markConnected_continues ..)
        current := hcurrent.markConnected _ _
        known := fun id offer' ho' => (hall.accepted id (fun h => h) offer' ho').imp fun _ ho => ho.1
        issued := rfl
        name := rfl
        fits := hfits.keep (.of_manager hall) fun _ h => h
        engaged := .inl }
  | ended answer => exact ⟨⟨.refl _, fun _ => id, fun _ => id⟩, hcurrent, fun _ o ho => ⟨o, ho⟩, rfl, rfl, hfits, .inl⟩

end PairingSystem

end CiaoHost.Pairing
