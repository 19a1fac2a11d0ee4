import CiaoHost.Pairing.Sections

/-! Whom pairing authorises, over every interleaving of streams, offers and cancellations. -/

namespace CiaoHost.Pairing

open Lib PairingManager

namespace PairingSystem

variable {hash : Capability → BitVec 256} {sys : PairingSystem}

lemma Settled.connect (h : sys.Settled) (endpointId : String) (pairingId : PairingId) (capability : Capability) :
    (sys.step hash (.connect endpointId pairingId capability)).Settled := by
  have hold : ∀ (i : ℕ) st, (sys.streams ++ [⟨endpointId, pairingId, capability, .asked, false⟩])[i]? = some st →
      sys.streams[i]? = some st ∨ st = ⟨endpointId, pairingId, capability, .asked, false⟩ := by
    intro i st hi
    rw [List.getElem?_append] at hi
    split at hi
    · exact .inl hi
    · exact .inr (List.mem_singleton.mp (List.mem_of_getElem? hi))
  refine ⟨h.current, h.issued, fun i st hi => ?_, fun i j a b hi hj ha hb hab => ?_⟩
  · rcases hold i st hi with hi | rfl
    · exact h.fits i st hi
    · rfl
  · -- the new stream holds nothing yet
    rcases hold i a hi with hi | rfl
    · rcases hold j b hj with hj | rfl
      · exact h.apart i j a b hi hj ha hb hab
      · simp [Stream.Engaged] at hb
    · simp [Stream.Engaged] at ha

lemma Settled.advance (h : sys.Settled) (index : ℕ) (e : Surroundings) :
    (sys.step hash (.advance index e)).Settled := by
  rw [step]
  cases hindex : sys.streams[index]? with
  | none => exact h
  | some st =>
    have hfits := h.fits index st hindex
    obtain ⟨hkeeps, hcurrent, hknown, hissued, hname, hmoved, hengaged⟩ := @runSection_sectioned hash _ _ h hfits e
    dsimp only
    generalize sys.runSection hash st e = result at *
    obtain ⟨after, moved⟩ := result
    have hother : ∀ (i : ℕ) a, (sys.streams.set index moved)[i]? = some a → i = index ∧ a = moved ∨
        i ≠ index ∧ sys.streams[i]? = some a := by
      intro i a hi
      rw [List.getElem?_set] at hi
      split at hi
      · next heq =>
        split at hi
        · exact .inl ⟨heq.symm, (Option.some.inj hi).symm⟩
        · cases hi
      · next hne => exact .inr ⟨Ne.symm hne, hi⟩
    -- another engaged stream is engaged with another offer
    have hapart : ∀ (i : ℕ) a, i ≠ index → sys.streams[i]? = some a → a.Engaged → sys.Concerns st →
        a.pairingId ≠ st.pairingId := by
      intro i a hi ha hae hconcerns heq
      rcases hconcerns with hse | ⟨offer, ho, hpending⟩
      · exact hi (h.apart i index a st ha hindex hae hse heq)
      · exact (h.fits i a ha).not_pending hae (heq ▸ ho) hpending
    refine ⟨hcurrent, fun id offer' ho' => ?_, fun i a hi => ?_, fun i j a b hi hj ha hb hab => ?_⟩
    · obtain ⟨offer, ho⟩ := hknown id offer' ho'
      exact hissued ▸ h.issued id offer ho
    · rcases hother i a hi with ⟨-, rfl⟩ | ⟨hne, hi⟩
      · exact hmoved
      · apply (h.fits i a hi).keep hkeeps
        rintro hae ⟨heq, hconcerns⟩
        exact hapart i a hne hi hae hconcerns heq
    · rcases hother i a hi with ⟨rfl, rfl⟩ | ⟨hne, hi₀⟩
      · rcases hother j b hj with ⟨rfl, rfl⟩ | ⟨hne', hj₀⟩
        · rfl
        · exact absurd (hab.symm.trans hname) (hapart j b hne' hj₀ hb (hengaged ha))
      · rcases hother j b hj with ⟨rfl, rfl⟩ | ⟨hne', hj₀⟩
        · exact absurd (hab.trans hname) (hapart i a hne hi₀ ha (hengaged hb))
        · exact h.apart i j a b hi₀ hj₀ ha hb hab

lemma Settled.step {event : Event} (h : sys.Settled) (hl : sys.Legal event) (hc : sys.Careful event) :
    (sys.step hash event).Settled := by
  cases event with
  | connect endpointId pairingId capability => exact h.connect endpointId pairingId capability
  | advance index e => exact h.advance index e
  | create now pairingId capability =>
    have hcontinues : Continues (· = pairingId) sys.manager (sys.manager.create hash now pairingId capability).1 :=
      create_continues (fun id offer ho => hc ⟨id, offer⟩ (KeyedMap.mem_entries.mpr ho)) pairingId capability
    apply h.manage ⟨hcontinues, fun _ => id, fun id hid => List.mem_append_left _ hid⟩
    · exact h.current.create now pairingId capability
    · rintro id rfl
      exact hl
    · rintro id rfl
      simp
  | status pairingId now =>
    have hcontinues : Continues (fun _ => False) sys.manager (sys.manager.status pairingId now).1 := status_continues ..
    exact h.manage (.of_manager hcontinues) (h.current.status pairingId now) (fun _ => False.elim) (fun _ => False.elim)
  | rejectCurrent message =>
    have hcontinues : Continues (fun _ => False) sys.manager (sys.manager.rejectCurrent message) :=
      rejectCurrent_continues h.current hc message
    exact h.manage (.of_manager hcontinues) (.rejectCurrent _ _) (fun _ => False.elim) (fun _ => False.elim)

lemma settled_start : start.Settled := by
  refine ⟨.of_none rfl, fun id offer ho => ?_, fun i st hi => ?_, fun i j a b hi => ?_⟩
  · simp [start] at ho
  · simp [start] at hi
  · simp [start] at hi

lemma settled_of_reaches
    (h : Runs.Reaches (step hash) (fun sys event => sys.Legal event ∧ sys.Careful event) start sys) : sys.Settled :=
  h.invariant settled_start fun _ _ hs hi => hs.step hi.1 hi.2

def Backed (sys : PairingSystem) : Prop :=
  ∀ endpointId, sys.store.contains endpointId → ∃ st ∈ sys.streams, st.wrote = true ∧ st.endpointId = endpointId

lemma runSection_backed (hash : Capability → BitVec 256) (sys : PairingSystem) (st : Stream) (e : Surroundings) :
    (sys.runSection hash st e).2.endpointId = st.endpointId ∧
    (st.wrote = true → (sys.runSection hash st e).2.wrote = true) ∧
    ∀ endpointId, (sys.runSection hash st e).1.store.contains endpointId → sys.store.contains endpointId ∨
      (sys.runSection hash st e).2.wrote = true ∧ st.endpointId = endpointId := by
  rw [runSection]
  cases st.phase with
  | asked =>
    dsimp only
    split
    · exact ⟨rfl, id, fun _ => .inl⟩
    · split <;> exact ⟨rfl, id, fun _ => .inl⟩
  | allowed now =>
    dsimp only
    split <;> exact ⟨rfl, id, fun _ => .inl⟩
  | claimed c =>
    dsimp only
    split
    · exact ⟨rfl, id, fun _ => .inl⟩
    · split
      · exact ⟨rfl, id, fun _ => .inl⟩
      · split <;> exact ⟨rfl, id, fun _ => .inl⟩
  | committing c t =>
    dsimp only
    cases e.disk with
    | error message => exact ⟨rfl, id, fun _ => .inl⟩
    | ok _ =>
      refine ⟨rfl, fun _ => rfl, fun endpointId hc => ?_⟩
      exact (sys.store.contains_of_upserted hc).imp_right fun heq => ⟨rfl, heq⟩
  | refused c t answer => exact ⟨rfl, id, fun _ => .inl⟩
  | written c t | serving c =>
    dsimp only
    split <;> exact ⟨rfl, id, fun _ => .inl⟩
  | ended answer => exact ⟨rfl, id, fun _ => .inl⟩

lemma Backed.step (h : sys.Backed) (event : Event) : (sys.step hash event).Backed := by
  cases event with
  | connect endpointId pairingId capability =>
    intro endpointId' hc
    obtain ⟨st, hst, hw⟩ := h endpointId' hc
    exact ⟨st, List.mem_append_left _ hst, hw⟩
  | advance index e =>
    rw [PairingSystem.step]
    cases hindex : sys.streams[index]? with
    | none => exact h
    | some st =>
      obtain ⟨hname, hwrote, hstore⟩ := runSection_backed hash sys st e
      have hlt : index < sys.streams.length := (List.getElem?_eq_some_iff.mp hindex).1
      have hmem : (sys.runSection hash st e).2 ∈ sys.streams.set index (sys.runSection hash st e).2 :=
        List.mem_set hlt _
      intro endpointId hc
      rcases hstore endpointId hc with hold | ⟨hw, heq⟩
      · obtain ⟨b, hb, hbw, hbe⟩ := h endpointId hold
        obtain ⟨j, hj⟩ := List.mem_iff_getElem?.mp hb
        by_cases hji : j = index
        · subst hji
          cases hindex.symm.trans hj
          exact ⟨_, hmem, hwrote hbw, hname.trans hbe⟩
        · refine ⟨b, List.mem_iff_getElem?.mpr ⟨j, ?_⟩, hbw, hbe⟩
          rw [List.getElem?_set_ne (Ne.symm hji), hj]
      · exact ⟨_, hmem, hw, hname.trans heq⟩
  | create now pairingId capability | status pairingId now | rejectCurrent message => exact h

theorem pairing_authorises_accepted
    (h : Runs.Reaches (step hash) (fun sys event => sys.Legal event ∧ sys.Careful event) start sys) :
    (∀ (i j : ℕ) a b, sys.streams[i]? = some a → sys.streams[j]? = some b → a.wrote → b.wrote →
      a.pairingId = b.pairingId → i = j) ∧
    (∀ st ∈ sys.streams, ∀ answer, st.phase = .ended answer →
      (st.wrote ↔ answer = .accepted) ∧
      (st.wrote → sys.store.contains st.endpointId ∧ ∀ offer, sys.manager.offers.lookup st.pairingId = some offer →
        ∃ connected, offer.state = .accepted st.endpointId connected)) ∧
    ∀ endpointId, sys.store.contains endpointId → ∃ st ∈ sys.streams, st.wrote ∧ st.endpointId = endpointId := by
  have hsettled := settled_of_reaches h
  have hbacked : sys.Backed := h.invariant (P := Backed) (by simp [Backed, start, PairedDeviceStore.contains])
    fun _ event hb _ => hb.step event
  refine ⟨fun i j a b hi hj ha hb => ?_, fun st hst answer hended => ?_, hbacked⟩
  · have hengaged : ∀ st : Stream, st.wrote → st.Engaged := by
      intro st hw
      rw [Stream.Engaged]
      cases st.phase <;> trivial
    exact hsettled.apart i j a b hi hj (hengaged a ha) (hengaged b hb)
  · obtain ⟨i, hi⟩ := List.mem_iff_getElem?.mp hst
    have hfits := hsettled.fits i st hi
    rw [Fits, hended] at hfits
    exact ⟨hfits.1, fun hw => ⟨(hfits.2 hw).1, (hfits.2 hw).2.2⟩⟩

namespace Sample

def calm : Surroundings where
  clock := some 110
  token := 5
  keyUsable := true
  transcriptHash := "transcript"
  notificationKey := "key"
  disk := .ok ()
  closes := true

def next : Event := .advance 0 calm

def upToWrite : List Event := [.create 100 1 9, .connect "phone" 1 9, next, next, next, next]

def after (events : List Event) : PairingSystem := events.foldl (step id) start

end Sample

theorem pairing_authorises_accepted_phone :
    ∃ st ∈ (Sample.after (Sample.upToWrite ++ [Sample.next, Sample.next])).streams, st.phase = .ended .accepted ∧
      st.wrote ∧ (Sample.after (Sample.upToWrite ++ [Sample.next, Sample.next])).store.contains st.endpointId := by
  have hrun : Runs.Allowed (step id) (fun sys event => sys.Legal event ∧ sys.Careful event) start
      (Sample.upToWrite ++ [Sample.next, Sample.next]) := by decide +kernel
  have hended : ∃ st ∈ (Sample.after (Sample.upToWrite ++ [Sample.next, Sample.next])).streams,
      st.phase = .ended .accepted := by decide +kernel
  obtain ⟨st, hst, hphase⟩ := hended
  obtain ⟨hwrote, hstands⟩ := (pairing_authorises_accepted (Runs.Reaches.refl.of_run hrun)).2.1 st hst _ hphase
  have hw := hwrote.mpr rfl
  exact ⟨st, hst, hphase, hw, (hstands hw).1⟩

theorem rejected_phone_stays_authorised :
    Runs.Allowed (step id) Legal start (Sample.upToWrite ++ [.rejectCurrent "cancelled", Sample.next]) ∧
    ∃ st ∈ (Sample.after (Sample.upToWrite ++ [.rejectCurrent "cancelled", Sample.next])).streams,
      st.phase = .ended (.rejected "internal_error" "Pairing failed internally. Run ciao pair again.") ∧ st.wrote ∧
      (Sample.after (Sample.upToWrite ++ [.rejectCurrent "cancelled", Sample.next])).store.contains st.endpointId := by
  constructor
  · decide +kernel
  · decide +kernel

end PairingSystem

end CiaoHost.Pairing
