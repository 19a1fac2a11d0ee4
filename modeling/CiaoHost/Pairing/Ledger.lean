import CiaoHost.Pairing.Commitments

/-! The calls on the manager, together with the claims that are not resolved yet: what each call can do, and what
holds of the offers after any of them. -/

namespace CiaoHost.Pairing

open Lib PairingManager

inductive Call where
  | create (now : ℕ) (pairingId : PairingId) (capability : Capability)
  | claim (pairingId : PairingId) (capability : Capability) (now token : ℕ)
  | complete (claim : PairingClaim) (installationEndpointId : String) (now : ℕ)
  | abort (claim : PairingClaim) (now : ℕ)
  | markConnected (pairingId : PairingId) (endpointId : String)
  | rejectCurrent (message : String)
  | status (pairingId : Option PairingId) (now : ℕ)

/-- The manager beside what its callers hold: the ids drawn so far, the claims still to be resolved, and how
often each offer was claimed and handed back. -/
structure Ledger where
  manager : PairingManager
  drawn : Finset PairingId
  unresolved : List PairingClaim
  claims : PairingId → ℕ
  aborts : PairingId → ℕ

namespace Ledger

def start : Ledger := ⟨⟨∅, none⟩, ∅, [], fun _ => 0, fun _ => 0⟩

def bump (count : PairingId → ℕ) (id : PairingId) : PairingId → ℕ := fun other =>
  if other = id then count other + 1 else count other

variable (hash : Capability → BitVec 256) (L : Ledger)

def HandsBack (c : PairingClaim) (now : ℕ) : Prop :=
  ∃ offer ∈ L.manager.offers.lookup c.pairingId, offer.state = .validating c.token ∧ now < offer.expiresAt

instance (c : PairingClaim) (now : ℕ) : Decidable (L.HandsBack c now) :=
  match h : L.manager.offers.lookup c.pairingId with
  | none => .isFalse (by simp [HandsBack, h])
  | some offer => decidable_of_iff (offer.state = .validating c.token ∧ now < offer.expiresAt) (by simp [HandsBack, h])

def step : Call → Ledger
  | .create now pairingId capability =>
    { L with manager := (L.manager.create hash now pairingId capability).1, drawn := insert pairingId L.drawn }
  | .claim pairingId capability now token =>
    match L.manager.claim hash pairingId capability now token with
    | (manager, .error _) => { L with manager := manager }
    | (manager, .ok c) =>
      { L with manager := manager, unresolved := c :: L.unresolved, claims := bump L.claims pairingId }
  | .complete c installationEndpointId now =>
    { L with manager := (L.manager.complete c installationEndpointId now).1, unresolved := L.unresolved.erase c }
  | .abort c now =>
    { L with
      manager := L.manager.abort c now
      unresolved := L.unresolved.erase c
      aborts := if L.HandsBack c now then bump L.aborts c.pairingId else L.aborts }
  | .markConnected pairingId endpointId => { L with manager := L.manager.markConnected pairingId endpointId }
  | .rejectCurrent message => { L with manager := L.manager.rejectCurrent message }
  | .status pairingId now => { L with manager := (L.manager.status pairingId now).1 }

/-- Ids are fresh draws, and a claim is resolved once, by whoever holds it. -/
def Fresh : Call → Prop
  | .create _ pairingId _ => pairingId ∉ L.drawn
  | .complete c _ _ | .abort c _ => c ∈ L.unresolved
  | _ => True

instance : ∀ call, Decidable (L.Fresh call)
  | .create _ pairingId _ => inferInstanceAs (Decidable (pairingId ∉ L.drawn))
  | .complete c _ _ | .abort c _ => inferInstanceAs (Decidable (c ∈ L.unresolved))
  | .claim .. | .markConnected .. | .rejectCurrent _ | .status .. => .isTrue trivial

inductive Turns : Call → Ledger → Prop
  | still (call : Call) (unresolved : List PairingClaim) : unresolved.Sublist L.unresolved →
      Turns call { L with unresolved := unresolved }
  | idle (message : String) : (∀ id ∈ L.manager.currentPending, L.manager.offers.lookup id = none) →
      Turns (.rejectCurrent message) { L with manager := { L.manager with currentPending := none } }
  | expires (call : Call) {id : PairingId} {offer : Offer} : L.manager.offers.lookup id = some offer →
      offer.state = .pending →
      Turns call { L with manager := ⟨L.manager.setState id offer .expired, L.manager.clearCurrent id⟩ }
  | claimed {id : PairingId} {offer : Offer} (capability : Capability) (now : ℕ) {c : PairingClaim} :
      L.manager.offers.lookup id = some offer → offer.state = .pending → c.pairingId = id →
      Turns (.claim id capability now c.token)
        { L with
          manager := { L.manager with offers := L.manager.setState id offer (.validating c.token) }
          unresolved := c :: L.unresolved
          claims := bump L.claims id }
  | accepts {c : PairingClaim} {offer : Offer} (endpointId : String) (now : ℕ) : c ∈ L.unresolved →
      L.manager.offers.lookup c.pairingId = some offer → offer.state = .validating c.token →
      Turns (.complete c endpointId now)
        { L with
          manager := ⟨L.manager.setState c.pairingId offer (.accepted endpointId false),
            L.manager.clearCurrent c.pairingId⟩
          unresolved := L.unresolved.erase c }
  | lapses {c : PairingClaim} {offer : Offer} (endpointId : String) (now : ℕ) : c ∈ L.unresolved →
      L.manager.offers.lookup c.pairingId = some offer → offer.expiresAt ≤ now →
      Turns (.complete c endpointId now)
        { L with
          manager := ⟨L.manager.setState c.pairingId offer .expired, none⟩
          unresolved := L.unresolved.erase c }
  | abandons {c : PairingClaim} {offer : Offer} (now : ℕ) : c ∈ L.unresolved →
      L.manager.offers.lookup c.pairingId = some offer → offer.state = .validating c.token →
      Turns (.abort c now)
        { L with
          manager := ⟨L.manager.setState c.pairingId offer .expired, none⟩
          unresolved := L.unresolved.erase c }
  | returns {c : PairingClaim} {offer : Offer} (now : ℕ) : c ∈ L.unresolved →
      L.manager.offers.lookup c.pairingId = some offer → offer.state = .validating c.token →
      Turns (.abort c now)
        { L with
          manager := ⟨L.manager.setState c.pairingId offer .pending, some c.pairingId⟩
          unresolved := L.unresolved.erase c
          aborts := bump L.aborts c.pairingId }
  | connects {id : PairingId} {offer : Offer} {endpointId : String} {connected : Bool} :
      L.manager.offers.lookup id = some offer → offer.state = .accepted endpointId connected →
      Turns (.markConnected id endpointId)
        { L with
          manager := { L.manager with offers := L.manager.setState id offer (.accepted endpointId true) } }
  | rejects {id : PairingId} {offer : Offer} (message : String) : L.manager.currentPending = some id →
      L.manager.offers.lookup id = some offer →
      Turns (.rejectCurrent message) { L with manager := ⟨L.manager.setState id offer (.rejected message), none⟩ }
  | refuses (now : ℕ) (id : PairingId) (capability : Capability) :
      Turns (.create now id capability) { L with manager := L.manager.cleanup now, drawn := insert id L.drawn }
  | creates (now : ℕ) {id : PairingId} (capability : Capability) {retired : PairingManager} {offer : Offer} :
      id ∉ L.drawn → (L.manager.cleanup now).retireCurrent = some retired → offer.state = .pending →
      Turns (.create now id capability)
        { L with manager := ⟨retired.offers.insert id offer, some id⟩, drawn := insert id L.drawn }

variable {hash L}

variable {c : PairingClaim}

lemma turns_create {now : ℕ} {id : PairingId} {capability : Capability} (hfresh : id ∉ L.drawn) :
    L.Turns (.create now id capability) (L.step hash (.create now id capability)) := by
  rw [step, PairingManager.create]
  split
  · exact .refuses now id capability
  · next hretired => exact .creates now capability hfresh hretired rfl

lemma turns_claim (id : PairingId) (capability : Capability) (now token : ℕ) :
    L.Turns (.claim id capability now token) (L.step hash (.claim id capability now token)) := by
  rcases L.manager.claim_cases hash id capability now token with ⟨r, heq⟩ | ⟨offer, hoffer, hpending, heq | heq⟩ <;>
    rw [step, heq]
  · exact .still _ _ (.refl _)
  · exact .expires _ hoffer hpending
  · exact @Turns.claimed L id offer capability now ⟨id, _, _, token⟩ hoffer hpending rfl

lemma turns_complete (endpointId : String) (now : ℕ) (hc : c ∈ L.unresolved) :
    L.Turns (.complete c endpointId now) (L.step hash (.complete c endpointId now)) := by
  rw [step, PairingManager.complete]
  split
  · exact .still _ _ List.erase_sublist
  · next offer hoffer =>
    split
    · next hlate => exact .lapses endpointId now hc hoffer hlate
    · split
      · next hstate => exact .accepts endpointId now hc hoffer hstate
      · exact .still _ _ List.erase_sublist

lemma turns_abort (now : ℕ) (hc : c ∈ L.unresolved) :
    L.Turns (.abort c now) (L.step hash (.abort c now)) := by
  rw [step, PairingManager.abort]
  split
  · next hoffer =>
    have hback : ¬ L.HandsBack c now := by simp [HandsBack, hoffer]
    rw [if_neg hback]
    exact .still _ _ List.erase_sublist
  · next offer hoffer =>
    have hback : L.HandsBack c now ↔ offer.state = .validating c.token ∧ now < offer.expiresAt := by
      simp [HandsBack, hoffer]
    split
    · next hstate =>
      rw [if_neg fun h => hstate (hback.mp h).1]
      exact .still _ _ List.erase_sublist
    · next hstate =>
      have hstate : offer.state = .validating c.token := not_not.mp hstate
      split
      · next hlate =>
        rw [if_neg fun h => absurd (hback.mp h).2 (not_lt.mpr hlate)]
        exact .abandons now hc hoffer hstate
      · next hlate =>
        rw [if_pos (hback.mpr ⟨hstate, not_le.mp hlate⟩)]
        exact .returns now hc hoffer hstate

lemma turns_markConnected (id : PairingId) (endpointId : String) :
    L.Turns (.markConnected id endpointId) (L.step hash (.markConnected id endpointId)) := by
  rw [step, PairingManager.markConnected]
  split
  · exact .still _ _ (.refl _)
  · next offer hoffer =>
    split
    · next installed connected hstate =>
      split
      · next hsame =>
        subst hsame
        exact .connects hoffer hstate
      · exact .still _ _ (.refl _)
    · exact .still _ _ (.refl _)

lemma turns_rejectCurrent (message : String) :
    L.Turns (.rejectCurrent message) (L.step hash (.rejectCurrent message)) := by
  rw [step, PairingManager.rejectCurrent]
  split
  · next hnone =>
    refine .idle message fun id hid => ?_
    rw [Option.mem_def.mp hid] at hnone
    exact Option.map_eq_none_iff.mp hnone
  · next id offer hsome =>
    obtain ⟨hid, hoffer⟩ := bind_lookup hsome
    exact .rejects message hid hoffer

lemma turns_status (id : Option PairingId) (now : ℕ) : L.Turns (.status id now) (L.step hash (.status id now)) := by
  rw [step, PairingManager.status]
  split
  · exact .still _ _ (.refl _)
  · next found offer hsome =>
    obtain ⟨-, hoffer⟩ := bind_lookup hsome
    split
    · next hpending => exact .expires _ hoffer hpending.1
    · exact .still _ _ (.refl _)

theorem step_turns {call : Call} (hfresh : L.Fresh call) : L.Turns call (L.step hash call) := by
  cases call with
  | create now id capability => exact turns_create hfresh
  | claim id capability now token => exact turns_claim id capability now token
  | complete c endpointId now => exact turns_complete endpointId now hfresh
  | abort c now => exact turns_abort now hfresh
  | markConnected id endpointId => exact turns_markConnected id endpointId
  | rejectCurrent message => exact turns_rejectCurrent message
  | status id now => exact turns_status id now

end Ledger

end CiaoHost.Pairing
