import CiaoHost.Lib.KeyedMap
import CiaoHost.Lib.Saturating

/-! Pairing offers and the manager that hands them out, claims them and settles them (pairing.rs). -/

namespace CiaoHost.Pairing

open Lib Lib.Saturating

def pairingLifetimeSecs : ℕ := 5 * 60
def outcomeRetentionSecs : ℕ := 10 * 60
def attemptWindowSecs : ℕ := 60
def maxAttemptsPerWindow : ℕ := 8
def maxTrackedRateLimitEndpoints : ℕ := 1024

abbrev PairingId := BitVec 128
abbrev Capability := BitVec 256

structure CreatedOffer where
  pairingId : PairingId
  capability : Capability
  expiresAt : ℕ
  deriving DecidableEq, Repr

structure PairingClaim where
  pairingId : PairingId
  capabilityHash : BitVec 256
  expiresAt : ℕ
  token : ℕ
  deriving DecidableEq, Repr

inductive OfferState where
  | pending
  | validating (token : ℕ)
  | accepted (installationEndpointId : String) (connected : Bool)
  | expired
  | rejected (message : String)
  deriving DecidableEq, Repr

def OfferState.isValidating : OfferState → Bool
  | .validating _ => true
  | _ => false

structure Offer where
  capabilityHash : BitVec 256
  createdAt : ℕ
  expiresAt : ℕ
  state : OfferState
  deriving DecidableEq, Repr

structure PairingStatus where
  state : String
  installationEndpointId : Option String
  connected : Bool
  message : Option String
  deriving DecidableEq, Repr

inductive PairingRejection where
  | unknownPairing
  | expired
  | alreadyConsumed
  | invalidCapability
  | inProgress
  | internal
  deriving DecidableEq, Repr

namespace PairingRejection

def code : PairingRejection → String
  | unknownPairing => "unknown_pairing"
  | expired => "expired"
  | alreadyConsumed => "already_consumed"
  | invalidCapability => "invalid_capability"
  | inProgress => "rate_limited"
  | internal => "internal_error"

def safeMessage : PairingRejection → String
  | unknownPairing => "Pairing code is not active. Run ciao pair again."
  | expired => "Pairing code expired. Run ciao pair again."
  | alreadyConsumed => "Pairing code was already used. Run ciao pair again."
  | invalidCapability => "Pairing code was rejected. Run ciao pair again."
  | inProgress => "Too many pairing attempts. Wait and try again."
  | internal => "Pairing failed internally. Run ciao pair again."

end PairingRejection

def OfferState.status : OfferState → PairingStatus
  | .pending | .validating _ => ⟨"pending", none, false, none⟩
  | .accepted installationEndpointId connected =>
    ⟨if connected then "connected" else "accepted", some installationEndpointId, connected, none⟩
  | .expired => ⟨"expired", none, false, some "Pairing code expired. Run ciao pair again."⟩
  | .rejected message => ⟨"rejected", none, false, some message⟩

structure PairingManager where
  offers : KeyedMap PairingId Offer
  currentPending : Option PairingId

namespace PairingManager

variable (hash : Capability → BitVec 256) (m : PairingManager)

def setState (pairingId : PairingId) (offer : Offer) (state : OfferState) : KeyedMap PairingId Offer :=
  m.offers.insert pairingId { offer with state := state }

def isRetained (now : ℕ) (offer : Offer) : Bool :=
  now - offer.createdAt ≤ pairingLifetimeSecs + outcomeRetentionSecs

def cleanup (now : ℕ) : PairingManager :=
  { m with offers := m.offers.retain fun _ offer => isRetained now offer }

def retireCurrent : Option PairingManager :=
  match m.currentPending.bind fun current => (m.offers.lookup current).map (current, ·) with
  | none => some { m with currentPending := none }
  | some (current, offer) =>
    match offer.state with
    | .pending => some ⟨m.setState current offer (.rejected "Replaced by a newer pairing code."), none⟩
    | .validating _ => none
    | _ => some { m with currentPending := none }

/-- `pairingId` is the first draw that no offer has. -/
def create (now : ℕ) (pairingId : PairingId) (capability : Capability) :
    PairingManager × Except PairingRejection CreatedOffer :=
  let cleaned := m.cleanup now
  match cleaned.retireCurrent with
  | none => (cleaned, .error .inProgress)
  | some retired =>
    let expiresAt := satAdd now pairingLifetimeSecs
    (⟨retired.offers.insert pairingId ⟨hash capability, now, expiresAt, .pending⟩, some pairingId⟩,
      .ok ⟨pairingId, capability, expiresAt⟩)

def clearCurrent (pairingId : PairingId) : Option PairingId :=
  if m.currentPending = some pairingId then none else m.currentPending

def claim (pairingId : PairingId) (capability : Capability) (now token : ℕ) :
    PairingManager × Except PairingRejection PairingClaim :=
  match m.offers.lookup pairingId with
  | none => (m, .error .unknownPairing)
  | some offer =>
    match offer.state with
    | .expired => (m, .error .expired)
    | .validating _ | .accepted .. | .rejected _ => (m, .error .alreadyConsumed)
    | .pending =>
      if offer.expiresAt ≤ now then
        (⟨m.setState pairingId offer .expired, m.clearCurrent pairingId⟩, .error .expired)
      else if offer.capabilityHash ≠ hash capability then (m, .error .invalidCapability)
      else ({ m with offers := m.setState pairingId offer (.validating token) },
        .ok ⟨pairingId, offer.capabilityHash, offer.expiresAt, token⟩)

def complete (claim : PairingClaim) (installationEndpointId : String) (now : ℕ) :
    PairingManager × Except PairingRejection Unit :=
  match m.offers.lookup claim.pairingId with
  | none => (m, .error .internal)
  | some offer =>
    if offer.expiresAt ≤ now then (⟨m.setState claim.pairingId offer .expired, none⟩, .error .expired)
    else if offer.state = .validating claim.token then
      (⟨m.setState claim.pairingId offer (.accepted installationEndpointId false), m.clearCurrent claim.pairingId⟩,
        .ok ())
    else (m, .error .internal)

def abort (claim : PairingClaim) (now : ℕ) : PairingManager :=
  match m.offers.lookup claim.pairingId with
  | none => m
  | some offer =>
    if offer.state ≠ .validating claim.token then m
    else if offer.expiresAt ≤ now then ⟨m.setState claim.pairingId offer .expired, none⟩
    else ⟨m.setState claim.pairingId offer .pending, some claim.pairingId⟩

def markConnected (pairingId : PairingId) (endpointId : String) : PairingManager :=
  match m.offers.lookup pairingId with
  | none => m
  | some offer =>
    match offer.state with
    | .accepted installationEndpointId _ =>
      if installationEndpointId = endpointId then
        { m with offers := m.setState pairingId offer (.accepted installationEndpointId true) }
      else m
    | _ => m

def rejectCurrent (message : String) : PairingManager :=
  match m.currentPending.bind fun current => (m.offers.lookup current).map (current, ·) with
  | none => { m with currentPending := none }
  | some (current, offer) => ⟨m.setState current offer (.rejected message), none⟩

def unknownStatus : PairingStatus :=
  ⟨"unknown", none, false, some "Pairing offer is no longer known. Run ciao pair again."⟩

def status (pairingId : Option PairingId) (now : ℕ) : PairingManager × PairingStatus :=
  match pairingId.bind fun id => (m.offers.lookup id).map (id, ·) with
  | none => (m, unknownStatus)
  | some (id, offer) =>
    if offer.state = .pending ∧ offer.expiresAt ≤ now then
      (⟨m.setState id offer .expired, m.clearCurrent id⟩, OfferState.expired.status)
    else (m, offer.state.status)

end PairingManager

structure PairingRateLimiter where
  attempts : KeyedMap String (List ℕ)

def PairingRateLimiter.check (l : PairingRateLimiter) (endpointId : String) (now : ℕ) :
    PairingRateLimiter × Except PairingRejection Unit :=
  let recent := l.attempts.mapValues (·.dropWhile fun attempt => attemptWindowSecs ≤ now - attempt)
  let tracked := KeyedMap.retain (fun _ attempts => attempts ≠ []) recent
  match tracked.lookup endpointId with
  | none =>
    if maxTrackedRateLimitEndpoints ≤ tracked.entries.length then (⟨tracked⟩, .error .inProgress)
    else (⟨tracked.insert endpointId [now]⟩, .ok ())
  | some attempts =>
    if maxAttemptsPerWindow ≤ attempts.length then (⟨tracked⟩, .error .inProgress)
    else (⟨tracked.insert endpointId (attempts ++ [now])⟩, .ok ())

end CiaoHost.Pairing
