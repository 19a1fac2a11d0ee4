import CiaoHost.Protocol.Snapshot
import CiaoHost.Lib.KeyedList
import CiaoHost.Lib.Saturating

/-! The durable store of identities and command receipts. Every mutation ends in a write of the
whole file; a write that fails is an error, with the mutation already made in memory. -/

namespace CiaoHost.Session

open Protocol Lib.Checks Lib.KeyedList Lib.Saturating

def maxIdentityMappings : ℕ := 256
def receiptTtlSeconds : ℕ := 24 * 60 * 60

structure IdentityMapping where
  upstreamDigest : String
  sessionId : String
  processNonceDigest : String
  adapterFamily : String
  adapterVersion : String
  processGeneration : ℕ
  snapshotEpoch : ℕ
  revisionSeed : ℕ
  updatedAt : ℕ
  deriving DecidableEq, Repr

/-- `digest` stands for the keyed hash of the store. -/
structure MetadataStore where
  digest : String → String
  mappings : List IdentityMapping
  receipts : List CommandReceipt

namespace MetadataStore

/-- `disk` is what the write of the encoded file answers. -/
def persist (store : MetadataStore) (disk : Except String Unit) : MetadataStore × Except String Unit :=
  (store, disk)

def mappingFor (store : MetadataStore) (upstreamIdentity : String) : Option IdentityMapping :=
  store.mappings.find? (·.upstreamDigest = store.digest upstreamIdentity)

def mappingForProcess (store : MetadataStore) (upstreamIdentity processNonce : String) :
    Option (String × ℕ × ℕ) := do
  let mapping ← store.mappingFor upstreamIdentity
  if mapping.processNonceDigest = store.digest processNonce then
    some (mapping.sessionId, mapping.processGeneration, mapping.snapshotEpoch)
  else none

structure Claim where
  upstreamIdentity : String
  preferredSessionId : Option String
  processNonceDigest : String
  adapterFamily : String
  adapterVersion : String
  liveRevision : Option ℕ
  now : ℕ

def reclaim (claim : Claim) (epoch : ℕ) (mapping : IdentityMapping) : IdentityMapping :=
  let sameProcess := mapping.processNonceDigest = claim.processNonceDigest
  { mapping with
    sessionId := claim.preferredSessionId.getD mapping.sessionId
    processGeneration :=
      if sameProcess then mapping.processGeneration else bump mapping.processGeneration
    -- no live session means daemon continuity was lost even for the same process
    snapshotEpoch :=
      if ¬ sameProcess ∨ claim.liveRevision = none then epoch else mapping.snapshotEpoch
    revisionSeed := bump (max mapping.revisionSeed (claim.liveRevision.getD 0))
    processNonceDigest := claim.processNonceDigest
    adapterFamily := claim.adapterFamily
    adapterVersion := claim.adapterVersion
    updatedAt := claim.now }

def mint (store : MetadataStore) (claim : Claim) (freshId : String) (epoch : ℕ) : IdentityMapping where
  upstreamDigest := store.digest claim.upstreamIdentity
  sessionId := claim.preferredSessionId.getD freshId
  processNonceDigest := claim.processNonceDigest
  adapterFamily := claim.adapterFamily
  adapterVersion := claim.adapterVersion
  processGeneration := 1
  snapshotEpoch := epoch
  revisionSeed := 1
  updatedAt := claim.now

def makeRoom (mappings : List IdentityMapping) : List IdentityMapping :=
  if maxIdentityMappings ≤ mappings.length then (sortByKey IdentityMapping.updatedAt mappings).tail
  else mappings

def receiptsAfterMove (store : MetadataStore) (claim : Claim) (mapping : IdentityMapping) :
    List CommandReceipt :=
  if claim.preferredSessionId.any (· ≠ mapping.sessionId) then
    store.receipts.filter (·.sessionId ≠ mapping.sessionId)
  else store.receipts

def register (store : MetadataStore) (claim : Claim) (freshId : String) (epoch : ℕ) (disk : Except String Unit) :
    MetadataStore × Except String IdentityMapping :=
  if ∃ preferred ∈ claim.preferredSessionId, validOpaqueId preferred ≠ .ok () then
    (store, .error "preferred session ID is invalid")
  else
    let digest := store.digest claim.upstreamIdentity
    let position := store.mappings.findIdx? (·.upstreamDigest = digest)
    if ∃ preferred ∈ claim.preferredSessionId, store.mappings.zipIdx.any fun (mapping, index) =>
        some index ≠ position ∧ mapping.sessionId = preferred then
      (store, .error "preferred session ID is already mapped")
    else
      let (store', assigned) := match store.mappings.find? (·.upstreamDigest = digest) with
        | some mapping =>
          let assigned := reclaim claim epoch mapping
          ({ store with
              mappings := replaceFirst IdentityMapping.upstreamDigest assigned store.mappings
              receipts := store.receiptsAfterMove claim mapping }, assigned)
        | none =>
          let assigned := store.mint claim freshId epoch
          ({ store with mappings := makeRoom store.mappings ++ [assigned] }, assigned)
      match store'.persist disk with
      | (store', .ok ()) => (store', .ok assigned)
      | (store', .error e) => (store', .error e)

def updateMapping (store : MetadataStore) (sessionId : String)
    (change : IdentityMapping → IdentityMapping) (disk : Except String Unit) : MetadataStore × Except String Unit :=
  match store.mappings.find? (·.sessionId = sessionId) with
  | none => (store, .ok ())
  | some mapping =>
    { store with mappings := replaceFirst IdentityMapping.sessionId (change mapping) store.mappings }.persist
      disk

def updateRevision (store : MetadataStore) (sessionId : String) (revision now : ℕ) (disk : Except String Unit) :
    MetadataStore × Except String Unit :=
  store.updateMapping sessionId
    (fun mapping => { mapping with
      revisionSeed := max mapping.revisionSeed revision, updatedAt := now }) disk

def updateEpoch (store : MetadataStore) (sessionId : String) (epoch now : ℕ) (disk : Except String Unit) :
    MetadataStore × Except String Unit :=
  store.updateMapping sessionId
    (fun mapping => { mapping with snapshotEpoch := epoch, updatedAt := now }) disk

def receipt (store : MetadataStore) (commandId : String) : Option CommandReceipt :=
  store.receipts.find? (·.commandId = commandId)

def receiptsFor (store : MetadataStore) (sessionId : String) (generation epoch : ℕ) :
    List CommandReceipt :=
  ((store.receipts.filter fun r => r.sessionId = sessionId ∧ r.processGeneration = generation ∧
    r.snapshotEpoch = epoch).reverse.take maxCommandReceipts).reverse

def upserted (store : MetadataStore) (receipt : CommandReceipt) (now : ℕ) : List CommandReceipt :=
  let receipts := match store.receipts.find? (·.commandId = receipt.commandId) with
    | some existing =>
      if existing.updatedAt ≤ receipt.updatedAt then
        replaceFirst CommandReceipt.commandId receipt store.receipts
      else store.receipts
    | none => store.receipts ++ [receipt]
  let kept := sortByKey CommandReceipt.updatedAt
    (receipts.filter fun r => now - r.updatedAt ≤ receiptTtlSeconds)
  kept.drop (kept.length - maxIdentityMappings * maxCommandReceipts)

def upsertReceipt (store : MetadataStore) (receipt : CommandReceipt) (now : ℕ) (disk : Except String Unit) :
    MetadataStore × Except String Unit :=
  { store with receipts := store.upserted receipt now }.persist disk

end MetadataStore

end CiaoHost.Session
