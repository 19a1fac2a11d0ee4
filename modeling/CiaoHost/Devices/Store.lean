import CiaoHost.Lib.Base64
import CiaoHost.Lib.Checks
import CiaoHost.Lib.KeyedList
import CiaoHost.Notify.Registrations

/-! The file of paired devices and the store that is written to it (storage.rs). -/

namespace CiaoHost.Devices

open Lib Lib.Text Lib.Checks Lib.KeyedList Notify

def hexDigit (c : Char) : Bool := c.isDigit || 'a' ≤ c && c ≤ 'f'

/-- `isKey` says which texts name a point of the curve. -/
def validateEndpointId (isKey : String → Bool) (value : String) : Except String Unit := do
  refuseIf "endpoint ID must be 64 lowercase hexadecimal characters"
    (byteLen value ≠ 64 ∨ value.toList.all hexDigit = false)
  refuseIf "endpoint ID is not a valid Iroh public key" (isKey value = false)

structure EndpointId (isKey : String → Bool) where
  text : String
  valid : validateEndpointId isKey text = .ok ()

abbrev Bytes32 := { bytes : List UInt8 // bytes.length = 32 }

def base64url (bytes : Bytes32) : String := String.ofList (Base64.encode bytes.val)

def decodeExact (length : ℕ) (value : String) : Option (List UInt8) :=
  if value.toList = [] ∨ '=' ∈ value.toList then none
  else (Base64.decode value.toList).filter (·.length = length)

structure PairedDevice where
  endpointId : String
  pairedAt : ℕ
  transcriptHash : String
  notificationKey : Option String
  pushTicket : Option String
  liveActivity : Option LiveActivityRegistration
  deriving DecidableEq, Repr

structure PairedDevicesFile where
  v : ℕ
  devices : List PairedDevice
  deriving DecidableEq, Repr

def validateSelection (selection : LiveActivitySelection) : Except String Unit :=
  refuseIf "live activity selection is malformed" (selection.valid = false)

def validateRegistration (registration : LiveActivityRegistration) : Except String Unit := do
  refuseIf "live activity registration is malformed" (validPushTicket registration.ticket = false ∨
    registration.selections = [] ∨ maxLiveActivitySelections < registration.selections.length)
  eachDistinct LiveActivitySelection.sessionId validateSelection
    "live activity registration contains a duplicate session" [] registration.selections

def checkDevice (isKey : String → Bool) (path : String) (device : PairedDevice) : Except String Unit := do
  validateEndpointId isKey device.endpointId
  refuseIf (path ++ " contains an invalid transcript hash") (decodeExact 32 device.transcriptHash = none)
  refuseIf (path ++ " contains an invalid notification key")
    (device.notificationKey.any fun key => decodeExact 32 key = none)
  refuseIf (path ++ " contains an invalid push ticket") (device.pushTicket.any fun ticket => !validPushTicket ticket)
  refuseIf (path ++ " contains an invalid live activity") (device.liveActivity.any fun registration =>
    device.notificationKey = none ∨ validateRegistration registration ≠ .ok ())

def checkDevices (isKey : String → Bool) (path : String) (devices : List PairedDevice) : Except String Unit :=
  eachDistinct PairedDevice.endpointId (checkDevice isKey path) (path ++ " contains a duplicate endpoint ID") [] devices

/-- How the file is written as bytes. What was written is read back; anything else may be malformed. -/
structure Codec (Bytes : Type) where
  encode : PairedDevicesFile → Bytes
  decode : Bytes → Option PairedDevicesFile
  decode_encode : ∀ file, decode (encode file) = some file

/-- The file under the store's path, and what `validate_private_file` finds wrong with its kind, owner, mode or
links, if anything. -/
structure StoredFile (Bytes : Type) where
  bytes : Bytes
  insecure : Option String

inductive WriteStep where
  | create | setPermissions | write | sync | rename | openParent | syncParent
  deriving DecidableEq, Repr

def WriteStep.replaced : WriteStep → Bool
  | openParent | syncParent => true
  | _ => false

section Store

variable {Bytes : Type} (codec : Codec Bytes) (isKey : String → Bool) (path : String)

/-- Writes a private file beside the old one and renames it over it; `fails` is the step that fails, if any. -/
def atomicWritePrivate (file : Option (StoredFile Bytes)) (contents : Bytes) (fails : Option WriteStep) :
    Option (StoredFile Bytes) × Except String Unit :=
  match fails with
  | none => (some ⟨contents, none⟩, .ok ())
  | some step => (if step.replaced then some ⟨contents, none⟩ else file, .error "write failed")

structure PairedDeviceStore (Bytes : Type) where
  devices : List PairedDevice
  file : Option (StoredFile Bytes)

def load (file : Option (StoredFile Bytes)) (fails : Option WriteStep) :
    Option (StoredFile Bytes) × Except String (List PairedDevice) :=
  match file with
  | none =>
    let (file, written) := atomicWritePrivate none (codec.encode ⟨1, []⟩) fails
    (file, written.map fun _ => [])
  | some stored => (some stored,
    match stored.insecure, codec.decode stored.bytes with
    | some e, _ => .error e
    | none, none => .error (path ++ " is malformed; restore or remove it explicitly")
    | none, some parsed =>
      if parsed.v ≠ 1 then .error (path ++ " has unsupported version " ++ toString parsed.v)
      else (checkDevices isKey path parsed.devices).map fun _ => parsed.devices)

namespace PairedDeviceStore

variable {isKey} (s : PairedDeviceStore Bytes)

/-- The file is written first; a write that fails leaves the devices in memory as they were. -/
def persist (updated : List PairedDevice) (fails : Option WriteStep) : PairedDeviceStore Bytes × Except String Unit :=
  match atomicWritePrivate s.file (codec.encode ⟨1, updated⟩) fails with
  | (file, .ok ()) => (⟨updated, file⟩, .ok ())
  | (file, .error e) => ({ s with file := file }, .error e)

def upsert (endpoint : EndpointId isKey) (pairedAt : ℕ) (transcriptHash notificationKey : Bytes32)
    (fails : Option WriteStep) : PairedDeviceStore Bytes × Except String Unit :=
  let record : PairedDevice :=
    ⟨endpoint.text, pairedAt, base64url transcriptHash, some (base64url notificationKey), none, none⟩
  let updated :=
    if s.devices.any (·.endpointId = endpoint.text) then replaceFirst PairedDevice.endpointId record s.devices
    else (s.devices ++ [record]).insertionSort (·.endpointId ≤ ·.endpointId)
  s.persist codec updated fails

def find (endpoint : EndpointId isKey) : Option PairedDevice := s.devices.find? (·.endpointId = endpoint.text)

def setPushTicket (endpoint : EndpointId isKey) (ticket : Option String) (fails : Option WriteStep) :
    PairedDeviceStore Bytes × Except String Unit :=
  if ticket.any fun t => !validPushTicket t then (s, .error "push ticket is malformed")
  else match s.find endpoint with
    | none => (s, .error "device is not paired")
    | some device =>
      if device.pushTicket = ticket then (s, .ok ())
      else s.persist codec
        (replaceFirst PairedDevice.endpointId { device with pushTicket := ticket } s.devices) fails

def persistActivity (device : PairedDevice) (activity : Option LiveActivityRegistration) (selected : ℕ)
    (fails : Option WriteStep) : PairedDeviceStore Bytes × Except String ℕ :=
  match s.persist codec (replaceFirst PairedDevice.endpointId { device with liveActivity := activity } s.devices) fails with
  | (s, .ok ()) => (s, .ok selected)
  | (s, .error e) => (s, .error e)

def updateLiveActivity (endpoint : EndpointId isKey) (ticket : Option String)
    (change : Option LiveActivitySelectionChange) (fails : Option WriteStep) :
    PairedDeviceStore Bytes × Except String ℕ :=
  if ticket.any fun t => !validPushTicket t then (s, .error "live activity ticket is malformed")
  else match s.find endpoint with
    | none => (s, .error "device is not paired")
    | some device =>
      if device.notificationKey = none then (s, .error "device has no notification key")
      else match ticket with
        | none =>
          if change ≠ none then (s, .error "a selection mutation requires a live activity ticket")
          else if device.liveActivity = none then (s, .ok 0)
          else s.persistActivity codec device none 0 fails
        | some ticket =>
          let registration := { device.liveActivity.getD ⟨ticket, []⟩ with ticket := ticket }
          match registration.changed change with
          | .error e => (s, .error e)
          | .ok none => (s, .ok 0)
          | .ok (some selections) =>
            let sorted := selections.insertionSort (·.sessionId ≤ ·.sessionId)
            s.persistActivity codec device (if sorted = [] then none else some ⟨ticket, sorted⟩) sorted.length fails

def clearLiveActivity (endpoint : EndpointId isKey) (fails : Option WriteStep) :
    PairedDeviceStore Bytes × Except String Unit :=
  let (s, answer) := s.updateLiveActivity codec endpoint none none fails
  (s, answer.map fun _ => ())

def remove (endpointId : String) (fails : Option WriteStep) : PairedDeviceStore Bytes × Except String Bool :=
  let updated := s.devices.filter (·.endpointId ≠ endpointId)
  if updated.length = s.devices.length then (s, .ok false)
  else match s.persist codec updated fails with
    | (s, .ok ()) => (s, .ok true)
    | (s, .error e) => (s, .error e)

end PairedDeviceStore

inductive Op (isKey : String → Bool) where
  | upsert (endpoint : EndpointId isKey) (pairedAt : ℕ) (transcriptHash notificationKey : Bytes32)
  | setPushTicket (endpoint : EndpointId isKey) (ticket : Option String)
  | updateLiveActivity (endpoint : EndpointId isKey) (ticket : Option String) (change : Option LiveActivitySelectionChange)
  | clearLiveActivity (endpoint : EndpointId isKey)
  | remove (endpointId : String)

structure Input (isKey : String → Bool) where
  op : Op isKey
  fails : Option WriteStep

variable {isKey} in
def PairedDeviceStore.step (s : PairedDeviceStore Bytes) (i : Input isKey) : PairedDeviceStore Bytes :=
  match i.op with
  | .upsert endpoint pairedAt transcriptHash notificationKey =>
    (s.upsert codec endpoint pairedAt transcriptHash notificationKey i.fails).1
  | .setPushTicket endpoint ticket => (s.setPushTicket codec endpoint ticket i.fails).1
  | .updateLiveActivity endpoint ticket change => (s.updateLiveActivity codec endpoint ticket change i.fails).1
  | .clearLiveActivity endpoint => (s.clearLiveActivity codec endpoint i.fails).1
  | .remove endpointId => (s.remove codec endpointId i.fails).1

end Store

end CiaoHost.Devices
