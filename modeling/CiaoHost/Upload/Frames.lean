import CiaoHost.Lib.Framing

/-! The frames of a `file.put.v1` stream: their caps, their meaning, and the checks on an opening. -/

namespace CiaoHost.Upload

open CiaoHost.Lib

inductive HostProtocolError
  | unknownFrameType
  | frameTooLarge
  | malformedJson
  | zeroLength
  | invalidControlValue
  | unexpectedDirection
deriving DecidableEq, Repr

inductive UploadErrorCode
  | busy | tooLarge | invalid | hashMismatch | io | quota | timeout | cancelled
deriving DecidableEq, Repr

def UploadErrorCode.wire : UploadErrorCode → String
  | .busy => "busy"
  | .tooLarge => "too_large"
  | .invalid => "invalid"
  | .hashMismatch => "hash_mismatch"
  | .io => "io"
  | .quota => "quota"
  | .timeout => "timeout"
  | .cancelled => "cancelled"

structure UploadFailure where
  code : UploadErrorCode
  message : String
deriving DecidableEq, Repr

def uploadJsonVersion : ℕ := 1

def framePutOpen : UInt8 := 0x01
def framePutAccepted : UInt8 := 0x02
def framePutChunk : UInt8 := 0x03
def framePutFinish : UInt8 := 0x04
def framePutDone : UInt8 := 0x05
def framePutError : UInt8 := 0x06
def framePutCancel : UInt8 := 0x07

def maxUploadControlPayload : ℕ := 4096
def maxUploadChunkPayload : ℕ := 16 * 1024
def maxUploadFileBytes : ℕ := 8 * 1024 * 1024

structure PutOpen where
  v : ℕ
  requestId : String
  filename : String
  sourceKind : String
  size : ℕ
  sha256 : String
deriving DecidableEq, Repr

def asciiHexdigit (c : Char) : Bool := c.isDigit || ('a' ≤ c && c ≤ 'f') || ('A' ≤ c && c ≤ 'F')

-- only ASCII passes either check, so that counting characters is counting bytes
def validUploadRequestId (value : String) : Bool :=
  value.toList.length = 36 && value.toList.zipIdx.all fun (c, index) =>
    if index ∈ [8, 13, 18, 23] then c = '-' else asciiHexdigit c

def validSha256Hex (value : String) : Bool :=
  value.toList.length = 64 && value.toList.all fun c => c.isDigit || ('a' ≤ c && c ≤ 'f')

def PutOpen.validate (o : PutOpen) : Except UploadFailure Unit :=
  if o.v ≠ uploadJsonVersion then
    .error ⟨.invalid, "This upload protocol version is not supported."⟩
  else if ¬ validUploadRequestId o.requestId then
    .error ⟨.invalid, "The upload request ID must be a UUID."⟩
  else if o.sourceKind ≠ "photo" ∧ o.sourceKind ≠ "file" then
    .error ⟨.invalid, "The upload source kind is not supported."⟩
  else if ¬ validSha256Hex o.sha256 then
    .error ⟨.invalid, "The declared SHA-256 must be 64 lowercase hex characters."⟩
  else if o.size = 0 then
    .error ⟨.invalid, "An empty upload is not valid."⟩
  else if maxUploadFileBytes < o.size then
    .error ⟨.tooLarge, "The file exceeds the 8 MiB upload limit."⟩
  else .ok ()

inductive UploadClientFrame
  | open (o : PutOpen)
  | chunk (bytes : List UInt8)
  | finish
  | cancel
deriving DecidableEq, Repr

def uploadFramePayloadLimit (frameType : UInt8) : Except HostProtocolError ℕ :=
  if frameType ∈ [framePutOpen, framePutAccepted, framePutDone, framePutError] then
    .ok maxUploadControlPayload
  else if frameType = framePutChunk then .ok maxUploadChunkPayload
  else if frameType ∈ [framePutFinish, framePutCancel] then .ok 0
  else .error .unknownFrameType

section Decode

-- `serde_json::from_slice` for an opening
variable (parseOpen : List UInt8 → Option PutOpen)

def decodeUploadClientFrame (frameType : UInt8) (payload : List UInt8) :
    Except HostProtocolError UploadClientFrame :=
  if frameType = framePutOpen then
    match parseOpen payload with
    | none => .error .malformedJson
    | some o => .ok (.open o)
  else if frameType = framePutChunk then
    if payload = [] then .error .zeroLength else .ok (.chunk payload)
  else if frameType = framePutFinish then
    if payload ≠ [] then .error .invalidControlValue else .ok .finish
  else if frameType = framePutCancel then
    if payload ≠ [] then .error .invalidControlValue else .ok .cancel
  else if frameType ∈ [framePutAccepted, framePutDone, framePutError] then .error .unexpectedDirection
  else .error .unknownFrameType

def uploadFormat : Framing.Format HostProtocolError UploadClientFrame where
  limit := uploadFramePayloadLimit
  tooLarge := .frameTooLarge
  decode := decodeUploadClientFrame parseOpen

inductive Decodes : UInt8 → List UInt8 → UploadClientFrame → Prop
  | open {payload : List UInt8} {o : PutOpen} (h : parseOpen payload = some o) :
      Decodes framePutOpen payload (.open o)
  | chunk {bytes : List UInt8} (h : bytes ≠ []) : Decodes framePutChunk bytes (.chunk bytes)
  | finish : Decodes framePutFinish [] .finish
  | cancel : Decodes framePutCancel [] .cancel

variable {parseOpen}

lemma decode_decodes {frameType : UInt8} {payload : List UInt8} {f : UploadClientFrame}
    (h : decodeUploadClientFrame parseOpen frameType payload = .ok f) :
    Decodes parseOpen frameType payload f := by
  rw [decodeUploadClientFrame] at h
  split_ifs at h with hopen hchunk hempty hfinish hnonempty hcancel hnonempty
  · subst hopen
    split at h
    · cases h
    · next o ho =>
      cases h
      exact .open ho
  · subst hchunk
    cases h
    exact .chunk hempty
  · subst hfinish
    rw [not_not] at hnonempty
    subst hnonempty
    cases h
    exact .finish
  · subst hcancel
    rw [not_not] at hnonempty
    subst hnonempty
    cases h
    exact .cancel

end Decode

section Taken

variable {parseOpen : List UInt8 → Option PutOpen} {bytes rest payload : List UInt8}

variable {o : PutOpen}

lemma take_open (hlen : payload.length ≤ maxUploadControlPayload) (hparse : parseOpen payload = some o) :
    (uploadFormat parseOpen).takeFrame (Framing.frame framePutOpen payload ++ rest) =
      .ok (some (.open o, rest)) := by
  apply Framing.Format.takeFrame_frame (show _ = Except.ok maxUploadControlPayload from rfl) hlen
  · exact lt_of_le_of_lt hlen (by decide)
  · simp [uploadFormat, decodeUploadClientFrame, hparse]

lemma take_chunk (hne : bytes ≠ []) (hlen : bytes.length ≤ maxUploadChunkPayload) :
    (uploadFormat parseOpen).takeFrame (Framing.frame framePutChunk bytes ++ rest) =
      .ok (some (.chunk bytes, rest)) := by
  apply Framing.Format.takeFrame_frame (show _ = Except.ok maxUploadChunkPayload from rfl) hlen
  · exact lt_of_le_of_lt hlen (by decide)
  · simp [uploadFormat, decodeUploadClientFrame, hne, framePutOpen, framePutChunk]

lemma take_finish : (uploadFormat parseOpen).takeFrame (Framing.frame framePutFinish [] ++ rest) =
      .ok (some (.finish, rest)) := by
  apply Framing.Format.takeFrame_frame (show _ = Except.ok 0 from rfl) le_rfl
  · decide
  · rfl

lemma taken_open (h : (uploadFormat parseOpen).takeFrame bytes = .ok (some (.open o, rest))) :
    ∃ payload, bytes = Framing.frame framePutOpen payload ++ rest ∧
      payload.length ≤ maxUploadControlPayload ∧ parseOpen payload = some o := by
  obtain ⟨kind, payload, cap, rfl, hlimit, hcap, _, hdecode⟩ := Framing.Format.takeFrame_some h
  cases decode_decodes hdecode with
  | «open» hparse =>
    cases hlimit
    exact ⟨payload, rfl, hcap, hparse⟩

lemma taken_chunk {chunk : List UInt8}
    (h : (uploadFormat parseOpen).takeFrame bytes = .ok (some (.chunk chunk, rest))) :
    bytes = Framing.frame framePutChunk chunk ++ rest ∧ chunk ≠ [] ∧
      chunk.length ≤ maxUploadChunkPayload := by
  obtain ⟨kind, payload, cap, rfl, hlimit, hcap, _, hdecode⟩ := Framing.Format.takeFrame_some h
  cases decode_decodes hdecode with
  | chunk hne =>
    cases hlimit
    exact ⟨rfl, hne, hcap⟩

lemma taken_finish (h : (uploadFormat parseOpen).takeFrame bytes = .ok (some (.finish, rest))) :
    bytes = Framing.frame framePutFinish [] ++ rest := by
  obtain ⟨kind, payload, cap, rfl, hlimit, _, _, hdecode⟩ := Framing.Format.takeFrame_some h
  cases decode_decodes hdecode with
  | finish => rfl

end Taken

end CiaoHost.Upload
