import CiaoHost.Upload.Store

/-! One upload stream, from its opening to the frame that ends it, over reads cut anywhere. -/

namespace CiaoHost.Upload

open CiaoHost.Lib CiaoHost.Lib.Framing

inductive Ending
  | broken
  | idle
deriving DecidableEq, Repr

structure PutAccepted where
  v : ℕ
  transferId : String
  chunkBytes : ℕ
  maxBytes : ℕ
deriving DecidableEq, Repr

structure PutDone where
  v : ℕ
  hostPath : String
  promptReference : String
  expiresAt : String
deriving DecidableEq, Repr

structure PutError where
  v : ℕ
  code : String
  message : String
deriving DecidableEq, Repr

inductive UploadHostFrame
  | accepted (a : PutAccepted)
  | done (d : PutDone)
  | error (e : PutError)
deriving DecidableEq, Repr

def UploadHostFrame.terminal : UploadHostFrame → Bool
  | .accepted _ => false
  | .done _ => true
  | .error _ => true

/-- What the run draws and how its file operations and sends turn out: the `n`th write is `wrote n`. -/
structure Outcomes where
  token : String
  transferId : String
  ensured : Bool
  created : Bool
  createdAt : ℕ
  wrote : ℕ → Bool
  wroteAt : ℕ → ℕ
  synced : Bool
  scanned : Bool
  renamed : Bool
  completedAt : ℕ
  sentAccepted : Bool
  sentTerminal : Bool

structure UploadRun where
  directory : Directory
  sent : List UploadHostFrame
  /-- Whether the exchange concluded with a frame the phone can read. -/
  concluded : Bool
deriving DecidableEq

section Run

variable (parseOpen : List UInt8 → Option PutOpen) (sha256 : List UInt8 → String)
  (store : UploadStore) (env : Outcomes) (ending : Ending)

inductive FrameOutcome
  | frame (f : UploadClientFrame) (buffered : List UInt8) (reads : List (List UInt8))
  | timeout
  | protocol
  | transport

def nextFrame (buffered : List UInt8) (reads : List (List UInt8)) : FrameOutcome :=
  match (uploadFormat parseOpen).next buffered reads with
  | .frame f buffered reads => .frame f buffered reads
  | .failed _ => .protocol
  | .closed => .transport
  | .over =>
    match ending with
    | .broken => .transport
    | .idle => .timeout

def terminally (f : UploadHostFrame) (dir : Directory) (sent : List UploadHostFrame) : UploadRun :=
  if env.sentTerminal then ⟨dir, sent ++ [f], true⟩ else ⟨dir, sent, false⟩

def refuse (dir : Directory) (sent : List UploadHostFrame) (failure : UploadFailure) : UploadRun :=
  terminally env (.error ⟨uploadJsonVersion, failure.code.wire, failure.message⟩) dir sent

namespace PartialUpload

def finish (p : PartialUpload) (dir : Directory) : Directory × Except UploadFailure CompletedUpload :=
  match p.verify sha256 env.synced with
  | .error failure => (p.drop dir, .error failure)
  | .ok () =>
    match store.makeRoomFor dir p.declared env.scanned with
    | (dir, .error failure) => (p.drop dir, .error failure)
    | (dir, .ok ()) =>
      match p.publish dir env.renamed with
      | .error failure => (p.drop dir, .error failure)
      | .ok dir => (dir, .ok (p.completed store env.completedAt))

end PartialUpload

/-- The loop over the frames that follow an accepted opening. The last argument bounds the frames
still to come, of which there are fewer than bytes. -/
def uploadLoop (sent : List UploadHostFrame) (dir : Directory) (p : PartialUpload) (writes : ℕ)
    (buffered : List UInt8) (reads : List (List UInt8)) : ℕ → UploadRun
  | 0 => ⟨p.drop dir, sent, false⟩
  | frames + 1 =>
    match nextFrame parseOpen ending buffered reads with
    | .timeout => refuse env (p.drop dir) sent ⟨.timeout, "The upload timed out."⟩
    | .protocol => refuse env (p.drop dir) sent ⟨.invalid, "The upload frame was malformed."⟩
    | .transport => ⟨p.drop dir, sent, false⟩
    | .frame (.chunk bytes) buffered reads =>
      match p.writeChunk dir bytes (env.wrote writes) (env.wroteAt writes) with
      | .error failure => refuse env (p.drop dir) sent failure
      | .ok (dir, p) => uploadLoop sent dir p (writes + 1) buffered reads frames
    | .frame .finish _ _ =>
      match p.finish sha256 store env dir with
      | (dir, .ok c) =>
        terminally env (.done ⟨uploadJsonVersion, c.hostPath, c.promptReference, c.expiresAt⟩) dir sent
      | (dir, .error failure) => refuse env dir sent failure
    | .frame .cancel _ _ => refuse env (p.drop dir) sent ⟨.cancelled, "The upload was cancelled."⟩
    | .frame (.open _) _ _ =>
      refuse env (p.drop dir) sent ⟨.invalid, "Exactly one upload runs per stream."⟩

def putAccepted : UploadHostFrame :=
  .accepted ⟨uploadJsonVersion, env.transferId, maxUploadChunkPayload, maxUploadFileBytes⟩

def acceptOpen (dir : Directory) (o : PutOpen) (buffered : List UInt8) (reads : List (List UInt8)) : UploadRun :=
  match o.validate with
  | .error failure => refuse env dir [] failure
  | .ok () =>
    match UploadStore.begin dir env.token o.filename o.size o.sha256 env.ensured env.created env.createdAt with
    | none => refuse env dir [] ⟨.io, "The Mac could not store the upload."⟩
    | some (dir, p) =>
      if env.sentAccepted then
        uploadLoop parseOpen sha256 store env ending [putAccepted env] dir p 0 buffered reads
          ((buffered ++ Format.received reads).length + 1)
      else ⟨p.drop dir, [], false⟩

def runUploadStream (dir : Directory) (reads : List (List UInt8)) : UploadRun :=
  match nextFrame parseOpen ending [] reads with
  | .timeout => refuse env dir [] ⟨.timeout, "The upload timed out."⟩
  | .protocol => refuse env dir [] ⟨.invalid, "The upload frame was malformed."⟩
  | .transport => ⟨dir, [], false⟩
  | .frame (.open o) buffered reads => acceptOpen parseOpen sha256 store env ending dir o buffered reads
  | .frame .cancel _ _ => refuse env dir [] ⟨.cancelled, "The upload was cancelled."⟩
  | .frame (.chunk _) _ _ => refuse env dir [] ⟨.invalid, "The stream must begin with put_open."⟩
  | .frame .finish _ _ => refuse env dir [] ⟨.invalid, "The stream must begin with put_open."⟩

variable {parseOpen sha256 store env ending}

variable {dir : Directory} {sent : List UploadHostFrame}

@[simp] lemma terminally_directory {f : UploadHostFrame} : (terminally env f dir sent).directory = dir := by
  rw [terminally]
  split <;> rfl

@[simp] lemma refuse_directory {failure : UploadFailure} :
    (refuse env dir sent failure).directory = dir := terminally_directory

variable {f : UploadClientFrame}

lemma nextFrame_frame {buffered buffered' : List UInt8} {reads reads' : List (List UInt8)}
    (h : nextFrame parseOpen ending buffered reads = .frame f buffered' reads') :
    (uploadFormat parseOpen).takeFrame (buffered ++ Format.received reads) =
      .ok (some (f, buffered' ++ Format.received reads')) := by
  apply Format.next_frame
  rw [nextFrame.eq_def] at h
  split at h
  · next hnext =>
    cases h
    exact hnext
  · cases h
  · cases h
  · split at h <;> cases h

variable (ending) in
lemma nextFrame_of_take {buffered rest : List UInt8} {reads : List (List UInt8)}
    (h : (uploadFormat parseOpen).takeFrame (buffered ++ Format.received reads) = .ok (some (f, rest))) :
    ∃ buffered' reads', nextFrame parseOpen ending buffered reads = .frame f buffered' reads' ∧
      buffered' ++ Format.received reads' = rest := by
  obtain ⟨buffered', reads', hnext, hrest⟩ := Format.next_of_some h
  refine ⟨buffered', reads', ?_, hrest⟩
  rw [nextFrame.eq_def, hnext]

end Run

end CiaoHost.Upload
