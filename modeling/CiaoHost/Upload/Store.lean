import Mathlib.Data.List.Sort
import CiaoHost.Lib.KeyedMap
import CiaoHost.Upload.Frames
import CiaoHost.Upload.Names

/-! The upload directory: partial files, their publication, the quota and the sweep. -/

namespace CiaoHost.Upload

open CiaoHost.Lib

structure StoredFile where
  bytes : List UInt8
  modified : ℕ
deriving DecidableEq, Repr

abbrev Directory := KeyedMap String StoredFile

structure UploadStore where
  root : String
  quotaBytes : ℕ
  partialTtl : ℕ
  completedTtl : ℕ

def UploadStore.new (root : String) : UploadStore where
  root := root
  quotaBytes := 256 * 1024 * 1024
  partialTtl := 15 * 60 * nanosPerSecond
  completedTtl := 24 * 60 * 60 * nanosPerSecond

structure SweepEntry where
  name : String
  len : ℕ
  modified : ℕ
  isPartial : Bool
deriving DecidableEq, Repr

def sweepEntry (name : String) (f : StoredFile) : SweepEntry :=
  ⟨name, f.bytes.length, f.modified, isPartial name⟩

def scan (dir : Directory) : List SweepEntry := dir.entries.map fun e => sweepEntry e.1 e.2

def oldestFirst (entries : List SweepEntry) : List SweepEntry :=
  entries.insertionSort fun a b => a.modified ≤ b.modified

def totalLen (entries : List SweepEntry) : ℕ := (entries.map SweepEntry.len).sum

def removeAll (dir : Directory) (entries : List SweepEntry) : Directory :=
  entries.foldl (fun dir e => dir.erase e.name) dir

/-- Removes entries in order until `incoming` more bytes fit; whether they do in the end. -/
def evictOldest (quota incoming : ℕ) : List SweepEntry → ℕ → Directory → Directory × Bool
  | [], total, dir => (dir, total + incoming ≤ quota)
  | e :: es, total, dir =>
    if total + incoming ≤ quota then (dir, true)
    else evictOldest quota incoming es (total - e.len) (dir.erase e.name)

namespace UploadStore

variable (store : UploadStore)

def completedIn (dir : Directory) : List SweepEntry :=
  oldestFirst ((scan dir).filter (¬ ·.isPartial))

def makeRoomFor (dir : Directory) (incoming : ℕ) (scanned : Bool) : Directory × Except UploadFailure Unit :=
  if scanned then
    let (room, fits) := evictOldest store.quotaBytes incoming (completedIn dir) (totalLen (completedIn dir)) dir
    (room, if fits then .ok () else .error ⟨.quota, "The Mac upload storage is full."⟩)
  else (dir, .error ⟨.io, "The Mac could not inspect its upload storage."⟩)

def expired (now : ℕ) (e : SweepEntry) : Bool :=
  if e.isPartial then store.partialTtl ≤ now - e.modified else store.completedTtl ≤ now - e.modified

def keptIn (dir : Directory) (now : ℕ) : List SweepEntry :=
  oldestFirst ((scan dir).filter fun e => ¬ e.isPartial ∧ ¬ store.expired now e)

def sweepAt (dir : Directory) (now : ℕ) (scanned : Bool) : Directory :=
  if scanned then
    (evictOldest store.quotaBytes 0 (store.keptIn dir now) (totalLen (store.keptIn dir now))
      (removeAll dir ((scan dir).filter (store.expired now)))).1
  else dir

end UploadStore

structure PartialUpload where
  /-- What the running digest has taken. -/
  hashed : List UInt8
  written : ℕ
  declared : ℕ
  expectedSha256 : String
  partialPath : String
  finalPath : String
deriving DecidableEq, Repr

structure CompletedUpload where
  hostPath : String
  promptReference : String
  expiresAt : String
deriving DecidableEq, Repr

/-- `create_new`: an existing file is refused. -/
def UploadStore.begin (dir : Directory) (token filename : String) (declared : ℕ) (sha256 : String) (ensured created : Bool)
    (now : ℕ) : Option (Directory × PartialUpload) :=
  if ensured ∧ created ∧ dir.lookup (partialName token) = none then
    some (dir.insert (partialName token) ⟨[], now⟩,
      ⟨[], 0, declared, sha256, partialName token, finalName token filename⟩)
  else none

namespace PartialUpload

variable (p : PartialUpload)

def appended (dir : Directory) (chunk : List UInt8) (now : ℕ) : Directory :=
  match dir.lookup p.partialPath with
  | none => dir
  | some f => dir.insert p.partialPath ⟨f.bytes ++ chunk, now⟩

def writeChunk (dir : Directory) (chunk : List UInt8) (wrote : Bool) (now : ℕ) :
    Except UploadFailure (Directory × PartialUpload) :=
  if p.declared < p.written + chunk.length then
    .error ⟨.invalid, "More bytes arrived than the declared size."⟩
  else if ¬ wrote then .error ⟨.io, "The Mac could not store the upload."⟩
  else .ok (p.appended dir chunk now,
    { p with
      hashed := p.hashed ++ chunk
      written := p.written + chunk.length })

variable (sha256 : List UInt8 → String) in
def verify (synced : Bool) : Except UploadFailure Unit :=
  if p.written ≠ p.declared then
    .error ⟨.invalid, "Fewer bytes arrived than the declared size."⟩
  else if sha256 p.hashed ≠ p.expectedSha256 then
    .error ⟨.hashMismatch, "The uploaded bytes did not match the declared SHA-256."⟩
  else if ¬ synced then .error ⟨.io, "The Mac could not store the upload."⟩
  else .ok ()

def publish (dir : Directory) (renamed : Bool) : Except UploadFailure Directory :=
  match dir.lookup p.partialPath with
  | none => .error ⟨.io, "The Mac could not publish the upload."⟩
  | some f =>
    if renamed then .ok ((dir.erase p.partialPath).insert p.finalPath f)
    else .error ⟨.io, "The Mac could not publish the upload."⟩

variable (store : UploadStore) in
def completed (now : ℕ) : CompletedUpload where
  hostPath := store.root ++ "/" ++ p.finalPath
  promptReference := posixSingleQuote (store.root ++ "/" ++ p.finalPath)
  expiresAt := formatRfc3339Utc (now + store.completedTtl)

def drop (dir : Directory) : Directory := dir.erase p.partialPath

end PartialUpload

lemma verify_ok {p : PartialUpload} {sha256 : List UInt8 → String} {synced : Bool} :
    p.verify sha256 synced = .ok () ↔
      p.written = p.declared ∧ sha256 p.hashed = p.expectedSha256 ∧ synced = true := by
  rw [PartialUpload.verify]
  split_ifs with hsize hdigest hsynced <;> simp_all

section Evict

variable {quota incoming : ℕ}

variable (quota incoming) in
lemma evictOldest_eq (entries : List SweepEntry) (dir : Directory) :
    ∃ out kept, entries = out ++ kept ∧
      evictOldest quota incoming entries (totalLen entries) dir =
        (removeAll dir out, decide (totalLen kept + incoming ≤ quota)) ∧
      (∀ before e after, out = before ++ e :: after →
        quota < totalLen (e :: (after ++ kept)) + incoming) ∧
      (kept = [] ∨ totalLen kept + incoming ≤ quota) := by
  induction entries generalizing dir with
  | nil => exact ⟨[], [], rfl, rfl, by simp, .inl rfl⟩
  | cons e es ih =>
    by_cases hfits : totalLen (e :: es) + incoming ≤ quota
    · refine ⟨[], e :: es, rfl, ?_, by simp, .inr hfits⟩
      rw [evictOldest, if_pos hfits, decide_eq_true hfits]
      rfl
    · obtain ⟨out, kept, rfl, heq, hwhile, hend⟩ := ih (dir.erase e.name)
      refine ⟨e :: out, kept, rfl, ?_, ?_, hend⟩
      · have htotal : totalLen (e :: (out ++ kept)) - e.len = totalLen (out ++ kept) := by
          simp [totalLen]
        rw [evictOldest, if_neg hfits, htotal, heq]
        rfl
      · intro before e' after hsplit
        cases before with
        | nil =>
          rw [List.nil_append, List.cons.injEq] at hsplit
          obtain ⟨rfl, rfl⟩ := hsplit
          exact not_le.mp hfits
        | cons b before =>
          rw [List.cons_append, List.cons.injEq] at hsplit
          exact hwhile before e' after hsplit.2

lemma lookup_removeAll (dir : Directory) (entries : List SweepEntry) (name : String) :
    (removeAll dir entries).lookup name =
      if name ∈ entries.map SweepEntry.name then none else dir.lookup name := by
  induction entries generalizing dir with
  | nil => rfl
  | cons e es ih =>
    change (removeAll (dir.erase e.name) es).lookup name = _
    rw [ih]
    by_cases hname : name = e.name
    · subst hname
      simp
    · simp [KeyedMap.lookup_erase_ne hname, hname]

end Evict

section Scan

variable {dir : Directory}

variable {e : SweepEntry}

lemma mem_scan :
    e ∈ scan dir ↔ ∃ f, dir.lookup e.name = some f ∧ e = sweepEntry e.name f := by
  simp only [scan, List.mem_map]
  constructor
  · rintro ⟨entry, hentry, rfl⟩
    exact ⟨entry.2, KeyedMap.mem_entries.mp hentry, rfl⟩
  · rintro ⟨f, hf, he⟩
    exact ⟨⟨e.name, f⟩, KeyedMap.mem_entries.mpr hf, he.symm⟩

lemma mem_oldestFirst {entries : List SweepEntry} :
    e ∈ oldestFirst entries ↔ e ∈ entries :=
  (List.perm_insertionSort _ _).mem_iff

lemma mem_completedIn :
    e ∈ UploadStore.completedIn dir ↔ e ∈ scan dir ∧ e.isPartial = false := by
  simp [UploadStore.completedIn, mem_oldestFirst]

lemma isPartial_of_mem_scan (h : e ∈ scan dir) : e.isPartial = isPartial e.name := by
  obtain ⟨f, _, he⟩ := mem_scan.mp h
  rw [he]
  rfl

end Scan

section Room

variable {store : UploadStore} {dir : Directory} {incoming : ℕ} {scanned : Bool} {name : String}

lemma makeRoomFor_eq (store : UploadStore) (dir : Directory) (incoming : ℕ) :
    ∃ out kept, UploadStore.completedIn dir = out ++ kept ∧
      (store.makeRoomFor dir incoming true).1 = removeAll dir out ∧
      ((store.makeRoomFor dir incoming true).2 = .ok () ↔ incoming ≤ store.quotaBytes) ∧
      ((store.makeRoomFor dir incoming true).2 = .ok () → totalLen kept + incoming ≤ store.quotaBytes) ∧
      ∀ before e after, out = before ++ e :: after →
        store.quotaBytes < totalLen (e :: (after ++ kept)) + incoming := by
  obtain ⟨out, kept, hsplit, hevict, hwhile, hend⟩ :=
    evictOldest_eq store.quotaBytes incoming (UploadStore.completedIn dir) dir
  have hok : (store.makeRoomFor dir incoming true).2 = .ok () ↔ totalLen kept + incoming ≤ store.quotaBytes := by
    simp only [UploadStore.makeRoomFor, hevict, if_true]
    by_cases hfits : totalLen kept + incoming ≤ store.quotaBytes <;> simp [hfits]
  refine ⟨out, kept, hsplit, ?_, ?_, hok.mp, hwhile⟩
  · simp [UploadStore.makeRoomFor, hevict]
  · rw [hok]
    constructor
    · omega
    · intro hle
      cases hend with
      | inl hnil =>
        subst hnil
        simpa [totalLen] using hle
      | inr hfits => exact hfits

variable (store dir incoming scanned) in
lemma makeRoomFor_ok : (store.makeRoomFor dir incoming scanned).2 = .ok () ↔
    scanned = true ∧ incoming ≤ store.quotaBytes := by
  cases scanned with
  | false => simp [UploadStore.makeRoomFor]
  | true =>
    obtain ⟨_, _, _, _, hok, _⟩ := makeRoomFor_eq store dir incoming
    rw [hok, eq_self, true_and]

lemma makeRoomFor_lookup {f : StoredFile} (h : (store.makeRoomFor dir incoming scanned).1.lookup name = some f) :
    dir.lookup name = some f := by
  cases scanned with
  | false => exact h
  | true =>
    obtain ⟨out, _, _, hdir, _⟩ := makeRoomFor_eq store dir incoming
    rw [hdir, lookup_removeAll] at h
    split at h
    · cases h
    · exact h

lemma makeRoomFor_partialName (hmark : isPartial name = true) :
    (store.makeRoomFor dir incoming scanned).1.lookup name = dir.lookup name := by
  cases scanned with
  | false => rfl
  | true =>
    obtain ⟨out, kept, hsplit, hdir, _⟩ := makeRoomFor_eq store dir incoming
    rw [hdir, lookup_removeAll, if_neg]
    intro hmem
    obtain ⟨e, he, rfl⟩ := List.mem_map.mp hmem
    have hcompleted : e ∈ UploadStore.completedIn dir := by
      rw [hsplit]
      exact List.mem_append_left _ he
    obtain ⟨hscan, hfalse⟩ := mem_completedIn.mp hcompleted
    rw [isPartial_of_mem_scan hscan, hmark] at hfalse
    cases hfalse

end Room

end CiaoHost.Upload
