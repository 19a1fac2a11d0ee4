import CiaoHost.Lib.Runs
import CiaoHost.Upload.Store

/-! Uploads of any number of connections over one directory, with the sweeps between their steps. -/

namespace CiaoHost.Upload

open CiaoHost.Lib CiaoHost.Lib.Runs

structure Live where
  upload : PartialUpload
  roomed : Bool
deriving DecidableEq

structure Answered where
  name : String
  expiresAt : ℕ
deriving DecidableEq, Repr

structure Uploads where
  directory : Directory
  live : KeyedMap String Live
  drawn : List String
  answered : List Answered

inductive UploadEvent where
  | start (token filename : String) (declared : ℕ) (sha256 : String) (ensured created : Bool) (now : ℕ)
  | write (token : String) (chunk : List UInt8) (wrote : Bool) (now : ℕ)
  | makeRoom (token : String) (synced scanned : Bool)
  | publish (token : String) (renamed : Bool) (now : ℕ)
  | abandon (token : String)
  | sweep (now : ℕ) (scanned : Bool)

/-- The instant an answered time names: `formatRfc3339Utc` keeps whole seconds. -/
def wholeSeconds (time : ℕ) : ℕ := time / nanosPerSecond * nanosPerSecond

namespace Uploads

def empty : Uploads := ⟨∅, ∅, [], []⟩

section Step

variable (store : UploadStore) (sha256 : List UInt8 → String) (s : Uploads)

def dropped (token : String) (p : PartialUpload) (dir : Directory) : Uploads :=
  { s with
    directory := p.drop dir
    live := s.live.erase token }

def start (token filename : String) (declared : ℕ) (digest : String) (ensured created : Bool) (now : ℕ) : Uploads :=
  if token.toList.length = 16 ∧ token ∉ s.drawn then
    match UploadStore.begin s.directory token filename declared digest ensured created now with
    | none => { s with drawn := token :: s.drawn }
    | some (dir, p) =>
      { s with
        directory := dir
        live := s.live.insert token ⟨p, false⟩
        drawn := token :: s.drawn }
  else s

def write (token : String) (chunk : List UInt8) (wrote : Bool) (now : ℕ) : Uploads :=
  match s.live.lookup token with
  | some ⟨p, false⟩ =>
    match p.writeChunk s.directory chunk wrote now with
    | .error _ => s.dropped token p s.directory
    | .ok (dir, p) =>
      { s with
        directory := dir
        live := s.live.insert token ⟨p, false⟩ }
  | _ => s

def makeRoom (token : String) (synced scanned : Bool) : Uploads :=
  match s.live.lookup token with
  | some ⟨p, false⟩ =>
    match p.verify sha256 synced with
    | .error _ => s.dropped token p s.directory
    | .ok () =>
      match store.makeRoomFor s.directory p.declared scanned with
      | (dir, .error _) => s.dropped token p dir
      | (dir, .ok ()) =>
        { s with
          directory := dir
          live := s.live.insert token ⟨p, true⟩ }
  | _ => s

def publish (token : String) (renamed : Bool) (now : ℕ) : Uploads :=
  match s.live.lookup token with
  | some ⟨p, true⟩ =>
    match p.publish s.directory renamed with
    | .error _ => s.dropped token p s.directory
    | .ok dir =>
      { s with
        directory := dir
        live := s.live.erase token
        answered := ⟨p.finalPath, wholeSeconds (now + store.completedTtl)⟩ :: s.answered }
  | _ => s

def abandon (token : String) : Uploads :=
  match s.live.lookup token with
  | some l => s.dropped token l.upload s.directory
  | none => s

def step : UploadEvent → Uploads
  | .start token filename declared digest ensured created now =>
    s.start token filename declared digest ensured created now
  | .write token chunk wrote now => s.write token chunk wrote now
  | .makeRoom token synced scanned => s.makeRoom store sha256 token synced scanned
  | .publish token renamed now => s.publish store token renamed now
  | .abandon token => s.abandon token
  | .sweep now scanned => { s with directory := store.sweepAt s.directory now scanned }

end Step

section Bytes

def counted (dir : Directory) : ℕ :=
  KeyedMap.sumOver (fun name f => if isPartial name then 0 else f.bytes.length) dir

def reserved (live : KeyedMap String Live) : ℕ :=
  KeyedMap.sumBy (fun l => if l.roomed then l.upload.declared else 0) live

variable (dir : Directory)

lemma totalLen_perm {a b : List SweepEntry} (h : a.Perm b) : totalLen a = totalLen b :=
  (h.map SweepEntry.len).sum_eq

lemma counted_eq : totalLen (UploadStore.completedIn dir) = counted dir := by
  have hsorted : (UploadStore.completedIn dir).Perm ((scan dir).filter (¬ ·.isPartial)) :=
    List.perm_insertionSort _ _
  rw [totalLen_perm hsorted, scan, counted, KeyedMap.sumOver]
  induction dir.entries with
  | nil => rfl
  | cons e es ih =>
    by_cases he : isPartial e.1 <;>
      simp_all [totalLen, sweepEntry]

variable {dir}

lemma counted_removeAll_le (entries : List SweepEntry) : counted (removeAll dir entries) ≤ counted dir := by
  induction entries generalizing dir with
  | nil => exact le_rfl
  | cons e es ih => exact le_trans ih (KeyedMap.sumOver_erase_le _ _ _)

lemma counted_removeAll {out : List SweepEntry} (hnodup : (out.map SweepEntry.name).Nodup)
    (hout : ∀ e ∈ out, e ∈ UploadStore.completedIn dir) :
    counted (removeAll dir out) + totalLen out = counted dir := by
  induction out generalizing dir with
  | nil => rfl
  | cons e es ih =>
    rw [List.map_cons, List.nodup_cons] at hnodup
    obtain ⟨hscan, hmark⟩ := mem_completedIn.mp (hout e List.mem_cons_self)
    obtain ⟨f, hf, he⟩ := mem_scan.mp hscan
    have hlen : e.len = f.bytes.length := by
      rw [he]
      rfl
    rw [isPartial_of_mem_scan hscan] at hmark
    have hstep := KeyedMap.sumOver_erase
      (fun name (f : StoredFile) => if isPartial name then 0 else f.bytes.length) dir e.name
    simp only [hf, Option.map_some, Option.getD_some, hmark, Bool.false_eq_true, if_false] at hstep
    have hrest : ∀ x ∈ es, x ∈ UploadStore.completedIn (dir.erase e.name) := by
      intro x hx
      obtain ⟨hxscan, hxmark⟩ := mem_completedIn.mp (hout x (List.mem_cons_of_mem _ hx))
      obtain ⟨g, hg, hxg⟩ := mem_scan.mp hxscan
      have hne : x.name ≠ e.name := by
        intro heq
        exact hnodup.1 (heq ▸ List.mem_map_of_mem hx)
      refine mem_completedIn.mpr ⟨mem_scan.mpr ⟨g, ?_, hxg⟩, hxmark⟩
      rw [KeyedMap.lookup_erase_ne hne, hg]
    have hih := ih hnodup.2 hrest
    change counted (removeAll (dir.erase e.name) es) + totalLen (e :: es) = counted dir
    have htotal : totalLen (e :: es) = e.len + totalLen es := by
      simp [totalLen]
    have hcounted : counted (dir.erase e.name) + f.bytes.length = counted dir := hstep
    omega

variable (dir) in
lemma completedIn_nodup : ((UploadStore.completedIn dir).map SweepEntry.name).Nodup := by
  have hsorted : (UploadStore.completedIn dir).Perm ((scan dir).filter (¬ ·.isPartial)) :=
    List.perm_insertionSort _ _
  rw [(hsorted.map _).nodup_iff]
  apply List.Nodup.sublist (List.filter_sublist.map _)
  have hkeys := dir.nodupKeys
  simpa [scan, List.NodupKeys, List.keys, sweepEntry, Function.comp_def] using hkeys

lemma counted_makeRoomFor (store : UploadStore) (dir : Directory) (incoming : ℕ) (scanned : Bool)
    (hok : (store.makeRoomFor dir incoming scanned).2 = .ok ()) :
    counted (store.makeRoomFor dir incoming scanned).1 + incoming ≤ store.quotaBytes := by
  obtain ⟨hscanned, _⟩ := (makeRoomFor_ok store dir incoming scanned).mp hok
  subst hscanned
  obtain ⟨out, kept, hsplit, hdir, _, hfits, _⟩ := makeRoomFor_eq store dir incoming
  have hnodup := completedIn_nodup dir
  have htotal := counted_eq dir
  rw [hsplit] at hnodup htotal
  rw [List.map_append] at hnodup
  have hremoved : counted (removeAll dir out) + totalLen out = counted dir := by
    apply counted_removeAll hnodup.of_append_left
    intro e he
    rw [hsplit]
    exact List.mem_append_left _ he
  have happend : totalLen (out ++ kept) = totalLen out + totalLen kept := by
    simp [totalLen]
  have hroom := hfits hok
  rw [hdir]
  omega

lemma counted_makeRoomFor_le (dir : Directory) (store : UploadStore) (incoming : ℕ) (scanned : Bool) :
    counted (store.makeRoomFor dir incoming scanned).1 ≤ counted dir := by
  cases scanned with
  | false => exact le_rfl
  | true =>
    obtain ⟨out, _, _, hdir, _⟩ := makeRoomFor_eq store dir incoming
    rw [hdir]
    exact counted_removeAll_le out

lemma sweepAt_eq (store : UploadStore) (dir : Directory) (now : ℕ) :
    ∃ out kept, store.keptIn dir now = out ++ kept ∧
      store.sweepAt dir now true =
        removeAll (removeAll dir ((scan dir).filter (store.expired now))) out ∧
      ∀ before e after, out = before ++ e :: after → store.quotaBytes < totalLen (e :: (after ++ kept)) := by
  obtain ⟨out, kept, hsplit, hevict, hwhile, _⟩ := evictOldest_eq store.quotaBytes 0 (store.keptIn dir now)
    (removeAll dir ((scan dir).filter (store.expired now)))
  exact ⟨out, kept, hsplit, by simp [UploadStore.sweepAt, hevict], hwhile⟩

lemma counted_sweepAt_le (store : UploadStore) (now : ℕ) (scanned : Bool) :
    counted (store.sweepAt dir now scanned) ≤ counted dir := by
  cases scanned with
  | false => exact le_rfl
  | true =>
    obtain ⟨out, _, _, hdir, _⟩ := sweepAt_eq store dir now
    rw [hdir]
    exact le_trans (counted_removeAll_le _) (counted_removeAll_le _)

lemma sweepAt_lookup {store : UploadStore} {now : ℕ} {scanned : Bool} {name : String} {f : StoredFile}
    (h : (store.sweepAt dir now scanned).lookup name = some f) : dir.lookup name = some f := by
  cases scanned with
  | false => exact h
  | true =>
    obtain ⟨out, _, _, hdir, _⟩ := sweepAt_eq store dir now
    rw [hdir, lookup_removeAll, lookup_removeAll] at h
    split_ifs at h
    exact h

end Bytes

end Uploads

end CiaoHost.Upload
