import CiaoHost.Upload.Stream

/-! An upload stream publishes exactly the file it declared, or nothing. -/

namespace CiaoHost.Upload

open CiaoHost.Lib CiaoHost.Lib.Framing

structure Delivers (bytes : List UInt8) (chunks : List (List UInt8)) : Prop where
  frames : ∃ rest, bytes = chunks.flatMap (frame framePutChunk) ++ (frame framePutFinish [] ++ rest)
  nonempty : ∀ c ∈ chunks, c ≠ []
  within : ∀ c ∈ chunks, c.length ≤ maxUploadChunkPayload

structure Declared (parseOpen : List UInt8 → Option PutOpen) (sha256 : List UInt8 → String)
    (bytes : List UInt8) (o : PutOpen) (chunks : List (List UInt8)) : Prop where
  opened : ∃ payload rest, bytes = frame framePutOpen payload ++ rest ∧
    payload.length ≤ maxUploadControlPayload ∧ parseOpen payload = some o ∧ Delivers rest chunks
  valid : o.validate = .ok ()
  size : chunks.flatten.length = o.size
  digest : sha256 chunks.flatten = o.sha256

/-- Every file operation of an upload of `n` chunks succeeds, and its acceptance goes out. -/
structure Outcomes.Succeed (env : Outcomes) (dir : Directory) (n : ℕ) : Prop where
  ensured : env.ensured = true
  created : env.created = true ∧ dir.lookup (partialName env.token) = none
  wrote : ∀ i < n, env.wrote i = true
  synced : env.synced = true
  scanned : env.scanned = true
  renamed : env.renamed = true
  accepted : env.sentAccepted = true

variable {chunks : List (List UInt8)} {name : String} {result : Directory × PartialUpload}

section Loop

variable {parseOpen : List UInt8 → Option PutOpen} {sha256 : List UInt8 → String} {store : UploadStore}
  {env : Outcomes} {ending : Ending} {sent : List UploadHostFrame} {dir base : Directory} {p : PartialUpload}

structure InFlight (base dir : Directory) (p : PartialUpload) : Prop where
  fresh : base.lookup p.partialPath = none
  apart : p.partialPath ≠ p.finalPath
  marked : isPartial p.partialPath = true
  written : p.written = p.hashed.length
  stored : ∃ f, dir = base.insert p.partialPath f ∧ f.bytes = p.hashed

structure Publishable (sha256 : List UInt8 → String) (store : UploadStore) (env : Outcomes) (p : PartialUpload) :
    Prop where
  size : p.written = p.declared
  digest : sha256 p.hashed = p.expectedSha256
  synced : env.synced = true
  scanned : env.scanned = true
  quota : p.declared ≤ store.quotaBytes
  renamed : env.renamed = true

def PartialUpload.taken (p : PartialUpload) (chunk : List UInt8) : PartialUpload :=
  { p with
    hashed := p.hashed ++ chunk
    written := p.written + chunk.length }

structure Completes (sha256 : List UInt8 → String) (store : UploadStore) (env : Outcomes) (p : PartialUpload)
    (writes : ℕ) (bytes : List UInt8) (chunks : List (List UInt8)) : Prop where
  delivers : Delivers bytes chunks
  wrote : ∀ i < chunks.length, env.wrote (writes + i) = true
  publishable : Publishable sha256 store env (p.taken chunks.flatten)

variable {f : StoredFile} {chunk bytes : List UInt8}

lemma InFlight.lookup_drop (h : InFlight base dir p)
    (hf : (p.drop dir).lookup name = some f) : base.lookup name = some f := by
  obtain ⟨file, rfl, _⟩ := h.stored
  obtain ⟨hne, hf⟩ := KeyedMap.lookup_erase_some hf
  rwa [KeyedMap.lookup_insert_ne hne] at hf

lemma writeChunk_ok {wrote : Bool} {now : ℕ} (h : p.writeChunk dir chunk wrote now = .ok result) :
    p.written + chunk.length ≤ p.declared ∧ wrote = true ∧
      result = (p.appended dir chunk now, p.taken chunk) := by
  rw [PartialUpload.writeChunk] at h
  split_ifs at h with hmore hwrote
  · cases h
    exact ⟨not_lt.mp hmore, hwrote, rfl⟩

lemma InFlight.taken (h : InFlight base dir p) (chunk : List UInt8) (now : ℕ) :
    InFlight base (p.appended dir chunk now) (p.taken chunk) := by
  obtain ⟨f, rfl, hbytes⟩ := h.stored
  refine ⟨h.fresh, h.apart, h.marked, ?_, ⟨f.bytes ++ chunk, now⟩, ?_, ?_⟩
  · simp [PartialUpload.taken, h.written]
  · rw [PartialUpload.appended, KeyedMap.lookup_insert_self]
    exact KeyedMap.insert_insert _ _ _ _
  · simp [PartialUpload.taken, hbytes]

lemma publish_eq (hf : dir.lookup p.partialPath = some f) :
    p.publish dir true = .ok ((dir.erase p.partialPath).insert p.finalPath f) := by
  simp [PartialUpload.publish, hf]

lemma publish_ok {renamed : Bool} {dir' : Directory} (h : p.publish dir renamed = .ok dir') : renamed = true := by
  rw [PartialUpload.publish] at h
  split at h
  · cases h
  · split at h
    · assumption
    · cases h

lemma InFlight.lookup_room (h : InFlight base dir p) (store : UploadStore) (scanned : Bool) (name : String)
    (f : StoredFile) (hne : name ≠ p.partialPath)
    (hf : (store.makeRoomFor dir p.declared scanned).1.lookup name = some f) : base.lookup name = some f := by
  have hdir := makeRoomFor_lookup hf
  obtain ⟨file, rfl, _⟩ := h.stored
  rwa [KeyedMap.lookup_insert_ne hne] at hdir

lemma InFlight.finish_publishes (h : InFlight base dir p) (hp : Publishable sha256 store env p) :
    ∃ dir' f, p.finish sha256 store env dir = (dir', .ok (p.completed store env.completedAt)) ∧
      dir'.lookup p.finalPath = some f ∧ f.bytes = p.hashed ∧
      ∀ name g, name ≠ p.finalPath → dir'.lookup name = some g → base.lookup name = some g := by
  obtain ⟨f, hdir, hbytes⟩ := h.stored
  have hverify : p.verify sha256 env.synced = .ok () := verify_ok.mpr ⟨hp.size, hp.digest, hp.synced⟩
  have hok : (store.makeRoomFor dir p.declared env.scanned).2 = .ok () :=
    (makeRoomFor_ok store dir p.declared env.scanned).mpr ⟨hp.scanned, hp.quota⟩
  have hkept : (store.makeRoomFor dir p.declared env.scanned).1.lookup p.partialPath = some f := by
    rw [makeRoomFor_partialName h.marked, hdir, KeyedMap.lookup_insert_self]
  have hroom := h.lookup_room store env.scanned
  rw [PartialUpload.finish, hverify]
  generalize store.makeRoomFor dir p.declared env.scanned = room at hok hkept hroom ⊢
  obtain ⟨room, outcome⟩ := room
  dsimp only at hok hkept hroom ⊢
  rw [hok, hp.renamed]
  dsimp only
  rw [publish_eq hkept]
  refine ⟨_, f, rfl, KeyedMap.lookup_insert_self _ _ _, hbytes, ?_⟩
  intro name g hname hg
  rw [KeyedMap.lookup_insert_ne hname] at hg
  obtain ⟨hne, hg⟩ := KeyedMap.lookup_erase_some hg
  exact hroom name g hne hg

lemma InFlight.finish_fails (h : InFlight base dir p) (hp : ¬ Publishable sha256 store env p) :
    ∃ failure dir', p.finish sha256 store env dir = (dir', .error failure) ∧
      ∀ name g, dir'.lookup name = some g → base.lookup name = some g := by
  have hroom := h.lookup_room store env.scanned
  have hroomOk := makeRoomFor_ok store dir p.declared env.scanned
  rw [PartialUpload.finish]
  cases hverify : p.verify sha256 env.synced with
  | error failure => exact ⟨failure, _, rfl, fun name g => h.lookup_drop⟩
  | ok _ =>
    generalize store.makeRoomFor dir p.declared env.scanned = room at hroom hroomOk ⊢
    obtain ⟨room, outcome⟩ := room
    have hdropped : ∀ name g, (p.drop room).lookup name = some g → base.lookup name = some g := by
      intro name g hg
      obtain ⟨hne, hg⟩ := KeyedMap.lookup_erase_some hg
      exact hroom name g hne hg
    cases outcome with
    | error failure => exact ⟨failure, _, rfl, hdropped⟩
    | ok _ =>
      dsimp only
      cases hpublish : p.publish room env.renamed with
      | error failure => exact ⟨failure, _, rfl, hdropped⟩
      | ok dir' =>
        exfalso
        obtain ⟨hsize, hdigest, hsynced⟩ := verify_ok.mp hverify
        obtain ⟨hscanned, hquota⟩ := hroomOk.mp rfl
        exact hp ⟨hsize, hdigest, hsynced, hscanned, hquota, publish_ok hpublish⟩

lemma taken_nil : p.taken [] = p := by
  simp [PartialUpload.taken]

lemma taken_taken (a b : List UInt8) : (p.taken a).taken b = p.taken (a ++ b) := by
  simp [PartialUpload.taken, Nat.add_assoc]

lemma Delivers.nil (rest : List UInt8) : Delivers (frame framePutFinish [] ++ rest) [] :=
  ⟨⟨rest, rfl⟩, by simp, by simp⟩

lemma Delivers.cons (h : Delivers bytes chunks) (hne : chunk ≠ []) (hlen : chunk.length ≤ maxUploadChunkPayload) :
    Delivers (frame framePutChunk chunk ++ bytes) (chunk :: chunks) := by
  obtain ⟨rest, rfl⟩ := h.frames
  refine ⟨⟨rest, by simp⟩, ?_, ?_⟩
  · rw [List.forall_mem_cons]
    exact ⟨hne, h.nonempty⟩
  · rw [List.forall_mem_cons]
    exact ⟨hlen, h.within⟩

lemma Completes.cons {writes : ℕ}
    (h : Completes sha256 store env (p.taken chunk) (writes + 1) bytes chunks) (hne : chunk ≠ [])
    (hlen : chunk.length ≤ maxUploadChunkPayload) (hwrote : env.wrote writes = true) :
    Completes sha256 store env p writes (frame framePutChunk chunk ++ bytes) (chunk :: chunks) := by
  refine ⟨h.delivers.cons hne hlen, ?_, ?_⟩
  · intro i hi
    cases i with
    | zero => exact hwrote
    | succ i =>
      rw [Nat.add_comm i 1, ← Nat.add_assoc]
      exact h.wrote i (Nat.lt_of_succ_lt_succ hi)
  · rw [List.flatten_cons, ← taken_taken]
    exact h.publishable

variable {buffered : List UInt8} {reads : List (List UInt8)} {writes : ℕ}

variable {frames : ℕ}

lemma uploadLoop_published (h : InFlight base dir p)
    (hf : (uploadLoop parseOpen sha256 store env ending sent dir p writes buffered reads frames).directory.lookup
      name = some f) (hnew : base.lookup name ≠ some f) :
    ∃ chunks, Completes sha256 store env p writes (buffered ++ Format.received reads) chunks ∧
      name = p.finalPath ∧ f.bytes = p.hashed ++ chunks.flatten := by
  induction frames generalizing dir p writes buffered reads with
  | zero => exact absurd (h.lookup_drop hf) hnew
  | succ frames ih =>
    rw [uploadLoop] at hf
    cases hnext : nextFrame parseOpen ending buffered reads with
    | timeout | protocol =>
      rw [hnext, refuse_directory] at hf
      exact absurd (h.lookup_drop hf) hnew
    | transport =>
      rw [hnext] at hf
      exact absurd (h.lookup_drop hf) hnew
    | frame client buffered' reads' =>
      rw [hnext] at hf
      have htake := nextFrame_frame hnext
      cases client with
      | cancel | «open» o =>
        rw [refuse_directory] at hf
        exact absurd (h.lookup_drop hf) hnew
      | finish =>
        rw [taken_finish htake]
        by_cases hp : Publishable sha256 store env p
        · obtain ⟨dir', g, hfinish, hfinal, hbytes, hothers⟩ := h.finish_publishes hp
          rw [hfinish, terminally_directory] at hf
          by_cases hname : name = p.finalPath
          · subst hname
            cases hfinal.symm.trans hf
            refine ⟨[], ⟨.nil _, by simp, ?_⟩, rfl, by simpa using hbytes⟩
            rwa [List.flatten_nil, taken_nil]
          · exact absurd (hothers name f hname hf) hnew
        · obtain ⟨failure, dir', hfinish, hothers⟩ := h.finish_fails hp
          rw [hfinish, refuse_directory] at hf
          exact absurd (hothers name f hf) hnew
      | chunk bytes =>
        obtain ⟨heq, hne, hlen⟩ := taken_chunk htake
        dsimp only at hf
        cases hwrite : p.writeChunk dir bytes (env.wrote writes) (env.wroteAt writes) with
        | error failure =>
          rw [hwrite, refuse_directory] at hf
          exact absurd (h.lookup_drop hf) hnew
        | ok result =>
          obtain ⟨_, hwrote, rfl⟩ := writeChunk_ok hwrite
          rw [hwrite] at hf
          obtain ⟨chunks, hcompletes, hname, hbytes⟩ := ih (h.taken bytes _) hf
          refine ⟨bytes :: chunks, ?_, hname, ?_⟩
          · rw [heq]
            exact hcompletes.cons hne hlen hwrote
          · rw [hbytes, List.flatten_cons, ← List.append_assoc]
            rfl

lemma Completes.take_chunk
    (h : Completes sha256 store env p writes bytes (chunk :: chunks)) (parseOpen : List UInt8 → Option PutOpen) :
    ∃ rest, (uploadFormat parseOpen).takeFrame bytes = .ok (some (.chunk chunk, rest)) ∧
      Completes sha256 store env (p.taken chunk) (writes + 1) rest chunks := by
  obtain ⟨rest, rfl⟩ := h.delivers.frames
  refine ⟨chunks.flatMap (frame framePutChunk) ++ (frame framePutFinish [] ++ rest), ?_, ⟨⟨rest, rfl⟩, ?_, ?_⟩, ?_, ?_⟩
  · rw [List.flatMap_cons, List.append_assoc]
    exact CiaoHost.Upload.take_chunk (h.delivers.nonempty chunk List.mem_cons_self)
      (h.delivers.within chunk List.mem_cons_self)
  · exact fun c hc => h.delivers.nonempty c (List.mem_cons_of_mem _ hc)
  · exact fun c hc => h.delivers.within c (List.mem_cons_of_mem _ hc)
  · intro i hi
    rw [Nat.add_assoc, Nat.add_comm 1 i]
    exact h.wrote (i + 1) (Nat.succ_lt_succ hi)
  · rw [taken_taken, ← List.flatten_cons]
    exact h.publishable

lemma Completes.writeChunk_eq (hc : Completes sha256 store env p writes bytes (chunk :: chunks)) (dir : Directory) (now : ℕ) :
    p.writeChunk dir chunk (env.wrote writes) now = .ok (p.appended dir chunk now, p.taken chunk) := by
  have hsize : p.written + (chunk :: chunks).flatten.length = p.declared := hc.publishable.size
  have hwrote : env.wrote writes = true := hc.wrote 0 (Nat.succ_pos _)
  rw [List.flatten_cons, List.length_append] at hsize
  rw [PartialUpload.writeChunk, if_neg (by omega), if_neg (by simp [hwrote])]
  rfl

lemma uploadLoop_completes (h : InFlight base dir p)
    (hc : Completes sha256 store env p writes (buffered ++ Format.received reads) chunks)
    (hframes : (buffered ++ Format.received reads).length < frames) :
    ∃ f, (uploadLoop parseOpen sha256 store env ending sent dir p writes buffered reads frames).directory.lookup
      p.finalPath = some f ∧ f.bytes = p.hashed ++ chunks.flatten := by
  induction frames generalizing dir p writes buffered reads chunks with
  | zero => exact absurd hframes (Nat.not_lt_zero _)
  | succ frames ih =>
  cases chunks with
  | nil =>
    obtain ⟨rest, hbytes⟩ := hc.delivers.frames
    have htake : (uploadFormat parseOpen).takeFrame (buffered ++ Format.received reads) = .ok (some (.finish, rest)) := by
      rw [hbytes]
      exact take_finish
    obtain ⟨buffered', reads', hnext, _⟩ := nextFrame_of_take ending htake
    have hp := hc.publishable
    rw [List.flatten_nil, taken_nil] at hp
    obtain ⟨dir', f, hfinish, hfinal, hf, _⟩ := h.finish_publishes hp
    refine ⟨f, ?_, by simpa using hf⟩
    rw [uploadLoop, hnext]
    rw [hfinish, terminally_directory, hfinal]
  | cons chunk chunks =>
    obtain ⟨rest, htake, hrest⟩ := hc.take_chunk parseOpen
    obtain ⟨buffered', reads', hnext, rfl⟩ := nextFrame_of_take ending htake
    have hwrite := hc.writeChunk_eq dir (env.wroteAt writes)
    rw [uploadLoop, hnext]
    dsimp only
    rw [hwrite]
    rw [List.flatten_cons, ← List.append_assoc]
    apply ih (h.taken chunk _) hrest
    have hshorter := Format.takeFrame_some_length htake
    omega

end Loop

section Sent

variable {parseOpen : List UInt8 → Option PutOpen} {sha256 : List UInt8 → String} {store : UploadStore}
  {env : Outcomes} {ending : Ending}

def SentAfter (sent : List UploadHostFrame) (run : UploadRun) : Prop :=
  run.sent = sent ∨ ∃ f, run.sent = sent ++ [f]

variable {sent : List UploadHostFrame} {dir : Directory}

lemma terminally_sent {f : UploadHostFrame} : SentAfter sent (terminally env f dir sent) := by
  rw [terminally]
  split
  · exact .inr ⟨f, rfl⟩
  · exact .inl rfl

lemma uploadLoop_sent (sent : List UploadHostFrame) (dir : Directory) (p : PartialUpload) (writes : ℕ)
    (buffered : List UInt8) (reads : List (List UInt8)) (frames : ℕ) :
    SentAfter sent (uploadLoop parseOpen sha256 store env ending sent dir p writes buffered reads frames) := by
  induction frames generalizing dir p writes buffered reads with
  | zero => exact .inl rfl
  | succ frames ih =>
    rw [uploadLoop]
    split
    · exact terminally_sent
    · exact terminally_sent
    · exact .inl rfl
    · split
      · exact terminally_sent
      · exact ih _ _ _ _ _
    · split <;> exact terminally_sent
    · exact terminally_sent
    · exact terminally_sent

lemma uploadLoop_enough {p : PartialUpload} {writes : ℕ} {buffered : List UInt8} {reads : List (List UInt8)} {n m : ℕ}
    (hn : (buffered ++ Format.received reads).length < n) (hm : (buffered ++ Format.received reads).length < m) :
    uploadLoop parseOpen sha256 store env ending sent dir p writes buffered reads n =
      uploadLoop parseOpen sha256 store env ending sent dir p writes buffered reads m := by
  induction n generalizing dir p writes buffered reads m with
  | zero => exact absurd hn (Nat.not_lt_zero _)
  | succ n ih =>
    cases m with
    | zero => exact absurd hm (Nat.not_lt_zero _)
    | succ m =>
      rw [uploadLoop, uploadLoop]
      cases hnext : nextFrame parseOpen ending buffered reads with
      | timeout | protocol | transport => rfl
      | frame client buffered' reads' =>
        cases client with
        | «open» o | finish | cancel => rfl
        | chunk bytes =>
          dsimp only
          cases p.writeChunk dir bytes (env.wrote writes) (env.wroteAt writes) with
          | error failure => rfl
          | ok result =>
            have hshorter := Format.takeFrame_some_length (nextFrame_frame hnext)
            exact ih (by omega) (by omega)

end Sent

section Main

variable (parseOpen : List UInt8 → Option PutOpen) (sha256 : List UInt8 → String) (store : UploadStore)
  (env : Outcomes) (ending : Ending) (dir : Directory) (reads : List (List UInt8))

variable {o : PutOpen}

lemma begin_inFlight
    (h : UploadStore.begin dir env.token o.filename o.size o.sha256 env.ensured env.created env.createdAt =
      some result) :
    env.ensured = true ∧ env.created = true ∧ InFlight dir result.1 result.2 ∧
      result.2 = ⟨[], 0, o.size, o.sha256, partialName env.token, finalName env.token o.filename⟩ := by
  rw [UploadStore.begin] at h
  split at h
  · next hbegin =>
    obtain ⟨hensured, hcreated, hfresh⟩ := hbegin
    cases h
    exact ⟨hensured, hcreated, ⟨hfresh, partialName_ne_finalName _ _, isPartial_partialName _, rfl, _, rfl, rfl⟩, rfl⟩
  · cases h

variable {buffered : List UInt8} {f : StoredFile}

lemma acceptOpen_published
    (hf : (acceptOpen parseOpen sha256 store env ending dir o buffered reads).directory.lookup name = some f)
    (hnew : dir.lookup name ≠ some f) :
    ∃ chunks, Delivers (buffered ++ Format.received reads) chunks ∧ o.validate = .ok () ∧
      chunks.flatten.length = o.size ∧ sha256 chunks.flatten = o.sha256 ∧
      env.Succeed dir chunks.length ∧ o.size ≤ store.quotaBytes ∧
      name = finalName env.token o.filename ∧ f.bytes = chunks.flatten := by
  rw [acceptOpen] at hf
  cases hvalid : o.validate with
  | error failure =>
    rw [hvalid, refuse_directory] at hf
    exact absurd hf hnew
  | ok _ =>
    rw [hvalid] at hf
    cases hbegin : UploadStore.begin dir env.token o.filename o.size o.sha256 env.ensured env.created
        env.createdAt with
    | none =>
      rw [hbegin, refuse_directory] at hf
      exact absurd hf hnew
    | some result =>
      obtain ⟨hensured, hcreated, hflight, hp⟩ := begin_inFlight env dir hbegin
      obtain ⟨dir', p⟩ := result
      rw [hbegin] at hf
      dsimp only at hf hp hflight
      split at hf
      · next haccepted =>
        obtain ⟨chunks, hc, hname, hbytes⟩ := uploadLoop_published hflight hf hnew
        have hfresh := hflight.fresh
        subst hp
        have hsize := hc.publishable.size
        have hdigest := hc.publishable.digest
        simp only [PartialUpload.taken, Nat.zero_add, List.nil_append] at hsize hdigest hbytes
        refine ⟨chunks, hc.delivers, rfl, hsize, hdigest, ?_, hc.publishable.quota, hname, hbytes⟩
        exact ⟨hensured, ⟨hcreated, hfresh⟩, fun i hi => by simpa using hc.wrote i hi, hc.publishable.synced,
          hc.publishable.scanned, hc.publishable.renamed, haccepted⟩
      · exact absurd (hflight.lookup_drop hf) hnew

lemma acceptOpen_completes
    (hvalid : o.validate = .ok ()) (hdelivers : Delivers (buffered ++ Format.received reads) chunks)
    (hsize : chunks.flatten.length = o.size) (hdigest : sha256 chunks.flatten = o.sha256)
    (henv : env.Succeed dir chunks.length) (hquota : o.size ≤ store.quotaBytes) :
    ∃ f, (acceptOpen parseOpen sha256 store env ending dir o buffered reads).directory.lookup
      (finalName env.token o.filename) = some f ∧ f.bytes = chunks.flatten := by
  have hbegin : UploadStore.begin dir env.token o.filename o.size o.sha256 env.ensured env.created env.createdAt =
      some (dir.insert (partialName env.token) ⟨[], env.createdAt⟩,
        ⟨[], 0, o.size, o.sha256, partialName env.token, finalName env.token o.filename⟩) := by
    rw [UploadStore.begin, if_pos ⟨henv.ensured, henv.created.1, henv.created.2⟩]
  obtain ⟨_, _, hflight, _⟩ := begin_inFlight env dir hbegin
  rw [acceptOpen, hvalid]
  rw [hbegin]
  dsimp only
  rw [if_pos henv.accepted]
  refine uploadLoop_completes hflight ⟨hdelivers, ?_, ?_⟩ (Nat.lt_succ_self _)
  · intro i hi
    rw [Nat.zero_add]
    exact henv.wrote i hi
  · refine ⟨?_, ?_, henv.synced, henv.scanned, hquota, henv.renamed⟩
    · simpa [PartialUpload.taken] using hsize
    · simpa [PartialUpload.taken] using hdigest

variable {parseOpen sha256 store env ending dir reads} in
lemma run_published
    (hf : (runUploadStream parseOpen sha256 store env ending dir reads).directory.lookup name = some f)
    (hnew : dir.lookup name ≠ some f) :
    ∃ o chunks, Declared parseOpen sha256 (Format.received reads) o chunks ∧
      env.Succeed dir chunks.length ∧ o.size ≤ store.quotaBytes ∧
      name = finalName env.token o.filename ∧ f.bytes = chunks.flatten := by
  rw [runUploadStream] at hf
  cases hnext : nextFrame parseOpen ending [] reads with
  | timeout | protocol =>
    rw [hnext, refuse_directory] at hf
    exact absurd hf hnew
  | transport =>
    rw [hnext] at hf
    exact absurd hf hnew
  | frame client buffered' reads' =>
    rw [hnext] at hf
    cases client with
    | cancel | chunk bytes | finish =>
      rw [refuse_directory] at hf
      exact absurd hf hnew
    | «open» o =>
      obtain ⟨payload, hbytes, hlen, hparse⟩ := taken_open (nextFrame_frame hnext)
      obtain ⟨chunks, hdelivers, hvalid, hsize, hdigest, henv, hquota, hname, hcontents⟩ :=
        acceptOpen_published parseOpen sha256 store env ending dir reads' hf hnew
      refine ⟨o, chunks, ⟨⟨payload, _, hbytes, hlen, hparse, hdelivers⟩, hvalid, hsize, hdigest⟩, henv, hquota,
        hname, hcontents⟩

variable {parseOpen sha256 store env dir reads} in
lemma run_completes
    (h : Declared parseOpen sha256 (Format.received reads) o chunks) (henv : env.Succeed dir chunks.length)
    (hquota : o.size ≤ store.quotaBytes) :
    ∃ f, (runUploadStream parseOpen sha256 store env ending dir reads).directory.lookup
      (finalName env.token o.filename) = some f ∧ f.bytes = chunks.flatten := by
  obtain ⟨payload, rest, hbytes, hlen, hparse, hdelivers⟩ := h.opened
  have htake : (uploadFormat parseOpen).takeFrame ([] ++ Format.received reads) = .ok (some (.open o, rest)) := by
    rw [List.nil_append, hbytes]
    exact take_open hlen hparse
  obtain ⟨buffered', reads', hnext, rfl⟩ := nextFrame_of_take ending htake
  rw [runUploadStream, hnext]
  exact acceptOpen_completes parseOpen sha256 store env ending dir reads' h.valid hdelivers h.size h.digest henv
    hquota

lemma run_sent : SentAfter [] (runUploadStream parseOpen sha256 store env ending dir reads) ∨
    SentAfter [putAccepted env] (runUploadStream parseOpen sha256 store env ending dir reads) := by
  rw [runUploadStream]
  split
  · exact .inl terminally_sent
  · exact .inl terminally_sent
  · exact .inl (.inl rfl)
  · next o buffered' reads' _ =>
    rw [acceptOpen]
    split
    · exact .inl terminally_sent
    · split
      · exact .inl terminally_sent
      · split
        · exact .inr (uploadLoop_sent _ _ _ _ _ _ _)
        · exact .inl (.inl rfl)
  · exact .inl terminally_sent
  · exact .inl terminally_sent
  · exact .inl terminally_sent

lemma terminal_le_one {sent : List UploadHostFrame} {run : UploadRun} (h : SentAfter sent run)
    (hsent : sent.filter UploadHostFrame.terminal = []) :
    (run.sent.filter UploadHostFrame.terminal).length ≤ 1 := by
  rcases h with h | ⟨f, h⟩
  · rw [h, hsent]
    exact Nat.zero_le _
  · rw [h, List.filter_append, hsent, List.nil_append]
    exact List.length_filter_le _ _

theorem upload_publishes_declared : let run := runUploadStream parseOpen sha256 store env ending dir reads
    (∀ name f, run.directory.lookup name = some f → dir.lookup name ≠ some f →
      ∃ o chunks, Declared parseOpen sha256 (Format.received reads) o chunks ∧
        env.Succeed dir chunks.length ∧ o.size ≤ store.quotaBytes ∧
        name = finalName env.token o.filename ∧ f.bytes = chunks.flatten) ∧
    (∀ o chunks, Declared parseOpen sha256 (Format.received reads) o chunks →
      env.Succeed dir chunks.length → o.size ≤ store.quotaBytes →
      ∃ f, run.directory.lookup (finalName env.token o.filename) = some f ∧ f.bytes = chunks.flatten) ∧
    (∀ f, run.directory.lookup (partialName env.token) = some f →
      dir.lookup (partialName env.token) = some f) ∧
    (run.sent.filter UploadHostFrame.terminal).length ≤ 1 := by
  refine ⟨fun name f => run_published, fun o chunks => run_completes ending, ?_, ?_⟩
  · intro f hf
    by_contra hnew
    obtain ⟨o, _, _, _, _, hname, _⟩ := run_published hf hnew
    exact partialName_ne_finalName _ _ hname
  · rcases run_sent parseOpen sha256 store env ending dir reads with h | h
    · exact terminal_le_one h rfl
    · exact terminal_le_one h rfl

end Main

def sampleOpen : PutOpen where
  v := 1
  requestId := "00000000-0000-0000-0000-000000000000"
  filename := "note.txt"
  sourceKind := "file"
  size := 3
  sha256 := String.ofList (List.replicate 64 'a')

def sampleOutcomes : Outcomes where
  token := "00000000000000aa"
  transferId := "0"
  ensured := true
  created := true
  createdAt := 0
  wrote _ := true
  wroteAt n := n
  synced := true
  scanned := true
  renamed := true
  completedAt := 9
  sentAccepted := true
  sentTerminal := true

-- the opening, two chunks and the finish, cut in the middle of frames
example :
    ((runUploadStream (fun _ => some sampleOpen) (fun _ => sampleOpen.sha256) (.new "/uploads") sampleOutcomes
      .broken ∅ [[1, 0, 0], [0, 1, 42, 3, 0, 0, 0, 2, 7], [8, 3, 0, 0, 0, 1, 9, 4], [0, 0, 0, 0]]).directory.lookup
        "00000000000000aa-note.txt") = some ⟨[7, 8, 9], 1⟩ := by
  decide +kernel

end CiaoHost.Upload
