import CiaoHost.Upload.Retention

/-! A completed upload is removed before its answered time only for the quota, oldest first. -/

namespace CiaoHost.Upload.Uploads

open CiaoHost.Lib CiaoHost.Lib.Runs

structure Evicted (quota : ℕ) (entries : List SweepEntry) (incoming : ℕ) (dir' : Directory) (e : SweepEntry) :
    Prop where
  oldest : entries.Pairwise fun a b => a.modified ≤ b.modified
  exceeded : ∃ before after, entries = before ++ e :: after ∧ (∀ x ∈ before, dir'.lookup x.name = none) ∧
    quota < totalLen (e :: after) + incoming

section Evicted

variable {store : UploadStore} {dir dir' : Directory} {incoming : ℕ} {name : String} {f : StoredFile}

lemma oldestFirst_pairwise (entries : List SweepEntry) :
    (oldestFirst entries).Pairwise fun a b => a.modified ≤ b.modified := by
  have : Std.Total fun a b : SweepEntry => a.modified ≤ b.modified := ⟨fun a b => le_total _ _⟩
  have : IsTrans SweepEntry fun a b => a.modified ≤ b.modified := ⟨fun _ _ _ => le_trans⟩
  exact List.pairwise_insertionSort _ _

lemma sweepEntry_mem {out : List SweepEntry} (hout : ∀ e ∈ out, e ∈ scan dir) (hf : dir.lookup name = some f)
    (hmem : name ∈ out.map SweepEntry.name) : sweepEntry name f ∈ out := by
  obtain ⟨e, he, rfl⟩ := List.mem_map.mp hmem
  obtain ⟨g, hg, heq⟩ := mem_scan.mp (hout e he)
  cases hf.symm.trans hg
  exact heq ▸ he

variable {quota : ℕ} {e : SweepEntry}

lemma evicted_of_mem {entries out kept : List SweepEntry} (hsplit : entries = out ++ kept)
    (hsorted : entries.Pairwise fun a b => a.modified ≤ b.modified)
    (hwhile : ∀ before e after, out = before ++ e :: after → quota < totalLen (e :: (after ++ kept)) + incoming)
    (hgone : ∀ x ∈ out, dir'.lookup x.name = none) (he : e ∈ out) : Evicted quota entries incoming dir' e := by
  obtain ⟨before, after, hout⟩ := List.append_of_mem he
  refine ⟨hsorted, before, after ++ kept, ?_, ?_, hwhile before e after hout⟩
  · rw [hsplit, hout, List.append_assoc, List.cons_append]
  · intro x hx
    apply hgone
    rw [hout]
    exact List.mem_append_left _ hx

lemma Evicted.mono {entries : List SweepEntry} {dir'' : Directory}
    (h : Evicted quota entries incoming dir' e) (hsub : ∀ n, dir'.lookup n = none → dir''.lookup n = none) :
    Evicted quota entries incoming dir'' e := by
  obtain ⟨before, after, hsplit, hgone, hquota⟩ := h.exceeded
  exact ⟨h.oldest, before, after, hsplit, fun x hx => hsub _ (hgone x hx), hquota⟩

lemma makeRoomFor_evicts (store : UploadStore) (incoming : ℕ) (scanned : Bool) (hf : dir.lookup name = some f) :
    (store.makeRoomFor dir incoming scanned).1.lookup name = some f ∨
      (store.makeRoomFor dir incoming scanned).1.lookup name = none ∧
        Evicted store.quotaBytes (UploadStore.completedIn dir) incoming (store.makeRoomFor dir incoming scanned).1
          (sweepEntry name f) := by
  cases scanned with
  | false => exact .inl hf
  | true =>
    obtain ⟨out, kept, hsplit, hdir, _, _, hwhile⟩ := makeRoomFor_eq store dir incoming
    have hout : ∀ e ∈ out, e ∈ scan dir := by
      intro e he
      apply (mem_completedIn.mp ?_).1
      rw [hsplit]
      exact List.mem_append_left _ he
    rw [hdir]
    by_cases hmem : name ∈ out.map SweepEntry.name
    · right
      refine ⟨by rw [lookup_removeAll, if_pos hmem], ?_⟩
      apply evicted_of_mem hsplit (oldestFirst_pairwise _) hwhile _ (sweepEntry_mem hout hf hmem)
      intro x hx
      rw [lookup_removeAll, if_pos (List.mem_map_of_mem hx)]
    · left
      rw [lookup_removeAll, if_neg hmem, hf]

lemma sweepAt_evicts (store : UploadStore) (now : ℕ) (scanned : Bool) (hf : dir.lookup name = some f) :
    (store.sweepAt dir now scanned).lookup name = some f ∨
      (store.sweepAt dir now scanned).lookup name = none ∧
        (store.expired now (sweepEntry name f) = true ∨
          Evicted store.quotaBytes (store.keptIn dir now) 0 (store.sweepAt dir now scanned) (sweepEntry name f)) := by
  cases scanned with
  | false => exact .inl hf
  | true =>
    obtain ⟨out, kept, hsplit, hdir, hwhile⟩ := sweepAt_eq store dir now
    have hout : ∀ e ∈ out, e ∈ scan dir := by
      intro e he
      have hkept : e ∈ store.keptIn dir now := by
        rw [hsplit]
        exact List.mem_append_left _ he
      exact (List.mem_filter.mp (mem_oldestFirst.mp hkept)).1
    rw [hdir]
    by_cases hmem : name ∈ out.map SweepEntry.name
    · right
      refine ⟨by rw [lookup_removeAll, if_pos hmem], .inr ?_⟩
      apply evicted_of_mem hsplit (oldestFirst_pairwise _) hwhile _ (sweepEntry_mem hout hf hmem)
      intro x hx
      rw [lookup_removeAll, if_pos (List.mem_map_of_mem hx)]
    · by_cases hexpired : name ∈ ((scan dir).filter (store.expired now)).map SweepEntry.name
      · right
        refine ⟨by rw [lookup_removeAll, if_neg hmem, lookup_removeAll, if_pos hexpired], .inl ?_⟩
        have hentry := sweepEntry_mem (fun e he => (List.mem_filter.mp he).1) hf hexpired
        exact (List.mem_filter.mp hentry).2
      · left
        rw [lookup_removeAll, if_neg hmem, lookup_removeAll, if_neg hexpired, hf]

end Evicted

section Retained

variable (store : UploadStore) (sha256 : List UInt8 → String) (s : Uploads)

def completedBytes : ℕ := (s.answered.map fun a => (s.directory.lookup a.name).elim 0 fun f => f.bytes.length).sum

/-- Why a step may remove the completed upload `a`. -/
def MayRemove (a : Answered) (f : StoredFile) (e : UploadEvent) : Prop :=
  match e with
  | .sweep now _ => a.expiresAt ≤ now ∨
      Evicted store.quotaBytes (store.keptIn s.directory now) 0 (s.step store sha256 e).directory
        (sweepEntry a.name f)
  | .makeRoom token _ _ => ∃ l, s.live.lookup token = some l ∧
      Evicted store.quotaBytes (UploadStore.completedIn s.directory) l.upload.declared
        (s.step store sha256 e).directory (sweepEntry a.name f)
  | _ => False

structure Retained (e : UploadEvent) : Prop where
  counts : ∀ a ∈ s.answered, ∀ f, s.directory.lookup a.name = some f →
    sweepEntry a.name f ∈ UploadStore.completedIn s.directory
  removed : ∀ a ∈ s.answered, ∀ f, s.directory.lookup a.name = some f →
    (s.step store sha256 e).directory.lookup a.name = some f ∨
      (s.step store sha256 e).directory.lookup a.name = none ∧ s.MayRemove store sha256 a f e
  within : (s.step store sha256 e).answered ≠ s.answered → (s.step store sha256 e).completedBytes ≤ store.quotaBytes

variable {store sha256 s} {dir : Directory} {live : KeyedMap String Live} {drawn : List String} {name : String}

lemma Settled.ne_partialName (h : Settled live drawn name) (token : String) : name ≠ partialName token := by
  rintro rfl
  have hunmarked := h.unmarked
  rw [isPartial_partialName] at hunmarked
  cases hunmarked

variable {token : String} {p : PartialUpload} {e : UploadEvent}

section

variable (h : Settled live drawn name)

include h

lemma Settled.lookup_drop
    (hpath : p.partialPath = partialName token) : (p.drop dir).lookup name = dir.lookup name := by
  rw [PartialUpload.drop, hpath, KeyedMap.lookup_erase_ne (h.ne_partialName token)]

lemma Settled.lookup_appended (hpath : p.partialPath = partialName token) (chunk : List UInt8) (now : ℕ) :
    (p.appended dir chunk now).lookup name = dir.lookup name := by
  rw [PartialUpload.appended, hpath]
  split
  · rfl
  · rw [KeyedMap.lookup_insert_ne (h.ne_partialName token)]

lemma Settled.counts {f : StoredFile} (hf : dir.lookup name = some f) :
    sweepEntry name f ∈ UploadStore.completedIn dir :=
  mem_completedIn.mpr ⟨mem_scan.mpr ⟨f, hf, rfl⟩, h.unmarked⟩

end

lemma sum_le_counted (dir : Directory) {names : List String} (hnodup : names.Nodup) (hunmarked : ∀ n ∈ names, isPartial n = false) :
    (names.map fun n => (dir.lookup n).elim 0 fun f => f.bytes.length).sum ≤ counted dir := by
  induction names generalizing dir with
  | nil => exact Nat.zero_le _
  | cons n names ih =>
    rw [List.nodup_cons] at hnodup
    have hrest := ih (dir.erase n) hnodup.2 fun m hm => hunmarked m (List.mem_cons_of_mem _ hm)
    have herase : names.map (fun m => ((dir.erase n).lookup m).elim 0 fun f => f.bytes.length) =
        names.map fun m => (dir.lookup m).elim 0 fun f => f.bytes.length := by
      apply List.map_congr_left
      intro m hm
      have hne : m ≠ n := fun heq => hnodup.1 (heq ▸ hm)
      rw [KeyedMap.lookup_erase_ne hne]
    have hsum := KeyedMap.sumOver_erase
      (fun name (f : StoredFile) => if isPartial name then 0 else f.bytes.length) dir n
    simp only [hunmarked n List.mem_cons_self, Bool.false_eq_true, if_false] at hsum
    rw [herase] at hrest
    have helim : ((dir.lookup n).elim 0 fun f => f.bytes.length) =
        ((dir.lookup n).map fun f => f.bytes.length).getD 0 := by
      cases dir.lookup n <;> rfl
    have hcounted : counted (dir.erase n) + ((dir.lookup n).map fun f => f.bytes.length).getD 0 = counted dir := hsum
    rw [List.map_cons, List.sum_cons, helim]
    omega

lemma Kept.completedBytes_le (h : Kept store s) : s.completedBytes ≤ counted s.directory := by
  have hsum := sum_le_counted s.directory h.nodup (by
    intro n hn
    obtain ⟨a, ha, rfl⟩ := List.mem_map.mp hn
    exact (h.settled a ha).unmarked)
  rw [List.map_map] at hsum
  exact hsum

section Steps

variable {a : Answered} {f : StoredFile}

section

variable (h : Kept store s)

include h

lemma Kept.start_lookup (ha : a ∈ s.answered) (token filename : String) (declared : ℕ)
    (digest : String) (ensured created : Bool) (now : ℕ) :
    (s.start token filename declared digest ensured created now).directory.lookup a.name =
      s.directory.lookup a.name := by
  rw [Uploads.start]
  split
  · rw [UploadStore.begin]
    split_ifs
    · exact KeyedMap.lookup_insert_ne ((h.settled a ha).ne_partialName token)
    · rfl
  · rfl

lemma Kept.write_lookup (ha : a ∈ s.answered) (token : String) (chunk : List UInt8)
    (wrote : Bool) (now : ℕ) :
    (s.write token chunk wrote now).directory.lookup a.name = s.directory.lookup a.name := by
  have hsettled := h.settled a ha
  rw [Uploads.write.eq_def]
  split
  · next p hl =>
    have hpath := (h.owned token _ hl).partialPath
    rw [PartialUpload.writeChunk]
    split_ifs
    · exact hsettled.lookup_drop hpath
    · exact hsettled.lookup_appended hpath chunk now
    · exact hsettled.lookup_drop hpath
  · rfl

lemma Kept.abandon_lookup (ha : a ∈ s.answered) (token : String) :
    (s.abandon token).directory.lookup a.name = s.directory.lookup a.name := by
  rw [Uploads.abandon]
  split
  · next l hl => exact (h.settled a ha).lookup_drop (h.owned token _ hl).partialPath
  · rfl

lemma Kept.publish_lookup (ha : a ∈ s.answered) (token : String) (renamed : Bool) (now : ℕ) :
    (s.publish store token renamed now).directory.lookup a.name = s.directory.lookup a.name := by
  have hsettled := h.settled a ha
  rw [Uploads.publish.eq_def]
  split
  · next p hl =>
    have howned := h.owned token _ hl
    rw [PartialUpload.publish]
    split
    · next failure hfailed => exact hsettled.lookup_drop howned.partialPath
    · next dir hdir =>
      split at hdir
      · cases hdir
      · split_ifs at hdir
        cases hdir
        dsimp only
        rw [KeyedMap.lookup_insert_ne (hsettled.of_live howned hl)]
        exact hsettled.lookup_drop howned.partialPath
  · rfl

lemma Kept.makeRoom_removed (ha : a ∈ s.answered) (hf : s.directory.lookup a.name = some f)
    (token : String) (synced scanned : Bool) :
    (s.makeRoom store sha256 token synced scanned).directory.lookup a.name = some f ∨
      (s.makeRoom store sha256 token synced scanned).directory.lookup a.name = none ∧
        ∃ l, s.live.lookup token = some l ∧
          Evicted store.quotaBytes (UploadStore.completedIn s.directory) l.upload.declared
            (s.makeRoom store sha256 token synced scanned).directory (sweepEntry a.name f) := by
  have hsettled := h.settled a ha
  rw [Uploads.makeRoom.eq_def]
  split
  · next p hl =>
    have hpath := (h.owned token _ hl).partialPath
    have hroom := makeRoomFor_evicts store p.declared scanned hf
    cases p.verify sha256 synced with
    | error failure =>
      left
      exact (hsettled.lookup_drop hpath).trans hf
    | ok _ =>
      dsimp only
      generalize store.makeRoomFor s.directory p.declared scanned = room at hroom
      obtain ⟨dir, outcome⟩ := room
      dsimp only at hroom
      cases outcome with
      | error failure =>
        have hdrop : (p.drop dir).lookup a.name = dir.lookup a.name := hsettled.lookup_drop hpath
        rcases hroom with hkept | ⟨hnone, hevicted⟩
        · left
          exact hdrop.trans hkept
        · right
          refine ⟨hdrop.trans hnone, _, hl, hevicted.mono ?_⟩
          intro n hn
          rw [Option.eq_none_iff_forall_ne_some]
          intro g hg
          rw [(KeyedMap.lookup_erase_some hg).2] at hn
          cases hn
      | ok _ =>
        rcases hroom with hkept | ⟨hnone, hevicted⟩
        · exact .inl hkept
        · exact .inr ⟨hnone, _, hl, hevicted⟩
  · exact .inl hf

lemma Kept.sweep_removed (ha : a ∈ s.answered) (hf : s.directory.lookup a.name = some f)
    {now : ℕ} {scanned : Bool} (horderly : Orderly store s (.sweep now scanned)) :
    (store.sweepAt s.directory now scanned).lookup a.name = some f ∨
      (store.sweepAt s.directory now scanned).lookup a.name = none ∧
        (a.expiresAt ≤ now ∨
          Evicted store.quotaBytes (store.keptIn s.directory now) 0 (store.sweepAt s.directory now scanned)
            (sweepEntry a.name f)) := by
  rcases sweepAt_evicts store now scanned hf with hkept | ⟨hnone, hexpired | hevicted⟩
  · exact .inl hkept
  · right
    refine ⟨hnone, .inl (horderly a ha f hf ?_)⟩
    rw [UploadStore.expired, sweepEntry, (h.settled a ha).unmarked] at hexpired
    simpa using hexpired
  · exact .inr ⟨hnone, .inr hevicted⟩

lemma Kept.publish_within {renamed : Bool} {now : ℕ}
    (hanswered : (s.publish store token renamed now).answered ≠ s.answered) :
    (s.publish store token renamed now).completedBytes ≤ store.quotaBytes := by
  refine le_trans (h.publish token renamed now).completedBytes_le ?_
  rw [Uploads.publish.eq_def] at hanswered ⊢
  split at hanswered
  · next p hl =>
    have howned := h.owned token _ hl
    have hwithin := h.within ⟨token, _, hl, rfl⟩
    have hreserved : reserved (s.live.erase token) + p.declared = reserved s.live := reserved_erase hl rfl
    rw [PartialUpload.publish] at hanswered ⊢
    cases hf : s.directory.lookup p.partialPath with
    | none =>
      rw [hf] at hanswered
      exact absurd rfl hanswered
    | some f =>
      rw [hf] at hanswered
      dsimp only at hanswered ⊢
      have hpath : p.partialPath = partialName token := howned.partialPath
      rw [hpath] at hf
      have hlen : f.bytes.length = p.declared := (howned.stored f hf).trans (howned.verified rfl)
      split_ifs at hanswered ⊢
      · have hcounted := counted_published s.directory p f
        dsimp only
        omega
      · exact absurd rfl hanswered
  · exact absurd rfl hanswered

end

end Steps

lemma answered_of_not_publish (hne : ∀ token renamed now, e ≠ .publish token renamed now) :
    (s.step store sha256 e).answered = s.answered := by
  cases e with
  | start token filename declared digest ensured created now =>
    rw [Uploads.step, Uploads.start]
    split
    · split <;> rfl
    · rfl
  | write token chunk wrote now =>
    rw [Uploads.step, Uploads.write.eq_def]
    split
    · split <;> rfl
    · rfl
  | makeRoom token synced scanned =>
    rw [Uploads.step, Uploads.makeRoom.eq_def]
    split
    · split
      · rfl
      · split <;> rfl
    · rfl
  | publish token renamed now => exact absurd rfl (hne token renamed now)
  | abandon token =>
    rw [Uploads.step, Uploads.abandon]
    split <;> rfl
  | sweep now scanned => rfl

lemma Kept.retained (h : Kept store s) (horderly : Orderly store s e) : s.Retained store sha256 e where
  counts a ha _ hf := (h.settled a ha).counts hf
  removed a ha f hf := by
    cases e with
    | start token filename declared digest ensured created now =>
      exact .inl ((h.start_lookup ha token filename declared digest ensured created now).trans hf)
    | write token chunk wrote now => exact .inl ((h.write_lookup ha token chunk wrote now).trans hf)
    | makeRoom token synced scanned => exact h.makeRoom_removed ha hf token synced scanned
    | publish token renamed now => exact .inl ((h.publish_lookup ha token renamed now).trans hf)
    | abandon token => exact .inl ((h.abandon_lookup ha token).trans hf)
    | sweep now scanned => exact h.sweep_removed ha hf horderly
  within hanswered := by
    cases e with
    | publish token renamed now => exact h.publish_within hanswered
    | start | write | makeRoom | abandon | sweep =>
      exact absurd (answered_of_not_publish fun _ _ _ => by simp) hanswered

theorem completed_uploads_retained (h : Reaches (step store sha256) (Orderly store) empty s) (e : UploadEvent)
    (horderly : Orderly store s e) : s.Retained store sha256 e := by
  have hkept : Kept store s := h.invariant empty_kept fun _ _ hk ha => hk.step ha
  exact hkept.retained horderly

end Retained

instance (store : UploadStore) (s : Uploads) : ∀ e, Decidable (Orderly store s e)
  | .start .. => inferInstanceAs (Decidable (_ = _))
  | .makeRoom token _ _ => inferInstanceAs (Decidable (∀ l ∈ s.live.lookup token, _ ∨ _))
  | .sweep .. => inferInstanceAs (Decidable (∀ a ∈ s.answered, ∀ f ∈ s.directory.lookup a.name, _ → _))
  | .write .. => .isTrue trivial
  | .publish .. => .isTrue trivial
  | .abandon .. => .isTrue trivial

namespace Sample

def digest (_ : List UInt8) : String := "d"

def small : UploadStore := { UploadStore.new "/uploads" with quotaBytes := 5 }

def first : String := "0000000000000001"
def second : String := "0000000000000002"

def sent (token filename : String) (bytes : List UInt8) (time : ℕ) : List UploadEvent :=
  [.start token filename bytes.length "d" true true time, .write token bytes true time]

def finished (token filename : String) (bytes : List UInt8) (time : ℕ) : List UploadEvent :=
  sent token filename bytes time ++ [.makeRoom token true true, .publish token true time]

def seconds (n : ℕ) : ℕ := n * nanosPerSecond

def evicting : List UploadEvent := finished first "a.txt" [1, 2, 3] 7 ++ sent second "b.txt" [4, 5, 6] 8

def marked : List UploadEvent := finished first "x.partial" [1] 0

def slow : List UploadEvent :=
  sent first "a.txt" [1] 0 ++ [.makeRoom first true true, .publish first true (seconds 20)]

def overlapping : List UploadEvent :=
  sent first "a.txt" [1, 2, 3] 0 ++ sent second "b.txt" [4, 5, 6] 0 ++
    [.makeRoom first true true, .makeRoom second true true, .publish first true 0]

end Sample

open Sample in
theorem completed_uploads_retained_evicting :
    (evicting.foldl (step small digest) empty).Retained small digest (.makeRoom second true true) ∧
      (evicting.foldl (step small digest) empty).directory.lookup (finalName first "a.txt") =
        some ⟨[1, 2, 3], 7⟩ ∧
      ((evicting.foldl (step small digest) empty).step small digest (.makeRoom second true true)).directory.lookup
        (finalName first "a.txt") = none := by
  have hrun : Allowed (step small digest) (Orderly small) empty evicting := by decide +kernel
  have horderly : Orderly small (evicting.foldl (step small digest) empty) (.makeRoom second true true) := by
    decide +kernel
  exact ⟨completed_uploads_retained (Reaches.refl.of_run hrun) _ horderly, by decide +kernel, by decide +kernel⟩

open Sample in
theorem completed_upload_lost :
    ¬ (marked.foldl (step (.new "/uploads") digest) empty).Retained (.new "/uploads") digest
        (.sweep (seconds 900) true) ∧
      ¬ (slow.foldl (step (.new "/uploads") digest) empty).Retained (.new "/uploads") digest
        (.sweep (seconds 86400) true) ∧
      ¬ (overlapping.foldl (step small digest) empty).Retained small digest (.publish second true 0) := by
  refine ⟨?_, ?_, ?_⟩
  · intro h
    have hremoved := h.removed ⟨finalName first "x.partial", seconds 86400⟩ (by decide +kernel) ⟨[1], 0⟩
      (by decide +kernel)
    rcases hremoved with hkept | ⟨_, hdue | hevicted⟩
    · exact absurd hkept (by decide +kernel)
    · exact absurd hdue (by decide +kernel)
    · obtain ⟨before, after, hsplit, _⟩ := hevicted.exceeded
      have hnone : (UploadStore.new "/uploads").keptIn
          (marked.foldl (step (.new "/uploads") digest) empty).directory (seconds 900) = [] := by decide +kernel
      rw [hnone] at hsplit
      exact absurd (congrArg List.length hsplit) (by simp)
  · intro h
    have hremoved := h.removed ⟨finalName first "a.txt", seconds 86420⟩ (by decide +kernel) ⟨[1], 0⟩
      (by decide +kernel)
    rcases hremoved with hkept | ⟨_, hdue | hevicted⟩
    · exact absurd hkept (by decide +kernel)
    · exact absurd hdue (by decide +kernel)
    · obtain ⟨before, after, hsplit, _⟩ := hevicted.exceeded
      have hnone : (UploadStore.new "/uploads").keptIn
          (slow.foldl (step (.new "/uploads") digest) empty).directory (seconds 86400) = [] := by decide +kernel
      rw [hnone] at hsplit
      exact absurd (congrArg List.length hsplit) (by simp)
  · intro h
    exact absurd (h.within (by decide +kernel)) (by decide +kernel)

end CiaoHost.Upload.Uploads
