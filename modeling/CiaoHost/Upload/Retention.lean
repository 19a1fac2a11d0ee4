import CiaoHost.Upload.Uploads

/-! How long completed uploads stay: until the time they were answered with, but for the quota. -/

namespace CiaoHost.Upload.Uploads

open CiaoHost.Lib CiaoHost.Lib.Runs

section

variable {store : UploadStore} {sha256 : List UInt8 → String} {s : Uploads} {dir : Directory}

structure Owned (dir : Directory) (token : String) (l : Live) : Prop where
  length : token.toList.length = 16
  partialPath : l.upload.partialPath = partialName token
  finalPath : ∃ filename, l.upload.finalPath = finalName token filename
  unmarked : isPartial l.upload.finalPath = false
  stored : ∀ f, dir.lookup (partialName token) = some f → f.bytes.length = l.upload.written
  verified : l.roomed = true → l.upload.written = l.upload.declared

/-- A completed upload bears a token that no upload in flight has. -/
structure Settled (live : KeyedMap String Live) (drawn : List String) (name : String) : Prop where
  unmarked : isPartial name = false
  token : ∃ token ∈ drawn, token.toList.length = 16 ∧ live.lookup token = none ∧
    ∃ filename, name = finalName token filename

def Roomed (live : KeyedMap String Live) : Prop := ∃ token l, live.lookup token = some l ∧ l.roomed = true

structure Kept (store : UploadStore) (s : Uploads) : Prop where
  drawn : ∀ token l, s.live.lookup token = some l → token ∈ s.drawn
  owned : ∀ token l, s.live.lookup token = some l → Owned s.directory token l
  settled : ∀ a ∈ s.answered, Settled s.live s.drawn a.name
  nodup : (s.answered.map Answered.name).Nodup
  within : Roomed s.live → counted s.directory + reserved s.live ≤ store.quotaBytes

/-- A name the client chose does not make its file pass for a partial; finishes that overlap fit the
quota together; no sweep falls between a day from the last write and the time answered. -/
def Orderly (store : UploadStore) (s : Uploads) : UploadEvent → Prop
  | .start token filename _ _ _ _ _ => isPartial (finalName token filename) = false
  | .makeRoom token _ _ => ∀ l ∈ s.live.lookup token, (∀ e ∈ s.live.entries, e.2.roomed = false) ∨
      counted s.directory + reserved s.live + l.upload.declared ≤ store.quotaBytes
  | .sweep now _ => ∀ a ∈ s.answered, ∀ f ∈ s.directory.lookup a.name,
      store.completedTtl ≤ now - f.modified → a.expiresAt ≤ now
  | _ => True

lemma empty_kept : Kept store empty where
  drawn _ _ h := by cases h
  owned _ _ h := by cases h
  settled _ h := by cases h
  nodup := List.nodup_nil
  within h := by
    obtain ⟨_, _, h, _⟩ := h
    cases h

variable {t token : String} {f : StoredFile} {p : PartialUpload}

lemma finalName_token {t' n n' : String} (ht : t.toList.length = 16) (ht' : t'.toList.length = 16)
    (h : finalName t n = finalName t' n') : t = t' := by
  have hlists := congrArg String.toList h
  simp only [finalName, String.toList_append] at hlists
  exact String.toList_inj.mp (List.append_inj hlists (ht.trans ht'.symm)).1

section Reserved

variable {live : KeyedMap String Live} {token : String} {l : Live}

variable (live token) in
lemma reserved_erase_le : reserved (live.erase token) ≤ reserved live := by
  have hsum := KeyedMap.sumBy_erase (fun l : Live => if l.roomed then l.upload.declared else 0) live token
  exact le_of_add_le_left (le_of_eq hsum)

lemma reserved_erase (hl : live.lookup token = some l) (hroomed : l.roomed = true) :
    reserved (live.erase token) + l.upload.declared = reserved live := by
  have hsum := KeyedMap.sumBy_erase (fun l : Live => if l.roomed then l.upload.declared else 0) live token
  rw [hl, Option.map_some, Option.getD_some, hroomed] at hsum
  exact hsum

variable (live token) in
lemma reserved_insert_false (hroomed : l.roomed = false) : reserved (live.insert token l) ≤ reserved live := by
  rw [reserved, KeyedMap.sumBy_insert, hroomed, if_neg Bool.false_ne_true, Nat.zero_add]
  exact reserved_erase_le live token

variable (live token) in
lemma reserved_insert_true (hroomed : l.roomed = true) :
    reserved (live.insert token l) ≤ l.upload.declared + reserved live := by
  rw [reserved, KeyedMap.sumBy_insert, hroomed, if_pos rfl]
  exact Nat.add_le_add_left (reserved_erase_le live token) _

lemma reserved_eq_zero (h : ∀ e ∈ live.entries, e.2.roomed = false) : reserved live = 0 := by
  rw [reserved, KeyedMap.sumBy, List.sum_eq_zero_iff]
  intro n hn
  obtain ⟨e, he, rfl⟩ := List.mem_map.mp hn
  simp [h e he]

lemma Roomed.of_erase (h : Roomed (live.erase token)) : Roomed live := by
  obtain ⟨t, l, hl, hroomed⟩ := h
  exact ⟨t, l, (KeyedMap.lookup_erase_some hl).2, hroomed⟩

lemma Roomed.of_insert (hl : l.roomed = false) (h : Roomed (live.insert token l)) : Roomed live := by
  obtain ⟨t, l', hl', hroomed⟩ := h
  rcases KeyedMap.lookup_insert_cases hl' with ⟨_, rfl⟩ | ⟨_, hl'⟩
  · rw [hl] at hroomed
    cases hroomed
  · exact ⟨t, l', hl', hroomed⟩

end Reserved

lemma Kept.shrunk (h : Kept store s) (hsub : ∀ name f, dir.lookup name = some f → s.directory.lookup name = some f)
    (hle : counted dir ≤ counted s.directory) : Kept store { s with directory := dir } where
  drawn := h.drawn
  owned token l hl := by
    have howned := h.owned token l hl
    exact { howned with stored := fun f hf => howned.stored f (hsub _ f hf) }
  settled := h.settled
  nodup := h.nodup
  within hroomed := by
    have hwithin := h.within hroomed
    dsimp only at hroomed ⊢
    omega

lemma Kept.dropped (h : Kept store s) (token : String) (p : PartialUpload)
    (hsub : ∀ name f, dir.lookup name = some f → s.directory.lookup name = some f)
    (hle : counted dir ≤ counted s.directory) : Kept store (s.dropped token p dir) := by
  have hshrunk : Kept store { s with directory := p.drop dir } := by
    apply h.shrunk
    · intro name f hf
      exact hsub name f (KeyedMap.lookup_erase_some hf).2
    · exact le_trans (KeyedMap.sumOver_erase_le _ _ _) hle
  exact {
    drawn := fun t l hl => h.drawn t l (KeyedMap.lookup_erase_some hl).2
    owned := fun t l hl => hshrunk.owned t l (KeyedMap.lookup_erase_some hl).2
    settled := fun a ha => by
      obtain ⟨hunmarked, t, ht, hlength, hlive, hname⟩ := h.settled a ha
      refine ⟨hunmarked, t, ht, hlength, ?_, hname⟩
      rw [Option.eq_none_iff_forall_ne_some]
      intro l hl
      rw [(KeyedMap.lookup_erase_some hl).2] at hlive
      cases hlive
    nodup := h.nodup
    within := fun hroomed => by
      have hwithin := hshrunk.within hroomed.of_erase
      have hle := reserved_erase_le s.live token
      dsimp only [Uploads.dropped] at hwithin ⊢
      omega }

lemma Kept.going {drawn : List String} {l : Live} (h : Kept store s)
    (hdrawn : s.drawn ⊆ drawn) (hmem : token ∈ drawn) (hown : token ∉ s.drawn ∨ s.live.lookup token ≠ none)
    (howned : Owned dir token l)
    (hothers : ∀ t f, t ≠ token → dir.lookup (partialName t) = some f → s.directory.lookup (partialName t) = some f)
    (hwithin : Roomed (s.live.insert token l) → counted dir + reserved (s.live.insert token l) ≤ store.quotaBytes) :
    Kept store ⟨dir, s.live.insert token l, drawn, s.answered⟩ where
  drawn t l' hl' := by
    rcases KeyedMap.lookup_insert_cases hl' with ⟨rfl, _⟩ | ⟨_, hl'⟩
    · exact hmem
    · exact hdrawn (h.drawn t l' hl')
  owned t l' hl' := by
    rcases KeyedMap.lookup_insert_cases hl' with ⟨rfl, rfl⟩ | ⟨hne, hl'⟩
    · exact howned
    · have hown' := h.owned t l' hl'
      exact { hown' with stored := fun f hf => hown'.stored f (hothers t f hne hf) }
  settled a ha := by
    obtain ⟨hunmarked, t, ht, hlength, hlive, hname⟩ := h.settled a ha
    refine ⟨hunmarked, t, hdrawn ht, hlength, ?_, hname⟩
    have hne : t ≠ token := by
      rintro rfl
      rcases hown with hfresh | hsome
      · exact hfresh ht
      · exact hsome hlive
    rw [KeyedMap.lookup_insert_ne hne]
    exact hlive
  nodup := h.nodup
  within := hwithin

variable (dir) in
lemma counted_insert_partialName (token : String) (f : StoredFile) :
    counted (dir.insert (partialName token) f) ≤ counted dir := by
  rw [counted, KeyedMap.sumOver_insert, isPartial_partialName, if_pos rfl, Nat.zero_add]
  exact KeyedMap.sumOver_erase_le _ _ _

variable {g : StoredFile}

lemma lookup_insert_partialName (hne : t ≠ token)
    (h : (dir.insert (partialName token) f).lookup (partialName t) = some g) :
    dir.lookup (partialName t) = some g := by
  rwa [KeyedMap.lookup_insert_ne (partialName_injective.ne hne)] at h

lemma Kept.start (h : Kept store s) {filename : String} (declared : ℕ) (digest : String)
    (ensured created : Bool) (now : ℕ) (hname : isPartial (finalName token filename) = false) :
    Kept store (s.start token filename declared digest ensured created now) := by
  rw [Uploads.start]
  split
  · next hfresh =>
    obtain ⟨hlength, hfresh⟩ := hfresh
    rw [UploadStore.begin]
    split_ifs with hbegin
    · apply h.going (List.subset_cons_self _ _) List.mem_cons_self (.inl hfresh)
      · refine ⟨hlength, rfl, ⟨filename, rfl⟩, hname, ?_, fun hroomed => by cases hroomed⟩
        intro f hf
        rw [KeyedMap.lookup_insert_self, Option.some.injEq] at hf
        subst hf
        rfl
      · intro t f hne hf
        exact lookup_insert_partialName hne hf
      · intro hroomed
        have hwithin := h.within (hroomed.of_insert rfl)
        have hcounted := counted_insert_partialName s.directory token ⟨[], now⟩
        have hreserved : reserved (s.live.insert token
            ⟨⟨[], 0, declared, digest, partialName token, finalName token filename⟩, false⟩) ≤ reserved s.live :=
          reserved_insert_false s.live token rfl
        omega
    · exact {
        drawn := fun t l hl => List.mem_cons_of_mem _ (h.drawn t l hl)
        owned := h.owned
        settled := fun a ha => by
          obtain ⟨hunmarked, t, ht, hrest⟩ := h.settled a ha
          exact ⟨hunmarked, t, List.mem_cons_of_mem _ ht, hrest⟩
        nodup := h.nodup
        within := h.within }
  · exact h

lemma Owned.appended (h : Owned dir token ⟨p, false⟩) (chunk : List UInt8)
    (now : ℕ) : Owned (p.appended dir chunk now) token ⟨{ p with
      hashed := p.hashed ++ chunk
      written := p.written + chunk.length }, false⟩ where
  length := h.length
  partialPath := h.partialPath
  finalPath := h.finalPath
  unmarked := h.unmarked
  verified hroomed := by cases hroomed
  stored f hf := by
    have hpath : p.partialPath = partialName token := h.partialPath
    rw [PartialUpload.appended, hpath] at hf
    cases hlookup : dir.lookup (partialName token) with
    | none =>
      rw [hlookup] at hf
      dsimp only at hf
      rw [hlookup] at hf
      cases hf
    | some g =>
      rw [hlookup] at hf
      dsimp only at hf
      rw [KeyedMap.lookup_insert_self, Option.some.injEq] at hf
      subst hf
      have hlen : g.bytes.length = p.written := h.stored g hlookup
      rw [List.length_append, hlen]

lemma appended_others {chunk : List UInt8} {now : ℕ} (hpath : p.partialPath = partialName token) (hne : t ≠ token)
    (hf : (p.appended dir chunk now).lookup (partialName t) = some f) :
    dir.lookup (partialName t) = some f := by
  rw [PartialUpload.appended, hpath] at hf
  split at hf
  · exact hf
  · exact lookup_insert_partialName hne hf

variable (dir) in
lemma counted_appended (hpath : p.partialPath = partialName token)
    (chunk : List UInt8) (now : ℕ) : counted (p.appended dir chunk now) ≤ counted dir := by
  rw [PartialUpload.appended, hpath]
  split
  · exact le_rfl
  · exact counted_insert_partialName dir token _

lemma Kept.write (h : Kept store s) (token : String) (chunk : List UInt8) (wrote : Bool) (now : ℕ) :
    Kept store (s.write token chunk wrote now) := by
  rw [Uploads.write.eq_def]
  split
  · next p hl =>
    have howned := h.owned token _ hl
    rw [PartialUpload.writeChunk]
    split_ifs with hmore hwrote
    · exact h.dropped token p (fun _ _ hf => hf) le_rfl
    · apply h.going (fun _ ht => ht) (h.drawn token _ hl) (.inr (by rw [hl]; exact Option.some_ne_none _))
        (howned.appended chunk now)
      · intro t f hne hf
        exact appended_others howned.partialPath hne hf
      · intro hroomed
        have hwithin := h.within (hroomed.of_insert rfl)
        have hcounted := counted_appended s.directory howned.partialPath chunk now
        refine le_trans (Nat.add_le_add hcounted ?_) hwithin
        exact reserved_insert_false s.live token rfl
    · exact h.dropped token p (fun _ _ hf => hf) le_rfl
  · exact h

lemma Kept.makeRoom (h : Kept store s) (synced scanned : Bool)
    (hfits : ∀ l ∈ s.live.lookup token, (∀ e ∈ s.live.entries, e.2.roomed = false) ∨
      counted s.directory + reserved s.live + l.upload.declared ≤ store.quotaBytes) :
    Kept store (s.makeRoom store sha256 token synced scanned) := by
  rw [Uploads.makeRoom.eq_def]
  split
  · next p hl =>
    have howned := h.owned token _ hl
    have hsub : ∀ name f, (store.makeRoomFor s.directory p.declared scanned).1.lookup name = some f →
        s.directory.lookup name = some f := fun name f => makeRoomFor_lookup
    have hle := counted_makeRoomFor_le s.directory store p.declared scanned
    have hroom := counted_makeRoomFor store s.directory p.declared scanned
    have hfits := hfits _ hl
    cases hverify : p.verify sha256 synced with
    | error failure => exact h.dropped token p (fun _ _ hf => hf) le_rfl
    | ok _ =>
      dsimp only
      generalize store.makeRoomFor s.directory p.declared scanned = room at hsub hle hroom
      obtain ⟨dir, outcome⟩ := room
      dsimp only at hsub hle hroom
      cases outcome with
      | error failure => exact h.dropped token p hsub hle
      | ok _ =>
        apply h.going (fun _ ht => ht) (h.drawn token _ hl) (.inr (by rw [hl]; exact Option.some_ne_none _))
        · exact {
            howned with
            stored := fun f hf => howned.stored f (hsub _ f hf)
            verified := fun _ => (verify_ok.mp hverify).1 }
        · intro t f _ hf
          exact hsub _ f hf
        · intro _
          have hreserved : reserved (s.live.insert token ⟨p, true⟩) ≤ p.declared + reserved s.live :=
            reserved_insert_true s.live token rfl
          have hroom := hroom rfl
          rcases hfits with hnone | hfits
          · have hzero := reserved_eq_zero hnone
            omega
          · dsimp only at hfits
            omega
  · exact h

variable {name : String}

lemma lookup_published (hne : name ≠ p.finalPath)
    (h : ((dir.erase p.partialPath).insert p.finalPath f).lookup name = some g) : dir.lookup name = some g := by
  rw [KeyedMap.lookup_insert_ne hne] at h
  exact (KeyedMap.lookup_erase_some h).2

variable (dir) in
lemma counted_published (p : PartialUpload) (f : StoredFile) :
    counted ((dir.erase p.partialPath).insert p.finalPath f) ≤ f.bytes.length + counted dir := by
  rw [counted, KeyedMap.sumOver_insert]
  apply Nat.add_le_add
  · split
    · exact Nat.zero_le _
    · exact le_rfl
  · exact le_trans (KeyedMap.sumOver_erase_le _ _ _) (KeyedMap.sumOver_erase_le _ _ _)

lemma Settled.of_live {l : Live} (h : Settled s.live s.drawn name)
    (howned : Owned dir token l) (hl : s.live.lookup token = some l) : name ≠ l.upload.finalPath := by
  rintro rfl
  obtain ⟨t, _, ht, hnone, n, hname⟩ := h.token
  obtain ⟨n', hname'⟩ := howned.finalPath
  rw [hname'] at hname
  rw [← finalName_token howned.length ht hname, hl] at hnone
  cases hnone

lemma Kept.publish (h : Kept store s) (token : String) (renamed : Bool) (now : ℕ) :
    Kept store (s.publish store token renamed now) := by
  rw [Uploads.publish.eq_def]
  split
  · next p hl =>
    have howned := h.owned token _ hl
    rw [PartialUpload.publish]
    cases hf : s.directory.lookup p.partialPath with
    | none => exact h.dropped token p (fun _ _ hf => hf) le_rfl
    | some f =>
      dsimp only
      split_ifs with hrenamed
      · have hlen : f.bytes.length = p.declared := by
          have hpath : p.partialPath = partialName token := howned.partialPath
          rw [hpath] at hf
          exact (howned.stored f hf).trans (howned.verified rfl)
        have hsettled : ∀ a ∈ s.answered, a.name ≠ p.finalPath :=
          fun a ha => (h.settled a ha).of_live howned hl
        have hunmarked : ∀ t, partialName t ≠ p.finalPath := by
          intro t heq
          have hfalse := howned.unmarked
          rw [← heq, isPartial_partialName] at hfalse
          cases hfalse
        exact {
          drawn := fun t l hl' => h.drawn t l (KeyedMap.lookup_erase_some hl').2
          owned := fun t l hl' => by
            have howned' := h.owned t l (KeyedMap.lookup_erase_some hl').2
            exact { howned' with stored := fun g hg => howned'.stored g (lookup_published (hunmarked t) hg) }
          settled := fun a ha => by
            rcases List.mem_cons.mp ha with rfl | ha
            · obtain ⟨filename, hname⟩ := howned.finalPath
              exact ⟨howned.unmarked, token, h.drawn token _ hl, howned.length, KeyedMap.lookup_erase_self _ _,
                filename, hname⟩
            · obtain ⟨hmark, t, ht, hlength, hlive, hname⟩ := h.settled a ha
              refine ⟨hmark, t, ht, hlength, ?_, hname⟩
              rw [Option.eq_none_iff_forall_ne_some]
              intro l hl'
              rw [(KeyedMap.lookup_erase_some hl').2] at hlive
              cases hlive
          nodup := by
            rw [List.map_cons, List.nodup_cons]
            refine ⟨?_, h.nodup⟩
            intro hmem
            obtain ⟨a, ha, hname⟩ := List.mem_map.mp hmem
            exact hsettled a ha hname
          within := fun hroomed => by
            have hwithin := h.within hroomed.of_erase
            have hreserved : reserved (s.live.erase token) + p.declared = reserved s.live :=
              reserved_erase hl rfl
            have hcounted := counted_published s.directory p f
            dsimp only
            omega }
      · exact h.dropped token p (fun _ _ hf => hf) le_rfl
  · exact h

lemma Kept.abandon (h : Kept store s) (token : String) : Kept store (s.abandon token) := by
  rw [Uploads.abandon]
  split
  · exact h.dropped token _ (fun _ _ hf => hf) le_rfl
  · exact h

lemma Kept.step {e : UploadEvent} (h : Kept store s) (horderly : Orderly store s e) :
    Kept store (s.step store sha256 e) := by
  cases e with
  | start token filename declared digest ensured created now =>
    exact h.start declared digest ensured created now horderly
  | write token chunk wrote now => exact h.write token chunk wrote now
  | makeRoom token synced scanned => exact h.makeRoom synced scanned horderly
  | publish token renamed now => exact h.publish token renamed now
  | abandon token => exact h.abandon token
  | sweep now scanned =>
    exact h.shrunk (fun _ _ hf => sweepAt_lookup hf) (counted_sweepAt_le store now scanned)

end

end CiaoHost.Upload.Uploads
