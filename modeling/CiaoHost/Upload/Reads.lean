import CiaoHost.Upload.Published

/-! What an upload stream does depends on the bytes it receives, not on the reads they come in. -/

namespace CiaoHost.Upload

open CiaoHost.Lib.Framing

/-- The same bytes to come, and the same answer to whether the peer closes the stream after them. -/
structure SameStream (buffered : List UInt8) (reads : List (List UInt8)) (buffered' : List UInt8)
    (reads' : List (List UInt8)) : Prop where
  bytes : buffered ++ Format.received reads = buffered' ++ Format.received reads'
  closed : [] ∈ reads ↔ [] ∈ reads'

inductive SameFrame : FrameOutcome → FrameOutcome → Prop
  | frame (f : UploadClientFrame) {buffered buffered' : List UInt8} {reads reads' : List (List UInt8)}
      (h : SameStream buffered reads buffered' reads') : SameFrame (.frame f buffered reads) (.frame f buffered' reads')
  | same (outcome : FrameOutcome) : SameFrame outcome outcome

variable {parseOpen : List UInt8 → Option PutOpen} {sha256 : List UInt8 → String} {store : UploadStore}
  {env : Outcomes} {ending : Ending} {buffered buffered' : List UInt8} {reads reads' : List (List UInt8)}

lemma SameStream.nextFrame (h : SameStream buffered reads buffered' reads') :
    SameFrame (nextFrame parseOpen ending buffered reads) (nextFrame parseOpen ending buffered' reads') := by
  have hleft := (uploadFormat parseOpen).next_eq buffered reads
  have hright := (uploadFormat parseOpen).next_eq buffered' reads'
  rw [← h.bytes] at hright
  rw [Upload.nextFrame.eq_def, Upload.nextFrame.eq_def]
  cases htake : (uploadFormat parseOpen).takeFrame (buffered ++ Format.received reads) with
  | error e =>
    rw [htake] at hleft hright
    rw [hleft, hright]
    exact .same _
  | ok taken =>
    cases taken with
    | none =>
      -- no whole frame is to come, so what ends the reads decides on both sides
      rw [Format.next_none htake, Format.next_none (h.bytes ▸ htake), if_congr h.closed rfl rfl]
      exact .same _
    | some taken =>
      rw [htake] at hleft hright
      obtain ⟨b, r, hb, hbytes⟩ := hleft
      obtain ⟨b', r', hb', hbytes'⟩ := hright
      have hclosed := (Format.next_frame_closed hb).trans (h.closed.trans (Format.next_frame_closed hb').symm)
      rw [hb, hb']
      exact .frame _ ⟨hbytes.trans hbytes'.symm, hclosed⟩

lemma SameStream.uploadLoop {sent : List UploadHostFrame} {dir : Directory} {p : PartialUpload} {writes frames : ℕ}
    (h : SameStream buffered reads buffered' reads') :
    uploadLoop parseOpen sha256 store env ending sent dir p writes buffered reads frames =
      uploadLoop parseOpen sha256 store env ending sent dir p writes buffered' reads' frames := by
  induction frames generalizing dir p writes buffered buffered' reads reads' with
  | zero => rfl
  | succ frames ih =>
    have hnext := @SameStream.nextFrame parseOpen ending _ _ _ _ h
    rw [Upload.uploadLoop, Upload.uploadLoop]
    generalize Upload.nextFrame parseOpen ending buffered reads = outcome at hnext ⊢
    generalize Upload.nextFrame parseOpen ending buffered' reads' = outcome' at hnext ⊢
    cases hnext with
    | same => rfl
    | frame f h =>
      cases f with
      | chunk bytes =>
        dsimp only
        split
        · rfl
        · exact ih h
      | _ => rfl

theorem upload_ignores_read_boundaries (dir : Directory) (hbytes : Format.received reads = Format.received reads')
    (hclosed : [] ∈ reads ↔ [] ∈ reads') :
    runUploadStream parseOpen sha256 store env ending dir reads =
      runUploadStream parseOpen sha256 store env ending dir reads' := by
  have hnext := @SameStream.nextFrame parseOpen ending [] [] reads reads' ⟨by simpa using hbytes, hclosed⟩
  rw [runUploadStream, runUploadStream]
  generalize nextFrame parseOpen ending [] reads = outcome at hnext ⊢
  generalize nextFrame parseOpen ending [] reads' = outcome' at hnext ⊢
  cases hnext with
  | same => rfl
  | frame f h =>
    cases f with
    | «open» o =>
      simp only [acceptOpen, h.bytes, h.uploadLoop]
    | _ => rfl

theorem upload_ignores_read_boundaries_cut_twice :
    runUploadStream (fun _ => some sampleOpen) (fun _ => sampleOpen.sha256) (.new "/uploads") sampleOutcomes .broken ∅
        [[1, 0, 0], [0, 1, 42, 3, 0, 0, 0], [2, 7]] =
      runUploadStream (fun _ => some sampleOpen) (fun _ => sampleOpen.sha256) (.new "/uploads") sampleOutcomes .broken ∅
        [[1, 0, 0, 0, 1, 42, 3], [0, 0, 0, 2, 7]] :=
  upload_ignores_read_boundaries ∅ rfl (by simp)

end CiaoHost.Upload
