import CiaoHost.Protocol.FitLeast

/-! The answer to `agent.timeline.entry`: the whole retained body of a text row in chunks that each fit a frame. -/

namespace CiaoHost.Protocol

open Lib.Checks Lib.Text Lib.JsonSize Lib.Saturating

def maxEntryBodyChunkBytes : ℕ := 32 * 1024

def u32Max : ℕ := 4294967295

def toU32 (n : ℕ) : ℕ := min n u32Max

inductive EntryBodyFrame where
  | timelineEntryStart (v : ℕ) (sessionId : String) (snapshotEpoch processGeneration : ℕ) (entryId : String)
      (entryRevision totalBytes : ℕ) (truncation : Truncation)
  | timelineEntryChunk (v : ℕ) (entryId : String) (offset : ℕ) (text : String)
  | timelineEntryEnd (v : ℕ) (entryId : String)
  deriving DecidableEq, Repr

def EntryBodyFrame.encodedLen : EntryBodyFrame → ℕ
  | .timelineEntryStart v sessionId snapshotEpoch processGeneration entryId entryRevision totalBytes truncation =>
    obj [("type", str "timeline_entry_start"), ("v", num v), ("session_id", str sessionId),
      ("snapshot_epoch", num snapshotEpoch), ("process_generation", num processGeneration), ("entry_id", str entryId),
      ("entry_revision", num entryRevision), ("total_bytes", num totalBytes), ("truncation", truncation.size)]
  | .timelineEntryChunk v entryId offset text =>
    obj [("type", str "timeline_entry_chunk"), ("v", num v), ("entry_id", str entryId), ("offset", num offset),
      ("text", str text)]
  | .timelineEntryEnd v entryId => obj [("type", str "timeline_entry_end"), ("v", num v), ("entry_id", str entryId)]

section Chunks

variable (entryId : String)

def chunkFrame (offset : ℕ) (chunk : List Char) : EntryBodyFrame :=
  .timelineEntryChunk agentProtocolVersion entryId (toU32 offset) (String.ofList chunk)

/-- What ends at the last boundary within `limit` bytes, and after the first character at the earliest. -/
def atLeastOne (c : Char) (cs : List Char) (limit : ℕ) : List Char :=
  match takeWithin Char.utf8Size limit (c :: cs) with
  | [] => [c]
  | chunk => chunk

def fitChunk (offset : ℕ) (c : Char) (cs : List Char) : ℕ → ℕ → List Char
  | 0, limit => atLeastOne c cs limit
  | fuel + 1, limit =>
    let chunk := atLeastOne c cs limit
    let size := (chunkFrame entryId offset chunk).encodedLen
    if size ≤ maxAgentFrameBytes ∨ chunk = [c] then chunk
    else
      let envelope := size - jsonLen (String.ofList chunk)
      fitChunk offset c cs fuel (jsonPrefixWithin (String.ofList chunk) (maxAgentFrameBytes - envelope))

def bodyChunks : ℕ → ℕ → List Char → List EntryBodyFrame
  | 0, _, _ => []
  | _, _, [] => []
  | fuel + 1, offset, c :: cs =>
    let limit := min maxEntryBodyChunkBytes (weight Char.utf8Size (c :: cs))
    let chunk := fitChunk entryId offset c cs (cs.length + 1) limit
    chunkFrame entryId offset chunk ::
      bodyChunks fuel (offset + weight Char.utf8Size chunk) ((c :: cs).drop chunk.length)

end Chunks

def entryBodyFrames (sessionId : String) (snapshotEpoch processGeneration : ℕ) (entryId : String) (entryRevision : ℕ)
    (truncation : Truncation) (body : String) : List EntryBodyFrame :=
  .timelineEntryStart agentProtocolVersion sessionId snapshotEpoch processGeneration entryId entryRevision
      (toU32 (byteLen body)) truncation ::
    bodyChunks entryId body.toList.length 0 body.toList ++
      [.timelineEntryEnd agentProtocolVersion entryId]

section Fit

variable {entryId : String} {offset : ℕ} {c : Char} {cs : List Char}

lemma atLeastOne_ne_nil (limit : ℕ) : atLeastOne c cs limit ≠ [] := by
  rw [atLeastOne]
  split
  · exact List.cons_ne_nil c []
  · next hne => exact hne

lemma atLeastOne_isPrefix (limit : ℕ) : atLeastOne c cs limit <+: c :: cs := by
  rw [atLeastOne]
  split
  · exact (List.prefix_cons_inj c).mpr List.nil_prefix
  · exact takeWithin_isPrefix limit (c :: cs)

lemma atLeastOne_cases (limit : ℕ) :
    atLeastOne c cs limit = takeWithin Char.utf8Size limit (c :: cs) ∨ atLeastOne c cs limit = [c] := by
  rw [atLeastOne]
  split
  · exact .inr rfl
  · exact .inl rfl

lemma weight_atLeastOne (limit : ℕ) : weight Char.utf8Size (atLeastOne c cs limit) ≤ max limit 4 := by
  rcases @atLeastOne_cases c cs limit with hchunk | hchunk
  · rw [hchunk]
    exact (weight_takeWithin limit _).trans (le_max_left ..)
  · have hone := c.utf8Size_le_four
    rw [hchunk, weight_cons, weight_nil]
    omega

lemma chunkFrame_size (chunk : List Char) :
    (chunkFrame entryId offset chunk).encodedLen =
      (chunkFrame entryId offset []).encodedLen + weight jsonEscapedLen chunk := by
  simp only [chunkFrame, EntryBodyFrame.encodedLen, obj_cons, List.map_cons, List.map_nil, List.sum_cons, List.sum_nil,
    field, str, jsonLen, String.toList_ofList, weight_nil]
  omega

lemma chunkFrame_envelope (hid : validOpaqueId entryId = .ok ()) :
    (chunkFrame entryId offset []).encodedLen ≤ 1000 := by
  have hid : str entryId ≤ 386 := token_size hid
  have hoffset : num (toU32 offset) ≤ 20 := num_le ((min_le_right _ _).trans (by decide))
  have hversion : num agentProtocolVersion ≤ 20 := num_le (by decide)
  have hkeys : str "type" + str "timeline_entry_chunk" + str "v" + str "entry_id" + str "offset" + str "text" = 55 := by
    decide
  have hempty : str (String.ofList []) = 2 := by decide
  have hle := obj_le [("type", str "timeline_entry_chunk"), ("v", num agentProtocolVersion),
    ("entry_id", str entryId), ("offset", num (toU32 offset)), ("text", str (String.ofList []))]
  simp only [List.map_cons, List.map_nil, List.sum_cons, List.sum_nil] at hle
  rw [chunkFrame, EntryBodyFrame.encodedLen]
  omega

lemma single_fits (hid : validOpaqueId entryId = .ok ()) :
    (chunkFrame entryId offset [c]).encodedLen ≤ maxAgentFrameBytes := by
  have henvelope := @chunkFrame_envelope entryId offset hid
  have hescape := jsonEscapedLen_le c
  have hone := c.utf8Size_le_four
  rw [chunkFrame_size, weight_cons, weight_nil, maxAgentFrameBytes]
  omega

structure Chunk (entryId : String) (offset limit : ℕ) (rest chunk : List Char) : Prop where
  nonempty : chunk ≠ []
  isPrefix : chunk <+: rest
  bounded : weight Char.utf8Size chunk ≤ max limit 4
  fits : (chunkFrame entryId offset chunk).encodedLen ≤ maxAgentFrameBytes

lemma atLeastOne_shrinks {limit : ℕ} (hover : maxAgentFrameBytes < (chunkFrame entryId offset (atLeastOne c cs limit)).encodedLen)
    (hmore : atLeastOne c cs limit ≠ [c]) {budget : ℕ} (hbudget : budget =
      maxAgentFrameBytes - ((chunkFrame entryId offset (atLeastOne c cs limit)).encodedLen -
        jsonLen (String.ofList (atLeastOne c cs limit)))) :
    (atLeastOne c cs (jsonPrefixWithin (String.ofList (atLeastOne c cs limit)) budget)).length <
        (atLeastOne c cs limit).length ∧
      jsonPrefixWithin (String.ofList (atLeastOne c cs limit)) budget ≤ weight Char.utf8Size (atLeastOne c cs limit) := by
  have hprefix := @atLeastOne_isPrefix c cs limit
  have hne := @atLeastOne_ne_nil c cs limit
  generalize atLeastOne c cs limit = chunk at *
  have hsize := @chunkFrame_size entryId offset chunk
  have hjson : jsonLen (String.ofList chunk) = weight jsonEscapedLen chunk := by rw [jsonLen, String.toList_ofList]
  -- a chunk of whole characters that is not the first one alone has two of them
  obtain ⟨d, ds, rfl⟩ := List.exists_cons_of_ne_nil hne
  have hhead : d = c := by
    obtain ⟨tail, htail⟩ := hprefix
    exact (List.cons.inj htail).1
  subst hhead
  have hlong : 2 ≤ (d :: ds).length := by
    cases ds with
    | nil => exact absurd rfl hmore
    | cons a as => simp
  have hpositive := jsonEscapedLen_pos d
  have hweight : budget < weight jsonEscapedLen (d :: ds) := by
    rw [weight_cons] at hsize hjson ⊢
    omega
  have hcut := @takeWithin_isPrefix jsonEscapedLen budget (d :: ds)
  have hkeep : jsonPrefixWithin (String.ofList (d :: ds)) budget =
      weight Char.utf8Size (takeWithin jsonEscapedLen budget (d :: ds)) := by
    rw [jsonPrefixWithin, String.toList_ofList]
  rw [hkeep]
  refine ⟨?_, weight_prefix_le hcut⟩
  rcases @atLeastOne_cases d cs (weight Char.utf8Size (takeWithin jsonEscapedLen budget (d :: ds))) with hnext | hnext
  · rw [hnext, takeWithin_weight_of_prefixed Char.utf8Size_pos (hcut.trans hprefix)]
    exact takeWithin_length_lt hweight
  · rw [hnext, List.length_singleton]
    omega

lemma fitChunk_chunk (hid : validOpaqueId entryId = .ok ()) {fuel limit : ℕ}
    (hfuel : (atLeastOne c cs limit).length ≤ fuel) :
    Chunk entryId offset limit (c :: cs) (fitChunk entryId offset c cs fuel limit) := by
  induction fuel generalizing limit with
  | zero => exact absurd (List.length_eq_zero_iff.mp (Nat.le_zero.mp hfuel)) (atLeastOne_ne_nil limit)
  | succ fuel ih =>
    rw [fitChunk]
    dsimp only
    split
    · next hdone =>
      refine ⟨atLeastOne_ne_nil limit, atLeastOne_isPrefix limit, weight_atLeastOne limit, ?_⟩
      rcases hdone with hfits | hsingle
      · exact hfits
      · rw [hsingle]
        exact single_fits hid
    · next hover =>
      obtain ⟨hover, hmore⟩ := not_or.mp hover
      obtain ⟨hshorter, hlimit⟩ := atLeastOne_shrinks (not_le.mp hover) hmore rfl
      have hnext := ih (Nat.le_of_lt_succ (hshorter.trans_le hfuel))
      have hwithin := @weight_atLeastOne c cs limit
      exact ⟨hnext.nonempty, hnext.isPrefix, hnext.bounded.trans (by omega), hnext.fits⟩

end Fit

section Frames

def chunksAt (name : ℕ → ℕ) (entryId : String) : ℕ → List String → List EntryBodyFrame
  | _, [] => []
  | offset, piece :: pieces =>
    .timelineEntryChunk agentProtocolVersion entryId (name offset) piece ::
      chunksAt name entryId (offset + byteLen piece) pieces

variable {entryId : String}

lemma bodyChunks_pieces (hid : validOpaqueId entryId = .ok ()) {fuel offset : ℕ} {rest : List Char}
    (hfuel : rest.length ≤ fuel) :
    ∃ pieces : List String, bodyChunks entryId fuel offset rest = chunksAt toU32 entryId offset pieces ∧
      (pieces.map String.toList).flatten = rest ∧
      (∀ piece ∈ pieces, piece ≠ "" ∧ byteLen piece ≤ maxEntryBodyChunkBytes) ∧
      ∀ frame ∈ bodyChunks entryId fuel offset rest, frame.encodedLen ≤ maxAgentFrameBytes := by
  induction fuel generalizing offset rest with
  | zero =>
    rw [List.length_eq_zero_iff.mp (Nat.le_zero.mp hfuel)]
    exact ⟨[], rfl, rfl, nofun, nofun⟩
  | succ fuel ih =>
    cases rest with
    | nil => exact ⟨[], rfl, rfl, nofun, nofun⟩
    | cons c cs =>
      rw [bodyChunks]
      generalize hlimit : min maxEntryBodyChunkBytes (weight Char.utf8Size (c :: cs)) = limit
      have hchunk : Chunk entryId offset limit (c :: cs) (fitChunk entryId offset c cs (cs.length + 1) limit) :=
        fitChunk_chunk hid (atLeastOne_isPrefix limit).length_le
      generalize fitChunk entryId offset c cs (cs.length + 1) limit = chunk at hchunk ⊢
      obtain ⟨tail, htail⟩ := hchunk.isPrefix
      have hdrop : (c :: cs).drop chunk.length = tail := by rw [← htail, List.drop_left]
      have hlength : tail.length ≤ fuel := by
        have hpositive := List.length_pos_iff.mpr hchunk.nonempty
        have hsum := congrArg List.length htail
        rw [List.length_append] at hsum
        omega
      obtain ⟨pieces, hframes, hflatten, hpieces, hfits⟩ :=
        @ih (offset + weight Char.utf8Size chunk) tail hlength
      rw [hdrop]
      refine ⟨String.ofList chunk :: pieces, ?_, ?_, ?_, ?_⟩
      · rw [hframes, chunksAt, byteLen_ofList]
        rfl
      · rw [List.map_cons, List.flatten_cons, String.toList_ofList, hflatten, htail]
      · intro piece hpiece
        rcases List.mem_cons.mp hpiece with rfl | hpiece
        · refine ⟨fun hempty => hchunk.nonempty ?_, ?_⟩
          · rw [← @String.toList_ofList chunk, hempty]
            rfl
          · have hbounded := hchunk.bounded
            rw [byteLen_ofList]
            have hfour : 4 ≤ maxEntryBodyChunkBytes := by decide
            omega
        · exact hpieces piece hpiece
      · intro frame hframe
        rcases List.mem_cons.mp hframe with rfl | hframe
        · exact hchunk.fits
        · exact hfits frame hframe

lemma chunksAt_exact {offset : ℕ} {pieces : List String} (h : offset + weight Char.utf8Size (pieces.map String.toList).flatten ≤ u32Max) :
    chunksAt toU32 entryId offset pieces = chunksAt id entryId offset pieces := by
  induction pieces generalizing offset with
  | nil => rfl
  | cons piece pieces ih =>
    rw [List.map_cons, List.flatten_cons, weight_append] at h
    have hoffset : toU32 offset = offset := min_eq_left (by omega)
    rw [chunksAt, chunksAt, hoffset, ih (by rw [byteLen]; omega)]
    rfl

lemma start_fits {sessionId : String} {snapshotEpoch processGeneration entryRevision total : ℕ} {truncation : Truncation}
    (hsession : validOpaqueId sessionId = .ok ()) (hid : validOpaqueId entryId = .ok ())
    (htruncation : truncation.validate = .ok ()) (hwords : snapshotEpoch ≤ u64Max ∧ processGeneration ≤ u64Max ∧
      entryRevision ≤ u64Max ∧ ∀ n, truncation.originalBytes = some n → n ≤ u64Max) :
    (EntryBodyFrame.timelineEntryStart agentProtocolVersion sessionId snapshotEpoch processGeneration entryId
      entryRevision (toU32 total) truncation).encodedLen ≤ maxAgentFrameBytes := by
  obtain ⟨hepoch, hgeneration, hrevision, horiginal⟩ := hwords
  have hsession : str sessionId ≤ 386 := token_size hsession
  have hid : str entryId ≤ 386 := token_size hid
  have hepoch := num_le hepoch
  have hgeneration := num_le hgeneration
  have hrevision := num_le hrevision
  have htotal : num (toU32 total) ≤ 20 := num_le ((min_le_right _ _).trans (by decide))
  have hversion : num agentProtocolVersion ≤ 20 := num_le (by decide)
  have htruncation := truncation_size htruncation horiginal
  have hkeys : str "type" + str "timeline_entry_start" + str "v" + str "session_id" + str "snapshot_epoch" +
      str "process_generation" + str "entry_id" + str "entry_revision" + str "total_bytes" + str "truncation" ≤ 200 := by
    decide
  have hle := obj_le [("type", str "timeline_entry_start"), ("v", num agentProtocolVersion),
    ("session_id", str sessionId), ("snapshot_epoch", num snapshotEpoch),
    ("process_generation", num processGeneration), ("entry_id", str entryId), ("entry_revision", num entryRevision),
    ("total_bytes", num (toU32 total)), ("truncation", truncation.size)]
  simp only [List.map_cons, List.map_nil, List.sum_cons, List.sum_nil] at hle
  rw [EntryBodyFrame.encodedLen, maxAgentFrameBytes]
  omega

lemma end_fits (hid : validOpaqueId entryId = .ok ()) :
    (EntryBodyFrame.timelineEntryEnd agentProtocolVersion entryId).encodedLen ≤ maxAgentFrameBytes := by
  have hid : str entryId ≤ 386 := token_size hid
  have hversion : num agentProtocolVersion ≤ 20 := num_le (by decide)
  have hkeys : str "type" + str "timeline_entry_end" + str "v" + str "entry_id" ≤ 50 := by decide
  have hle := obj_le [("type", str "timeline_entry_end"), ("v", num agentProtocolVersion), ("entry_id", str entryId)]
  simp only [List.map_cons, List.map_nil, List.sum_cons, List.sum_nil] at hle
  rw [EntryBodyFrame.encodedLen, maxAgentFrameBytes]
  omega

end Frames

theorem entryBodyFrames_serve_body {sessionId entryId : String} {snapshotEpoch processGeneration entryRevision : ℕ}
    {truncation : Truncation} (body : String) (hsession : validOpaqueId sessionId = .ok ())
    (hid : validOpaqueId entryId = .ok ()) (htruncation : truncation.validate = .ok ())
    (hwords : snapshotEpoch ≤ u64Max ∧ processGeneration ≤ u64Max ∧ entryRevision ≤ u64Max ∧
      ∀ n, truncation.originalBytes = some n → n ≤ u64Max) :
    ∃ pieces : List String,
      entryBodyFrames sessionId snapshotEpoch processGeneration entryId entryRevision truncation body =
        .timelineEntryStart agentProtocolVersion sessionId snapshotEpoch processGeneration entryId entryRevision
            (toU32 (byteLen body)) truncation ::
          chunksAt toU32 entryId 0 pieces ++ [.timelineEntryEnd agentProtocolVersion entryId] ∧
      String.join pieces = body ∧
      (∀ piece ∈ pieces, piece ≠ "" ∧ byteLen piece ≤ maxEntryBodyChunkBytes) ∧
      (byteLen body ≤ u32Max → toU32 (byteLen body) = byteLen body ∧
        chunksAt toU32 entryId 0 pieces = chunksAt id entryId 0 pieces) ∧
      ∀ frame ∈ entryBodyFrames sessionId snapshotEpoch processGeneration entryId entryRevision truncation body,
        frame.encodedLen ≤ maxAgentFrameBytes := by
  obtain ⟨pieces, hframes, hflatten, hpieces, hfits⟩ :=
    @bodyChunks_pieces entryId hid body.toList.length 0 body.toList (le_refl _)
  refine ⟨pieces, ?_, ?_, hpieces, fun hcounted => ⟨min_eq_left hcounted, ?_⟩, fun frame hframe => ?_⟩
  · rw [entryBodyFrames, hframes]
  · apply String.toList_injective
    rw [String.toList_join, ← hflatten, List.flatMap_def]
  · apply chunksAt_exact
    rw [hflatten, Nat.zero_add]
    exact hcounted
  · rw [entryBodyFrames, List.cons_append] at hframe
    rcases List.mem_cons.mp hframe with rfl | hframe
    · exact start_fits hsession hid htruncation hwords
    · rcases List.mem_append.mp hframe with hchunk | hend
      · exact hfits frame hchunk
      · rw [List.mem_singleton.mp hend]
        exact end_fits hid

theorem entryBodyFrames_serve_body_short :
    ∃ pieces : List String, entryBodyFrames "s1" 1 1 "e1" 2 ⟨false, none, none⟩ "héllo" =
        .timelineEntryStart agentProtocolVersion "s1" 1 1 "e1" 2 6 ⟨false, none, none⟩ ::
          chunksAt toU32 "e1" 0 pieces ++ [.timelineEntryEnd agentProtocolVersion "e1"] ∧
      String.join pieces = "héllo" := by
  obtain ⟨pieces, hframes, hjoin, -⟩ := entryBodyFrames_serve_body "héllo"
    (by decide : validOpaqueId "s1" = .ok ()) (by decide : validOpaqueId "e1" = .ok ())
    (by decide : Truncation.validate ⟨false, none, none⟩ = .ok ())
    (show 1 ≤ u64Max ∧ 1 ≤ u64Max ∧ 2 ≤ u64Max ∧ _ from ⟨by decide, by decide, by decide, nofun⟩)
  exact ⟨pieces, hframes, hjoin⟩

end CiaoHost.Protocol
