import CiaoHost.Protocol.FitValid

/-! A row that was cut to travel alone is never longer than a frame. -/

namespace CiaoHost.Protocol

open Lib.Checks Lib.Text Lib.JsonSize Lib.Saturating

structure TimelineEntry.InRange (e : TimelineEntry) : Prop where
  entryRevision : e.entryRevision ≤ u64Max
  sequence : e.sequence ≤ u64Max
  timestamp : e.timestamp ≤ u64Max
  originalBytes : ∀ n, e.truncation.originalBytes = some n → n ≤ u64Max

def TimelineBody.Bare : TimelineBody → Prop
  | .text t => t = ""
  | .tool shown => shown.resultPreview = none ∧ shown.inputPreview = none
  | _ => True

def TimelineBody.rounds : TimelineBody → ℕ
  | .text t => t.toList.length
  | .tool shown => (if shown.resultPreview.isSome then 1 else 0) + if shown.inputPreview.isSome then 1 else 0
  | _ => 0

lemma rounds_lt_shrinkSteps (body : TimelineBody) : body.rounds < shrinkSteps body := by
  cases body with
  | tool tool =>
    simp only [TimelineBody.rounds, shrinkSteps]
    split <;> split <;> omega
  | _ => simp [TimelineBody.rounds, shrinkSteps]

lemma dropPreview_rounds (wire : TimelineEntry) {tool : ToolTimelineBody}
    (h : tool.resultPreview.isSome ∨ tool.inputPreview.isSome) :
    (dropPreview wire tool).body.rounds < (TimelineBody.tool tool).rounds := by
  simp only [dropPreview, TimelineBody.rounds]
  by_cases hresult : tool.resultPreview.isSome
  · simp [hresult]
  · have hinput := h.resolve_left hresult
    simp [hresult, hinput]

variable {wire : TimelineEntry}

lemma fitLoop_settles {frameLen : TimelineEntry → ℕ} (hcount : CountsText frameLen) (whole : ℕ) {fuel : ℕ}
    (hfuel : wire.body.rounds < fuel) :
    frameLen (fitLoop frameLen whole fuel wire) ≤ maxAgentFrameBytes ∨
      (fitLoop frameLen whole fuel wire).body.Bare := by
  induction fuel generalizing wire with
  | zero => omega
  | succ fuel ih =>
    rw [fitLoop]
    split
    · next hfits => exact .inl hfits
    · next hover =>
      split
      · next t hb =>
        split
        · next hempty => exact .inr (by simpa [hb, TimelineBody.Bare] using hempty)
        · next hne =>
          apply ih
          have hshorter := cut_jsonPrefix_shorter (cut_shorter hcount hb (not_le.mp hover) hne)
          simp only [hb, TimelineBody.rounds] at hfuel
          simp only [cutToHead, hb, TimelineBody.rounds]
          omega
      · next tool hb =>
        split
        · next hpreview =>
          have hdropped := dropPreview_rounds wire hpreview
          rw [hb] at hfuel
          exact ih (by omega)
        · next hnone =>
          right
          simp only [not_or, Option.not_isSome_iff_eq_none] at hnone
          simpa [hb, TimelineBody.Bare] using hnone
      · next htext htool =>
        right
        cases hb : wire.body with
        | text t => exact absurd hb (htext t)
        | tool tool => exact absurd hb (htool tool)
        | unsupported reasonCode | unknown => trivial

lemma cutToHead_inRange {whole limit : ℕ} (h : wire.InRange) (hwhole : whole ≤ u64Max) :
    (cutToHead wire whole limit).InRange := by
  rw [cutToHead]
  split
  · refine { h with originalBytes := fun n hn => ?_ }
    cases hn
    exact hwhole
  · exact h

lemma dropPreview_inRange (tool : ToolTimelineBody) (h : wire.InRange) : (dropPreview wire tool).InRange := by
  refine { h with originalBytes := fun n hn => ?_ }
  simp only [dropPreview] at hn
  split at hn
  · exact h.originalBytes n hn
  · cases hn

lemma fitLoop_inRange (frameLen : TimelineEntry → ℕ) {whole : ℕ} (hwhole : whole ≤ u64Max) (fuel : ℕ)
    (h : wire.InRange) : (fitLoop frameLen whole fuel wire).InRange := by
  induction fuel generalizing wire with
  | zero => exact h
  | succ fuel ih =>
    rw [fitLoop]
    split
    · exact h
    · split
      · split
        · exact h
        · exact ih (cutToHead_inRange h hwhole)
      · split
        · exact ih (dropPreview_inRange _ h)
        · exact h
      · exact h

variable {e : TimelineEntry}

lemma wireHead_inRange (h : e.InRange) (hwhole : wholeBytes e ≤ u64Max) : (wireHead e).InRange := by
  have hhead : ∀ wire : TimelineEntry, wire.InRange →
      (if maxTimelineTextBytes < wholeBytes e then cutToHead wire (wholeBytes e) maxTimelineTextBytes
        else wire).InRange := by
    intro wire hwire
    split
    · exact cutToHead_inRange hwire hwhole
    · exact hwire
  apply hhead
  split
  · split
    · exact { h with }
    · exact h
  · exact h

section Size

lemma obj_le (fields : List (String × ℕ)) : obj fields ≤ 2 + (fields.map fun f => str f.1 + f.2 + 2).sum := by
  have hsum : (List.map (· + 1) (fields.map field)).sum = (fields.map fun f => str f.1 + f.2 + 2).sum := by
    rw [List.map_map]
    congr 1
    apply List.map_congr_left
    intro f _
    simp only [Function.comp_apply, field]
    omega
  rw [obj, arr, hsum]
  omega

variable {value : String}

lemma str_le {n : ℕ} (h : byteLen value ≤ n) : str value ≤ 6 * n + 2 := by
  have hjson := jsonLen_le value
  rw [str]
  omega

lemma token_size (h : validToken value = .ok ()) : str value ≤ 386 := by
  have hlen := ((validWord_ok _ _ _).mp h).2.1
  exact str_le hlen

lemma truncation_size {t : Truncation} (hvalid : t.validate = .ok ())
    (hrange : ∀ n, t.originalBytes = some n → n ≤ u64Max) : t.size ≤ 500 := by
  simp only [Truncation.validate, bind_ok, whenSome_ok] at hvalid
  have hbool := bool_le t.truncated
  have hreason : ((opt "reason_code" (t.reasonCode.map str)).map fun f => str f.1 + f.2 + 2).sum ≤ 410 := by
    cases hr : t.reasonCode with
    | none => simp [opt]
    | some reason =>
      have hkey : str "reason_code" = 13 := by decide
      have htoken := token_size (hvalid.1 reason hr)
      simp only [opt, Option.map_some, Option.toList_some, List.map_singleton, List.sum_singleton]
      omega
  have hbytes : ((opt "original_bytes" (t.originalBytes.map num)).map fun f => str f.1 + f.2 + 2).sum ≤ 40 := by
    cases hn : t.originalBytes with
    | none => simp [opt]
    | some n =>
      have hkey : str "original_bytes" = 16 := by decide
      have hnum := num_le (hrange n hn)
      simp only [opt, Option.map_some, Option.toList_some, List.map_singleton, List.sum_singleton]
      omega
  have hkey : str "truncated" = 11 := by decide
  have hle := obj_le ([("truncated", bool t.truncated)] ++ opt "reason_code" (t.reasonCode.map str) ++
    opt "original_bytes" (t.originalBytes.map num))
  rw [List.map_append, List.sum_append, List.map_append, List.sum_append] at hle
  simp only [List.map_singleton, List.sum_singleton] at hle
  rw [Truncation.size]
  omega

lemma entry_size (hvalid : e.validate = .ok ()) (hrange : e.InRange) : e.size ≤ e.body.size + 1900 := by
  obtain ⟨-, hfit⟩ := TimelineEntry.validate_ok.mp hvalid
  have hid : str e.entryId ≤ 386 := token_size hfit.entryId
  have hstate := token_size hfit.state
  have hkind := token_size hfit.kind
  have hrevision := num_le hrange.entryRevision
  have hsequence := num_le hrange.sequence
  have htimestamp := num_le hrange.timestamp
  have htruncation := truncation_size hfit.truncation hrange.originalBytes
  have hle := obj_le [("entry_id", str e.entryId), ("entry_revision", num e.entryRevision),
    ("sequence", num e.sequence), ("timestamp", num e.timestamp), ("state", str e.state),
    ("kind", str e.kind), ("body", e.body.size), ("truncation", e.truncation.size)]
  have hkeys : str "entry_id" + str "entry_revision" + str "sequence" + str "timestamp" + str "state" +
      str "kind" + str "body" + str "truncation" = 78 := by decide
  simp only [List.map_cons, List.map_nil, List.sum_cons, List.sum_nil] at hle
  rw [TimelineEntry.size]
  omega

lemma preview_size (key : String) (preview : Option String) :
    ((opt key (preview.map str)).map fun f => str f.1 + f.2 + 2).sum ≤
      str key + 4 + 6 * preview.elim 0 byteLen := by
  cases preview with
  | none => simp [opt]
  | some value =>
    have hvalue := str_le (le_refl (byteLen value))
    simp only [opt, Option.map_some, Option.toList_some, List.map_singleton, List.sum_singleton, Option.elim_some]
    omega

lemma body_size (body : TimelineBody) : body.size ≤ 6 * body.decodedBytes + 150 := by
  have htype : str "type" = 6 := by decide
  cases body with
  | text t =>
    have htext : str "text" = 6 := by decide
    have hvalue := str_le (le_refl (byteLen t))
    have hle := obj_le [("type", str "text"), ("text", str t)]
    simp only [List.map_cons, List.map_nil, List.sum_cons, List.sum_nil] at hle
    rw [TimelineBody.size, TimelineBody.decodedBytes]
    omega
  | tool tool =>
    have htool : str "tool" = 6 := by decide
    have hkeys : str "name" + str "status" + str "input_preview" + str "result_preview" = 45 := by decide
    have hname := str_le (le_refl (byteLen tool.name))
    have hstatus := str_le (le_refl (byteLen tool.status))
    have hinput := preview_size "input_preview" tool.inputPreview
    have hresult := preview_size "result_preview" tool.resultPreview
    have hinner := obj_le ([("name", str tool.name), ("status", str tool.status)] ++
      opt "input_preview" (tool.inputPreview.map str) ++ opt "result_preview" (tool.resultPreview.map str))
    have hle := obj_le [("type", str "tool"), ("tool", tool.size)]
    rw [List.map_append, List.sum_append, List.map_append, List.sum_append] at hinner
    simp only [List.map_cons, List.map_nil, List.sum_cons, List.sum_nil] at hle hinner
    rw [TimelineBody.size, TimelineBody.decodedBytes]
    rw [ToolTimelineBody.size] at hle ⊢
    omega
  | unsupported reasonCode =>
    have hkeys : str "unsupported" + str "reason_code" = 26 := by decide
    have hvalue := str_le (le_refl (byteLen reasonCode))
    have hle := obj_le [("type", str "unsupported"), ("reason_code", str reasonCode)]
    simp only [List.map_cons, List.map_nil, List.sum_cons, List.sum_nil] at hle
    rw [TimelineBody.size, TimelineBody.decodedBytes]
    omega
  | unknown =>
    have hvalue : str "unknown" = 9 := by decide
    have hle := obj_le [("type", str "unknown")]
    simp only [List.map_cons, List.map_nil, List.sum_cons, List.sum_nil] at hle
    rw [TimelineBody.size, TimelineBody.decodedBytes]
    omega

lemma bare_decodedBytes {body : TimelineBody} (hvalid : body.validate = .ok ()) (hbare : body.Bare) :
    body.decodedBytes ≤ 128 := by
  cases body with
  | text t =>
    rw [hbare]
    decide
  | tool tool =>
    simp only [TimelineBody.validate, TimelineBody.validateWithin, ToolTimelineBody.validate, bind_ok] at hvalid
    have hname : byteLen tool.name ≤ 64 := ((validWord_ok _ _ _).mp hvalid.1).2.1
    have hstatus : byteLen tool.status ≤ 64 := ((validWord_ok _ _ _).mp hvalid.2.1).2.1
    obtain ⟨hresult, hinput⟩ := hbare
    rw [TimelineBody.decodedBytes, hresult, hinput]
    simp only [Option.elim_none]
    omega
  | unsupported reasonCode =>
    have hreason : byteLen reasonCode ≤ 64 := ((validWord_ok _ _ _).mp hvalid).2.1
    exact hreason.trans (by decide)
  | unknown => exact Nat.zero_le _

end Size

lemma size_le_widestDelta (e : TimelineEntry) : e.size ≤ encodedFrameLen (widestDelta e) := by
  have hentry : e.size ≤ (AgentDeltaChange.upsertEntry e).size := le_obj (f := ("entry", e.size)) (by simp)
  exact hentry.trans (changes_le_frame _ _ (by simp))

theorem fitEntryAlone_size (h : e.Fittable) (hrange : e.InRange) : (fitEntryAlone e).size ≤ maxAgentFrameBytes := by
  have hvalid := fitEntryAlone_valid h
  rw [fitEntryAlone] at hvalid ⊢
  split at hvalid
  · next hsmall =>
    rw [if_pos hsmall]
    have hsize := entry_size hvalid hrange
    have hbody := body_size e.body
    have hle := body_le_decodedBytes e
    simp only [maxAgentFrameBytes, envelopeSlack] at hsmall ⊢
    omega
  · next hlarge =>
    rw [if_neg hlarge]
    have hwhole : wholeBytes e ≤ u64Max := (wholeBytes_le h).trans (by decide)
    have hcount : CountsText fun candidate => encodedFrameLen (widestDelta candidate) :=
      countsText_delta _ _ fun e => by simp
    have hinRange := fitLoop_inRange (fun candidate => encodedFrameLen (widestDelta candidate)) hwhole
      (shrinkSteps (wireHead e).body) (wireHead_inRange hrange hwhole)
    rw [fitEntryToFrame] at hvalid ⊢
    rcases fitLoop_settles hcount (wholeBytes e) (rounds_lt_shrinkSteps (wireHead e).body) with hfits | hbare
    · exact (size_le_widestDelta _).trans hfits
    · have hsize := entry_size hvalid hinRange
      have hbody := body_size (fitLoop (fun candidate => encodedFrameLen (widestDelta candidate)) (wholeBytes e)
        (shrinkSteps (wireHead e).body) (wireHead e)).body
      have hwords := bare_decodedBytes (TimelineEntry.validate_ok.mp hvalid).1 hbare
      rw [maxAgentFrameBytes]
      omega

end CiaoHost.Protocol
