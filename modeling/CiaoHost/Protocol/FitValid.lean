import CiaoHost.Protocol.Fit
import CiaoHost.Protocol.Valid

/-! A wire copy of a retained row passes the wire's own check, whatever it was cut against. -/

namespace CiaoHost.Protocol

open Lib.Checks Lib.Text Lib.JsonSize

structure TimelineEntry.Fittable (e : TimelineEntry) : Prop where
  entryId : validOpaqueId e.entryId = .ok ()
  nonzero : e.entryRevision ≠ 0 ∧ e.sequence ≠ 0 ∧ e.timestamp ≠ 0
  state : validToken e.state = .ok ()
  kind : validToken e.kind = .ok ()
  body : e.body.validateWithin maxRetainedTextBytes = .ok ()
  truncation : e.truncation.validate = .ok ()
  promise : e.validatePromise = .ok ()

namespace TimelineEntry

variable {e : TimelineEntry}

lemma validate_ok : e.validate = .ok () ↔ e.body.validate = .ok () ∧ e.Fittable := by
  simp only [validate, bind_ok, refuseIf_ok, not_or]
  constructor
  · rintro ⟨hid, hnonzero, hstate, hkind, hbody, htrunc, hpromise⟩
    refine ⟨hbody, hid, hnonzero, hstate, hkind, ?_, htrunc, hpromise⟩
    cases hb : e.body with
    | text t =>
      simp only [hb, TimelineBody.validate, TimelineBody.validateWithin, refuseIf_ok, not_not] at hbody ⊢
      exact hbody.trans (by decide)
    | tool t | unsupported r => simpa [hb, TimelineBody.validate, TimelineBody.validateWithin] using hbody
    | unknown => rfl
  · rintro ⟨hbody, h⟩
    exact ⟨h.entryId, h.nonzero, h.state, h.kind, hbody, h.truncation, h.promise⟩

lemma Fittable.text_le (h : e.Fittable) {t : String} (hb : e.body = .text t) : byteLen t ≤ maxRetainedTextBytes := by
  simpa [hb, TimelineBody.validateWithin] using h.body

lemma Fittable.wholeBytes_bounds (h : e.Fittable) {t : String} (hb : e.body = .text t) :
    byteLen t ≤ wholeBytes e ∧ wholeBytes e ≤ maxRetainedTextBytes := by
  have hpromise := h.promise
  have htext := h.text_le hb
  simp only [validatePromise, wholeBytes, hb] at hpromise ⊢
  split at hpromise
  · next hreason =>
    rw [if_pos hreason]
    cases hw : e.truncation.originalBytes with
    | none => simp [hw] at hpromise
    | some whole =>
      simp only [hw, refuseIf_ok, not_or, not_le, not_lt, Option.getD_some] at hpromise ⊢
      exact ⟨hpromise.1.le, hpromise.2⟩
  · next hreason =>
    rw [if_neg hreason]
    exact ⟨le_rfl, htext⟩

lemma Fittable.withBody (h : e.Fittable) {body : TimelineBody} {truncation : Truncation}
    (hbody : body.validateWithin maxRetainedTextBytes = .ok ()) (htrunc : truncation.validate = .ok ())
    (hpromise : { e with body := body, truncation := truncation }.validatePromise = .ok ()) :
    { e with body := body, truncation := truncation }.Fittable :=
  { h with body := hbody, truncation := htrunc, promise := hpromise }

end TimelineEntry

open TimelineEntry

variable {wire e : TimelineEntry} {t : String} {frameLen : TimelineEntry → ℕ}

lemma cutToHead_valid (h : wire.Fittable) (hb : wire.body = .text t)
    {whole limit : ℕ} (hwire : byteLen (cut t limit) ≤ maxTimelineTextBytes)
    (hshort : byteLen (cut t limit) < whole) (hwhole : whole ≤ maxRetainedTextBytes) :
    (cutToHead wire whole limit).validate = .ok () := by
  simp only [cutToHead, hb]
  refine validate_ok.mpr ⟨by simpa [TimelineBody.validate, TimelineBody.validateWithin] using hwire, ?_⟩
  have htoken : validToken truncationBodyAvailable = .ok () := by decide
  refine h.withBody ?_ (by simp [Truncation.validate, htoken]) ?_
  · simpa [TimelineBody.validateWithin] using hwire.trans (by decide)
  · simp [validatePromise, hshort, hwhole]

lemma wireHead_valid (h : e.Fittable) : (wireHead e).validate = .ok () := by
  cases hb : e.body with
  | text t =>
    obtain ⟨hle, hwhole⟩ := h.wholeBytes_bounds hb
    by_cases hlong : maxTimelineTextBytes < wholeBytes e
    · have hcut := byteLen_cut t maxTimelineTextBytes
      have hhead : wireHead e = cutToHead e (wholeBytes e) maxTimelineTextBytes := by
        simp only [wireHead, hb, if_pos hlong]
        by_cases htext : maxTimelineTextBytes < byteLen t
        · simp [cutToHead, hb, htext, cut_eq_self hcut]
        · simp [htext]
      rw [hhead]
      exact cutToHead_valid h hb hcut (hcut.trans_lt hlong) hwhole
    · have hhead : wireHead e = e := by
        have hshort : ¬ maxTimelineTextBytes < byteLen t := by omega
        simp [wireHead, hb, hlong, hshort]
      rw [hhead]
      refine validate_ok.mpr ⟨?_, h⟩
      simp only [hb, TimelineBody.validate, TimelineBody.validateWithin, refuseIf_ok]
      omega
  | tool tool | unsupported r => exact validate_ok.mpr (by simpa [wireHead, wholeBytes, hb, TimelineBody.validate,
      TimelineBody.validateWithin] using ⟨by simpa [hb, TimelineBody.validateWithin] using h.body, h⟩)
  | unknown => exact validate_ok.mpr (by simpa [wireHead, wholeBytes, hb, TimelineBody.validate,
      TimelineBody.validateWithin] using h)

lemma dropPreview_valid (h : wire.validate = .ok ()) {tool : ToolTimelineBody}
    (hb : wire.body = .tool tool) : (dropPreview wire tool).validate = .ok () := by
  obtain ⟨hbody, hfit⟩ := validate_ok.mp h
  have htool : tool.validate = .ok () := by
    simpa [hb, TimelineBody.validate, TimelineBody.validateWithin] using hbody
  have hdropped : (if tool.resultPreview.isSome then { tool with resultPreview := none }
      else { tool with inputPreview := none } : ToolTimelineBody).validate = .ok () := by
    simp only [ToolTimelineBody.validate, bind_ok, refuseIf_ok, not_or] at htool ⊢
    split
    · exact ⟨htool.1, htool.2.1, htool.2.2.1, by simp⟩
    · exact ⟨htool.1, htool.2.1, by simp, htool.2.2.2⟩
  -- a tool row promises nothing, so its reason is not the host's own
  have hreason : wire.truncation.reasonCode ≠ some truncationBodyAvailable := by
    intro hreason
    have hpromise := hfit.promise
    simp [validatePromise, hreason, hb] at hpromise
  refine validate_ok.mpr ⟨hdropped, hfit.withBody hdropped ?_ ?_⟩
  · split
    · exact hfit.truncation
    · decide
  · simp only [validatePromise]
    rw [if_neg]
    split
    · exact hreason
    · decide

def CountsText (frameLen : TimelineEntry → ℕ) : Prop :=
  ∀ wire t, wire.body = .text t → jsonLen t ≤ frameLen wire

lemma cut_shorter (hcount : CountsText frameLen)
    (hb : wire.body = .text t) (hover : maxAgentFrameBytes < frameLen wire) (hne : t ≠ "") :
    maxAgentFrameBytes - (frameLen wire - jsonLen t) < jsonLen t := by
  have hle := hcount wire t hb
  have hpos : 0 < jsonLen t := by
    cases hcs : t.toList with
    | nil => exact absurd (String.toList_eq_nil_iff.mp hcs) hne
    | cons c cs =>
      have hc := jsonEscapedLen_pos c
      simp only [jsonLen, hcs, weight_cons]
      omega
  omega

theorem fitLoop_valid (hcount : CountsText frameLen) {whole : ℕ} (hwhole : whole ≤ maxRetainedTextBytes) (fuel : ℕ)
    (h : wire.validate = .ok ()) (hle : ∀ t, wire.body = .text t → byteLen t ≤ whole) :
    (fitLoop frameLen whole fuel wire).validate = .ok () := by
  induction fuel generalizing wire with
  | zero => exact h
  | succ fuel ih =>
    unfold fitLoop
    split
    · exact h
    · next hover =>
      split
      · next t hb =>
        split
        · exact h
        · next hne =>
          have hlt : byteLen (cut t (jsonPrefixWithin t (maxAgentFrameBytes - (frameLen wire - jsonLen t)))) <
              byteLen t :=
            byteLen_cut_jsonPrefix_lt (cut_shorter hcount hb (not_le.mp hover) hne)
          obtain ⟨hbody, hfit⟩ := validate_ok.mp h
          have htext : byteLen t ≤ maxTimelineTextBytes := by
            simpa [hb, TimelineBody.validate, TimelineBody.validateWithin] using hbody
          have hshort := hlt.trans_le (hle t hb)
          refine ih (cutToHead_valid hfit hb (hlt.le.trans htext) hshort hwhole) fun t' ht' => ?_
          simp only [cutToHead, hb, TimelineBody.text.injEq] at ht'
          exact ht' ▸ hshort.le
      · next tool hb =>
        split
        · exact ih (dropPreview_valid h hb) (by simp [dropPreview])
        · exact h
      · exact h

lemma wholeBytes_le (h : e.Fittable) : wholeBytes e ≤ maxRetainedTextBytes := by
  cases hb : e.body with
  | text t => exact (h.wholeBytes_bounds hb).2
  | tool tool | unsupported r | unknown => simp [wholeBytes, hb]

lemma wireHead_text_le (h : e.Fittable) (hb : (wireHead e).body = .text t) : byteLen t ≤ wholeBytes e := by
  cases hbody : e.body with
  | text whole =>
    have hle := (h.wholeBytes_bounds hbody).1
    by_cases hlong : maxTimelineTextBytes < wholeBytes e <;>
      by_cases htext : maxTimelineTextBytes < byteLen whole <;>
      simp only [wireHead, hbody, hlong, htext, cutToHead, if_true, if_false, TimelineBody.text.injEq] at hb <;>
      subst hb
    · exact (byteLen_cut _ _).trans hlong.le
    · exact (byteLen_cut _ _).trans hlong.le
    · exact (byteLen_cut_le _ _).trans hle
    · exact hle
  | tool tool | unsupported r | unknown => simp [wireHead, wholeBytes, hbody] at hb

theorem fitEntryToFrame_valid (hcount : CountsText frameLen)
    (h : e.Fittable) : (fitEntryToFrame e frameLen).validate = .ok () :=
  fitLoop_valid hcount (wholeBytes_le h) _ (wireHead_valid h) fun _ ht => wireHead_text_le h ht

lemma jsonLen_le_size (hb : e.body = .text t) : jsonLen t ≤ e.size := by
  have hbody : e.body.size ≤ e.size := le_obj (f := ("body", e.body.size)) (by simp)
  have htext : str t ≤ e.body.size := by
    rw [hb]
    exact le_obj (f := ("text", str t)) (by simp)
  unfold str at htext
  omega

lemma changes_le_frame (v : ℕ) (d : AgentSessionDelta) {change : AgentDeltaChange} (h : change ∈ d.changes) :
    change.size ≤ encodedFrameLen (.sessionDelta v d) := by
  have harr : change.size ≤ arr (d.changes.map AgentDeltaChange.size) := le_arr (List.mem_map_of_mem h)
  have hdelta : arr (d.changes.map AgentDeltaChange.size) ≤ d.size := le_obj
    (f := ("changes", arr (d.changes.map AgentDeltaChange.size))) (by simp)
  have hframe : d.size ≤ encodedFrameLen (.sessionDelta v d) := le_obj (f := ("delta", d.size)) (by simp)
  omega

lemma countsText_delta (v : ℕ) (delta : TimelineEntry → AgentSessionDelta)
    (h : ∀ e, .upsertEntry e ∈ (delta e).changes) :
    CountsText fun e => encodedFrameLen (.sessionDelta v (delta e)) := by
  intro wire t hb
  have hframe := changes_le_frame v (delta wire) (h wire)
  have hentry : wire.size ≤ (AgentDeltaChange.upsertEntry wire).size :=
    le_obj (f := ("entry", wire.size)) (by simp)
  exact (jsonLen_le_size hb).trans (hentry.trans hframe)

lemma body_le_decodedBytes (e : TimelineEntry) : e.body.decodedBytes ≤ e.decodedBytes := by
  unfold TimelineEntry.decodedBytes
  omega

theorem fitEntryAlone_valid (h : e.Fittable) : (fitEntryAlone e).validate = .ok () := by
  unfold fitEntryAlone
  split
  · next hsmall =>
    refine validate_ok.mpr ⟨?_, h⟩
    have hle := body_le_decodedBytes e
    have hbody := h.body
    cases hb : e.body with
    | text t =>
      simp only [hb, TimelineBody.decodedBytes, maxAgentFrameBytes, envelopeSlack] at hle hsmall
      have hwire : byteLen t ≤ maxTimelineTextBytes := by
        unfold maxTimelineTextBytes
        omega
      simpa [TimelineBody.validate, TimelineBody.validateWithin] using hwire
    | tool tool | unsupported r => simpa [hb, TimelineBody.validate, TimelineBody.validateWithin] using hbody
    | unknown => rfl
  · exact fitEntryToFrame_valid (countsText_delta _ _ fun e => by simp) h

structure TimelineEntry.SameRow (e e' : TimelineEntry) : Prop where
  entryId : e'.entryId = e.entryId
  entryRevision : e'.entryRevision = e.entryRevision
  sequence : e'.sequence = e.sequence
  timestamp : e'.timestamp = e.timestamp
  state : e'.state = e.state
  kind : e'.kind = e.kind

namespace TimelineEntry.SameRow

lemma refl (e : TimelineEntry) : SameRow e e := ⟨rfl, rfl, rfl, rfl, rfl, rfl⟩

lemma trans {e' e'' : TimelineEntry} (h : SameRow e e') (h' : SameRow e' e'') : SameRow e e'' :=
  ⟨h'.1.trans h.1, h'.2.trans h.2, h'.3.trans h.3, h'.4.trans h.4, h'.5.trans h.5, h'.6.trans h.6⟩

end TimelineEntry.SameRow

lemma cutToHead_sameRow (wire : TimelineEntry) (whole limit : ℕ) : SameRow wire (cutToHead wire whole limit) := by
  unfold cutToHead
  split
  · exact ⟨rfl, rfl, rfl, rfl, rfl, rfl⟩
  · exact .refl wire

lemma dropPreview_sameRow (wire : TimelineEntry) (tool : ToolTimelineBody) : SameRow wire (dropPreview wire tool) :=
  ⟨rfl, rfl, rfl, rfl, rfl, rfl⟩

lemma fitLoop_sameRow (frameLen : TimelineEntry → ℕ) (whole fuel : ℕ) (wire : TimelineEntry) :
    SameRow wire (fitLoop frameLen whole fuel wire) := by
  induction fuel generalizing wire with
  | zero => exact .refl wire
  | succ fuel ih =>
    unfold fitLoop
    split
    · exact .refl wire
    · split
      · split
        · exact .refl wire
        · exact (cutToHead_sameRow ..).trans (ih _)
      · split
        · exact SameRow.trans (dropPreview_sameRow wire _) (ih _)
        · exact .refl wire
      · exact .refl wire

lemma wireHead_sameRow (e : TimelineEntry) : SameRow e (wireHead e) := by
  have hhead : ∀ wire, SameRow e wire → SameRow e
      (if maxTimelineTextBytes < wholeBytes e then cutToHead wire (wholeBytes e) maxTimelineTextBytes else wire) := by
    intro wire hwire
    split
    · exact hwire.trans (cutToHead_sameRow ..)
    · exact hwire
  apply hhead
  split
  · split
    · exact ⟨rfl, rfl, rfl, rfl, rfl, rfl⟩
    · exact .refl e
  · exact .refl e

lemma fitEntryToFrame_sameRow (e : TimelineEntry) (frameLen : TimelineEntry → ℕ) :
    SameRow e (fitEntryToFrame e frameLen) :=
  (wireHead_sameRow e).trans (fitLoop_sameRow ..)

lemma fitEntryAlone_sameRow (e : TimelineEntry) : SameRow e (fitEntryAlone e) := by
  unfold fitEntryAlone
  split
  · exact .refl e
  · exact fitEntryToFrame_sameRow ..

end CiaoHost.Protocol
