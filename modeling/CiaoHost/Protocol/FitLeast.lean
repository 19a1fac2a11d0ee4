import CiaoHost.Protocol.FitSize

/-! Rows cut against a fixed envelope: the loop ends, its frame fits where one can, and the text it leaves is the
longest that fits, unless the cut made the row's truncation shorter. -/

namespace CiaoHost.Protocol

open Lib.Checks Lib.Text Lib.JsonSize

def enveloped (envelope : ℕ) (candidate : TimelineEntry) : ℕ := envelope + candidate.size

def headTruncation (whole : ℕ) : Truncation := ⟨true, some truncationBodyAvailable, some whole⟩

namespace TimelineEntry

def withText (e : TimelineEntry) (t : String) (truncation : Truncation) : TimelineEntry :=
  { e with body := .text t, truncation := truncation }

def bare (e : TimelineEntry) : TimelineEntry :=
  match e.body with
  | .text t => if t = "" then e else e.withText "" (headTruncation (wholeBytes e))
  | .tool tool =>
    if tool.resultPreview.isSome ∨ tool.inputPreview.isSome then
      { e with
        body := .tool { tool with resultPreview := none, inputPreview := none }
        truncation := if e.truncation.truncated then e.truncation else ⟨true, some "preview_bounded", none⟩ }
    else e
  | _ => e

end TimelineEntry

open TimelineEntry

def longest (t : String) (budget : ℕ) : String := String.ofList (takeWithin jsonEscapedLen budget t.toList)

variable {budget fuel : ℕ}

lemma longest_eq_self {t : String} (h : jsonLen t ≤ budget) : longest t budget = t := by
  rw [longest, takeWithin_eq_self h, String.ofList_toList]

lemma longest_longest (t : String) (n m : ℕ) : longest (longest t n) m = longest t (min m n) := by
  simp only [longest, String.toList_ofList, takeWithin_takeWithin]

lemma obj_cons (f : String × ℕ) (fields : List (String × ℕ)) :
    obj (f :: fields) = 1 + ((f :: fields).map fun f => field f + 1).sum := by
  have hone : 1 ≤ ((f :: fields).map fun f => field f + 1).sum := by
    rw [List.map_cons, List.sum_cons]
    omega
  rw [obj, arr, List.map_map, max_eq_right]
  · rfl
  · exact hone

section Text

variable (envelope whole : ℕ) (e : TimelineEntry)

lemma enveloped_withText (t : String) (truncation : Truncation) :
    enveloped envelope (e.withText t truncation) = enveloped envelope (e.withText "" truncation) + jsonLen t := by
  have hempty : jsonLen "" = 0 := rfl
  simp only [enveloped, TimelineEntry.size, withText, TimelineBody.size, obj_cons, List.map_cons, List.map_nil,
    List.sum_cons, List.sum_nil, field, str, hempty]
  omega

lemma countsText_enveloped : CountsText (enveloped envelope) := by
  intro wire t hb
  exact (jsonLen_le_size hb).trans (Nat.le_add_left _ _)

lemma cutToHead_withText (t : String) (truncation : Truncation) (budget : ℕ) :
    cutToHead (e.withText t truncation) whole (jsonPrefixWithin t budget) =
      e.withText (longest t budget) (headTruncation whole) := by
  rw [longest, ← cut_jsonPrefix]
  rfl

variable {t : String} {truncation : Truncation}

lemma fitLoop_over (hover : ¬ enveloped envelope (e.withText t truncation) ≤ maxAgentFrameBytes) (hne : t ≠ "") :
    fitLoop (enveloped envelope) whole (fuel + 1) (e.withText t truncation) =
      fitLoop (enveloped envelope) whole fuel (e.withText
        (longest t (maxAgentFrameBytes - enveloped envelope (e.withText "" truncation))) (headTruncation whole)) := by
  have hsize := enveloped_withText envelope e t truncation
  have hbudget : enveloped envelope (e.withText t truncation) - jsonLen t =
      enveloped envelope (e.withText "" truncation) := by omega
  have hbody : (e.withText t truncation).body = .text t := rfl
  rw [fitLoop, if_neg hover, hbody]
  dsimp only
  rw [if_neg hne, hbudget, cutToHead_withText]

lemma longest_length_lt (h : budget < jsonLen t) : (longest t budget).toList.length < t.toList.length := by
  rw [longest, String.toList_ofList]
  exact takeWithin_length_lt h

lemma fitLoop_head (hfuel : t.toList.length < fuel) :
    fitLoop (enveloped envelope) whole fuel (e.withText t (headTruncation whole)) =
      e.withText (longest t (maxAgentFrameBytes - enveloped envelope (e.withText "" (headTruncation whole))))
        (headTruncation whole) := by
  induction fuel generalizing t with
  | zero => omega
  | succ fuel ih =>
    have hsize := enveloped_withText envelope e t (headTruncation whole)
    by_cases hfits : enveloped envelope (e.withText t (headTruncation whole)) ≤ maxAgentFrameBytes
    · rw [fitLoop, if_pos hfits, longest_eq_self (by omega)]
    · by_cases hempty : t = ""
      · subst hempty
        rw [fitLoop, if_neg hfits]
        rfl
      · have hpos : maxAgentFrameBytes - enveloped envelope (e.withText "" (headTruncation whole)) < jsonLen t := by
          have hshort := cut_shorter (countsText_enveloped envelope) (show (e.withText t (headTruncation whole)).body = .text t from rfl)
            (not_le.mp hfits) hempty
          omega
        have hshorter := longest_length_lt hpos
        rw [fitLoop_over envelope whole e hfits hempty, ih (by omega), longest_longest, min_self]

lemma fitLoop_text (hfuel : t.toList.length < fuel) :
    fitLoop (enveloped envelope) whole fuel (e.withText t truncation) =
      if enveloped envelope (e.withText t truncation) ≤ maxAgentFrameBytes ∨ t = "" then e.withText t truncation
      else e.withText (longest t (maxAgentFrameBytes - max (enveloped envelope (e.withText "" truncation))
        (enveloped envelope (e.withText "" (headTruncation whole))))) (headTruncation whole) := by
  obtain ⟨fuel, rfl⟩ := Nat.exists_eq_add_of_lt (Nat.zero_lt_of_lt hfuel)
  rw [Nat.zero_add]
  by_cases hfits : enveloped envelope (e.withText t truncation) ≤ maxAgentFrameBytes
  · rw [if_pos (.inl hfits), fitLoop, if_pos hfits]
  · by_cases hempty : t = ""
    · rw [if_pos (.inr hempty), fitLoop, if_neg hfits]
      exact if_pos hempty
    · have hpos : maxAgentFrameBytes - enveloped envelope (e.withText "" truncation) < jsonLen t := by
        have hsize := enveloped_withText envelope e t truncation
        have hshort := cut_shorter (countsText_enveloped envelope) (show (e.withText t truncation).body = .text t from rfl)
          (not_le.mp hfits) hempty
        omega
      have hshorter := longest_length_lt hpos
      have hmin : min (maxAgentFrameBytes - enveloped envelope (e.withText "" (headTruncation whole)))
          (maxAgentFrameBytes - enveloped envelope (e.withText "" truncation)) =
          maxAgentFrameBytes - max (enveloped envelope (e.withText "" truncation))
            (enveloped envelope (e.withText "" (headTruncation whole))) := by omega
      rw [if_neg (not_or.mpr ⟨hfits, hempty⟩), fitLoop_over envelope whole e hfits hempty,
        fitLoop_head envelope whole e (by omega), longest_longest, hmin]

end Text

section Rounds

variable {wire : TimelineEntry} {frameLen : TimelineEntry → ℕ}

lemma fitLoop_extra (hcount : CountsText frameLen) (whole extra : ℕ) (hfuel : wire.body.rounds < fuel) :
    fitLoop frameLen whole (fuel + extra) wire = fitLoop frameLen whole fuel wire := by
  induction fuel generalizing wire with
  | zero => omega
  | succ fuel ih =>
    rw [Nat.add_right_comm, fitLoop, fitLoop]
    split
    · rfl
    · next hover =>
      split
      · next t hb =>
        split
        · rfl
        · next hne =>
          apply ih
          have hshorter := cut_jsonPrefix_shorter (cut_shorter hcount hb (not_le.mp hover) hne)
          simp only [hb, TimelineBody.rounds] at hfuel
          simp only [cutToHead, hb, TimelineBody.rounds]
          omega
      · next tool hb =>
        split
        · next hpreview =>
          have hdropped := dropPreview_rounds wire hpreview
          rw [hb] at hfuel
          exact ih (by omega)
        · rfl
      · rfl

lemma dropPreview_bare {tool : ToolTimelineBody} (hb : wire.body = .tool tool)
    (h : tool.resultPreview.isSome ∨ tool.inputPreview.isSome) : (dropPreview wire tool).bare = wire.bare := by
  rw [bare, dropPreview, bare, hb]
  dsimp only
  rw [if_pos h]
  by_cases hresult : tool.resultPreview.isSome
  · by_cases hinput : tool.inputPreview.isSome
    · cases htruncated : wire.truncation.truncated <;> simp [hresult, hinput, htruncated]
    · simp [hresult, Option.not_isSome_iff_eq_none.mp hinput]
  · simp [Option.not_isSome_iff_eq_none.mp hresult]

lemma fitLoop_bare (whole fuel : ℕ) (h : ∀ t, wire.body ≠ .text t) :
    (fitLoop frameLen whole fuel wire).bare = wire.bare ∧ ∀ t, (fitLoop frameLen whole fuel wire).body ≠ .text t := by
  induction fuel generalizing wire with
  | zero => exact ⟨rfl, h⟩
  | succ fuel ih =>
    rw [fitLoop]
    split
    · exact ⟨rfl, h⟩
    · split
      · next t hb => exact absurd hb (h t)
      · next tool hb =>
        split
        · next hpreview =>
          have hrest := @ih (dropPreview wire tool) (by simp [dropPreview])
          exact ⟨hrest.1.trans (dropPreview_bare hb hpreview), hrest.2⟩
        · exact ⟨rfl, h⟩
      · exact ⟨rfl, h⟩

lemma bare_of_bare {e : TimelineEntry} (h : e.body.Bare) : e.bare = e := by
  rw [bare]
  split
  · next t hb =>
    rw [hb] at h
    exact if_pos h
  · next tool hb =>
    rw [hb] at h
    rw [if_neg]
    simp [h.1, h.2]
  · rfl

end Rounds

structure LeastCut (envelope : ℕ) (e r : TimelineEntry) (t u : String) : Prop where
  body : r.body = .text u
  isPrefix : u.toList <+: t.toList
  bounded : byteLen u ≤ maxTimelineTextBytes
  kept : u = t → r.truncation = e.truncation
  promised : u ≠ t → r.truncation = headTruncation (wholeBytes e)
  most : maxTimelineTextBytes < wholeBytes e ∨ e.truncation.size ≤ (headTruncation (wholeBytes e)).size →
    ∀ v : String, v.toList <+: t.toList → byteLen v ≤ maxTimelineTextBytes →
      enveloped envelope (r.withText v r.truncation) ≤ maxAgentFrameBytes → v.toList <+: u.toList

section Entry

variable {envelope : ℕ} {e : TimelineEntry} {t : String}

lemma TimelineEntry.Fittable.head_of_long (h : e.Fittable) (hb : e.body = .text t) (hlong : maxTimelineTextBytes < wholeBytes e)
    (hshort : byteLen t ≤ maxTimelineTextBytes) : e.truncation = headTruncation (wholeBytes e) := by
  have hpromise := h.promise
  have htruncation := h.truncation
  simp only [validatePromise, hb] at hpromise
  simp only [wholeBytes, hb] at hlong ⊢
  by_cases hreason : e.truncation.reasonCode = some truncationBodyAvailable
  · rw [if_pos hreason] at hpromise hlong ⊢
    cases hwhole : e.truncation.originalBytes with
    | none => simp [hwhole] at hpromise
    | some whole =>
      simp only [Truncation.validate, bind_ok, refuseIf_ok, not_not, hreason, Option.isSome_some] at htruncation
      rw [Option.getD_some, headTruncation, ← hreason, ← hwhole, ← htruncation.2]
  · rw [if_neg hreason] at hlong
    omega

def firstTruncation (e : TimelineEntry) : Truncation :=
  if maxTimelineTextBytes < wholeBytes e then headTruncation (wholeBytes e) else e.truncation

lemma wireHead_text (h : e.Fittable) (hb : e.body = .text t) :
    wireHead e = e.withText (cut t maxTimelineTextBytes) (firstTruncation e) := by
  have hle := (h.wholeBytes_bounds hb).1
  have hcut := cut_eq_self (byteLen_cut t maxTimelineTextBytes)
  by_cases hlong : maxTimelineTextBytes < wholeBytes e
  · by_cases htext : maxTimelineTextBytes < byteLen t
    · simp [wireHead, hb, hlong, htext, cutToHead, withText, firstTruncation, headTruncation, hcut]
    · simp [wireHead, hb, hlong, htext, cutToHead, withText, firstTruncation, headTruncation]
  · have htext : ¬ maxTimelineTextBytes < byteLen t := by omega
    have hself : cut t maxTimelineTextBytes = t := cut_eq_self (not_lt.mp htext)
    have hwire : wireHead e = e := by simp [wireHead, hb, hlong, htext]
    rw [hwire, firstTruncation, if_neg hlong, hself, withText, ← hb]

lemma fitEntryToFrame_text (h : e.Fittable) (hb : e.body = .text t) : fitEntryToFrame e (enveloped envelope) =
      if enveloped envelope (e.withText (cut t maxTimelineTextBytes) (firstTruncation e)) ≤ maxAgentFrameBytes ∨
        cut t maxTimelineTextBytes = "" then e.withText (cut t maxTimelineTextBytes) (firstTruncation e)
      else e.withText (longest (cut t maxTimelineTextBytes)
        (maxAgentFrameBytes - max (enveloped envelope (e.withText "" (firstTruncation e)))
          (enveloped envelope (e.withText "" (headTruncation (wholeBytes e))))))
        (headTruncation (wholeBytes e)) := by
  rw [fitEntryToFrame, wireHead_text h hb]
  exact fitLoop_text envelope (wholeBytes e) e (Nat.lt_succ_self _)

lemma cut_isPrefix (t : String) (n : ℕ) : (cut t n).toList <+: t.toList := by
  rw [cut, String.toList_ofList]
  exact takeWithin_isPrefix n t.toList

lemma prefix_cut {v : String} {n : ℕ} (h : v.toList <+: t.toList) (hn : byteLen v ≤ n) :
    v.toList <+: (cut t n).toList := by
  rw [cut, String.toList_ofList]
  exact prefix_takeWithin h hn

lemma longest_isPrefix (t : String) (budget : ℕ) : (longest t budget).toList <+: t.toList := by
  rw [longest, String.toList_ofList]
  exact takeWithin_isPrefix budget t.toList

lemma enveloped_mono {first second : Truncation} (h : first.size ≤ second.size) :
    enveloped envelope (e.withText "" first) ≤ enveloped envelope (e.withText "" second) := by
  simp only [enveloped, TimelineEntry.size, withText, obj_cons, List.map_cons, List.map_nil, List.sum_cons,
    List.sum_nil, field]
  omega

lemma leastCut (h : e.Fittable) (hb : e.body = .text t) :
    ∃ u, LeastCut envelope e (fitEntryToFrame e (enveloped envelope)) t u := by
  have hprefix := cut_isPrefix t maxTimelineTextBytes
  have hbound := byteLen_cut t maxTimelineTextBytes
  rw [fitEntryToFrame_text h hb]
  split
  · -- the copy that was measured first
    refine ⟨cut t maxTimelineTextBytes, rfl, hprefix, hbound, fun hsame => ?_, fun hcut => ?_, ?_⟩
    · change firstTruncation e = e.truncation
      rw [firstTruncation]
      split
      · next hlong => exact (h.head_of_long hb hlong (hsame ▸ hbound)).symm
      · rfl
    · have hlong : maxTimelineTextBytes < byteLen t := by
        by_contra hshort
        exact hcut (cut_eq_self (not_lt.mp hshort))
      exact if_pos (hlong.trans_le (h.wholeBytes_bounds hb).1)
    · intro _ v hv hlen _
      exact prefix_cut hv hlen
  · next hover =>
    obtain ⟨hover, hne⟩ := not_or.mp hover
    have hsize := enveloped_withText envelope e (cut t maxTimelineTextBytes) (firstTruncation e)
    have hweight := cut_shorter (countsText_enveloped envelope)
      (show (e.withText (cut t maxTimelineTextBytes) (firstTruncation e)).body = .text (cut t maxTimelineTextBytes) from rfl)
      (not_le.mp hover) hne
    have hshorter := @longest_length_lt
      (maxAgentFrameBytes - max (enveloped envelope (e.withText "" (firstTruncation e)))
        (enveloped envelope (e.withText "" (headTruncation (wholeBytes e))))) (cut t maxTimelineTextBytes) (by omega)
    have hlonger := (longest_isPrefix (cut t maxTimelineTextBytes)
      (maxAgentFrameBytes - max (enveloped envelope (e.withText "" (firstTruncation e)))
        (enveloped envelope (e.withText "" (headTruncation (wholeBytes e))))))
    refine ⟨_, rfl, hlonger.trans hprefix, ?_, fun hsame => ?_, fun _ => rfl, ?_⟩
    · exact (weight_prefix_le hlonger).trans hbound
    · have hlength := hprefix.length_le
      rw [hsame] at hshorter
      omega
    · intro hown v hv hlen hfits
      have hmax : enveloped envelope (e.withText "" (firstTruncation e)) ≤
          enveloped envelope (e.withText "" (headTruncation (wholeBytes e))) := by
        apply enveloped_mono
        rw [firstTruncation]
        split
        · exact le_refl _
        · next hshort => exact hown.resolve_left hshort
      have hv' := prefix_cut hv hlen
      have hheavy : enveloped envelope (e.withText v (headTruncation (wholeBytes e))) ≤ maxAgentFrameBytes := hfits
      rw [enveloped_withText] at hheavy
      rw [longest, String.toList_ofList]
      refine prefix_takeWithin hv' ?_
      rw [max_eq_right hmax]
      exact Nat.le_sub_of_add_le' hheavy

lemma cut_ne_empty (hne : t ≠ "") : cut t maxTimelineTextBytes ≠ "" := by
  intro hempty
  cases hcs : t.toList with
  | nil => exact hne (String.toList_eq_nil_iff.mp hcs)
  | cons c cs =>
    have hlist : (cut t maxTimelineTextBytes).toList = [] := String.toList_eq_nil_iff.mpr hempty
    have hc : c.utf8Size ≤ maxTimelineTextBytes := c.utf8Size_le_four.trans (by decide)
    rw [cut, String.toList_ofList, hcs, takeWithin, if_pos hc] at hlist
    cases hlist

lemma fitEntryToFrame_fits (h : e.Fittable) (hbare : enveloped envelope e.bare ≤ maxAgentFrameBytes) :
    enveloped envelope (fitEntryToFrame e (enveloped envelope)) ≤ maxAgentFrameBytes := by
  by_cases htext : ∃ t, e.body = .text t
  · obtain ⟨t, hb⟩ := htext
    rw [bare, hb] at hbare
    dsimp only at hbare
    rw [fitEntryToFrame_text h hb]
    by_cases hempty : t = ""
    · rw [if_pos hempty] at hbare
      subst hempty
      have hsame : e.withText "" (firstTruncation e) = e := by
        rw [firstTruncation]
        split
        · next hlong =>
          rw [← h.head_of_long hb hlong (Nat.zero_le _), withText, ← hb]
        · rw [withText, ← hb]
      have hcut : cut "" maxTimelineTextBytes = "" := rfl
      rw [if_pos (.inr hcut), hcut, hsame]
      exact hbare
    · rw [if_neg hempty] at hbare
      split
      · next hfits => exact hfits.resolve_right (cut_ne_empty hempty)
      · rw [enveloped_withText]
        have hweight : jsonLen (longest (cut t maxTimelineTextBytes)
            (maxAgentFrameBytes - max (enveloped envelope (e.withText "" (firstTruncation e)))
              (enveloped envelope (e.withText "" (headTruncation (wholeBytes e)))))) ≤
            maxAgentFrameBytes - max (enveloped envelope (e.withText "" (firstTruncation e)))
              (enveloped envelope (e.withText "" (headTruncation (wholeBytes e)))) := by
          rw [longest, jsonLen, String.toList_ofList]
          exact weight_takeWithin _ _
        omega
  · have hother : ∀ t, e.body ≠ .text t := fun t hb => htext ⟨t, hb⟩
    have hwire : wireHead e = e := by
      cases hb : e.body with
      | text t => exact absurd hb (hother t)
      | _ => simp [wireHead, wholeBytes, hb]
    rw [fitEntryToFrame, hwire]
    rcases fitLoop_settles (countsText_enveloped envelope) (wholeBytes e) (rounds_lt_shrinkSteps e.body) with hfits | hdone
    · exact hfits
    · have hsame := (@fitLoop_bare e (enveloped envelope) (wholeBytes e) (shrinkSteps e.body) hother).1
      rw [bare_of_bare hdone] at hsame
      rw [hsame]
      exact hbare

end Entry

namespace Sample

def gapped : TimelineEntry :=
  ⟨"e1", 2, 1, 1, "complete", "assistant_text", .text "abcdefgh", ⟨true, some "adapter_delta_gap", some 8⟩⟩

def whole : TimelineEntry := ⟨"e1", 2, 1, 1, "complete", "assistant_text", .text "abcdefgh", ⟨false, none, none⟩⟩

lemma whole_fittable : whole.Fittable := by
  have hvalid : whole.validate = .ok () := by decide +kernel
  exact (validate_ok.mp hvalid).2

end Sample

end CiaoHost.Protocol
