import CiaoHost.Codex.Approvals
import CiaoHost.Codex.Ownership

/-! The vendor's approval requests, the approvals that the loop tracks and the cards in the session,
over whole runs of the loop. -/

namespace CiaoHost.Codex

open Protocol Session Lib Lib.Checks

structure Raised where
  request : String
  interactionId : String
  turn : Option ℕ
  deriving DecidableEq, Repr

/-- The loop and the supervisor, with the requests raised so far, the turns that ended and the
requests whose answer could not be written. -/
structure Desk where
  supervisor : Supervisor
  hold : Hold
  turns : ℕ
  running : Bool
  ended : List ℕ
  raised : List Raised
  failed : List String

inductive TurnEdge where
  | started
  | ended
  deriving DecidableEq

namespace Desk

inductive Input where
  | wake (env : Env) (signal : Signal)
  | offer (reason : ReleaseReason)

def edge (h : Hold) : Signal → Option TurnEdge
  | .notified (.turnStarted _) => if h.phase = .selecting then some .started else none
  | .notified (.turnEnded ..) => if h.phase = .selecting then some .ended else none
  | _ => none

def unwritten (h : Hold) : Signal → Option String
  | .answered false => if h.phase.answering.isSome then (replies h.trace).getLast? else none
  | _ => none

def tracks (d : Desk) (r : Raised) : Prop :=
  (d.hold.tracking.approvals.lookup r.interactionId).map Prod.fst = some r.request

instance (d : Desk) (r : Raised) : Decidable (d.tracks r) := inferInstanceAs (Decidable (_ = _))

def settle (d : Desk) (env : Env) (signal : Signal) (card : Option (String × String))
    (result : Hold × List HoldEffect) : Desk where
  supervisor := result.2.foldl (HoldEffect.apply env) d.supervisor
  hold := result.1
  turns := if edge d.hold signal = some .started then d.turns + 1 else d.turns
  running := match edge d.hold signal with
    | some .started => true
    | some .ended => false
    | none => d.running
  ended := if edge d.hold signal = some .ended ∧ d.running then d.ended ++ [d.turns] else d.ended
  raised := d.raised ++ (card.map fun card => ⟨card.1, card.2, if d.running then some d.turns else none⟩).toList
  failed := d.failed ++ (unwritten d.hold signal).toList

section

variable (keyedDigest : String → String → String → String)

def step (d : Desk) : Input → Desk
  | .wake env signal =>
    d.settle env signal (d.hold.surfaced keyedDigest d.supervisor env signal)
      (d.hold.wake keyedDigest d.supervisor env d.hold.phase signal)
  | .offer reason => { d with hold := d.hold.offer reason }

/-- Between two events the cards are those of the tracked approvals; each request gets one reply at
most; a raised request is tracked until its answer is written; a turn that ended has none open. -/
structure InStep (d : Desk) : Prop where
  cards : d.hold.phase = .head ∨ d.hold.phase = .selecting → ∀ k,
    k ∈ d.supervisor.cards d.hold.sessionId ↔ (d.hold.tracking.approvals.lookup k).isSome
  once : (replies d.hold.trace).Nodup
  kept : ∀ r ∈ d.raised, d.tracks r ∨ (r.request ∈ replies d.hold.trace ∧ r.request ∉ d.failed)
  turns : ∀ r ∈ d.raised, ∀ turn ∈ r.turn, turn ∈ d.ended → ¬ d.tracks r

/-- A request arrives under an id of its own and, if a card goes up for it, for an item that has none
up; answers can be written; and a turn ends only once its approvals are answered. -/
def Orderly (d : Desk) : Input → Prop
  | .wake env signal =>
    (∀ id ∈ requestId signal, id ∉ replies d.hold.trace ∧ ∀ r ∈ d.raised, r.request ≠ id) ∧
    (∀ card ∈ d.hold.surfaced keyedDigest d.supervisor env signal,
      d.hold.tracking.approvals.lookup card.2 = none) ∧
    ¬ (d.hold.phase.answering.isSome ∧ fails signal) ∧
    (edge d.hold signal = some .ended → ∀ r ∈ d.raised, r.turn = some d.turns → ¬ d.tracks r)
  | .offer _ => True
where
  requestId : Signal → Option String
    | .serverRequest id _ => some id
    | _ => none
  fails : Signal → Bool
    | .answered succeeded => !succeeded
    | _ => false

instance (d : Desk) : ∀ input, Decidable (d.Orderly keyedDigest input)
  | .wake _ _ => inferInstanceAs (Decidable (_ ∧ _ ∧ _ ∧ _))
  | .offer _ => .isTrue trivial

end

structure Shown (d : Desk) : Prop where
  words : ∀ command ∈ d.hold.phase.wording, (HoldPhase.asking command).answering = none
  cards : d.hold.phase ≠ .ended → ∀ k, k ∈ d.supervisor.cards d.hold.sessionId ↔
    (d.hold.tracking.approvals.lookup k).isSome ∨ d.hold.phase.answering = some k
  answering : ∀ k, d.hold.phase.answering = some k →
    d.hold.tracking.approvals.lookup k = none ∧ validOpaqueId k = .ok ()
  valid : ∀ k, (d.hold.tracking.approvals.lookup k).isSome → validOpaqueId k = .ok ()

structure Booked (approvals : KeyedMap String (String × List String)) (answered : List String) (raised : List Raised) :
    Prop where
  once : answered.Nodup
  unanswered : ∀ k v, approvals.lookup k = some v → v.1 ∉ answered ∧ ∃ r ∈ raised, r.request = v.1 ∧ r.interactionId = k
  requests : (raised.map Raised.request).Nodup
  kept : ∀ r ∈ raised, (approvals.lookup r.interactionId).map Prod.fst = some r.request ∨ r.request ∈ answered

structure Timed (d : Desk) : Prop where
  ended : ∀ turn ∈ d.ended, turn ≤ d.turns
  running : d.running = true → d.turns ∉ d.ended
  turns : ∀ r ∈ d.raised, ∀ turn ∈ r.turn, turn ≤ d.turns ∧ (turn ∈ d.ended → ¬ d.tracks r)

section

variable {d : Desk} {env : Env} {signal : Signal} {card : Option (String × String)} {result : Hold × List HoldEffect}

lemma mem_raised_settle {r : Raised} :
    r ∈ (d.settle env signal card result).raised ↔ r ∈ d.raised ∨ ∃ id interactionId, card = some (id, interactionId) ∧
      r = ⟨id, interactionId, if d.running then some d.turns else none⟩ := by
  cases card with
  | none => simp [settle]
  | some card =>
    obtain ⟨id, interactionId⟩ := card
    simp only [settle, Option.map_some, Option.toList_some, List.mem_append, List.mem_singleton, Option.some.injEq,
      Prod.mk.injEq]
    constructor
    · rintro (hold | rfl)
      · exact .inl hold
      · exact .inr ⟨id, interactionId, ⟨rfl, rfl⟩, rfl⟩
    · rintro (hold | ⟨_, _, ⟨rfl, rfl⟩, rfl⟩)
      · exact .inl hold
      · exact .inr rfl

lemma Timed.settled (h : d.Timed)
    (hends : edge d.hold signal = some .ended → ∀ r ∈ d.raised, r.turn = some d.turns → ¬ d.tracks r)
    (hcard : card ≠ none → edge d.hold signal = none)
    (htracks : ∀ r ∈ d.raised, (d.settle env signal card result).tracks r → d.tracks r) :
    (d.settle env signal card result).Timed := by
  have hmono : d.turns ≤ (d.settle env signal card result).turns := by
    change d.turns ≤ if edge d.hold signal = some .started then d.turns + 1 else d.turns
    split
    · exact Nat.le_succ _
    · exact le_refl _
  have hended : ∀ turn ∈ (d.settle env signal card result).ended,
      turn ∈ d.ended ∨ (turn = d.turns ∧ edge d.hold signal = some .ended) := by
    intro turn hturn
    change turn ∈ (if edge d.hold signal = some .ended ∧ d.running then d.ended ++ [d.turns] else d.ended) at hturn
    split at hturn
    · rename_i hedge
      rcases List.mem_append.mp hturn with hold | hnew
      · exact .inl hold
      · exact .inr ⟨List.mem_singleton.mp hnew, hedge.1⟩
    · exact .inl hturn
  refine ⟨?_, ?_, ?_⟩
  · intro turn hturn
    rcases hended turn hturn with hold | ⟨rfl, -⟩
    · exact (h.ended turn hold).trans hmono
    · exact hmono
  · intro hrunning hturn
    rcases hended _ hturn with hold | ⟨-, hedge⟩
    · cases hedge : edge d.hold signal with
      | none =>
        simp only [settle, hedge] at hrunning hold
        exact h.running hrunning (by simpa using hold)
      | some edge =>
        cases edge with
        | started =>
          simp only [settle, hedge, if_true] at hold
          exact absurd (h.ended _ hold) (by omega)
        | ended =>
          simp [settle, hedge] at hrunning
    · simp [settle, hedge] at hrunning
  · intro r hr turn hturn
    rcases mem_raised_settle.mp hr with hr | ⟨id, interactionId, hsome, rfl⟩
    · obtain ⟨hle, hopen⟩ := h.turns r hr turn hturn
      refine ⟨hle.trans hmono, ?_⟩
      intro hin htracked
      rcases hended turn hin with hold | ⟨rfl, hedge⟩
      · exact hopen hold (htracks r hr htracked)
      · exact hends hedge r hr hturn (htracks r hr htracked)
    · -- a card goes up while its turn runs
      have hedge := hcard (by rw [hsome]; simp)
      split at hturn
      · rename_i hrunning
        cases hturn
        refine ⟨hmono, ?_⟩
        intro hin
        rcases hended _ hin with hold | ⟨-, hedge'⟩
        · exact absurd hold (h.running hrunning)
        · rw [hedge] at hedge'
          cases hedge'
      · cases hturn

section

variable {approvals : KeyedMap String (String × List String)} {answered offered : List String} {raised : List Raised}
  (h : Booked approvals answered raised)
include h

lemma Booked.refuses {id : String} (hfresh : id ∉ answered) (hnew : ∀ r ∈ raised, r.request ≠ id) :
    Booked approvals (answered ++ [id]) raised := by
  refine ⟨List.concat_eq_append ▸ h.once.concat hfresh, ?_, h.requests, ?_⟩
  · intro k v hv
    obtain ⟨hunanswered, r, hr, hrequest, hid⟩ := h.unanswered k v hv
    rw [List.mem_append, not_or, List.mem_singleton]
    exact ⟨⟨hunanswered, hrequest ▸ hnew r hr⟩, r, hr, hrequest, hid⟩
  · exact fun r hr => (h.kept r hr).imp_right (List.mem_append_left _)

lemma Booked.raises {r : Raised} (hfresh : r.request ∉ answered) (hnew : ∀ old ∈ raised, old.request ≠ r.request)
    (hfree : approvals.lookup r.interactionId = none) :
    Booked (approvals.insert r.interactionId (r.request, offered)) answered (raised ++ [r]) := by
  refine ⟨h.once, ?_, ?_, ?_⟩
  · intro k v hv
    rcases KeyedMap.lookup_insert_cases hv with ⟨rfl, rfl⟩ | ⟨-, hv⟩
    · exact ⟨hfresh, r, by simp, rfl, rfl⟩
    · obtain ⟨hunanswered, old, hold, hrest⟩ := h.unanswered k v hv
      exact ⟨hunanswered, old, List.mem_append_left _ hold, hrest⟩
  · rw [List.map_append, List.map_singleton, ← List.concat_eq_append]
    apply h.requests.concat
    simpa using hnew
  · intro old hold
    rcases List.mem_append.mp hold with hold | hnew
    · refine (h.kept old hold).imp_left fun htracks => ?_
      have hne : old.interactionId ≠ r.interactionId := by
        intro hsame
        rw [hsame, hfree] at htracks
        cases htracks
      rwa [KeyedMap.lookup_insert_ne hne]
    · left
      rw [List.mem_singleton.mp hnew, KeyedMap.lookup_insert_self]
      rfl

lemma Booked.answers {interactionId id : String} (htracked : approvals.lookup interactionId = some (id, offered)) :
    Booked (approvals.erase interactionId) (answered ++ [id]) raised := by
  obtain ⟨hunanswered, own, hown, hownRequest, hownId⟩ := h.unanswered _ _ htracked
  refine ⟨List.concat_eq_append ▸ h.once.concat hunanswered, ?_, h.requests, ?_⟩
  · intro k v hv
    obtain ⟨hne, hv⟩ := KeyedMap.lookup_erase_some hv
    obtain ⟨hopen, r, hr, hrequest, hid⟩ := h.unanswered k v hv
    rw [List.mem_append, not_or, List.mem_singleton]
    refine ⟨⟨hopen, ?_⟩, r, hr, hrequest, hid⟩
    -- one request has one card
    intro hsame
    have heq : r = own := List.inj_on_of_nodup_map h.requests hr hown (by rw [hrequest, hownRequest, hsame])
    exact hne (by rw [← hid, heq, hownId])
  · intro r hr
    rcases h.kept r hr with htracks | hreplied
    · by_cases hsame : r.interactionId = interactionId
      · right
        rw [hsame, htracked] at htracks
        rw [← Option.some.inj htracks]
        exact List.mem_append_right _ (List.mem_singleton_self _)
      · left
        rwa [KeyedMap.lookup_erase_ne hsame]
    · exact .inr (List.mem_append_left _ hreplied)

end

lemma Shown.quiet {d : Desk} (hplain : d.hold.phase.Plain)
    (hcards : d.hold.phase ≠ .ended → ∀ k, k ∈ d.supervisor.cards d.hold.sessionId ↔
      (d.hold.tracking.approvals.lookup k).isSome)
    (hvalid : ∀ k, (d.hold.tracking.approvals.lookup k).isSome → validOpaqueId k = .ok ()) : d.Shown := by
  refine ⟨hplain.2, fun hrunning k => ?_, fun k hk => ?_, hvalid⟩
  · rw [hcards hrunning k, hplain.1]
    simp
  · rw [hplain.1] at hk
    cases hk

lemma Shown.settled (h : d.Shown) (hbegun : d.hold.phase ≠ .ended) (hsame : result.1.sessionId = d.hold.sessionId)
    (hattends : d.hold.Attends d.supervisor env signal card result)
    (hwritten : ¬ (d.hold.phase.answering.isSome ∧ Orderly.fails signal)) :
    (d.settle env signal card result).Shown := by
  have hcards := h.cards hbegun
  cases hattends with
  | idle => exact ⟨h.words, h.cards, h.answering, h.valid⟩
  | @goesOn hold effects before same free =>
    refine .quiet same.phase (fun _ k => ?_) fun k hk => h.valid k (same.approvals ▸ hk)
    change k ∈ (effects.foldl (HoldEffect.apply env) d.supervisor).cards hold.sessionId ↔
      (hold.tracking.approvals.lookup k).isSome
    rw [hsame, HoldEffect.cards_foldl free, same.approvals, hcards, before]
    simp
  | @ends hold effects same ended =>
    exact .quiet same.phase (fun hrunning => absurd ended hrunning) fun k hk => h.valid k (same.approvals ▸ hk)
  | @refuses hold id request before hsignal approvals refused phase =>
    refine .quiet phase (fun _ k => ?_) fun k hk => h.valid k (approvals ▸ hk)
    change k ∈ d.supervisor.cards hold.sessionId ↔ (hold.tracking.approvals.lookup k).isSome
    rw [hsame, approvals, hcards k, before]
    simp [HoldPhase.answering]
  | @raises hold id request interaction offered turn before hsignal taken approvals same phase =>
    obtain ⟨hvalid, -⟩ := Supervisor.cards_upsertInteraction taken interaction.interactionId
    refine .quiet phase (fun _ k => ?_) fun k hk => ?_
    · change k ∈ ((d.supervisor.step env (.upsertInteraction d.hold.sessionId interaction)).step env
        (.noteTurn d.hold.sessionId turn)).cards hold.sessionId ↔ (hold.tracking.approvals.lookup k).isSome
      rw [hsame, Supervisor.cards_cardFree (.noteTurn turn), (Supervisor.cards_upsertInteraction taken k).2, hcards k,
        approvals, before]
      by_cases hk : k = interaction.interactionId
      · subst hk
        simp
      · simp [hk, HoldPhase.answering]
    · change (hold.tracking.approvals.lookup k).isSome at hk
      by_cases hsame : k = interaction.interactionId
      · exact hsame ▸ hvalid
      · rw [approvals, KeyedMap.lookup_insert_ne hsame] at hk
        exact h.valid k hk
  | @answers hold interactionId id offered before tracked approvals answered phase =>
    have hvalid : validOpaqueId interactionId = .ok () := h.valid interactionId (by rw [tracked]; rfl)
    have hcommand : hold.phase.wording = none := by
      cases hphase : hold.phase with
      | asking command => rfl
      | _ =>
        rw [hphase] at phase
        cases phase
    refine ⟨?_, ?_, ?_, ?_⟩
    · change ∀ command ∈ hold.phase.wording, _
      simp [hcommand]
    · intro _ k
      change k ∈ d.supervisor.cards hold.sessionId ↔
        (hold.tracking.approvals.lookup k).isSome ∨ hold.phase.answering = some k
      rw [hsame, hcards k, approvals, phase, before]
      by_cases hk : k = interactionId
      · subst hk
        simp [tracked]
      · simp [hk, Ne.symm hk, HoldPhase.answering]
    · intro k hk
      change hold.phase.answering = some k at hk
      rw [phase] at hk
      cases hk
      refine ⟨?_, hvalid⟩
      change hold.tracking.approvals.lookup interactionId = none
      rw [approvals, KeyedMap.lookup_erase_self]
    · intro k hk
      change (hold.tracking.approvals.lookup k).isSome at hk
      obtain ⟨v, hv⟩ := Option.isSome_iff_exists.mp hk
      rw [approvals] at hv
      exact h.valid k (Option.isSome_iff_exists.mpr ⟨v, (KeyedMap.lookup_erase_some hv).2⟩)
  | @resolves hold effects interactionId before same free =>
    obtain ⟨hgone, hvalid⟩ := h.answering interactionId before
    refine .quiet same.phase (fun _ k => ?_) fun k hk => h.valid k (same.approvals ▸ hk)
    change k ∈ (effects.foldl (HoldEffect.apply env)
      (d.supervisor.step env (.resolveInteraction d.hold.sessionId interactionId "answered"))).cards hold.sessionId ↔
        (hold.tracking.approvals.lookup k).isSome
    rw [hsame, HoldEffect.cards_foldl free, Supervisor.cards_resolveInteraction hvalid, hcards k, same.approvals, before]
    by_cases hk : k = interactionId
    · subst hk
      simp [hgone]
    · simp [hk, Ne.symm hk]
  | fails before hsignal =>
    subst hsignal
    exact absurd ⟨before, rfl⟩ hwritten

end

structure Kept (d : Desk) : Prop where
  shown : d.Shown
  booked : Booked d.hold.tracking.approvals (replies d.hold.trace) d.raised
  timed : d.Timed
  failed : d.failed = []

lemma Kept.inStep {d : Desk} (h : d.Kept) : d.InStep := by
  refine ⟨?_, h.booked.once, ?_, ?_⟩
  · intro hphase k
    have hplain : d.hold.phase ≠ .ended ∧ d.hold.phase.answering = none := by
      rcases hphase with hphase | hphase <;> rw [hphase] <;> exact ⟨nofun, rfl⟩
    rw [h.shown.cards hplain.1 k, hplain.2]
    simp
  · intro r hr
    rw [h.failed]
    exact (h.booked.kept r hr).imp_right fun hreplied => ⟨hreplied, List.not_mem_nil⟩
  · exact fun r hr turn hturn => (h.timed.turns r hr turn hturn).2

section

variable (keyedDigest : String → String → String → String) {d : Desk}

lemma unwritten_none {h : Hold} {signal : Signal} (hwritten : ¬ (h.phase.answering.isSome ∧ Orderly.fails signal)) :
    unwritten h signal = none := by
  rw [unwritten.eq_def]
  split
  · rw [if_neg]
    exact fun hanswering => hwritten ⟨hanswering, rfl⟩
  · rfl

lemma edge_none_of_surfaced {sv : Supervisor} {env : Env} {h : Hold} {signal : Signal}
    (hcard : h.surfaced keyedDigest sv env signal ≠ none) : edge h signal = none := by
  cases signal with
  | serverRequest id request => rfl
  | _ => exact absurd rfl hcard

lemma Kept.wake {env : Env} {signal : Signal} (h : d.Kept) (horderly : d.Orderly keyedDigest (.wake env signal)) :
    (d.step keyedDigest (.wake env signal)).Kept := by
  obtain ⟨hfresh, hfree, hwritten, hends⟩ := horderly
  have hattends := Hold.wake_attends keyedDigest d.supervisor env h.shown.words signal
  have hid : (d.hold.wake keyedDigest d.supervisor env d.hold.phase signal).1.sessionId = d.hold.sessionId :=
    congrArg Prod.fst (Hold.wake_identity d.hold keyedDigest d.supervisor env signal)
  have hended : d.hold.phase = .ended → d.hold.wake keyedDigest d.supervisor env d.hold.phase signal = (d.hold, []) := by
    intro hphase
    rw [hphase, Hold.wake.eq_def]
  have hedge := @edge_none_of_surfaced keyedDigest d.supervisor env d.hold signal
  rw [step]
  generalize d.hold.surfaced keyedDigest d.supervisor env signal = card at hattends hfree hedge ⊢
  generalize d.hold.wake keyedDigest d.supervisor env d.hold.phase signal = result at hattends hid hended ⊢
  have hfailed : (d.settle env signal card result).failed = [] := by
    rw [settle, h.failed, unwritten_none hwritten]
    rfl
  have hshown : (d.settle env signal card result).Shown := by
    by_cases hphase : d.hold.phase = .ended
    · rw [hended hphase]
      exact ⟨h.shown.words, h.shown.cards, h.shown.answering, h.shown.valid⟩
    · exact h.shown.settled hphase hid hattends hwritten
  have htracks : ∀ {r : Raised}, result.1.tracking.approvals = d.hold.tracking.approvals →
      (d.settle env signal card result).tracks r → d.tracks r := by
    intro r happrovals htracked
    rw [tracks, settle, happrovals] at htracked
    exact htracked
  have hraised : ∀ {result}, (d.settle env signal none result).raised = d.raised := List.append_nil _
  cases hattends with
  | idle => exact ⟨hshown, hraised ▸ h.booked, h.timed.settled hends hedge fun r _ => htracks rfl, hfailed⟩
  | goesOn before same free | ends same ended | resolves interactionId before same free =>
    exact ⟨hshown, hraised ▸ same.approvals ▸ same.replies ▸ h.booked,
      h.timed.settled hends hedge fun r _ => htracks same.approvals, hfailed⟩
  | refuses id request before hsignal approvals refused phase =>
    obtain ⟨hreplied, hnew⟩ := hfresh id (hsignal ▸ rfl)
    exact ⟨hshown, hraised ▸ approvals ▸ refused ▸ h.booked.refuses hreplied hnew,
      h.timed.settled hends hedge fun r _ => htracks approvals, hfailed⟩
  | @raises hold id request interaction offered turn before hsignal taken approvals same phase =>
    obtain ⟨hreplied, hnew⟩ := hfresh id (hsignal ▸ rfl)
    refine ⟨hshown, ?_, ?_, hfailed⟩
    · rw [settle, approvals, same]
      exact @Booked.raises _ _ offered _ h.booked ⟨id, interaction.interactionId, _⟩ hreplied hnew (hfree _ rfl)
    apply h.timed.settled hends hedge
    intro r hr htracked
    change (hold.tracking.approvals.lookup r.interactionId).map Prod.fst = some r.request at htracked
    by_cases hsame : r.interactionId = interaction.interactionId
    · rw [approvals, hsame, KeyedMap.lookup_insert_self] at htracked
      exact absurd (Option.some.inj htracked).symm (hnew r hr)
    · rw [approvals, KeyedMap.lookup_insert_ne hsame] at htracked
      exact htracked
  | @answers hold interactionId id offered before tracked approvals answered phase =>
    refine ⟨hshown, hraised ▸ approvals ▸ answered ▸ h.booked.answers tracked, ?_, hfailed⟩
    apply h.timed.settled hends hedge
    intro r hr htracked
    change (hold.tracking.approvals.lookup r.interactionId).map Prod.fst = some r.request at htracked
    obtain ⟨v, hv, hrequest⟩ := Option.map_eq_some_iff.mp htracked
    rw [approvals] at hv
    rw [tracks, (KeyedMap.lookup_erase_some hv).2, Option.map_some, hrequest]
  | fails before hsignal =>
    subst hsignal
    exact absurd ⟨before, rfl⟩ hwritten

lemma Kept.offer (h : d.Kept) (reason : ReleaseReason) : (d.step keyedDigest (.offer reason)).Kept := by
  rw [step, Hold.offer]
  split
  · exact ⟨⟨h.shown.words, h.shown.cards, h.shown.answering, h.shown.valid⟩,
      h.booked,
      ⟨h.timed.ended, h.timed.running, h.timed.turns⟩, h.failed⟩
  · exact h

end

def start (supervisor : Supervisor) (sessionId : String) (processGeneration : ℕ) (threadId : String)
    (ownChild : Option ℕ) (commands : ℕ) (carriesWhereabouts : Bool) (models : ModelSurface) : Desk where
  supervisor := supervisor
  hold := .spawn sessionId processGeneration threadId ownChild commands carriesWhereabouts models
  turns := 0
  running := false
  ended := []
  raised := []
  failed := []

lemma start_kept {supervisor : Supervisor} {sessionId : String} (hcards : supervisor.cards sessionId = [])
    (processGeneration : ℕ) (threadId : String) (ownChild : Option ℕ) (commands : ℕ) (carriesWhereabouts : Bool)
    (models : ModelSurface) :
    (start supervisor sessionId processGeneration threadId ownChild commands carriesWhereabouts models).Kept := by
  have hnone : ∀ k, (start supervisor sessionId processGeneration threadId ownChild commands carriesWhereabouts
      models).hold.tracking.approvals.lookup k = none := fun k => rfl
  refine ⟨⟨nofun, ?_, nofun, ?_⟩, ⟨List.nodup_nil, ?_, List.nodup_nil, by simp [start]⟩, ⟨by simp [start], nofun,
    by simp [start]⟩, rfl⟩
  · intro _ k
    rw [hnone k]
    change k ∈ supervisor.cards sessionId ↔ _ ∨ none = some k
    rw [hcards]
    simp
  · intro k hk
    cases hk
  · intro k v hv
    cases hv

theorem approvals_in_step (keyedDigest : String → String → String → String) {supervisor : Supervisor}
    {sessionId : String} (hcards : supervisor.cards sessionId = []) (processGeneration : ℕ) (threadId : String)
    (ownChild : Option ℕ) (commands : ℕ) (carriesWhereabouts : Bool) (models : ModelSurface) {d : Desk}
    (hreaches : Runs.Reaches (step keyedDigest) (Orderly keyedDigest)
      (start supervisor sessionId processGeneration threadId ownChild commands carriesWhereabouts models) d) :
    d.InStep := by
  have hkept : d.Kept := by
    apply hreaches.invariant (P := Kept)
    · exact start_kept hcards _ _ _ _ _ _
    · intro s input hs horderly
      cases input with
      | wake env signal => exact hs.wake keyedDigest horderly
      | offer reason => exact hs.offer keyedDigest reason
  exact hkept.inStep

end Desk

namespace Sample

def desk : Desk := .start (adoptions none).supervisor "codex-adopted-thread-1" 1 "thread-1" (some 40) 0 false ⟨none, none, []⟩

def atDesk (signal : Signal) : Desk.Input := .wake (Session.Sample.env 1 []) signal

def askingRun : List Desk.Input :=
  [atDesk .proceed, atDesk (.notified (.turnStarted (some "turn-1"))), atDesk .proceed,
    atDesk (.serverRequest "7" (.approval true (some "item-1") none none)), atDesk .proceed]

def allow : AgentCommand :=
  ⟨1, "cmd-2", "codex-adopted-thread-1", 1, 1, none,
    .interactionResponse "codex.approval.item-1" 1 (.choices ["accept"])⟩

def answeredRun : List Desk.Input :=
  askingRun ++ [atDesk (.command allow), atDesk (.answered true), atDesk .proceed,
    atDesk (.notified (.turnEnded (some "turn-1") (some "completed"))), atDesk .proceed]

def interruptedRun : List Desk.Input :=
  askingRun ++ [atDesk (.notified (.turnEnded (some "turn-1") (some "interrupted")))]

def afterDesk (inputs : List Desk.Input) : Desk := inputs.foldl (Desk.step digest) desk

end Sample

theorem Desk.approvals_in_step_answered :
    (Sample.afterDesk Sample.askingRun).supervisor.cards "codex-adopted-thread-1" = ["codex.approval.item-1"] ∧
    (Sample.afterDesk Sample.answeredRun).raised = [⟨"7", "codex.approval.item-1", some 1⟩] ∧
    (Sample.afterDesk Sample.answeredRun).ended = [1] ∧ (Sample.afterDesk Sample.answeredRun).InStep := by
  have hallowed : Runs.Allowed (step Sample.digest) (Orderly Sample.digest) Sample.desk Sample.answeredRun := by
    decide +kernel
  exact ⟨by decide +kernel, by decide +kernel, by decide +kernel,
    approvals_in_step Sample.digest (by decide +kernel) _ _ _ _ _ _ (Runs.Reaches.refl.of_run hallowed)⟩

theorem Desk.interrupted_turn_leaves_card :
    ∃ d, Runs.Reaches (step Sample.digest) (fun _ _ => True) Sample.desk d ∧
      d.supervisor.cards "codex-adopted-thread-1" = ["codex.approval.item-1"] ∧ d.ended = [1] ∧ ¬ d.InStep := by
  refine ⟨Sample.afterDesk Sample.interruptedRun,
    Runs.Reaches.refl.of_run (by simp [Runs.Allowed, Sample.interruptedRun, Sample.askingRun]),
    by decide +kernel, by decide +kernel, ?_⟩
  intro hin
  have hopen := hin.turns ⟨"7", "codex.approval.item-1", some 1⟩ (by decide +kernel) 1 (by decide +kernel)
    (by decide +kernel)
  revert hopen
  decide +kernel

end CiaoHost.Codex
