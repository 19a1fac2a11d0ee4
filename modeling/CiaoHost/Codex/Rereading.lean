import CiaoHost.Codex.OneAdopter
import CiaoHost.Codex.Record
import CiaoHost.Session.Shown

/-! Picking a conversation up again: what its record was read as, and what its session shows. -/

namespace CiaoHost.Codex

open Protocol Session Lib Lib.Checks

/-- Calls of `adopt` with what they read; `streamed` names the sessions that have rows no read gave
them. -/
structure Rereading where
  adopting : Adopting
  reads : KeyedMap ℕ (Option (List ThreadTurn))
  shown : KeyedMap String Record
  streamed : List String

def AdoptPhase.isFilling : AdoptPhase → Bool
  | filling .. => true
  | _ => false

def AdoptPhase.history : AdoptPhase → Option ThreadHistory
  | listing _ history .. | registering _ history .. | filling _ history .. => some history
  | _ => none

def HoldEffect.writes : HoldEffect → List String
  | .supervisor op => op.writes.toList
  | _ => []

def AdoptEffect.writes : AdoptEffect → List String
  | .supervisor op => op.writes.toList
  | .claim .. => []

structure Fill where
  session : LiveSession
  registered : RegisteredAgentSession
  history : ThreadHistory
  record : Record
  env : Env

def Fill.laid (f : Fill) : Timeline := f.session.laid f.env.ids f.history.entries f.history.complete none

section

variable (keyedDigest : String → String → String → String) (daemon : ℕ)

def drawnFor (record : Record) (item : VendorItem) (session : LiveSession) (entry : TimelineEntry) : Bool :=
  (session.toTimeline.sourceOf.lookup entry.entryId).any fun source =>
    source = entrySourceId keyedDigest item.itemId ∨ (item, source) ∈ record

/-- Exactly one row for every item that the record has under its own name. -/
def DrawsOnce (record : Record) (session : LiveSession) : Prop :=
  ∀ item, (record.map Prod.fst).count item = 1 → session.history.countP (drawnFor keyedDigest record item session) = 1

namespace Rereading

def start (digest : String → String) : Rereading := ⟨.start digest, ∅, ∅, []⟩

def fill (w : Rereading) : Adopting.Event → Option Fill
  | .answer i env .proceed =>
    match w.adopting.calls[i]? with
    | some ⟨_, .filling _ history _ registered⟩ =>
      (w.adopting.adoptions.supervisor.sessions.lookup registered.sessionId).bind fun session =>
        if session.snapshot.processGeneration = registered.processGeneration then
          some ⟨session, registered, history, canonicalItems keyedDigest (w.reads.lookup i).join, env⟩
        else none
    | _ => none
  | _ => none

def written (w : Rereading) : Adopting.Event → List String
  | .answer i env signal =>
    match w.adopting.calls[i]? with
    | some call =>
      if call.phase.isFilling then []
      else (AdoptCall.wake keyedDigest daemon w.adopting.adoptions i env call.params call.phase signal).2.elim []
        AdoptEffect.writes
    | none => []
  | .wake i env signal =>
    match w.adopting.adoptions.holds[i]? with
    | some h => (h.wake keyedDigest w.adopting.adoptions.supervisor env h.phase signal).2.flatMap HoldEffect.writes
    | none => []
  | .elsewhere _ op => op.writes.toList
  | .adopt .. | .release .. => []

def readsAfter (w : Rereading) : Adopting.Event → KeyedMap ℕ (Option (List ThreadTurn))
  | .answer i _ (.resumed turns _ _) =>
    match w.adopting.calls[i]? with
    | some ⟨_, .resuming _⟩ => w.reads.insert i turns
    | _ => w.reads
  | _ => w.reads

/-- Sessions that are gone, or start over with nothing on show, are forgotten. -/
def step (w : Rereading) (event : Adopting.Event) : Rereading :=
  let adopting := w.adopting.step keyedDigest daemon event
  let drawn (id : String) : Bool :=
    (adopting.adoptions.supervisor.sessions.lookup id).any fun s => ¬ s.toTimeline.Blank
  { adopting := adopting
    reads := w.readsAfter event
    shown := ((w.fill keyedDigest event).elim w.shown fun f =>
      w.shown.insert f.registered.sessionId f.record).retain fun id _ => drawn id
    streamed := (w.written keyedDigest daemon event ++ w.streamed).filter drawn }

def shownRecord (w : Rereading) (id : String) : Record := (w.shown.lookup id).getD []

/-- A conversation is laid down over a session with no row but its record's, from a record that only
grew at its end, under fresh ids and within the host bounds. -/
structure Rereadable (w : Rereading) (event : Adopting.Event) : Prop where
  unstreamed : ∀ f ∈ w.fill keyedDigest event, f.registered.sessionId ∉ w.streamed
  grown : ∀ f ∈ w.fill keyedDigest event, w.shownRecord f.registered.sessionId <+: f.record
  fits : ∀ f ∈ w.fill keyedDigest event, f.record.length ≤ maxHistoryEntries ∧
    ¬ Timeline.overBound (Timeline.decodedBytes f.laid.history) f.laid.history
  fresh : ∀ f ∈ w.fill keyedDigest event, ∀ n < f.history.entries.length,
    f.env.ids n ∉ f.session.history.map TimelineEntry.entryId ∧ ∀ m < n, f.env.ids m ≠ f.env.ids n

instance (w : Rereading) (event : Adopting.Event) : Decidable (w.Rereadable keyedDigest event) :=
  decidable_of_iff
    ((∀ f ∈ w.fill keyedDigest event, f.registered.sessionId ∉ w.streamed) ∧
      (∀ f ∈ w.fill keyedDigest event, w.shownRecord f.registered.sessionId <+: f.record) ∧
      (∀ f ∈ w.fill keyedDigest event, f.record.length ≤ maxHistoryEntries ∧
        ¬ Timeline.overBound (Timeline.decodedBytes f.laid.history) f.laid.history) ∧
      ∀ f ∈ w.fill keyedDigest event, ∀ n < f.history.entries.length,
        f.env.ids n ∉ f.session.history.map TimelineEntry.entryId ∧ ∀ m < n, f.env.ids m ≠ f.env.ids n)
    ⟨fun ⟨h1, h2, h3, h4⟩ => ⟨h1, h2, h3, h4⟩, fun ⟨h1, h2, h3, h4⟩ => ⟨h1, h2, h3, h4⟩⟩

end Rereading

end

variable {keyedDigest : String → String → String → String} {daemon : ℕ}

/-! What a session that shows a record has for each of its items. -/

lemma entrySourceId_ne (itemId kind turnId itemId' : String) (index : ℕ) :
    entrySourceId keyedDigest itemId ≠ historySourceId keyedDigest kind turnId itemId' index := by
  intro hsame
  have hlist := congrArg String.toList hsame
  rw [entrySourceId, historySourceId, String.toList_append, String.toList_append] at hlist
  cases hlist

variable {turns : Option (List ThreadTurn)}

lemma canonicalItems_unstreamed {x : VendorItem × String}
    (hx : x ∈ canonicalItems keyedDigest turns) (itemId : String) : x.2 ≠ entrySourceId keyedDigest itemId := by
  rw [canonicalItems] at hx
  obtain ⟨y, hy, rfl⟩ := List.mem_map.mp hx
  obtain ⟨k, hk⟩ := List.mem_iff_getElem?.mp hy
  obtain ⟨-, kind, hsource⟩ := placed_nameTurns _ k y hk
  dsimp only
  rw [hsource]
  exact (entrySourceId_ne _ _ _ _ _).symm

section

variable (hdigest : ∀ kind kind' value value',
  keyedDigest codexHistoryDomain kind value = keyedDigest codexHistoryDomain kind' value' → value = value')

include hdigest

lemma countP_drawnFor {session : LiveSession} {record : Record}
    (hrecord : record = canonicalItems keyedDigest turns) (hshows : session.toTimeline.Shows (record.map Prod.snd))
    (item : VendorItem) :
    session.history.countP (drawnFor keyedDigest record item session) = (record.map Prod.fst).count item := by
  have hdistinct : (record.map Prod.snd).Nodup := hrecord ▸ canonicalItems_distinct hdigest turns
  have hown : ∀ x ∈ record, (x.2 = entrySourceId keyedDigest item.itemId ∨ (item, x.2) ∈ record) ↔ x.1 = item := by
    intro x hx
    constructor
    · rintro (hlive | hmem)
      · exact absurd hlive (canonicalItems_unstreamed (hrecord ▸ hx) _)
      · exact (congrArg Prod.fst (List.inj_on_of_nodup_map hdistinct hmem hx rfl)).symm
    · rintro rfl
      exact .inr hx
  have hsources : session.history.map (fun entry => session.toTimeline.sourceOf.lookup entry.entryId) =
      record.map fun x => some x.2 := by
    have hdrawn := hshows.drawn
    rw [Timeline.heldEntries, List.map_map, List.map_map] at hdrawn
    exact hdrawn
  calc
    session.history.countP (drawnFor keyedDigest record item session)
      = (session.history.map fun entry => session.toTimeline.sourceOf.lookup entry.entryId).countP
          fun source => source.any fun source => source = entrySourceId keyedDigest item.itemId ∨ (item, source) ∈ record := by
        rw [List.countP_map]
        rfl
    _ = record.countP fun x => x.2 = entrySourceId keyedDigest item.itemId ∨ (item, x.2) ∈ record := by
        rw [hsources, List.countP_map]
        rfl
    _ = record.countP fun x => x.1 == item := by
        apply List.countP_congr
        intro x hx
        rw [decide_eq_true_eq, beq_iff_eq]
        exact hown x hx
    _ = (record.map Prod.fst).count item := by
        rw [List.count_eq_countP, List.countP_map]
        rfl

end

namespace Rereading

structure Faithful (keyedDigest : String → String → String → String) (w : Rereading) : Prop where
  rows : w.adopting.adoptions.supervisor.Drawn (fun id => (w.shownRecord id).map Prod.snd) w.streamed
  blank : ∀ id s, w.adopting.adoptions.supervisor.sessions.lookup id = some s → s.toTimeline.Blank →
    w.shown.lookup id = none
  read : ∀ i call history, w.adopting.calls[i]? = some call → call.phase.history = some history →
    history = mapThreadHistory keyedDigest (w.reads.lookup i).join ""
  canonical : ∀ id record, w.shown.lookup id = some record → ∃ turns, record = canonicalItems keyedDigest turns

variable {w : Rereading} {shown : String → List String} {streamed : List String}

/-! Events that lay down no record. -/

lemma drawn_congr {sv sv' : Supervisor} (h : sv.Drawn shown streamed)
    (hsame : ∀ id, sv'.sessions.lookup id = sv.sessions.lookup id) : sv'.Drawn shown streamed := by
  intro id s hs
  exact h id s (hsame id ▸ hs)

lemma drawn_effects (env : Env) (a : Adoptions) (effects : List HoldEffect) (h : a.supervisor.Drawn shown streamed) :
    (effects.foldl (Adoptions.carryOut env) a).supervisor.Drawn shown (effects.flatMap HoldEffect.writes ++ streamed) := by
  induction effects generalizing a streamed with
  | nil => exact h
  | cons effect effects ih =>
    have hfirst : (a.carryOut env effect).supervisor.Drawn shown (effect.writes ++ streamed) := by
      cases effect with
      | supervisor op => exact h.step env op
      | requestRelease threadId reason =>
        rw [Adoptions.carryOut, Adoptions.requestRelease_supervisor]
        exact h
      | removeClaim threadId => exact h
    apply (ih _ hfirst).mono
    intro id hid
    simp only [List.flatMap_cons, List.mem_append] at hid ⊢
    tauto

lemma claim_supervisor (a : Adoptions) (threadId : String) (childPid : Option ℕ) (h : Hold) :
    (a.claim threadId childPid h).supervisor = a.supervisor := by
  rw [Adoptions.claim]
  split <;> rfl

lemma idle_fill {sv : Supervisor} {env : Env} {registered : RegisteredAgentSession} {history : ThreadHistory}
    (hidle : ∀ s, sv.sessions.lookup registered.sessionId = some s →
      s.snapshot.processGeneration ≠ registered.processGeneration) (id : String) :
    (sv.step env (fillOp registered history)).sessions.lookup id = sv.sessions.lookup id := by
  cases sv.step_change env (fillOp registered history) id with
  | kept hs => exact hs
  | moved s effect hs hm hs' =>
    rw [fillOp] at hm
    cases hm with
    | backfill =>
      have hother := (hidle s hs).symm
      rw [hs', hs, LiveSession.reconcileHistory, if_pos (by simpa using hother)]
    | fenced _ r sender e hop | unassigned _ r sender e effect hop => cases hop
  | removed hs' hleaves =>
    cases hs : sv.sessions.lookup id with
    | none => exact hs'
    | some s =>
      have hleaves := hleaves s hs
      rw [fillOp] at hleaves
      cases hleaves with
      | superseded _ r sender hop | migrated _ r sender hop => cases hop
  | installed fenced r sender live mapping h hid => cases h.registers

lemma wake_filling (a : Adoptions) (channel : ℕ) (env : Env) (params : AdoptParams) (childPid : Option ℕ)
    (history : ThreadHistory) (models : ModelSurface) (registered : RegisteredAgentSession) :
    (AdoptCall.wake keyedDigest daemon a channel env params (.filling childPid history models registered) .proceed).2 =
      some (.supervisor (fillOp registered history)) := by
  rw [AdoptCall.wake]
  split <;> rfl

section

variable (h : w.adopting.adoptions.supervisor.Drawn shown streamed)

include h

lemma drawn_answer {i : ℕ} {env : Env} {signal : AdoptSignal}
    (hfill : w.fill keyedDigest (.answer i env signal) = none) :
    (w.adopting.step keyedDigest daemon (.answer i env signal)).adoptions.supervisor.Drawn shown
      (w.written keyedDigest daemon (.answer i env signal) ++ streamed) := by
  rw [Adopting.step, written]
  cases hi : w.adopting.calls[i]? with
  | none => exact h
  | some call =>
    dsimp only
    cases hfilling : call.phase.isFilling with
    | true =>
      rw [if_pos rfl]
      obtain ⟨params, phase⟩ := call
      cases phase with
      | filling childPid history models registered =>
        cases signal with
        | proceed =>
          rw [wake_filling]
          apply drawn_congr h
          apply idle_fill
          intro s hs hgeneration
          rw [fill, hi] at hfill
          dsimp only at hfill
          rw [hs, Option.bind_some, if_pos hgeneration] at hfill
          cases hfill
        | _ => exact h
      | _ => cases hfilling
    | false =>
      rw [if_neg Bool.false_ne_true]
      cases (AdoptCall.wake keyedDigest daemon w.adopting.adoptions i env call.params call.phase signal).2 with
      | none => exact h
      | some effect =>
        cases effect with
        | supervisor op => exact h.step env op
        | claim threadId childPid hold =>
          dsimp only [Option.elim_some, Adopting.carryOut]
          rw [claim_supervisor]
          exact h

lemma drawn_wake (i : ℕ) (env : Env) (signal : Signal) :
    (w.adopting.step keyedDigest daemon (.wake i env signal)).adoptions.supervisor.Drawn shown
      (w.written keyedDigest daemon (.wake i env signal) ++ streamed) := by
  rw [Adopting.step, written, Adoptions.wake]
  cases hi : w.adopting.adoptions.holds[i]? with
  | none => exact h
  | some hold => exact drawn_effects env _ _ h

lemma drawn_unfilled {event : Adopting.Event}
    (hfill : w.fill keyedDigest event = none) :
    (w.adopting.step keyedDigest daemon event).adoptions.supervisor.Drawn shown
      (w.written keyedDigest daemon event ++ streamed) := by
  cases event with
  | adopt params rolloutExists => exact h
  | answer i env signal => exact drawn_answer h hfill
  | wake i env signal => exact drawn_wake h i env signal
  | release threadId reason =>
    rw [Adopting.step]
    dsimp only
    rw [Adoptions.requestRelease_supervisor]
    exact h
  | elsewhere env op => exact h.step env op

end

end Rereading

end CiaoHost.Codex
