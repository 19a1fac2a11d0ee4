import CiaoHost.Codex.Adoptions
import CiaoHost.Session.SourceRows

/-! Which row of the timeline a live item of an adopted thread has, and what stands in it once the
item is complete. -/

namespace CiaoHost.Codex

open Protocol Session Lib Lib.Checks Lib.Saturating

structure LiveItem where
  turn : ℕ
  itemId : String
  deriving DecidableEq, Repr

namespace Notification

def itemId : Notification → Option String
  | .item named _ => named.id
  | .agentMessageDelta itemId delta => if delta.getD "" = "" then none else some (itemId.getD "")
  | _ => none

def completes : Notification → Option (String × ThreadItem)
  | .item whole true => whole.id.bind fun id => whole.kind.map fun _ => (id, whole)
  | _ => none

def startsTurn : Notification → Bool
  | .turnStarted _ => true
  | _ => false

end Notification

structure Notified where
  env : Env
  notification : Notification

structure Stream where
  supervisor : Supervisor
  tracking : TurnTracking
  turns : ℕ
  seen : List LiveItem
  completed : List (LiveItem × ThreadItem)

def Carries (row : TimelineEntry) (item : ThreadItem) : Prop :=
  row.state = "complete" ∧
    item.kind.bind (fun kind => liveItemBody item kind true) = some (row.kind, row.body, row.truncation)

namespace Stream

section

variable (keyedDigest : String → String → String → String) (sessionId : String)

def step (d : Stream) (n : Notified) : Stream :=
  let (tracking, ops) := onNotification keyedDigest sessionId d.tracking n.env.now n.notification
  { supervisor := ops.foldl (fun sv op => sv.step n.env op) d.supervisor
    tracking := tracking
    turns := if n.notification.startsTurn then d.turns + 1 else d.turns
    seen := d.seen ++ (n.notification.itemId.map (LiveItem.mk d.turns)).toList
    completed := d.completed ++
      (n.notification.completes.map fun done => (LiveItem.mk d.turns done.1, done.2)).toList }

/-- Items that differ in turn or id have rows of their own, and a completed item's row shows it. -/
def OwnRows (d : Stream) : Prop :=
  ∃ s, d.supervisor.sessions.lookup sessionId = some s ∧
    (∀ x ∈ d.seen, ∀ y ∈ d.seen, x ≠ y → ∀ m m',
      s.sourceEntries.lookup (entrySourceId keyedDigest x.itemId) = some m →
      s.sourceEntries.lookup (entrySourceId keyedDigest y.itemId) = some m' → m.entryId ≠ m'.entryId) ∧
    ∀ done ∈ d.completed, ∃ row, s.sourceRow (entrySourceId keyedDigest done.1.itemId) = some row ∧ Carries row done.2

/-- The notification's item shares its source with no other item seen, it is not complete yet, and
its source has no row before it is seen. -/
def OwnSource (d : Stream) (n : Notified) : Prop :=
  ∀ id ∈ n.notification.itemId,
    (∀ x ∈ d.seen, entrySourceId keyedDigest x.itemId = entrySourceId keyedDigest id → x = ⟨d.turns, id⟩) ∧
    (∀ done ∈ d.completed, done.1 ≠ ⟨d.turns, id⟩) ∧
    (⟨d.turns, id⟩ ∉ d.seen → ∀ s ∈ d.supervisor.sessions.lookup sessionId,
      s.sourceEntries.lookup (entrySourceId keyedDigest id) = none)

/-- A row is opened under a fresh id and a number there is room for, and the row of a completed item
passes the host's check and is not evicted. -/
def Roomy (d : Stream) (n : Notified) : Prop :=
  (∀ s ∈ d.supervisor.sessions.lookup sessionId, n.env.ids 0 ∉ s.ids ∧ s.nextSequence < u64Max) ∧
  (∀ done ∈ n.notification.completes,
    ∀ e ∈ (liveItemEntry keyedDigest d.tracking.revisions done.2 true n.env.now).2, e.validate = .ok ()) ∧
  ∀ s ∈ (d.step keyedDigest sessionId n).supervisor.sessions.lookup sessionId,
    ∀ done ∈ (d.step keyedDigest sessionId n).completed,
      (s.sourceEntries.lookup (entrySourceId keyedDigest done.1.itemId)).isSome

def Undisturbed (d : Stream) (n : Notified) : Prop :=
  d.OwnSource keyedDigest sessionId n ∧ d.Roomy keyedDigest sessionId n

instance (d : Stream) (n : Notified) : Decidable (d.OwnSource keyedDigest sessionId n) :=
  inferInstanceAs (Decidable (∀ id ∈ n.notification.itemId, _ ∧ _ ∧ _))

instance (d : Stream) (n : Notified) : Decidable (d.Roomy keyedDigest sessionId n) :=
  inferInstanceAs (Decidable (_ ∧ _ ∧ _))

instance (d : Stream) (n : Notified) : Decidable (d.Undisturbed keyedDigest sessionId n) :=
  inferInstanceAs (Decidable (_ ∧ _))

end

end Stream

/-! The operations a notification asks for, on the session they are for. -/

variable {e : NormalizedTimelineEntry} {item : ThreadItem} {complete : Bool}

section

variable {sv : Supervisor} (env : Env) {sessionId : String} {s : LiveSession}

lemma step_noteTurn (hs : sv.sessions.lookup sessionId = some s) (turn : TurnState) :
    ∃ s', (sv.step env (.noteTurn sessionId turn)).sessions.lookup sessionId = some s' ∧
      s'.toTimeline = s.toTimeline := by
  rw [Supervisor.step, Supervisor.noteBridgeTurn, Supervisor.withSession, hs]
  refine ⟨_, KeyedMap.lookup_insert_self .., ?_⟩
  rw [LiveSession.noteTurn]
  dsimp only
  split
  · rfl
  · rfl

lemma step_upsertEntry (hs : sv.sessions.lookup sessionId = some s) (he : e.validate = .ok ()) :
    (sv.step env (.upsertEntry sessionId e)).sessions.lookup sessionId =
      some (s.upsertEntry env.now (env.ids 0) e).1 := by
  rw [Supervisor.step, Supervisor.upsertBridgeEntry, Supervisor.guarded.eq_def, he]
  dsimp only
  rw [Supervisor.withSession, hs]
  exact KeyedMap.lookup_insert_self ..

lemma step_upsertEntry_refused (he : e.validate ≠ .ok ()) : sv.step env (.upsertEntry sessionId e) = sv := by
  rw [Supervisor.step, Supervisor.upsertBridgeEntry, Supervisor.guarded.eq_def]
  split
  · rename_i hok
    exact absurd hok he
  · rfl

lemma step_appendText (hs : sv.sessions.lookup sessionId = some s) (d : NormalizedTextDelta) :
    ∃ s', (sv.step env (.appendText sessionId d)).sessions.lookup sessionId = some s' ∧
      (s' = s ∨ s' = (s.appendText env.now (env.ids 0) d).1.1) := by
  rw [Supervisor.step, Supervisor.appendBridgeText, Supervisor.guarded.eq_def]
  split
  · rw [Supervisor.withSession, hs]
    exact ⟨_, KeyedMap.lookup_insert_self .., .inr rfl⟩
  · exact ⟨s, hs, .inl rfl⟩

end

/-! One notification. -/

section

variable {keyedDigest : String → String → String → String} {sessionId : String}

def counted (revisions : KeyedMap String ℕ) (source : String) : ℕ := (revisions.lookup source).getD 0

lemma counted_nextRevision (revisions : KeyedMap String ℕ) (source other : String) :
    counted revisions other ≤ counted (nextRevision revisions source).1 other ∧
      (nextRevision revisions source).2 = counted (nextRevision revisions source).1 source ∧
      counted revisions source < (nextRevision revisions source).2 := by
  refine ⟨?_, ?_, Nat.lt_succ_self _⟩
  · rw [counted, counted, nextRevision, KeyedMap.lookup_insert]
    split
    · rename_i hsame
      rw [hsame]
      exact Nat.le_succ _
    · exact le_refl _
  · rw [counted, nextRevision, KeyedMap.lookup_insert_self]
    rfl

lemma counted_liveItemEntry (revisions : KeyedMap String ℕ) (item : ThreadItem) (complete : Bool) (now : ℕ)
    (source : String) :
    counted revisions source ≤ counted (liveItemEntry keyedDigest revisions item complete now).1 source := by
  rw [liveItemEntry.eq_def]
  split
  · exact le_refl _
  · exact (counted_nextRevision revisions _ source).1

lemma counted_onNotification (tracking : TurnTracking) (now : ℕ) (n : Notification) (source : String) :
    counted tracking.revisions source ≤
      counted (onNotification keyedDigest sessionId tracking now n).1.revisions source := by
  cases n with
  | turnStarted turnId | turnEnded turnId status => exact le_refl _
  | item item complete => exact counted_liveItemEntry ..
  | agentMessageDelta itemId delta =>
    rw [onNotification]
    dsimp only
    split
    · exact le_refl _
    · exact (counted_nextRevision tracking.revisions _ source).1
  | other => exact le_refl _

lemma liveItemEntry_some {revisions : KeyedMap String ℕ} {now : ℕ}
    (he : (liveItemEntry keyedDigest revisions item complete now).2 = some e) :
    ∃ id, item.id = some id ∧ e.sourceId = entrySourceId keyedDigest id ∧
      e.sourceRevision = counted (liveItemEntry keyedDigest revisions item complete now).1 e.sourceId ∧
      counted revisions e.sourceId < e.sourceRevision ∧
      e.state = (if complete then "complete" else "streaming") ∧
      item.kind.bind (fun kind => liveItemBody item kind complete) = some (e.kind, e.body, e.truncation) := by
  rw [liveItemEntry.eq_def] at he ⊢
  cases hid : item.id with
  | none =>
    rw [hid] at he
    cases he
  | some id =>
    rw [hid] at he
    obtain ⟨-, hrevision, hnewer⟩ := counted_nextRevision revisions (entrySourceId keyedDigest id) ""
    dsimp only at he ⊢
    obtain ⟨kind, hkind, he⟩ := Option.bind_eq_some_iff.mp he
    obtain ⟨⟨shown, body, truncation⟩, hbody, he⟩ := Option.bind_eq_some_iff.mp he
    cases he
    refine ⟨id, rfl, rfl, hrevision, hnewer, rfl, ?_⟩
    rw [hkind]
    exact hbody

lemma liveItemBody_complete (item : ThreadItem) (kind : String) : (liveItemBody item kind true).isSome := by
  rw [liveItemBody.eq_def]
  split
  · rfl
  · dsimp only
    split_ifs <;> first | rfl | contradiction

end

lemma itemId_of_completes {n : Notification} {id id' : String} (hid : n.itemId = some id)
    (hcompletes : n.completes = some (id', item)) : id = id' := by
  cases n with
  | item whole complete =>
    cases complete with
    | false => cases hcompletes
    | true =>
      obtain ⟨other, hother, hdone⟩ := Option.bind_eq_some_iff.mp hcompletes
      obtain ⟨kind, -, hpair⟩ := Option.map_eq_some_iff.mp hdone
      cases hpair
      exact Option.some.inj (hid.symm.trans hother)
  | _ => cases hcompletes

namespace Stream

variable {keyedDigest : String → String → String → String} {sessionId : String} {d : Stream} {n : Notified}

def Behind (keyedDigest : String → String → String → String) (s : LiveSession) (seen : List LiveItem)
    (revisions : KeyedMap String ℕ) : Prop :=
  ∀ x ∈ seen, ∀ m, s.sourceEntries.lookup (entrySourceId keyedDigest x.itemId) = some m → m.settled = false ∧
    ∀ row, s.row m.entryId = some row → row.entryRevision ≤ counted revisions (entrySourceId keyedDigest x.itemId)

inductive Streams (keyedDigest : String → String → String → String) (revisions : KeyedMap String ℕ)
    (n : Notification) (t t' : Timeline) : Prop
  | still (same : t' = t) (unfinished : n.completes = none)
  | writes (id : String) (e : TimelineEntry) (named : n.itemId = some id)
      (written : t.Written (entrySourceId keyedDigest id) e t')
      (revision : e.entryRevision ≤ counted revisions (entrySourceId keyedDigest id))
      (whole : ∀ done ∈ n.completes, Carries e done.2)

variable {s : LiveSession}

lemma step_upserts (hs : d.supervisor.sessions.lookup sessionId = some s)
    (hnumbered : s.toTimeline.WellNumbered) (hfresh : n.env.ids 0 ∉ s.ids)
    (hnewer : ∀ m row, s.sourceEntries.lookup e.sourceId = some m → s.row m.entryId = some row →
      row.entryRevision < e.sourceRevision) :
    ∃ s', (d.supervisor.step n.env (.upsertEntry sessionId e)).sessions.lookup sessionId = some s' ∧
      (e.validate ≠ .ok () ∧ s' = s ∨
        ∃ m, s.toTimeline.Written e.sourceId (Timeline.normalizedRow e m) s'.toTimeline) := by
  by_cases hvalid : e.validate = .ok ()
  · exact ⟨_, step_upsertEntry n.env hs hvalid, .inr (LiveSession.upsertEntry_written hnumbered hfresh hnewer)⟩
  · exact ⟨s, by rw [step_upsertEntry_refused n.env hvalid, hs], .inl ⟨hvalid, rfl⟩⟩

lemma OwnSource.newer (hown : d.OwnSource keyedDigest sessionId n)
    (hs : d.supervisor.sessions.lookup sessionId = some s)
    (hbehind : Behind keyedDigest s d.seen d.tracking.revisions) {id : String} (hid : n.notification.itemId = some id)
    {m : SourceEntryMapping} (hm : s.sourceEntries.lookup (entrySourceId keyedDigest id) = some m) :
    m.settled = false ∧ ∀ row, s.row m.entryId = some row →
      row.entryRevision ≤ counted d.tracking.revisions (entrySourceId keyedDigest id) := by
  obtain ⟨-, -, hunmapped⟩ := hown id hid
  by_cases hseen : (⟨d.turns, id⟩ : LiveItem) ∈ d.seen
  · exact hbehind ⟨d.turns, id⟩ hseen m hm
  · rw [hunmapped hseen s hs] at hm
    cases hm

section

variable (hs : d.supervisor.sessions.lookup sessionId = some s) (hnumbered : s.toTimeline.WellNumbered)

include hs hnumbered

lemma step_item (hbehind : Behind keyedDigest s d.seen d.tracking.revisions)
    (hfresh : n.env.ids 0 ∉ s.ids) (hown : d.OwnSource keyedDigest sessionId n)
    (hn : n.notification = .item item complete)
    (hchecked : ∀ done ∈ n.notification.completes,
      ∀ e ∈ (liveItemEntry keyedDigest d.tracking.revisions done.2 true n.env.now).2, e.validate = .ok ()) :
    ∃ s', (d.step keyedDigest sessionId n).supervisor.sessions.lookup sessionId = some s' ∧
      Streams keyedDigest (d.step keyedDigest sessionId n).tracking.revisions n.notification s.toTimeline
        s'.toTimeline := by
  rw [step]
  simp only [hn, onNotification]
  cases he : (liveItemEntry keyedDigest d.tracking.revisions item complete n.env.now).2 with
  | none =>
    refine ⟨s, hs, .still rfl ?_⟩
    -- without an entry the item is not complete, or has no id or no kind
    cases complete with
    | false => rfl
    | true =>
      cases hid : item.id with
      | none => simp [Notification.completes, hid]
      | some id =>
        cases hkind : item.kind with
        | none => simp [Notification.completes, hid, hkind]
        | some kind =>
          obtain ⟨body, hbody⟩ := Option.isSome_iff_exists.mp (liveItemBody_complete item kind)
          rw [liveItemEntry.eq_def, hid] at he
          simp [hkind, hbody] at he
  | some e =>
    obtain ⟨id, hid, hsource, hrevision, hnewer, hstate, hbody⟩ := liveItemEntry_some he
    have hnamed : n.notification.itemId = some id := by rw [hn]; exact hid
    have hlate : ∀ m row, s.sourceEntries.lookup e.sourceId = some m → s.row m.entryId = some row →
        row.entryRevision < e.sourceRevision := by
      intro m row hm hrow
      rw [hsource] at hm hnewer
      exact ((hown.newer hs hbehind hnamed hm).2 row hrow).trans_lt hnewer
    obtain ⟨s', hs', hcases⟩ := step_upserts (n := n) hs hnumbered hfresh hlate
    refine ⟨s', hs', ?_⟩
    rcases hcases with ⟨hrefused, rfl⟩ | ⟨m, hwritten⟩
    · refine .still rfl ?_
      cases complete with
      | false => rfl
      | true =>
        cases hkind : item.kind with
        | none => simp [Notification.completes, hid, hkind]
        | some kind =>
          have hdone : n.notification.completes = some (id, item) := by
            rw [hn]
            simp [Notification.completes, hid, hkind]
          exact absurd (hchecked _ hdone e he) hrefused
    · rw [hsource] at hwritten hrevision
      refine .writes id _ hid hwritten hrevision.le ?_
      intro done hdone
      cases complete with
      | false => cases hdone
      | true =>
        simp only [Notification.completes, hid, Option.bind_some, Option.mem_def, Option.map_eq_some_iff] at hdone
        obtain ⟨kind, hkind, rfl⟩ := hdone
        exact ⟨hstate, hbody⟩

lemma step_delta (hfresh : n.env.ids 0 ∉ s.ids) {itemId delta : Option String}
    (hn : n.notification = .agentMessageDelta itemId delta) :
    ∃ s', (d.step keyedDigest sessionId n).supervisor.sessions.lookup sessionId = some s' ∧
      Streams keyedDigest (d.step keyedDigest sessionId n).tracking.revisions n.notification s.toTimeline
        s'.toTimeline := by
  rw [step]
  simp only [hn, onNotification]
  by_cases hempty : delta.getD "" = ""
  · rw [if_pos hempty]
    exact ⟨s, hs, .still rfl rfl⟩
  · rw [if_neg hempty]
    obtain ⟨-, hrevision, -⟩ :=
      counted_nextRevision d.tracking.revisions (entrySourceId keyedDigest (itemId.getD "")) ""
    obtain ⟨s', hs', hcases⟩ := step_appendText n.env hs
      ⟨entrySourceId keyedDigest (itemId.getD ""),
        (nextRevision d.tracking.revisions (entrySourceId keyedDigest (itemId.getD ""))).2, n.env.now,
        "assistant_message", (boundedText (delta.getD "") maxRetainedTextBytes).1, false,
        (boundedText (delta.getD "") maxRetainedTextBytes).2⟩
    refine ⟨s', hs', ?_⟩
    rcases hcases with rfl | rfl
    · exact .still rfl rfl
    · rcases LiveSession.appendText_written hnumbered hfresh _ with hsame | ⟨e, he, hwritten⟩
      · exact .still hsame rfl
      · refine .writes (itemId.getD "") e (by rw [Notification.itemId, if_neg hempty]) hwritten ?_ (by simp [Notification.completes])
        rw [he]
        exact hrevision.le

lemma step_streams (hbehind : Behind keyedDigest s d.seen d.tracking.revisions)
    (hundisturbed : d.Undisturbed keyedDigest sessionId n) :
    ∃ s', (d.step keyedDigest sessionId n).supervisor.sessions.lookup sessionId = some s' ∧
      Streams keyedDigest (d.step keyedDigest sessionId n).tracking.revisions n.notification s.toTimeline
        s'.toTimeline := by
  obtain ⟨hown, hroomy, hchecked, -⟩ := hundisturbed
  have hfresh := (hroomy s hs).1
  cases hn : n.notification with
  | turnStarted turnId =>
    obtain ⟨s', hs', hsame⟩ := step_noteTurn n.env hs
      (.running (codexRunId keyedDigest (turnId.getD "")) "responding")
    refine ⟨s', ?_, .still hsame rfl⟩
    rw [step]
    simp only [hn, onNotification]
    exact hs'
  | turnEnded turnId status =>
    obtain ⟨s', hs', hsame⟩ := step_noteTurn n.env hs
      (endedTurn (turnId.map (codexRunId keyedDigest)) status)
    refine ⟨s', ?_, .still hsame rfl⟩
    rw [step]
    simp only [hn, onNotification]
    exact hs'
  | item item complete =>
    rw [← hn]
    exact step_item hs hnumbered hbehind hfresh hown hn hchecked
  | agentMessageDelta itemId delta =>
    rw [← hn]
    exact step_delta hs hnumbered hfresh hn
  | other =>
    refine ⟨s, ?_, .still rfl rfl⟩
    rw [step]
    simp only [hn, onNotification]
    exact hs

end

structure Kept (keyedDigest : String → String → String → String) (sessionId : String) (d : Stream)
    (s : LiveSession) : Prop where
  session : d.supervisor.sessions.lookup sessionId = some s
  numbered : s.toTimeline.WellNumbered
  behind : Behind keyedDigest s d.seen d.tracking.revisions
  apart : ∀ x ∈ d.seen, ∀ y ∈ d.seen,
    entrySourceId keyedDigest x.itemId = entrySourceId keyedDigest y.itemId → x = y
  done : ∀ done ∈ d.completed, done.1 ∈ d.seen ∧ ∃ m row,
    s.sourceEntries.lookup (entrySourceId keyedDigest done.1.itemId) = some m ∧ s.row m.entryId = some row ∧
      Carries row done.2

lemma Kept.ownRows (h : d.Kept keyedDigest sessionId s) : d.OwnRows keyedDigest sessionId := by
  refine ⟨s, h.session, ?_, ?_⟩
  · intro x hx y hy hne m m' hm hm' hid
    apply hne
    apply h.apart x hx y hy
    exact h.numbered.named _ _ m m' hm hm' (h.behind x hx m hm).1 (h.behind y hy m' hm').1 hid
  · intro done hdone
    obtain ⟨-, m, row, hm, hrow, hcarries⟩ := h.done done hdone
    refine ⟨row, ?_, hcarries⟩
    rw [Timeline.sourceRow, hm]
    exact hrow

lemma mem_seen_step {x : LiveItem} (hx : x ∈ (d.step keyedDigest sessionId n).seen) :
    x ∈ d.seen ∨ ∃ id, n.notification.itemId = some id ∧ x = ⟨d.turns, id⟩ := by
  rcases List.mem_append.mp hx with hold | hnew
  · exact .inl hold
  · obtain ⟨id, hid, rfl⟩ := Option.map_eq_some_iff.mp (Option.mem_toList.mp hnew)
    exact .inr ⟨id, hid, rfl⟩

lemma Kept.apart_step (h : d.Kept keyedDigest sessionId s) (hown : d.OwnSource keyedDigest sessionId n) :
    ∀ x ∈ (d.step keyedDigest sessionId n).seen, ∀ y ∈ (d.step keyedDigest sessionId n).seen,
      entrySourceId keyedDigest x.itemId = entrySourceId keyedDigest y.itemId → x = y := by
  intro x hx y hy hsame
  rcases mem_seen_step hx with hx | ⟨id, hid, rfl⟩
  · rcases mem_seen_step hy with hy | ⟨id, hid, rfl⟩
    · exact h.apart x hx y hy hsame
    · exact (hown id hid).1 x hx hsame
  · rcases mem_seen_step hy with hy | ⟨id', hid', rfl⟩
    · exact ((hown id hid).1 y hy hsame.symm).symm
    · rw [hid, Option.some.injEq] at hid'
      rw [hid']

section

variable {s s' : LiveSession}

section

variable (h : d.Kept keyedDigest sessionId s)

include h

lemma Kept.behind_step (hown : d.OwnSource keyedDigest sessionId n)
    (hroom : s.nextSequence < u64Max)
    (hstreams : Streams keyedDigest (d.step keyedDigest sessionId n).tracking.revisions n.notification s.toTimeline
      s'.toTimeline) :
    Behind keyedDigest s' (d.step keyedDigest sessionId n).seen (d.step keyedDigest sessionId n).tracking.revisions := by
  have hmono : ∀ source, counted d.tracking.revisions source ≤
      counted (d.step keyedDigest sessionId n).tracking.revisions source :=
    counted_onNotification d.tracking n.env.now n.notification
  -- what held before the step of a row that the step leaves
  have hbefore : ∀ x ∈ (d.step keyedDigest sessionId n).seen, ∀ m,
      s.sourceEntries.lookup (entrySourceId keyedDigest x.itemId) = some m → m.settled = false ∧
        ∀ row, s.row m.entryId = some row → row.entryRevision ≤
          counted (d.step keyedDigest sessionId n).tracking.revisions (entrySourceId keyedDigest x.itemId) := by
    intro x hx m hm
    have hold : m.settled = false ∧ ∀ row, s.row m.entryId = some row →
        row.entryRevision ≤ counted d.tracking.revisions (entrySourceId keyedDigest x.itemId) := by
      rcases mem_seen_step hx with hx | ⟨id, hid, rfl⟩
      · exact h.behind x hx m hm
      · exact hown.newer h.session h.behind hid hm
    exact ⟨hold.1, fun row hrow => (hold.2 row hrow).trans (hmono _)⟩
  intro x hx m hm
  cases hstreams with
  | still hsame hunfinished =>
    change s'.toTimeline.sourceEntries.lookup _ = _ at hm
    rw [hsame] at hm
    obtain ⟨hsettled, hrevision⟩ := hbefore x hx m hm
    refine ⟨hsettled, ?_⟩
    rw [hsame]
    exact hrevision
  | writes id e hid hwritten hrevision hwhole =>
    have hunsettled : ∀ own, s.sourceEntries.lookup (entrySourceId keyedDigest id) = some own → own.settled = false :=
      fun own hlookup => (hown.newer h.session h.behind hid hlookup).1
    by_cases hsource : entrySourceId keyedDigest x.itemId = entrySourceId keyedDigest id
    · rw [hsource] at hm ⊢
      obtain ⟨hrow, hmapped⟩ := hwritten.own h.numbered hroom hm
      refine ⟨hmapped.elim (hunsettled m) fun hnew => hnew, ?_⟩
      intro row hrow'
      obtain rfl : e = row := Option.some.inj (hrow.symm.trans hrow')
      exact hrevision
    · have hheld := hwritten.mapped_ne hsource hm
      obtain ⟨hsettled, hold⟩ := hbefore x hx m hheld
      refine ⟨hsettled, ?_⟩
      rw [hwritten.row_ne h.numbered hroom hunsettled hsource hm hsettled]
      exact hold

lemma Kept.done_step (hown : d.OwnSource keyedDigest sessionId n)
    (hroom : s.nextSequence < u64Max)
    (hstreams : Streams keyedDigest (d.step keyedDigest sessionId n).tracking.revisions n.notification s.toTimeline
      s'.toTimeline)
    (hstays : ∀ done ∈ (d.step keyedDigest sessionId n).completed,
      (s'.sourceEntries.lookup (entrySourceId keyedDigest done.1.itemId)).isSome) :
    ∀ done ∈ (d.step keyedDigest sessionId n).completed, done.1 ∈ (d.step keyedDigest sessionId n).seen ∧ ∃ m row,
      s'.sourceEntries.lookup (entrySourceId keyedDigest done.1.itemId) = some m ∧ s'.row m.entryId = some row ∧
        Carries row done.2 := by
  intro done hdone
  obtain ⟨m, hm⟩ := Option.isSome_iff_exists.mp (hstays done hdone)
  rcases List.mem_append.mp hdone with hold | hnew
  · obtain ⟨hseen, m₀, row, hm₀, hrow, hcarries⟩ := h.done done hold
    refine ⟨List.mem_append_left _ hseen, m, row, hm, ?_, hcarries⟩
    cases hstreams with
    | still hsame hunfinished =>
      rw [hsame] at hm ⊢
      obtain rfl : m₀ = m := Option.some.inj (hm₀.symm.trans hm)
      exact hrow
    | writes id e hid hwritten hrevision hwhole =>
      -- the item is complete, so the notification is about another one
      obtain ⟨hdistinct, hunfinished, -⟩ := hown id hid
      have hsource : entrySourceId keyedDigest done.1.itemId ≠ entrySourceId keyedDigest id :=
        fun hsame => hunfinished done hold (hdistinct done.1 hseen hsame)
      have hunsettled : ∀ own, s.sourceEntries.lookup (entrySourceId keyedDigest id) = some own → own.settled = false :=
        fun own hlookup => (hown.newer h.session h.behind hid hlookup).1
      obtain rfl : m₀ = m := Option.some.inj (hm₀.symm.trans (hwritten.mapped_ne hsource hm))
      rw [hwritten.row_ne h.numbered hroom hunsettled hsource hm (h.behind done.1 hseen m₀ hm₀).1]
      exact hrow
  · obtain ⟨⟨id, item⟩, hcompletes, rfl⟩ := Option.map_eq_some_iff.mp (Option.mem_toList.mp hnew)
    cases hstreams with
    | still hsame hunfinished =>
      rw [hunfinished] at hcompletes
      cases hcompletes
    | writes id' e hid hwritten hrevision hwhole =>
      obtain rfl : id' = id := itemId_of_completes hid hcompletes
      refine ⟨List.mem_append_right _ (Option.mem_toList.mpr (by rw [hid]; rfl)), m, e, hm, ?_,
        hwhole _ hcompletes⟩
      exact (hwritten.own h.numbered hroom hm).1

lemma Kept.step (hundisturbed : d.Undisturbed keyedDigest sessionId n) :
    ∃ s', (d.step keyedDigest sessionId n).Kept keyedDigest sessionId s' := by
  obtain ⟨s', hs', hstreams⟩ := step_streams h.session h.numbered h.behind hundisturbed
  obtain ⟨hown, hroomy, -, hstays⟩ := hundisturbed
  have hroom := (hroomy s h.session).2
  refine ⟨s', hs', ?_, h.behind_step hown hroom hstreams, h.apart_step hown,
    h.done_step hown hroom hstreams (hstays s' hs')⟩
  cases hstreams with
  | still hsame hunfinished =>
    rw [hsame]
    exact h.numbered
  | writes id e hid hwritten hrevision hwhole => exact hwritten.numbered h.numbered hroom

end

end

theorem live_items_own_rows (keyedDigest : String → String → String → String) (sessionId : String) {start d : Stream}
    (hsession : ∃ s, start.supervisor.sessions.lookup sessionId = some s ∧ s.toTimeline.WellNumbered)
    (hseen : start.seen = []) (hcompleted : start.completed = [])
    (hreaches : Runs.Reaches (step keyedDigest sessionId) (Undisturbed keyedDigest sessionId) start d) :
    d.OwnRows keyedDigest sessionId := by
  have hkept : ∃ s, d.Kept keyedDigest sessionId s := by
    apply hreaches.invariant (P := fun d => ∃ s, d.Kept keyedDigest sessionId s)
    · obtain ⟨s, hs, hnumbered⟩ := hsession
      refine ⟨s, hs, hnumbered, ?_, ?_, ?_⟩
      · rw [hseen]
        exact nofun
      · rw [hseen]
        exact nofun
      · rw [hcompleted]
        exact nofun
    · rintro d n ⟨s, h⟩ hundisturbed
      exact h.step hundisturbed
  obtain ⟨s, h⟩ := hkept
  exact h.ownRows

end Stream

namespace Sample

def stream : Stream := ⟨(adoptions none).supervisor, .start, 0, [], []⟩

def reply (id text : String) : ThreadItem where
  id := some id
  kind := some "agentMessage"
  content := []
  text := some text
  request := none
  aggregatedOutput := none
  status := none
  whole := ⟨fun _ => (none, false), 0⟩
  functionOutput _ := none

def notified (fresh : String) (notification : Notification) : Notified :=
  ⟨Session.Sample.env 1 [fresh], notification⟩

def replyTurn (turn id fresh text : String) : List Notified :=
  [notified fresh (.turnStarted (some turn)), notified fresh (.agentMessageDelta (some id) (some text)),
    notified (fresh ++ "-done") (.item (reply id text) true), notified (fresh ++ "-done") (.turnEnded (some turn) none)]

def afterStream (notifications : List Notified) : Stream :=
  notifications.foldl (Stream.step digest "codex-adopted-thread-1") stream

lemma stream_numbered :
    ∃ s, stream.supervisor.sessions.lookup "codex-adopted-thread-1" = some s ∧ s.toTimeline.WellNumbered :=
  ⟨_, rfl, Timeline.wellNumbered_empty⟩

def distinctTurns : List Notified := replyTurn "turn-1" "item-1" "e-1" "hello" ++ replyTurn "turn-2" "item-2" "e-2" "bye"

def restartedIds : List Notified := replyTurn "turn-1" "item-1" "e-1" "hello" ++ replyTurn "turn-2" "item-1" "e-2" "bye"

end Sample

theorem Stream.live_items_own_rows_distinct :
    (Sample.afterStream Sample.distinctTurns).completed.map (·.1) = [⟨1, "item-1"⟩, ⟨2, "item-2"⟩] ∧
    (Sample.afterStream Sample.distinctTurns).OwnRows Sample.digest "codex-adopted-thread-1" := by
  have hallowed : Runs.Allowed (step Sample.digest "codex-adopted-thread-1")
      (Undisturbed Sample.digest "codex-adopted-thread-1") Sample.stream Sample.distinctTurns := by
    decide +kernel
  exact ⟨by decide +kernel,
    live_items_own_rows _ _ Sample.stream_numbered rfl rfl (Runs.Reaches.refl.of_run hallowed)⟩

theorem Stream.restarted_id_takes_row :
    ∃ d, Runs.Reaches (step Sample.digest "codex-adopted-thread-1") (fun _ _ => True) Sample.stream d ∧
      ¬ d.OwnRows Sample.digest "codex-adopted-thread-1" := by
  refine ⟨Sample.afterStream Sample.restartedIds,
    Runs.Reaches.refl.of_run (by simp [Runs.Allowed, Sample.restartedIds, Sample.replyTurn]), ?_⟩
  rintro ⟨s, hs, hrows, -⟩
  have hmapped : ((Sample.afterStream Sample.restartedIds).supervisor.sessions.lookup "codex-adopted-thread-1").map
      (fun s => (s.sourceEntries.lookup (entrySourceId Sample.digest "item-1")).isSome) = some true := by decide +kernel
  rw [hs] at hmapped
  obtain ⟨m, hm⟩ := Option.isSome_iff_exists.mp (Option.some.inj hmapped)
  exact hrows ⟨1, "item-1"⟩ (by decide +kernel) ⟨2, "item-1"⟩ (by decide +kernel) (by decide) m m hm hm rfl

end CiaoHost.Codex
