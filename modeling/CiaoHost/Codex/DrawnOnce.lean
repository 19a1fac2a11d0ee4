import CiaoHost.Codex.Rereading
import CiaoHost.Lib.Runs

/-! A conversation that is picked up again is drawn once, as long as its session holds nothing but its
record. -/

namespace CiaoHost.Codex

open Protocol Session Lib Lib.Checks

variable {keyedDigest : String → String → String → String} {daemon : ℕ}

namespace Rereading

variable {w : Rereading}

/-! A record is laid down. -/

lemma fill_cases {event : Adopting.Event} {f : Fill} (h : w.fill keyedDigest event = some f) :
    ∃ i env params childPid models,
      event = .answer i env .proceed ∧ w.adopting.calls[i]? = some ⟨params, .filling childPid f.history models f.registered⟩ ∧
      w.adopting.adoptions.supervisor.sessions.lookup f.registered.sessionId = some f.session ∧
      f.session.snapshot.processGeneration = f.registered.processGeneration ∧
      f.record = canonicalItems keyedDigest (w.reads.lookup i).join ∧ f.env = env := by
  rw [fill.eq_def] at h
  split at h
  · next i env =>
    split at h
    · next params childPid history models registered hi =>
      obtain ⟨session, hs, hgeneration⟩ := Option.bind_eq_some_iff.mp h
      split at hgeneration
      · next hsame =>
        cases hgeneration
        exact ⟨i, env, params, childPid, models, rfl, hi, hs, hsame, rfl, rfl⟩
      · cases hgeneration
    · cases h
  · cases h

/-! What the ledger says after an event. -/

lemma wake_history {a : Adoptions} {channel : ℕ} {env : Env} {params : AdoptParams} {phase : AdoptPhase}
    {signal : AdoptSignal} {history : ThreadHistory}
    (h : (AdoptCall.wake keyedDigest daemon a channel env params phase signal).1.history = some history) :
    phase.history = some history ∧ (∀ childPid, phase ≠ .resuming childPid) ∨
      ∃ childPid turns model effort, phase = .resuming childPid ∧ signal = .resumed turns model effort ∧
        history = mapThreadHistory keyedDigest turns "" := by
  rw [AdoptCall.wake.eq_def] at h
  split at h
  · cases h
  · cases h
  · cases h
  · cases h
  · cases h
  · next childPid turns model effort =>
    exact .inr ⟨childPid, turns, model, effort, rfl, rfl, (Option.some.inj h).symm⟩
  · cases h
  · exact .inl ⟨h, fun childPid => AdoptPhase.noConfusion⟩
  · split at h
    · cases h
    · exact .inl ⟨h, fun childPid => AdoptPhase.noConfusion⟩
  · split at h <;> cases h
  · cases h
  · split at h <;> cases h
  · refine .inl ⟨h, fun childPid hphase => ?_⟩
    rw [hphase] at h
    cases h

section

variable (hread : ∀ i call history, w.adopting.calls[i]? = some call → call.phase.history = some history → history = mapThreadHistory keyedDigest (w.reads.lookup i).join "")

include hread

lemma read_step (event : Adopting.Event) {i : ℕ}
    {call : AdoptCall} {history : ThreadHistory} (hi : (w.adopting.step keyedDigest daemon event).calls[i]? = some call)
    (hhistory : call.phase.history = some history) :
    history = mapThreadHistory keyedDigest ((w.readsAfter event).lookup i).join "" := by
  cases event with
  | adopt params rolloutExists =>
    rw [Adopting.step] at hi
    rcases Nat.lt_or_ge i w.adopting.calls.length with hlt | hge
    · rw [List.getElem?_append_left hlt] at hi
      exact hread i call history hi hhistory
    · rw [List.getElem?_append_right hge] at hi
      obtain rfl := List.mem_singleton.mp (List.mem_of_getElem? hi)
      rw [Adopting.firstPhase] at hhistory
      dsimp only at hhistory
      split at hhistory
      · cases hhistory
      · split at hhistory <;> cases hhistory
  | answer j env signal =>
    rw [Adopting.step] at hi
    cases hj : w.adopting.calls[j]? with
    | none =>
      rw [hj] at hi
      have hreads : w.readsAfter (.answer j env signal) = w.reads := by
        cases signal <;> simp [readsAfter, hj]
      rw [hreads]
      exact hread i call history hi hhistory
    | some before =>
      rw [hj] at hi
      dsimp only at hi
      by_cases hij : j = i
      · subst hij
        rw [List.getElem?_set_self (List.getElem?_eq_some_iff.mp hj).1, Option.some.injEq] at hi
        subst hi
        rcases wake_history hhistory with ⟨hbefore, hphase⟩ | ⟨childPid, turns, model, effort, hphase, rfl, rfl⟩
        · have hreads : w.readsAfter (.answer j env signal) = w.reads := by
            rw [readsAfter.eq_def]
            split
            · next heq =>
              cases heq
              split
              · next params childPid hresuming =>
                rw [hj, Option.some.injEq] at hresuming
                subst hresuming
                exact absurd rfl (hphase childPid)
              · rfl
            · rfl
          rw [hreads]
          exact hread j before history hj hbefore
        · obtain ⟨params, phase⟩ := before
          dsimp only at hphase
          subst hphase
          rw [readsAfter, hj]
          dsimp only
          rw [KeyedMap.lookup_insert_self]
          rfl
      · rw [List.getElem?_set_ne hij] at hi
        have hreads : (w.readsAfter (.answer j env signal)).lookup i = w.reads.lookup i := by
          rw [readsAfter.eq_def]
          split
          · next heq =>
            cases heq
            split
            · exact KeyedMap.lookup_insert_ne (Ne.symm hij)
            · rfl
          · rfl
        rw [hreads]
        exact hread i call history hi hhistory
  | wake j env signal | release threadId reason | elsewhere env op => exact hread i call history hi hhistory

lemma settled {event : Adopting.Event}
    (hrows : (w.adopting.step keyedDigest daemon event).adoptions.supervisor.Drawn
      (fun id => ((((w.fill keyedDigest event).elim w.shown fun f => w.shown.insert f.registered.sessionId f.record).lookup
        id).getD []).map Prod.snd) (w.written keyedDigest daemon event ++ w.streamed))
    (hcanonical : ∀ id record, ((w.fill keyedDigest event).elim w.shown fun f =>
      w.shown.insert f.registered.sessionId f.record).lookup id = some record →
      ∃ turns, record = canonicalItems keyedDigest turns) : (w.step keyedDigest daemon event).Faithful keyedDigest where
  rows id s hs := by
    by_cases hblank : s.toTimeline.Blank
    · exact .inl hblank
    · have hdrawn : ((w.adopting.step keyedDigest daemon event).adoptions.supervisor.sessions.lookup id).any
          (fun s => ¬ s.toTimeline.Blank) = true := by
        have hs' : (w.adopting.step keyedDigest daemon event).adoptions.supervisor.sessions.lookup id = some s := hs
        rw [hs']
        simpa using hblank
      have hrow := hrows id s hs
      have hall : ∀ o : Option Record, o.filter (fun _ => true) = o := by
        intro o
        cases o <;> rfl
      dsimp only [shownRecord, step]
      rw [KeyedMap.lookup_retain, List.mem_filter, hdrawn, hall]
      simpa using hrow
  blank id s hs hblank := by
    have hs' : (w.adopting.step keyedDigest daemon event).adoptions.supervisor.sessions.lookup id = some s := hs
    rw [step]
    dsimp only
    rw [KeyedMap.lookup_retain, hs', Option.filter_eq_none_iff]
    intro record _
    simpa using hblank
  read i call history hi hhistory := read_step hread event hi hhistory
  canonical id record hrecord := by
    rw [step] at hrecord
    dsimp only at hrecord
    rw [KeyedMap.lookup_retain, Option.filter_eq_some_iff] at hrecord
    exact hcanonical id record hrecord.1

end

section

variable (hdigest : ∀ kind kind' value value',
  keyedDigest codexHistoryDomain kind value = keyedDigest codexHistoryDomain kind' value' → value = value')

include hdigest

lemma Faithful.filled (h : w.Faithful keyedDigest) {event : Adopting.Event} {f : Fill}
    (hfill : w.fill keyedDigest event = some f) (hallowed : w.Rereadable keyedDigest event) :
    ∃ session, (w.adopting.step keyedDigest daemon event).adoptions.supervisor.sessions =
        w.adopting.adoptions.supervisor.sessions.insert f.registered.sessionId session ∧
      session.toTimeline.Shows (f.record.map Prod.snd) := by
  obtain ⟨i, env, params, childPid, models, rfl, hi, hs, hgeneration, hrecord, henv⟩ := fill_cases hfill
  obtain ⟨hlength, hwithin⟩ := hallowed.fits f hfill
  have hhistory := h.read i _ f.history hi rfl
  rw [hrecord] at hlength
  have hentries : f.history.entries.map NormalizedTimelineEntry.sourceId = f.record.map Prod.snd := by
    rw [hhistory, hrecord]
    exact mapThreadHistory_sources hlength
  have hvalid : ∀ entry ∈ f.history.entries, entry.validate = .ok () := by
    rw [hhistory]
    exact mapThreadHistory_valid hlength
  have hcount : f.history.entries.length ≤ maxHostTimelineEntries := by
    have hsame := congrArg List.length hentries
    rw [List.length_map, List.length_map, hrecord] at hsame
    rw [hsame]
    exact hlength
  have hbefore : f.session.toTimeline.Shows ((w.shownRecord f.registered.sessionId).map Prod.snd) := by
    rcases h.rows _ _ hs with hblank | hstreamed | hshows
    · rw [shownRecord, h.blank _ _ hs hblank]
      exact hblank.shows
    · exact absurd hstreamed (hallowed.unstreamed f hfill)
    · exact hshows
  have hfresh : FreshFor f.session.history f.env.ids 0 f.history.entries.length :=
    ⟨fun n _ hn => (hallowed.fresh f hfill n (by omega)).1, fun n _ hn => (hallowed.fresh f hfill n (by omega)).2⟩
  have hdistinct : (f.history.entries.map NormalizedTimelineEntry.sourceId).Nodup := by
    rw [hentries, hrecord]
    exact canonicalItems_distinct hdigest _
  have hfits : (w.shownRecord f.registered.sessionId).map Prod.snd <+:
      f.history.entries.map NormalizedTimelineEntry.sourceId := by
    rw [hentries]
    exact (hallowed.grown f hfill).map Prod.snd
  have hshows := LiveSession.shows_backfilled hbefore hfits hdistinct hfresh hwithin
    w.adopting.adoptions.supervisor.metadata ⟨false, none⟩
  rw [hentries, hgeneration] at hshows
  refine ⟨_, ?_, hshows⟩
  rw [Adopting.step, hi]
  dsimp only
  rw [wake_filling, ← henv]
  exact Supervisor.backfill_sessions hs hcount hvalid

lemma Faithful.step (h : w.Faithful keyedDigest) {event : Adopting.Event} (hallowed : w.Rereadable keyedDigest event) :
    (w.step keyedDigest daemon event).Faithful keyedDigest := by
  cases hfill : w.fill keyedDigest event with
  | none =>
    apply settled h.read
    · rw [hfill]
      exact drawn_unfilled h.rows hfill
    · rw [hfill]
      exact h.canonical
  | some f =>
    obtain ⟨session, hsessions, hshows⟩ := h.filled hdigest hfill hallowed
    obtain ⟨i, env, params, childPid, models, rfl, hi, hs, hgeneration, hrecord, henv⟩ := fill_cases hfill
    apply settled h.read
    · rw [hfill]
      intro id s hlookup
      rw [hsessions, KeyedMap.lookup_insert] at hlookup
      dsimp only [Option.elim_some]
      rw [KeyedMap.lookup_insert]
      split at hlookup
      · next hid =>
        cases hlookup
        rw [if_pos hid]
        exact .inr (.inr hshows)
      · next hid =>
        rw [if_neg hid]
        exact (h.rows id s hlookup).imp_right (Or.imp_left fun hmem => List.mem_append_right _ hmem)
    · rw [hfill]
      intro id record hlookup
      rcases KeyedMap.lookup_insert_cases hlookup with ⟨-, rfl⟩ | ⟨-, hlookup⟩
      · exact ⟨_, hrecord⟩
      · exact h.canonical id record hlookup

lemma faithful_of_reaches {digest : String → String}
    (h : Runs.Reaches (step keyedDigest daemon) (Rereadable keyedDigest) (start digest) w) : w.Faithful keyedDigest := by
  apply h.invariant (P := Faithful keyedDigest)
  · constructor
    · intro id s hs
      simp [start, Adopting.start, Supervisor.empty] at hs
    · intro id s hs
      simp [start, Adopting.start, Supervisor.empty] at hs
    · intro i call history hi
      simp [start, Adopting.start] at hi
    · intro id record hrecord
      simp [start] at hrecord
  · intro w event hw hallowed
    exact hw.step hdigest hallowed

theorem picked_up_again_drawn_once {digest : String → String}
    (h : Runs.Reaches (step keyedDigest daemon) (Rereadable keyedDigest) (start digest) w) :
    (∀ id record session, w.shown.lookup id = some record → id ∉ w.streamed →
      w.adopting.adoptions.supervisor.sessions.lookup id = some session → DrawsOnce keyedDigest record session) ∧
    ∀ event f, w.fill keyedDigest event = some f → w.Rereadable keyedDigest event →
      ∃ session, (w.step keyedDigest daemon event).adopting.adoptions.supervisor.sessions.lookup
        f.registered.sessionId = some session ∧ DrawsOnce keyedDigest f.record session := by
  have hfaithful := faithful_of_reaches hdigest h
  constructor
  · intro id record session hrecord hstreamed hs item hone
    obtain ⟨turns, hturns⟩ := hfaithful.canonical id record hrecord
    have hshows : session.toTimeline.Shows (record.map Prod.snd) := by
      rcases hfaithful.rows id session hs with hblank | hmem | hshows
      · rw [hfaithful.blank id session hs hblank] at hrecord
        cases hrecord
      · exact absurd hmem hstreamed
      · dsimp only [shownRecord] at hshows
        rw [hrecord] at hshows
        exact hshows
    rw [countP_drawnFor hdigest hturns hshows, hone]
  · intro event f hfill hallowed
    obtain ⟨session, hsessions, hshows⟩ := hfaithful.filled hdigest hfill hallowed
    obtain ⟨i, env, params, childPid, models, -, -, -, -, hrecord, -⟩ := fill_cases hfill
    refine ⟨session, ?_, fun item hone => ?_⟩
    · change (w.adopting.step keyedDigest daemon event).adoptions.supervisor.sessions.lookup _ = _
      rw [hsessions, KeyedMap.lookup_insert_self]
    · rw [countP_drawnFor hdigest hrecord hshows, hone]

end

end Rereading

namespace Sample

def escape (c : Char) : List Char :=
  if c = '\x00' then ['_', '0'] else if c = '_' then ['_', '_'] else [c]

def escapedDigest (_ _ value : String) : String := String.ofList (value.toList.flatMap escape)

lemma escape_injective : Function.Injective fun l : List Char => l.flatMap escape := by
  intro l
  induction l with
  | nil =>
    intro l' h
    cases l' with
    | nil => rfl
    | cons c' l' =>
      simp only [List.flatMap_nil, List.flatMap_cons, escape] at h
      split_ifs at h <;> cases h
  | cons c l ih =>
    intro l' h
    cases l' with
    | nil =>
      simp only [List.flatMap_nil, List.flatMap_cons, escape] at h
      split_ifs at h <;> cases h
    | cons c' l' =>
      -- the first character tells an escape from a plain character, the second which escape it is
      have hsplit : c = c' ∧ l.flatMap escape = l'.flatMap escape := by
        simp only [List.flatMap_cons, escape] at h
        split_ifs at h <;> simp only [List.cons_append, List.nil_append, List.cons.injEq] at h <;> grind
      rw [hsplit.1, ih hsplit.2]

lemma escapedDigest_values {domain kind kind' value value' : String}
    (h : escapedDigest domain kind value = escapedDigest domain kind' value') : value = value' := by
  have hchars := congrArg String.toList h
  simp only [escapedDigest, String.toList_ofList] at hchars
  exact String.toList_inj.mp (escape_injective hchars)

def message (id text : String) : ThreadItem where
  id := some id
  kind := some "agentMessage"
  content := []
  text := some text
  request := none
  aggregatedOutput := none
  status := none
  whole := ⟨fun _ => (none, false), 0⟩
  functionOutput := fun _ => none

def turnOf (items : List ThreadItem) : ThreadTurn := ⟨some "turn-1", some 50, items⟩

def pickUp (call : ℕ) (items : List ThreadItem) (ids : List String) : List Adopting.Event :=
  [.adopt params true, .answer call (environment call) (.holders (.ok [])),
    .answer call (environment call) (.connected (some (40 + call))),
    .answer call (environment call) (.resumed (some [turnOf items]) none none),
    .answer call (environment call) (.modelList none), .answer call (environment call) .proceed,
    .answer call (Session.Sample.env 10 ids) .proceed, .answer call (environment call) .proceed]

def report (i : ℕ) (item : ThreadItem) (freshId : String) : List Adopting.Event :=
  [.wake i (environment 0) .proceed, .wake i (Session.Sample.env 20 [freshId]) (.notified (.item item true))]

def giveBack (i : ℕ) : List Adopting.Event :=
  [.release "thread-1" .conversationClosed, .wake i (environment 0) .proceed, .wake i (environment 0) .released,
    .wake i (environment 0) .proceed, .wake i (environment 0) .proceed]

def rereadingAfter (events : List Adopting.Event) : Rereading :=
  events.foldl (Rereading.step escapedDigest 7) (Rereading.start id)

def grown : List Adopting.Event :=
  pickUp 0 [message "item-1" "one"] ["e-1"] ++ giveBack 0 ++
    pickUp 1 [message "item-1" "one", message "item-2" "two"] ["e-2", "e-3"]

def followed : List Adopting.Event :=
  pickUp 0 [] [] ++ report 0 (message "item-1" "one") "e-1" ++ giveBack 0 ++
    pickUp 1 [message "item-1" "one"] ["e-2"]

def twoItems : Record :=
  [(⟨"turn-1", "item-1"⟩, "codex.history.turn-1_0item-1_00"), (⟨"turn-1", "item-2"⟩, "codex.history.turn-1_0item-2_01")]

end Sample

theorem picked_up_again_drawn_once_grown :
    ∃ session, (Sample.rereadingAfter Sample.grown).adopting.adoptions.supervisor.sessions.lookup
        "codex-adopted-thread-1" = some session ∧ DrawsOnce Sample.escapedDigest Sample.twoItems session ∧
      ∀ item ∈ Sample.twoItems, (Sample.twoItems.map Prod.fst).count item.1 = 1 := by
  have hallowed : Runs.Allowed (Rereading.step Sample.escapedDigest 7) (Rereading.Rereadable Sample.escapedDigest)
      (Rereading.start id) Sample.grown := by decide +kernel
  have hshown : (Sample.rereadingAfter Sample.grown).shown.lookup "codex-adopted-thread-1" = some Sample.twoItems := by
    decide +kernel
  have hstreamed : "codex-adopted-thread-1" ∉ (Sample.rereadingAfter Sample.grown).streamed := by decide +kernel
  have hpresent : ((Sample.rereadingAfter Sample.grown).adopting.adoptions.supervisor.sessions.lookup
      "codex-adopted-thread-1").isSome := by decide +kernel
  obtain ⟨session, hs⟩ := Option.isSome_iff_exists.mp hpresent
  refine ⟨session, hs, ?_, by decide⟩
  exact (Rereading.picked_up_again_drawn_once (fun _ _ _ _ => Sample.escapedDigest_values)
    (Runs.Reaches.refl.of_run hallowed)).1 _ _ _ hshown hstreamed hs

theorem reported_item_drawn_twice :
    ∃ w session record, Runs.Reaches (Rereading.step Sample.escapedDigest 7) (fun _ _ => True) (Rereading.start id) w ∧
      w.shown.lookup "codex-adopted-thread-1" = some record ∧
      w.adopting.adoptions.supervisor.sessions.lookup "codex-adopted-thread-1" = some session ∧
      ¬ DrawsOnce Sample.escapedDigest record session := by
  have hshown : (Sample.rereadingAfter Sample.followed).shown.lookup "codex-adopted-thread-1" =
      some [(⟨"turn-1", "item-1"⟩, "codex.history.turn-1_0item-1_00")] := by decide +kernel
  have hrows : ((Sample.rereadingAfter Sample.followed).adopting.adoptions.supervisor.sessions.lookup
      "codex-adopted-thread-1").any fun session => session.history.countP (drawnFor Sample.escapedDigest
        [(⟨"turn-1", "item-1"⟩, "codex.history.turn-1_0item-1_00")] ⟨"turn-1", "item-1"⟩ session) = 2 := by
    decide +kernel
  obtain ⟨session, hs, htwo⟩ := (Option.any_eq_true _ _).mp hrows
  refine ⟨Sample.rereadingAfter Sample.followed, session, _, Runs.Reaches.refl.of_run ?_, hshown, hs, ?_⟩
  · simp [Runs.Allowed, Sample.followed, Sample.pickUp, Sample.report, Sample.giveBack]
  · intro honce
    have hone := honce ⟨"turn-1", "item-1"⟩ (by decide)
    rw [of_decide_eq_true htwo] at hone
    cases hone

end CiaoHost.Codex
