import CiaoHost.Session.Reconcile
import CiaoHost.Session.Append

/-! Rewrites of a whole history: a complete bridge snapshot, a reconciled vendor read, and the
epoch fence that follows either. -/

namespace CiaoHost.Session

open Protocol Lib Lib.Saturating Lib.KeyedList

namespace Timeline

def raiseRevision (t : Timeline) (entry : NormalizedTimelineEntry) : NormalizedTimelineEntry :=
  match t.previousSourceRevision entry.sourceId with
  | some previous =>
    if entry.sourceRevision ≤ previous then { entry with sourceRevision := bump previous } else entry
  | none => entry

def normalizeAll (ids : ℕ → String) : ℕ → Timeline → List NormalizedTimelineEntry →
    Timeline × List TimelineEntry
  | _, t, [] => (t, [])
  | index, t, entry :: rest =>
    let (t, row) := t.normalizeEntry (ids index) (t.raiseRevision entry)
    let (t, rows) := normalizeAll ids (index + 1) t rest
    (t, row :: rows)

def replaceRows (t : Timeline) (ids : ℕ → String) (entries : List NormalizedTimelineEntry) : Timeline :=
  let (t, rows) := normalizeAll ids 0 t entries
  { t with
    history := sortByKey TimelineEntry.sequence rows
    sourceEntries := t.sourceEntries.retain fun sourceId _ =>
      sourceId ∈ entries.map NormalizedTimelineEntry.sourceId }

def shiftRow (count : ℕ) (entry : TimelineEntry) : TimelineEntry :=
  { entry with sequence := satAdd entry.sequence count }

def shiftMapping (count : ℕ) (mapping : SourceEntryMapping) : SourceEntryMapping :=
  { mapping with sequence := satAdd mapping.sequence count }

def numberFrom (first : ℕ) (rows : List TimelineEntry) : List TimelineEntry :=
  rows.zipIdx.map fun (entry, offset) => { entry with sequence := first + offset }

def prependCarried (t : Timeline) (carried : List TimelineEntry) : Timeline :=
  { sourceEntries := t.sourceEntries.mapValues (shiftMapping carried.length)
    history := numberFrom 1 carried ++ t.history.map (shiftRow carried.length)
    nextSequence := satAdd t.nextSequence carried.length }

end Timeline

abbrev SourcedRow := TimelineEntry × Option String

structure Repaired where
  row : SourcedRow
  settled : Option (String × String)
  visible : Bool

def repair (entry : TimelineEntry) (source : Option String) (record : Option NormalizedTimelineEntry)
    (rekey : Bool) : Repaired :=
  match record with
  | none => ⟨(entry, source), none, false⟩
  | some record =>
    let fresh : TimelineEntry := { entry with
      body := record.body
      truncation := record.truncation
      state := record.state
      timestamp := record.timestamp
      entryRevision := max (satAdd entry.entryRevision 1) record.sourceRevision }
    { row := (if differs entry record then fresh else entry,
        if rekey then some record.sourceId else source)
      settled := if rekey then source.map fun display => (display, entry.entryId) else none
      visible := differs entry record }

def restoredRow (freshId : String) (record : NormalizedTimelineEntry) : SourcedRow :=
  (Timeline.normalizedRow record ⟨freshId, 0, false⟩, some record.sourceId)

structure Rebuilt where
  rows : List SourcedRow
  aliases : List (String × String)
  visible : Bool

/-- The planned rows in order. A held row takes its source out of `sourceOf`, so a row planned
twice has one only the first time. -/
def rebuild (old : List TimelineEntry) (authority : List NormalizedTimelineEntry) (ids : ℕ → String) :
    KeyedMap String String → ℕ → List Planned → Rebuilt
  | _, _, [] => ⟨[], [], false⟩
  | sourceOf, position, .held index refresh rekey :: rest =>
    match old[index]? with
    | none => rebuild old authority ids sourceOf (position + 1) rest
    | some entry =>
      let repaired := repair entry (sourceOf.lookup entry.entryId)
        (refresh.bind fun index => authority[index]?) rekey
      let tail := rebuild old authority ids (sourceOf.erase entry.entryId) (position + 1) rest
      ⟨repaired.row :: tail.rows, repaired.settled.toList ++ tail.aliases, repaired.visible || tail.visible⟩
  | sourceOf, position, .new index :: rest =>
    let tail := rebuild old authority ids sourceOf (position + 1) rest
    match authority[index]? with
    | none => tail
    | some record => ⟨restoredRow (ids position) record :: tail.rows, tail.aliases, true⟩

def numberRows (first : ℕ) (rows : List SourcedRow) : List SourcedRow :=
  rows.zipIdx.map fun (row, offset) => ({ row.1 with sequence := first + offset }, row.2)

/-- Numbers every restored row (sequence 0) without moving a held one. `run` holds the restored
rows met since the last held one; when they find no room the rows so far keep their numbers and
the answer is `false`. -/
def numberRestoredRows (next : ℕ) : ℕ → List SourcedRow → List SourcedRow → List SourcedRow × Bool
  | previous, run, [] => (numberRows (max next (satAdd previous 1)) run, true)
  | previous, run, row :: rest =>
    if row.1.sequence = 0 then numberRestoredRows next previous (run ++ [row]) rest
    else if run.length < row.1.sequence - previous then
      let (numbered, done) := numberRestoredRows next row.1.sequence [] rest
      (numberRows (previous + 1) run ++ row :: numbered, done)
    else (run ++ row :: rest, false)

def renumberDensely (rows : List SourcedRow) : List SourcedRow :=
  let start := match rows.zipIdx.find? fun (row, _) => row.1.sequence ≠ 0 with
    | some (row, position) => max (row.1.sequence - position) 1
    | none => 1
  rows.zipIdx.map fun (row, position) => ({ row.1 with sequence := min (start + position) u64Max }, row.2)

namespace Timeline

def sourceOf (t : Timeline) : KeyedMap String String :=
  t.sourceEntries.entries.foldl (fun found entry =>
    if entry.2.settled then found else found.insert entry.2.entryId entry.1) ∅

def settledAliases (t : Timeline) : List (String × String) :=
  t.sourceEntries.entries.filterMap fun entry =>
    if entry.2.settled then some (entry.1, entry.2.entryId) else none

def mapRow (found : KeyedMap String SourceEntryMapping) (row : SourcedRow) :
    KeyedMap String SourceEntryMapping :=
  match row.2 with
  | some source => found.insert source ⟨row.1.entryId, row.1.sequence, false⟩
  | none => found

def sequenceOf (rows : List SourcedRow) (entryId : String) : Option ℕ :=
  (rows.reverse.find? (·.1.entryId = entryId)).map (·.1.sequence)

def mapAlias (rows : List SourcedRow) (found : KeyedMap String SourceEntryMapping)
    (settled : String × String) : KeyedMap String SourceEntryMapping :=
  match sequenceOf rows settled.2 with
  | some sequence => found.insert settled.1 ⟨settled.2, sequence, true⟩
  | none => found

def heldCount (plan : List Planned) : ℕ :=
  plan.countP fun
    | .held .. => true
    | .new _ => false

def applyReconcilePlan (t : Timeline) (ids : ℕ → String) (plan : List Planned)
    (authority : List NormalizedTimelineEntry) : Timeline × Bool :=
  let rebuilt := rebuild t.history authority ids t.sourceOf 0 plan
  let (numbered, fits) := numberRestoredRows t.nextSequence 0 [] rebuilt.rows
  let rows := if fits then numbered else renumberDensely numbered
  let newest := (rows.getLast?.map (·.1.sequence)).getD 0
  let sourceEntries := (t.settledAliases ++ rebuilt.aliases).foldl (mapAlias rows) (rows.foldl mapRow ∅)
  let nextSequence := if fits then max t.nextSequence (satAdd newest 1) else satAdd newest 1
  (⟨sourceEntries, rows.map Prod.fst, nextSequence⟩,
    heldCount plan ≠ t.history.length || rebuilt.visible || !fits)

def heldEntries (t : Timeline) : List HeldEntry :=
  t.history.map fun entry => ⟨entry, t.sourceOf.lookup entry.entryId⟩

end Timeline

structure Effect where
  session : LiveSession
  frames : List AgentServerFrame
  store : MetadataStore

namespace LiveSession

def fenceEpoch (previous drawn : ℕ) : ℕ :=
  if drawn ≠ previous then drawn else max ((previous + 1) % (u64Max + 1)) 1

def fenceRewrittenHistory (s : LiveSession) (store : MetadataStore) (before : KeyedMap String ℕ)
    (env : Env) : Effect × Except String Bool :=
  if Timeline.rewritten before s.heldSequences then
    let epoch := fenceEpoch s.snapshot.snapshotEpoch env.epoch
    let fenced := { s with snapshot :=
      { s.snapshot with snapshotEpoch := epoch, latestCommandReceipts := [] } }
    match store.updateEpoch s.snapshot.sessionId epoch env.now (env.disk 0) with
    | (store, .ok ()) => (⟨fenced, [], store⟩, .ok true)
    | (store, .error e) => (⟨fenced, [], store⟩, .error e)
  else (⟨s, [], store⟩, .ok false)

def publishRewrite (s : LiveSession) (store : MetadataStore) (env : Env) (reasonCode : String) :
    Effect × Except String Unit :=
  let s := (s.bumpRevision env.now).refreshSnapshotWindow
  let (store, written) :=
    store.updateRevision s.snapshot.sessionId s.snapshot.revision env.now (env.disk 1)
  (⟨s, [s.resync reasonCode], store⟩, written)

def coverAfter (s : LiveSession) (complete : Option Bool) (cutByBound : Bool) : LiveSession × Bool :=
  match complete with
  | some complete => s.setHistoryCoverage (complete && !cutByBound)
  | none => if cutByBound then s.setHistoryCoverage false else (s, false)

def rewriteTo (s : LiveSession) (store : MetadataStore) (env : Env) (rewritten : Timeline)
    (complete : Option Bool) (visible : Bool) (reasonCode : String) : Effect × Except String Unit :=
  match { s with toTimeline := rewritten }.fenceRewrittenHistory store s.heldSequences env with
  | (fenced, .error e) => (fenced, .error e)
  | (fenced, .ok moved) =>
    let (kept, cutByBound) := fenced.session.toTimeline.enforceHistoryBound
    let (covered, coverageChanged) := { fenced.session with toTimeline := kept }.coverAfter complete cutByBound
    if visible || moved || cutByBound || coverageChanged then
      covered.publishRewrite fenced.store env reasonCode
    else (⟨covered, [], fenced.store⟩, .ok ())

def snapshotTimeline (s : LiveSession) (ids : ℕ → String) (carried : Option (List TimelineEntry))
    (entries : List NormalizedTimelineEntry) : Timeline :=
  let replaced := s.toTimeline.replaceRows ids entries
  if s.snapshot.capabilities.history ≠ "full" then carried.elim replaced replaced.prependCarried
  else replaced

def replaceSnapshot (s : LiveSession) (store : MetadataStore) (env : Env)
    (carried : Option (List TimelineEntry)) (entries : List NormalizedTimelineEntry)
    (historyComplete : Option Bool) : Effect × Except String Unit :=
  s.rewriteTo store env (s.snapshotTimeline env.ids carried entries) historyComplete true
    "snapshot_reconciled"

structure TurnMark where
  snapshotEpoch : ℕ
  nextSequence : ℕ
  deriving DecidableEq, Repr

structure TurnScope where
  fromTurnStart : Bool
  mark : Option TurnMark
  deriving DecidableEq, Repr

def turnMark (s : LiveSession) : TurnMark := ⟨s.snapshot.snapshotEpoch, s.nextSequence⟩

def resolveMode (s : LiveSession) (mode : ReconcileMode) (scope : TurnScope) : ReconcileMode :=
  match mode with
  | .turn .. => .turn scope.fromTurnStart
      ((scope.mark.filter (·.snapshotEpoch = s.snapshot.snapshotEpoch)).map (·.nextSequence))
  | .backfill complete => .backfill complete

def reconcileHistory (s : LiveSession) (store : MetadataStore) (env : Env)
    (processGeneration : Option ℕ) (authority : List NormalizedTimelineEntry) (mode : ReconcileMode)
    (liveOnlyPrefix : Option String) (scope : TurnScope) : Effect × Except String Unit :=
  if processGeneration.any (· ≠ s.snapshot.processGeneration) then (⟨s, [], store⟩, .ok ())
  else
    let mode := s.resolveMode mode scope
    match (Alignment.mk s.heldEntries authority mode liveOnlyPrefix).planReconcile with
    | none => (⟨s, [], store⟩, .ok ())
    | some plan =>
      let (applied, changed) := s.toTimeline.applyReconcilePlan env.ids plan authority
      s.rewriteTo store env applied mode.complete changed "history_reconciled"

end LiveSession

end CiaoHost.Session
