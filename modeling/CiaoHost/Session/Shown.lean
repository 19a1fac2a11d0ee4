import CiaoHost.Session.PlanExtended
import CiaoHost.Session.NumberedRun

/-! A timeline that is exactly one read of its record, and stays so when a longer read of the same
record is laid over it. -/

namespace CiaoHost.Session

open Protocol Lib Lib.Saturating Lib.KeyedList

variable {stem : Option String} {env : Env} {complete : Bool}

namespace Timeline

structure Shows (t : Timeline) (sources : List String) : Prop where
  distinct : (t.history.map TimelineEntry.entryId).Nodup
  drawn : t.heldEntries.map HeldEntry.source = sources.map some
  unsettled : t.settledAliases = []

variable {t : Timeline} {sources : List String}

lemma Shows.length (h : t.Shows sources) : t.history.length = sources.length := by
  have hlength := congrArg List.length h.drawn
  simpa [heldEntries] using hlength

lemma Shows.sourceOf (h : t.Shows sources) {k : ℕ} {e : TimelineEntry} (hk : t.history[k]? = some e) :
    t.sourceOf.lookup e.entryId = sources[k]? := by
  have hdrawn := congrArg (·[k]?) h.drawn
  simp only [heldEntries, List.map_map, List.getElem?_map, hk, Option.map_some, Function.comp_apply] at hdrawn
  obtain ⟨source, hsource, hrow⟩ := Option.map_eq_some_iff.mp hdrawn.symm
  rw [hsource, ← hrow]

lemma sourceOf_eq (t : Timeline) : t.sourceOf =
    (t.sourceEntries.entries.filter fun entry => !entry.2.settled).foldl
      (fun found entry => found.insert entry.2.entryId entry.1) ∅ := by
  rw [sourceOf, List.foldl_filter]
  congr 1
  funext found entry
  cases entry.2.settled <;> rfl

variable {source : String} {rows : List SourcedRow}

lemma sourceOf_sound {id : String} (h : t.sourceOf.lookup id = some source) :
    ∃ m, t.sourceEntries.lookup source = some m ∧ m.settled = false ∧ m.entryId = id := by
  rw [sourceOf_eq] at h
  rcases KeyedMap.of_lookup_foldl_insert h with ⟨⟨key, m⟩, hm, rfl, rfl⟩ | hnone
  · rw [List.mem_filter, KeyedMap.mem_entries] at hm
    exact ⟨m, hm.1, by simpa using hm.2, rfl⟩
  · simp at hnone

lemma sourceOf_iff {id : String} (hnamed : ∀ source source' m m', t.sourceEntries.lookup source = some m →
      t.sourceEntries.lookup source' = some m' → m.settled = false → m'.settled = false →
      m.entryId = m'.entryId → source = source') :
    t.sourceOf.lookup id = some source ↔
      ∃ m, t.sourceEntries.lookup source = some m ∧ m.settled = false ∧ m.entryId = id := by
  refine ⟨sourceOf_sound, ?_⟩
  rintro ⟨m, hm, hlive, rfl⟩
  rw [sourceOf_eq]
  have hmem : (⟨source, m⟩ : Sigma fun _ : String => SourceEntryMapping) ∈
      t.sourceEntries.entries.filter fun entry => !entry.2.settled := by
    rw [List.mem_filter, KeyedMap.mem_entries]
    exact ⟨hm, by rw [hlive]; rfl⟩
  refine @KeyedMap.lookup_foldl_insert _ _ _ _ (fun entry => entry.2.entryId) (fun entry => entry.1) _ _ hmem ?_ ∅
  rintro ⟨source', m'⟩ hmem' hid
  rw [List.mem_filter, KeyedMap.mem_entries] at hmem'
  exact hnamed source' source m' m hmem'.1 hm (by simpa using hmem'.2) hlive hid

lemma mapRow_lookup {row : SourcedRow} (hrow : row ∈ rows)
    (hsource : row.2 = some source) (hunique : ∀ row' ∈ rows, row'.2 = some source → row' = row)
    (found : KeyedMap String SourceEntryMapping) :
    (rows.foldl mapRow found).lookup source = some ⟨row.1.entryId, row.1.sequence, false⟩ := by
  rw [foldl_mapRow]
  have hmem : (source, ⟨row.1.entryId, row.1.sequence, false⟩) ∈ rows.filterMap mapped :=
    List.mem_filterMap.mpr ⟨row, hrow, by rw [mapped, hsource]; rfl⟩
  refine @KeyedMap.lookup_foldl_insert _ _ _ _ Prod.fst Prod.snd _ _ hmem ?_ found
  intro entry hentry hkey
  obtain ⟨row', hrow', hmapped⟩ := List.mem_filterMap.mp hentry
  obtain ⟨source', hsource', rfl⟩ := Option.map_eq_some_iff.mp hmapped
  rw [hunique row' hrow' (hsource'.trans (congrArg some hkey))]

lemma Shows.of_rows (hdistinct : (rows.map (·.1.entryId)).Nodup)
    (hdrawn : rows.map Prod.snd = sources.map some) (hsources : sources.Nodup) (next : ℕ) :
    Shows ⟨rows.foldl mapRow ∅, rows.map Prod.fst, next⟩ sources := by
  have hnodup : (rows.map Prod.snd).Nodup := by
    rw [hdrawn]
    exact hsources.map (Option.some_injective _)
  constructor
  · rw [List.map_map]
    exact hdistinct
  · rw [← hdrawn, heldEntries, List.map_map, List.map_map]
    apply List.map_congr_left
    intro row hrow
    obtain ⟨source, -, hsource⟩ : ∃ source ∈ sources, some source = row.2 := by
      rw [← List.mem_map, ← hdrawn]
      exact List.mem_map_of_mem hrow
    have hlookup : (rows.foldl mapRow ∅).lookup source = some ⟨row.1.entryId, row.1.sequence, false⟩ := by
      apply mapRow_lookup hrow hsource.symm
      intro row' hrow' hsource'
      exact List.inj_on_of_nodup_map hnodup hrow' hrow (hsource'.trans hsource)
    dsimp only [Function.comp_apply]
    rw [← hsource]
    refine (sourceOf_iff ?_).mpr ⟨_, hlookup, rfl, rfl⟩
    intro source₁ source₂ m₁ m₂ hm₁ hm₂ _ _ hid
    obtain ⟨row₁, hrow₁, hsource₁, rfl⟩ := mapRow_cases hm₁
    obtain ⟨row₂, hrow₂, hsource₂, rfl⟩ := mapRow_cases hm₂
    rw [List.inj_on_of_nodup_map hdistinct hrow₁ hrow₂ hid] at hsource₁
    exact Option.some.inj (hsource₁.symm.trans hsource₂)
  · rw [settledAliases, List.filterMap_eq_nil_iff]
    rintro ⟨source, m⟩ hmem
    obtain ⟨row, -, -, rfl⟩ := mapRow_cases (KeyedMap.mem_entries.mp hmem)
    rfl

variable {authority : List NormalizedTimelineEntry} {ids : ℕ → String}

theorem Shows.reconciled (h : t.Shows sources) (hfits : sources <+: authority.map NormalizedTimelineEntry.sourceId)
    (hdistinct : (authority.map NormalizedTimelineEntry.sourceId).Nodup)
    (hfresh : FreshFor t.history ids 0 authority.length) {mode : ReconcileMode} (hmode : mode.isTurn = false)
    {plan : List Planned}
    (hplan : (Alignment.mk t.heldEntries authority mode stem).planReconcile = some plan) :
    (t.applyReconcilePlan ids plan authority).1.Shows (authority.map NormalizedTimelineEntry.sourceId) := by
  have hextends : (Alignment.mk t.heldEntries authority mode stem).Extends sources := ⟨h.drawn, hfits, hdistinct, hmode⟩
  have hle : sources.length ≤ authority.length := by simpa using hfits.length_le
  have hsorted := Alignment.planReconcile_sorted _ hplan
  rw [hextends.planReconcile, Option.some.injEq] at hplan
  have hlength : plan.length = authority.length := by
    rw [← hplan]
    simp only [List.length_append, List.length_map, List.length_range, List.length_range']
    omega
  -- every held row in its place, then what the read has beyond them
  have hitem : ∀ item ∈ plan, item.Within t.history.length authority.length ∧
      ∀ index refresh, item ≠ .held index refresh true := by
    intro item hitem
    rw [← hplan, List.mem_append, List.mem_map, List.mem_map] at hitem
    rcases hitem with ⟨index, hindex, rfl⟩ | ⟨index, hindex, rfl⟩
    · rw [List.mem_range, ← h.length] at hindex
      exact ⟨hindex, fun _ _ => by simp⟩
    · rw [List.mem_range'_1] at hindex
      dsimp only at hindex
      exact ⟨(by omega : index < authority.length), nofun⟩
  have haliases : (rebuild t.history authority ids t.sourceOf 0 plan).aliases = [] := by
    rw [List.eq_nil_iff_forall_not_mem]
    intro settled hsettled
    obtain ⟨index, refresh, e, hheld, -⟩ := rebuild_alias h.distinct hsorted.1 hsettled
    exact (hitem _ hheld).2 index refresh rfl
  have hids : ((t.plannedRows ids plan authority).map (·.1.entryId)).Nodup :=
    plannedRows_nodup h.distinct hsorted.1 (hlength ▸ hfresh)
  have hdrawn : (t.plannedRows ids plan authority).map Prod.snd =
      (authority.map NormalizedTimelineEntry.sourceId).map some := by
    rw [plannedRows, numberedRows_map (fun _ _ => rfl)]
    apply List.ext_getElem?
    intro k
    rw [List.getElem?_map, rebuild_get h.distinct hsorted.1 fun item hin => (hitem item hin).1, List.map_map,
      List.getElem?_map, ← hplan]
    by_cases hheld : k < sources.length
    · obtain ⟨source, hsource⟩ : ∃ source, sources[k]? = some source := ⟨_, List.getElem?_eq_getElem hheld⟩
      have hread : (authority[k]?).map NormalizedTimelineEntry.sourceId = some source := by
        obtain ⟨more, hmore⟩ := hfits
        rw [← List.getElem?_map, ← hmore, List.getElem?_append_left hheld, hsource]
      obtain ⟨record, hrecord, rfl⟩ := Option.map_eq_some_iff.mp hread
      have hrow := List.getElem?_eq_getElem (h.length ▸ hheld)
      rw [List.getElem?_append_left (by simpa using hheld), List.getElem?_map, List.getElem?_range hheld, hrecord]
      simp only [Option.map_some, Option.bind_some, piece, hrow, h.sourceOf hrow, hsource]
      cases (Alignment.mk t.heldEntries authority mode stem).refreshOf k k with
      | none => rfl
      | some index =>
        rw [Option.bind_some]
        cases authority[index]? <;> rfl
    · rw [List.getElem?_append_right (by simpa using hheld), List.getElem?_map, List.length_map, List.length_range]
      by_cases hnew : k < authority.length
      · rw [List.getElem?_range' (by dsimp only; omega), Nat.one_mul, show sources.length + (k - sources.length) = k by omega,
          List.getElem?_eq_getElem hnew]
        simp [piece, hnew, restoredRow]
      · rw [List.getElem?_eq_none (by rw [List.length_range']; dsimp only; omega), List.getElem?_eq_none (not_lt.mp hnew)]
        rfl
  have happlied : (t.applyReconcilePlan ids plan authority).1 =
      ⟨(t.plannedRows ids plan authority).foldl mapRow ∅, (t.plannedRows ids plan authority).map Prod.fst,
        (t.applyReconcilePlan ids plan authority).1.nextSequence⟩ := by
    have hmapped := @applyReconcilePlan_sources t ids plan authority
    rw [h.unsettled, haliases, List.nil_append, List.foldl_nil] at hmapped
    rw [← hmapped, ← applyReconcilePlan_history]
  rw [happlied]
  exact .of_rows hids hdrawn hdistinct _

end Timeline

namespace LiveSession

variable {s : LiveSession} {sources : List String} {authority : List NormalizedTimelineEntry}

def laid (s : LiveSession) (ids : ℕ → String) (authority : List NormalizedTimelineEntry) (complete : Bool)
    (stem : Option String) : Timeline :=
  (s.toTimeline.applyReconcilePlan ids
    ((Alignment.mk s.heldEntries authority (.backfill complete) stem).planReconcile.getD []) authority).1

theorem shows_backfilled (h : s.toTimeline.Shows sources)
    (hfits : sources <+: authority.map NormalizedTimelineEntry.sourceId)
    (hdistinct : (authority.map NormalizedTimelineEntry.sourceId).Nodup)
    (hfresh : FreshFor s.history env.ids 0 authority.length)
    (hwithin : ¬ Timeline.overBound (Timeline.decodedBytes (s.laid env.ids authority complete stem).history)
      (s.laid env.ids authority complete stem).history) (store : MetadataStore) (scope : TurnScope) :
    (s.reconcileHistory store env (some s.snapshot.processGeneration) authority (.backfill complete) stem
      scope).1.session.toTimeline.Shows (authority.map NormalizedTimelineEntry.sourceId) := by
  have hextends : (Alignment.mk s.heldEntries authority (.backfill complete) stem).Extends sources :=
    ⟨h.drawn, hfits, hdistinct, rfl⟩
  have hplan := hextends.planReconcile
  generalize List.map _ _ ++ List.map _ _ = plan at hplan
  have hshows := h.reconciled hfits hdistinct hfresh rfl hplan
  have hmode : s.resolveMode (.backfill complete) scope = .backfill complete := rfl
  rw [laid, hplan, Option.getD_some] at hwithin
  rw [reconcileHistory, if_neg (by simp)]
  dsimp only
  rw [hmode, hplan]
  dsimp only
  rcases (s.rewriteTo_rows store env (s.toTimeline.applyReconcilePlan env.ids plan authority).1
    (ReconcileMode.complete (.backfill complete)) (s.toTimeline.applyReconcilePlan env.ids plan authority).2
    "history_reconciled").timeline with heq | heq
  · rw [heq]
    exact hshows
  · rw [heq, Timeline.enforceHistoryBound_within hwithin]
    exact hshows

end LiveSession

/-! What each session has on show, whatever operations do. -/

def Op.writes : Op → Option String
  | .upsertEntry id _ | .appendText id _ | .replaceSnapshot id _ _ | .backfill id _ _ _ _
  | .reconcileTurn id _ _ _ _ => some id
  | _ => none

def Timeline.Blank (t : Timeline) : Prop := t.history = [] ∧ t.sourceEntries.entries = []

instance (t : Timeline) : Decidable t.Blank := inferInstanceAs (Decidable (_ ∧ _))

lemma Timeline.Blank.shows {t : Timeline} (h : t.Blank) : t.Shows [] where
  distinct := by rw [h.1]; exact List.nodup_nil
  drawn := by rw [heldEntries, h.1]; rfl
  unsettled := by rw [settledAliases, h.2]; rfl

variable {id : String}

lemma Moved.writes {store : MetadataStore} {carried : Option (List TimelineEntry)}
    {s : LiveSession} {op : Op} {effect : Effect} (hm : Moved store carried env id s op effect)
    (hop : op.rewrites = true) : op.writes = some id := by
  cases hm with
  | entry | text | snapshot | backfill | turnRead => rfl
  | fenced op r sender e hopr | unassigned op r sender e effect hopr => cases op <;> simp_all [Op.registration, Op.rewrites]
  | _ => cases hop

namespace Supervisor

variable {sv : Supervisor} {shown : String → List String} {streamed : List String}

def Drawn (sv : Supervisor) (shown : String → List String) (streamed : List String) : Prop :=
  ∀ id s, sv.sessions.lookup id = some s →
    s.toTimeline.Blank ∨ id ∈ streamed ∨ s.toTimeline.Shows (shown id)

lemma Drawn.mono (h : sv.Drawn shown streamed) {streamed' : List String} (hsub : streamed ⊆ streamed') :
    sv.Drawn shown streamed' := fun id s hs =>
  (h id s hs).imp_right (Or.imp_left (hsub ·))

theorem Drawn.step (h : sv.Drawn shown streamed) (env : Env) (op : Op) :
    (sv.step env op).Drawn shown (op.writes.toList ++ streamed) := by
  intro id s hs
  have hbefore : ∀ s₀, sv.sessions.lookup id = some s₀ → s.toTimeline = s₀.toTimeline →
      s.toTimeline.Blank ∨ id ∈ op.writes.toList ++ streamed ∨ s.toTimeline.Shows (shown id) := by
    intro s₀ hs₀ hsame
    rw [hsame]
    exact (h.mono (List.subset_append_right _ _)) id s₀ hs₀
  cases sv.step_change env op id with
  | kept heq => exact hbefore s (heq ▸ hs) rfl
  | moved s₀ effect hs₀ hm hs' =>
    rw [hs', Option.some.injEq] at hs
    subst hs
    cases hop : op.rewrites with
    | true =>
      right
      left
      rw [hm.writes hop]
      exact List.mem_append_left _ List.mem_cons_self
    | false => exact hbefore s₀ hs₀ (hm.still hop).timeline
  | removed hnone =>
    rw [hnone] at hs
    cases hs
  | installed fenced r sender live mapping hr hid =>
    have hsession := hr.session
    rw [hid, hs, Option.some.injEq] at hsession
    have htimeline : s.toTimeline = fenced.inheritedTimeline mapping := by rw [hsession]; rfl
    rcases hr.timeline with hempty | ⟨s₀, hs₀, -, -, hinherited⟩
    · left
      rw [htimeline, hempty]
      exact ⟨rfl, rfl⟩
    · exact hbefore s₀ (hid ▸ hs₀) (htimeline.trans hinherited)

lemma backfill_sessions {generation : Option ℕ} {entries : List NormalizedTimelineEntry}
    {s : LiveSession} (hs : sv.sessions.lookup id = some s)
    (hlength : entries.length ≤ maxHostTimelineEntries) (hvalid : ∀ entry ∈ entries, entry.validate = .ok ()) :
    (sv.step env (.backfill id generation entries complete stem)).sessions = sv.sessions.insert id
      (s.reconcileHistory sv.metadata env generation entries (.backfill complete) stem ⟨false, none⟩).1.session := by
  have hcheck : Checks.each NormalizedTimelineEntry.validate entries = .ok () := by simpa using hvalid
  rw [step, backfillBridgeHistory, reconcileBridgeHistory, if_neg (by omega), hcheck, guarded, withEffect, hs]
  rfl

end Supervisor

end CiaoHost.Session
