import CiaoHost.Session.Sound

/-! Ends, routes, rows and rewrites keep every part of a session well formed. -/

namespace CiaoHost.Session

open Protocol Lib Lib.Checks Lib.Text Lib.Saturating Lib.KeyedList

lemma unavailableFallback_valid {reason : String} (h : validToken reason = .ok ()) :
    (LiveSession.unavailableFallback reason).validate = .ok () := by
  have htoken : validToken "unavailable" = .ok () := by decide
  have hroute : (LiveSession.unavailableFallback reason).routeAgrees = .ok () := by
    simp [LiveSession.unavailableFallback, TerminalFallback.routeAgrees]
  simp only [TerminalFallback.validate, bind_ok, whenSome_ok]
  exact ⟨htoken, by simp [LiveSession.unavailableFallback], by simp [LiveSession.unavailableFallback],
    fun _ heq => Option.some.inj heq ▸ h, by simp [LiveSession.unavailableFallback], hroute⟩

lemma capabilities_withContinuity {c : AgentCapabilities} (h : c.validate = .ok ()) {continuity : String}
    (hc : validToken continuity = .ok ()) (commands : CommandCapabilities) :
    { c with terminalContinuity := continuity, commands := commands }.validate = .ok () := by
  simp only [AgentCapabilities.validate, bind_ok] at h ⊢
  exact ⟨h.1, h.2.1, hc, h.2.2.2⟩

namespace LiveSession

variable {id : String} {s : LiveSession}

variable {reason : String} {now : ℕ}

variable {snapshot : AgentSessionSnapshot}

section

variable (h : snapshot.WellFormed) (htopology : snapshot.topology ≠ "adopted") (hreason : validToken reason = .ok ())

include h htopology hreason

lemma withdrawRoute_wellFormed :
    (withdrawRoute reason snapshot).WellFormed :=
  { h with
    capabilities := capabilities_withContinuity h.capabilities (by decide) _
    fallback := unavailableFallback_valid hreason
    continuity := rfl
    adopted := fun ha => absurd ha htopology }

lemma withdrawSession_wellFormed :
    (withdrawSession reason snapshot).WellFormed := by
  have hstale : validToken "stale" = .ok () := by decide
  refine { withdrawRoute_wellFormed (setCommands_wellFormed h .none) htopology hreason with
    observation := ?_
    turn := hreason }
  simp only [Observation.validate, bind_ok]
  exact ⟨hstale, hreason⟩

end

section

variable (h : s.Sound id)

include h

lemma Sound.downgradeSession (htopology : s.snapshot.topology ≠ "adopted")
    (hreason : validToken reason = .ok ()) : (s.downgradeSession now reason).1.Sound id := by
  have hs : { s with openRun := none }.Sound id := h.withOpenRun (by simp)
  exact hs.publishChange
    (fun _ hsnap htop => withdrawSession_wellFormed hsnap (htop ▸ htopology) hreason) fun _ => rfl

lemma Sound.downgradeRoute (htopology : s.snapshot.topology ≠ "adopted")
    (hreason : validToken reason = .ok ()) : (s.downgradeRoute now reason).1.Sound id :=
  h.publishChange (fun _ hsnap htop => withdrawRoute_wellFormed hsnap (htop ▸ htopology) hreason) fun _ => rfl

lemma Sound.release : s.release.Sound id :=
  { h with
    snapshot := { h.snapshot with
      topology := show validToken "attached" = .ok () by decide
      adopted := fun ha => absurd (show "attached" = "adopted" from ha) (by decide)
      pendingCount := Nat.zero_le _
      interactions := fun _ hi => absurd hi List.not_mem_nil }
    key := h.key }

lemma Sound.observedEnd (htopology : s.snapshot.topology ≠ "adopted") :
    (s.observedEnd now).1.Sound id := by
  have hs : { s with adapterActive := false, routeId := none }.Sound id := { h with }
  exact hs.downgradeSession htopology (by decide)

lemma Sound.adoptedEnd (hreason : validToken reason = .ok ()) :
    (s.adoptedEnd now reason).1.Sound id := by
  have hs : { s with bridgeSender := none, adapterActive := false, routeId := none }.Sound id := { h with }
  exact hs.release.downgradeSession (by simp [LiveSession.release]) hreason

lemma Sound.disconnected {store : MetadataStore} (hstore : store.Sound) {env : Env}
    (hnow : env.now ≠ 0) :
    (s.disconnected id store env).session.Sound id ∧ (s.disconnected id store env).store.Sound := by
  have hs : { s with bridgeSender := none, adapterActive := false, inFlightCommands := [] }.Sound id :=
    { h with inFlight := by simp }
  have hreason : validToken "bridge_disconnected" = .ok () := by decide
  obtain ⟨ha, hstore⟩ := (abandonInFlight_issued _ store id env 0 s.inFlightCommands).sound_ambiguous hs hstore hnow
    hreason h.inFlight
  unfold LiveSession.disconnected
  dsimp only
  split
  · exact ⟨ha.release.downgradeSession (by simp [LiveSession.release]) hreason, hstore⟩
  · next htopology => exact ⟨ha.downgradeSession htopology hreason, hstore⟩

end

variable {routeId : String}

lemma proofFallback_valid (proof : Option AgentRouteProof)
    (h : validOpaqueId routeId = .ok ()) : (proofFallback proof routeId).validate = .ok () := by
  cases proof with
  | none => exact unavailableFallback_valid (by decide)
  | some proof =>
    have hlive : validToken "exact_live" = .ok () := by decide
    have hspace : validToken "workspace_only" = .ok () := by decide
    have hreason : validToken "exact_context_unqualified" = .ok () := by decide
    cases proof <;>
      simp [proofFallback, AgentRouteProof.continuity, TerminalFallback.validate, TerminalFallback.routeAgrees, h,
        hlive, hspace, hreason]

lemma proofFallback_continuity_valid (proof : Option AgentRouteProof) (routeId : String) :
    validToken (proofFallback proof routeId).continuity = .ok () := by
  cases proof with
  | none => show validToken "unavailable" = .ok (); decide
  | some proof => cases proof <;> simp only [proofFallback, AgentRouteProof.continuity] <;> decide

lemma Sound.installRoute (h : s.Sound id) (htopology : s.snapshot.topology ≠ "adopted")
    {proof : Option AgentRouteProof} (hroute : validOpaqueId routeId = .ok ()) :
    (s.installRoute now proof routeId).1.Sound id := by
  have hs : { s with routeId := proof.map fun _ => routeId }.Sound id := { h with }
  refine hs.publishChange (fun _ hsnap htop => ?_) fun _ => rfl
  exact { hsnap with
    capabilities := capabilities_withContinuity hsnap.capabilities
      (proofFallback_continuity_valid proof routeId) _
    fallback := proofFallback_valid proof hroute
    continuity := rfl
    adopted := fun ha => absurd (htop ▸ ha) htopology }

end LiveSession

structure Accepted.Registration (env : Env) (r : NormalizedRegistration) : Prop where
  family : validToken r.adapterFamily = .ok ()
  version : validToken r.adapterVersion = .ok ()
  controlOwner : validToken r.controlOwner = .ok ()
  observation : r.observation.validate = .ok ()
  turn : r.turn.validate = .ok ()
  capabilities : r.capabilities.validate = .ok ()
  tested : validToken r.testedVersion = .ok ()
  topology : r.topology ∈ ["attached", "managed", "adopted"]
  boundary : ∀ token ∈ r.historyBoundary, validToken token = .ok ()
  fix : ∀ token ∈ env.fixFor (driftVendor r), validToken token = .ok ()

lemma Accepted.registration {env : Env} {op : Op} {r : NormalizedRegistration} {sender : Option ℕ}
    (hop : op.registration = some (r, sender)) (hdecoded : op.decoded env) (hr : r.validate = .ok ()) :
    Accepted.Registration env r := by
  have hboundary : whenSome validToken r.historyBoundary = .ok () ∧
      whenSome validToken (env.fixFor (driftVendor r)) = .ok () := by
    cases op <;> simp only [Op.registration, reduceCtorEq, Option.some.injEq, Prod.mk.injEq] at hop
    · obtain ⟨rfl, -⟩ := hop
      exact hdecoded
    · obtain ⟨rfl, -⟩ := hop
      exact hdecoded.2
  simp only [NormalizedRegistration.validate, bind_ok, refuseIf_ok, not_or, not_not] at hr
  obtain ⟨-, -, hfamily, hversion, howner, hobs, hturn, hcap, htested, hrest⟩ := hr
  rw [whenSome_ok, whenSome_ok] at hboundary
  exact ⟨hfamily, hversion, howner, hobs, hturn, hcap, htested, hrest.2.2.2.1, hboundary.1, hboundary.2⟩

section

variable {env : Env} {r : NormalizedRegistration} (h : Accepted.Registration env r)

include h

lemma adapterMetadata_valid : (adapterMetadata r).validate = .ok () := by
  have hcompatible : validToken "compatible" = .ok () := by decide
  have hunsupported : validToken "unsupported_version" = .ok () := by decide
  simp only [adapterMetadata, AgentAdapterMetadata.validate, bind_ok]
  refine ⟨h.family, h.version, ?_⟩
  split
  · exact hcompatible
  · exact hunsupported

lemma driftNoteFor_valid {note : DriftNote} (hnote : driftNoteFor r env = some note) : note.validate = .ok () := by
  simp only [driftNoteFor] at hnote
  split at hnote
  · next hstate =>
    cases hnote
    simp only [DriftNote.validate, bind_ok, refuseIf_ok, whenSome_ok]
    refine ⟨?_, ?_, h.version, h.tested, by omega, h.fix⟩
    · rcases hstate with hstate | ⟨hstate, -⟩ <;> simp [hstate]
    · rintro ⟨hunsupported, hnone⟩
      rcases hstate with hstate | ⟨-, hsome⟩
      · rw [hunsupported] at hstate
        exact absurd hstate (by decide)
      · rw [hnone] at hsome
        cases hsome
  · cases hnote

end

variable {freshId : String}

namespace LiveSession

variable {id : String} {s : LiveSession}

lemma Sound.observe (h : s.Sound id) {env : Env} {r : NormalizedRegistration}
    (hr : Accepted.Registration env r) : (s.observe env r).1.Sound id := by
  have hdrift : { s.snapshot with drift := driftNoteFor r env }.WellFormed :=
    { h.snapshot with drift := fun _ hnote => driftNoteFor_valid hr hnote }
  have hcapabilities : (s.observedCapabilities r).validate = .ok () := by
    have hown := h.snapshot.capabilities
    have hreported := hr.capabilities
    simp only [observedCapabilities, AgentCapabilities.validate, bind_ok] at hown hreported ⊢
    exact ⟨hown.1, hreported.2.1, hown.2.2.1, hreported.2.2.2⟩
  unfold LiveSession.observe
  dsimp only
  split
  · refine { h with snapshot := ?_, key := h.key }
    exact { hdrift with
      revision := (bump_pos _).ne'
      adapter := adapterMetadata_valid hr
      controlOwner := hr.controlOwner
      observation := hr.observation
      capabilities := hcapabilities
      continuity := h.snapshot.continuity
      adopted := h.snapshot.adopted }
  · exact { h with snapshot := hdrift, key := h.key }

lemma wireRow_valid {sized : List TimelineEntry} (hsized : ∀ e ∈ sized, e.validate = .ok ()) {e : TimelineEntry}
    (he : Retained e ∧ e.sequence ≠ 0) : (wireRow sized e).validate = .ok () := by
  unfold wireRow
  split
  · next wire hfind =>
    split
    · exact hsized wire (List.mem_reverse.mp (List.mem_of_find?_eq_some hfind))
    · exact fitEntryAlone_valid (he.1.fittable he.2)
  · exact fitEntryAlone_valid (he.1.fittable he.2)

lemma refreshWindow_wellFormed {window : TimelineWindow} (h : window.WellFormed) {history : List TimelineEntry}
    (hrows : ∀ e ∈ history, Retained e ∧ e.sequence ≠ 0) : (refreshWindow window history).WellFormed where
  count := by
    simp only [refreshWindow, List.length_reverse, List.length_map, List.length_take]
    exact min_le_left _ _
  boundary := h.boundary
  entries := by
    intro e he
    simp only [refreshWindow, List.mem_reverse, List.mem_map] at he
    obtain ⟨row, hr, rfl⟩ := he
    exact wireRow_valid h.entries (hrows row (List.mem_reverse.mp (List.mem_of_mem_take hr)))
  oldest := rfl
  newest := rfl

section

variable (h : s.Sound id)

include h

lemma Sound.refreshSnapshotWindow : s.refreshSnapshotWindow.Sound id :=
  h.withSnapshot { h.snapshot with window := refreshWindow_wellFormed h.snapshot.window h.timeline.rows } rfl

lemma Sound.withTimeline {t : Timeline} (ht : t.Sound) : { s with toTimeline := t }.Sound id :=
  { h with timeline := ht }

lemma Sound.endAttention : { s with
    snapshot := { s.snapshot with turn := s.openRun.getD (.unknown "awaiting_agent_state") } }.Sound id := by
  have hturn : (s.openRun.getD (.unknown "awaiting_agent_state")).validate = .ok () := by
    cases hrun : s.openRun with
    | none => show validToken "awaiting_agent_state" = .ok (); decide
    | some turn => exact h.openRun turn hrun
  exact h.withSnapshot { h.snapshot with turn := hturn } rfl

lemma Sound.setHistoryCoverage (complete : Bool) : (s.setHistoryCoverage complete).1.Sound id := by
  have hfull : validToken "full" = .ok () := by decide
  have htail : validToken "live_tail" = .ok () := by decide
  have hresume : validToken "resume" = .ok () := by decide
  have hcap := h.snapshot.capabilities
  simp only [AgentCapabilities.validate, bind_ok] at hcap
  refine h.withSnapshot { h.snapshot with
    capabilities := ?_
    continuity := h.snapshot.continuity
    window := { h.snapshot.window with boundary := ?_ } } rfl
  · simp only [AgentCapabilities.validate, bind_ok]
    exact ⟨by cases complete <;> assumption, hcap.2⟩
  · intro token htoken
    cases complete with
    | false => exact Option.some.inj htoken ▸ hresume
    | true => cases htoken

lemma Sound.publishEntry (now : ℕ) (canonical : TimelineEntry) :
    (s.publishEntry now canonical).1.Sound id := by
  apply publishEntry_keeps
  · exact ((h.withTimeline h.timeline.enforceHistoryBound).bumpRevision now).refreshSnapshotWindow
  · exact fun _ _ h => h.endAttention
  · exact fun _ h => h.setHistoryCoverage false
  · exact fun _ h => h.bumpRevision now

end

inductive Shows (now : ℕ) (s : LiveSession) : LiveSession × List AgentServerFrame → Prop
  | quiet (t : Timeline) (ht : t.Sound) : Shows now s ({ s with toTimeline := t }, [])
  | row (t : Timeline) (e : TimelineEntry) (ht : t.Sound) (he : Retained e ∧ e.sequence ≠ 0) :
    Shows now s ({ s with toTimeline := t }.publishEntry now e)

lemma Sound.shows (h : s.Sound id) {now : ℕ} {result : LiveSession × List AgentServerFrame}
    (hshown : Shows now s result) : result.1.Sound id := by
  cases hshown with
  | quiet t ht => exact h.withTimeline ht
  | row t e ht _ => exact (h.withTimeline ht).publishEntry now e

lemma upsertEntry_shows (h : s.toTimeline.Sound) {now : ℕ} (hid : validOpaqueId freshId = .ok ())
    {e : NormalizedTimelineEntry} (he : Accepted e) : Shows now s (s.upsertEntry now freshId e) := by
  obtain ⟨ht, hrow⟩ := h.normalizeEntry hid he
  simp only [LiveSession.upsertEntry]
  split
  · split
    · exact .quiet _ ht
    · exact .row _ _ (ht.replaceRow hrow) hrow
  · exact .row _ _ (ht.insertRow hrow) hrow

end LiveSession

structure Accepted.Text (d : NormalizedTextDelta) : Prop where
  valid : d.validate = .ok ()
  typed : d.typed

lemma chunkState_valid (finalChunk : Bool) : validToken (chunkState finalChunk) = .ok () := by
  cases finalChunk <;> decide

variable {d : NormalizedTextDelta}

lemma growText_retained {existing : TimelineEntry} (he : Retained existing) (shown : String)
    (hd : Accepted.Text d) : Retained (growText existing shown d) := by
  have hv := hd.valid
  simp only [NormalizedTextDelta.validate, refuseAdapterBodyAvailable, bind_ok, refuseIf_ok, not_or] at hv
  obtain ⟨-, -, htrunc, hwhole, hrev, htime, -⟩ := hv
  have hbound : ∀ reason, validToken reason = .ok () → ∀ bytes ≤ u64Max,
      (Truncation.mk true (some reason) (some bytes)).validate = .ok () ∧
        Truncation.typed ⟨true, some reason, some bytes⟩ := fun reason hreason bytes hle =>
    ⟨by simp [Truncation.validate, hreason], by simpa [Truncation.typed] using hle⟩
  refine ⟨he.entryId, ⟨hrev, hd.typed.1⟩, ⟨htime, hd.typed.2.1⟩, chunkState_valid _, he.kind, ?_, ?_, ?_⟩
  · simpa [growText, TimelineBody.validateWithin] using byteLen_cut _ _
  · simp only [growText]
    split
    · exact hbound _ (by decide) _ (satAdd_le _ _)
    · split
      · exact he.truncation
      · split
        · exact hbound _ (by decide) _ (satAdd_le _ _)
        · split
          · exact ⟨htrunc, hd.typed.2.2⟩
          · exact he.truncation
  · simp only [growText]
    split
    · simp [truncationBodyAvailable]
    · split
      · exact he.whole
      · split
        · simp [truncationBodyAvailable]
        · split
          · exact hwhole
          · exact he.whole

lemma openText_accepted (hd : Accepted.Text d) : Accepted (openText d) := by
  have hv := hd.valid
  simp only [NormalizedTextDelta.validate, refuseAdapterBodyAvailable, bind_ok, refuseIf_ok, not_or, not_lt] at hv
  obtain ⟨hsource, hkind, htrunc, hwhole, hrev, htime, hbytes⟩ := hv
  have hle : byteLen d.delta ≤ u64Max := hbytes.trans (by decide)
  have hgap : validToken "adapter_delta_gap" = .ok () := by decide
  have hopened : (openText d).truncation.validate = .ok () ∧ Truncation.typed (openText d).truncation ∧
      (openText d).truncation.reasonCode ≠ some truncationBodyAvailable := by
    simp only [openText]
    split
    · exact ⟨by simp [Truncation.validate, hgap], by simpa [Truncation.typed] using hle, by simp [truncationBodyAvailable]⟩
    · exact ⟨htrunc, hd.typed.2.2, hwhole⟩
  refine ⟨?_, hd.typed.1, hd.typed.2.1, hopened.2.1⟩
  simp only [NormalizedTimelineEntry.validate, refuseAdapterBodyAvailable, bind_ok, refuseIf_ok, not_or]
  exact ⟨hsource, chunkState_valid _, hkind, by simpa [openText, TimelineBody.validateWithin] using hbytes,
    hopened.1, hopened.2.2, hrev, htime⟩

namespace LiveSession

variable {id : String} {s : LiveSession}

lemma appendText_shows (h : s.toTimeline.Sound) {now : ℕ} (hid : validOpaqueId freshId = .ok ())
    (hd : Accepted.Text d) : Shows now s (s.appendText now freshId d).1 := by
  obtain ⟨ht, hrow⟩ := h.normalizeEntry hid (openText_accepted hd)
  have hkept : Shows now s (s, []) := .quiet s.toTimeline h
  rw [LiveSession.appendText]
  split
  · exact hkept
  · split
    · split
      · exact hkept
      · next existing hfind =>
        obtain ⟨hretained, hseq⟩ := h.rows existing (List.mem_of_find?_eq_some hfind)
        split
        · exact hkept
        · split
          · next shown _ =>
            have hgrown : Retained (growText existing shown d) ∧ (growText existing shown d).sequence ≠ 0 :=
              ⟨growText_retained hretained shown hd, hseq⟩
            exact .row _ _ (h.replaceRow hgrown) hgrown
          · exact hkept
    · dsimp only
      split
      · exact .row _ _ ht hrow
      · exact .row _ _ (ht.insertRow hrow) hrow

lemma fenceEpoch_ne_zero (previous : ℕ) {drawn : ℕ} (h : drawn ≠ 0) : fenceEpoch previous drawn ≠ 0 := by
  unfold fenceEpoch
  split
  · exact h
  · omega

variable {store : MetadataStore} {env : Env}

section

variable (h : s.Sound id) (hstore : store.Sound) (hepoch : env.epoch ≠ 0)

include h hstore hepoch

lemma Sound.rewriteTo
    {rewritten : Timeline} (ht : rewritten.Sound) (complete : Option Bool) (visible : Bool) (reason : String) :
    (s.rewriteTo store env rewritten complete visible reason).1.session.Sound id ∧
      (s.rewriteTo store env rewritten complete visible reason).1.store.Sound := by
  apply rewriteTo_keeps (P := fun effect => effect.session.Sound id ∧ effect.store.Sound)
  · exact ⟨h.withTimeline ht, hstore⟩
  · rintro s store ⟨h, hstore⟩
    refine ⟨h.withSnapshot { h.snapshot with
      epoch := fenceEpoch_ne_zero _ hepoch
      receiptCount := Nat.zero_le _
      receipts := fun _ hr => absurd hr List.not_mem_nil } rfl, hstore.updateEpoch (fenceEpoch_ne_zero _ hepoch)⟩
  · exact fun s store h => ⟨h.1.withTimeline h.1.timeline.enforceHistoryBound, h.2⟩
  · exact fun s store complete h => ⟨h.1.setHistoryCoverage complete, h.2⟩
  · exact fun s store reason h => ⟨(h.1.bumpRevision env.now).refreshSnapshotWindow, h.2.updateRevision⟩

lemma Sound.replaceSnapshot
    {carried : Option (List TimelineEntry)} (hcarried : ∀ rows ∈ carried, ∀ e ∈ rows, Retained e)
    {entries : List NormalizedTimelineEntry} (hentries : ∀ e ∈ entries, Accepted e)
    (hids : ∀ n < entries.length, validOpaqueId (env.ids n) = .ok ()) {complete : Option Bool} :
    (s.replaceSnapshot store env carried entries complete).1.session.Sound id ∧
      (s.replaceSnapshot store env carried entries complete).1.store.Sound := by
  have hreplaced := h.timeline.replaceRows hids hentries
  refine h.rewriteTo hstore hepoch ?_ ..
  unfold LiveSession.snapshotTimeline
  dsimp only
  split
  · cases carried with
    | none => exact hreplaced
    | some rows => exact hreplaced.prependCarried (hcarried rows rfl)
  · exact hreplaced

end

end LiveSession

end CiaoHost.Session
