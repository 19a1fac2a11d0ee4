import CiaoHost.Session.FollowsReceipts

/-! Host and reducer agree on everything but the timeline. -/

namespace CiaoHost.Session

open Protocol Lib Lib.Checks Lib.Saturating Lib.KeyedList

def AgreeBesideTimeline (copy snapshot : AgentSessionSnapshot) : Prop :=
  { copy with timelineWindow := snapshot.timelineWindow } = snapshot

instance (copy snapshot : AgentSessionSnapshot) : Decidable (AgreeBesideTimeline copy snapshot) :=
  inferInstanceAs (Decidable (_ = _))

def Resyncs (frames : List AgentServerFrame) : Prop := ∃ frame ∈ frames, frame.isResync

def PublishesDelta (frames : List AgentServerFrame) : Prop := ∃ frame ∈ frames, frame.isDelta

instance (frames : List AgentServerFrame) : Decidable (Resyncs frames) :=
  inferInstanceAs (Decidable (∃ _ ∈ _, _))

instance (frames : List AgentServerFrame) : Decidable (PublishesDelta frames) :=
  inferInstanceAs (Decidable (∃ _ ∈ _, _))

namespace LiveSession

variable {id : String} {s : LiveSession} {now : ℕ}

lemma Follows.agree {copy : AgentSessionSnapshot} {result : LiveSession × List AgentServerFrame}
    (h : Follows copy result) : ∃ after, copy.replay result.2 = some after ∧ AgreeBesideTimeline after result.1.snapshot :=
  ⟨_, h, rfl⟩

lemma publishEvictedStart_agree (s : LiveSession) (now : ℕ) (startEvicted : Bool) :
    Resyncs (s.publishEvictedStart now startEvicted).2 ∨ (s.publishEvictedStart now startEvicted).2 = [] ∧
      ∃ window, (s.publishEvictedStart now startEvicted).1.snapshot = { s.snapshot with timelineWindow := window } := by
  cases startEvicted with
  | false => exact .inr ⟨rfl, _, rfl⟩
  | true =>
    rw [publishEvictedStart, if_pos rfl]
    cases hchanged : (s.setHistoryCoverage false).2 with
    | true =>
      left
      rw [show s.setHistoryCoverage false = ((s.setHistoryCoverage false).1, true) from
        Prod.ext rfl hchanged]
      exact ⟨_, List.mem_singleton.mpr rfl, rfl⟩
    | false =>
      right
      rw [show s.setHistoryCoverage false = ((s.setHistoryCoverage false).1, false) from
        Prod.ext rfl hchanged]
      refine ⟨rfl, { s.snapshot.timelineWindow with historyBoundary := some "resume" }, ?_⟩
      have hhistory : s.snapshot.capabilities.history = "live_tail" := by
        simp only [setHistoryCoverage, historyCoverage, Bool.or_eq_false_iff] at hchanged
        simpa using hchanged.1
      show ({ s.snapshot with
        capabilities := { s.snapshot.capabilities with history := "live_tail" }
        timelineWindow := { s.snapshot.timelineWindow with historyBoundary := some "resume" } } : AgentSessionSnapshot) = _
      rw [← hhistory]

lemma clearHookAttention_changes (s : LiveSession) : s.clearHookAttention = (s, none) ∨
    s.snapshot.pendingInteractions = [] ∧ ∃ turn, turn = s.openRun.getD (.unknown "awaiting_agent_state") ∧
      s.clearHookAttention = ({ s with snapshot := { s.snapshot with turn := turn } }, some (.turn turn)) := by
  rw [clearHookAttention]
  split
  · exact .inl rfl
  · next hclear =>
    rw [not_or, not_not] at hclear
    exact .inr ⟨by simpa using hclear.2, _, rfl, rfl⟩

lemma entryDelta_applied {shown : LiveSession} {e : TimelineEntry} {also : Option AgentDeltaChange} (h : s.Sound id)
    (he : Retained e ∧ e.sequence ≠ 0)
    (hid : shown.snapshot.sessionId = s.snapshot.sessionId ∧
      shown.snapshot.snapshotEpoch = s.snapshot.snapshotEpoch ∧
      shown.snapshot.processGeneration = s.snapshot.processGeneration)
    (hrevision : shown.snapshot.revision = s.snapshot.revision + 1)
    (halso : ∀ c ∈ also.toList, c.validate = .ok ()) (hsettled : shown.snapshot.Settled)
    (hchanges : ∀ fitted, ((AgentDeltaChange.upsertEntry fitted :: also.toList).foldl AgentSessionSnapshot.applyProof
        s.snapshot).applyChanges (.upsertEntry fitted :: also.toList) =
      ({ shown.snapshot with
          revision := s.snapshot.revision
          timelineWindow := s.snapshot.timelineWindow.upsertEntry fitted }, .ok ())) (rest : List AgentServerFrame) :
    ∃ fitted, s.snapshot.replay (shown.entryDelta s.snapshot.revision e also :: rest) =
      { shown.snapshot with timelineWindow := s.snapshot.timelineWindow.upsertEntry fitted }.replay rest := by
  let frame := fun entry => shown.delta s.snapshot.revision (.upsertEntry entry :: also.toList)
  let fitted := fitEntryToFrame e fun candidate => encodedFrameLen (frame candidate)
  have hfitted : fitted.validate = .ok () := by
    apply fitEntryToFrame_valid _ (he.1.fittable he.2)
    exact countsText_delta _ _ fun _ => List.mem_cons_self
  have hvalid : ∀ c ∈ AgentDeltaChange.upsertEntry fitted :: also.toList, c.validate = .ok () := by
    intro c hc
    rcases List.mem_cons.mp hc with rfl | hc
    · exact hfitted
    · exact halso c hc
  have hfew : (AgentDeltaChange.upsertEntry fitted :: also.toList).length ≤ 64 := by
    cases also <;> simp
  refine ⟨fitted, ?_⟩
  apply AgentSessionSnapshot.replay_delta
  apply AgentSessionSnapshot.applyDelta_applied
  · exact delta_valid h rfl hid rfl hrevision (by simp) hfew hvalid
  · exact hid
  · rfl
  · exact hrevision
  · exact hchanges fitted
  · rfl
  · exact ⟨hsettled.blocked, hsettled.continuity, hsettled.managed⟩

lemma publishEntry_agree {e : TimelineEntry} (h : s.Sound id) (hsettled : s.snapshot.Settled)
    (hroom : s.snapshot.revision < u64Max) (he : Retained e ∧ e.sequence ≠ 0) :
    Resyncs (s.publishEntry now e).2 ∨ ∃ after, s.snapshot.replay (s.publishEntry now e).2 = some after ∧
      AgreeBesideTimeline after (s.publishEntry now e).1.snapshot := by
  let shown := ({ s with toTimeline := s.toTimeline.enforceHistoryBound.1 }.bumpRevision now).refreshSnapshotWindow
  have hshown : shown.Sound id :=
    ((h.withTimeline h.timeline.enforceHistoryBound).bumpRevision now).refreshSnapshotWindow
  have hrevision : shown.snapshot.revision = s.snapshot.revision + 1 := bump_eq hroom
  simp only [publishEntry]
  change Resyncs (shown.clearHookAttention.1.entryDelta s.snapshot.revision e shown.clearHookAttention.2 ::
      (shown.clearHookAttention.1.publishEvictedStart now s.toTimeline.enforceHistoryBound.2).2) ∨ ∃ after,
    s.snapshot.replay (shown.clearHookAttention.1.entryDelta s.snapshot.revision e shown.clearHookAttention.2 ::
      (shown.clearHookAttention.1.publishEvictedStart now s.toTimeline.enforceHistoryBound.2).2) = some after ∧
    AgreeBesideTimeline after
      (shown.clearHookAttention.1.publishEvictedStart now s.toTimeline.enforceHistoryBound.2).1.snapshot
  rcases shown.clearHookAttention.1.publishEvictedStart_agree now s.toTimeline.enforceHistoryBound.2 with
    ⟨frame, hmem, hresync⟩ | ⟨hquiet, window, hsnapshot⟩
  · exact .inl ⟨frame, List.mem_cons_of_mem _ hmem, hresync⟩
  · right
    rw [hquiet, hsnapshot]
    rcases shown.clearHookAttention_changes with heq | ⟨hnone, turn, hturn, heq⟩
    · rw [heq]
      obtain ⟨fitted, hreplay⟩ := @entryDelta_applied id s shown e none h he ⟨rfl, rfl, rfl⟩ hrevision (by simp)
        ⟨hsettled.blocked, hsettled.continuity, hsettled.managed⟩ (fun _ => rfl) []
      exact ⟨_, hreplay, rfl⟩
    · rw [heq]
      have hfree : ¬ shown.snapshot.hasUnresolvedBlocking := by
        rw [AgentSessionSnapshot.hasUnresolvedBlocking, hnone]
        exact Bool.false_ne_true
      obtain ⟨fitted, hreplay⟩ := @entryDelta_applied id s { shown with snapshot := { shown.snapshot with turn := turn } }
        e (some (.turn turn)) h he ⟨rfl, rfl, rfl⟩ hrevision
        (List.forall_mem_singleton.mpr (hturn ▸ hshown.endAttention.snapshot.turn))
        ⟨fun hblocking => absurd hblocking hfree, hsettled.continuity, hsettled.managed⟩ (fun _ => rfl) []
      exact ⟨_, hreplay, rfl⟩

lemma rewriteTo_frames (s : LiveSession) (store : MetadataStore) (env : Env) (rewritten : Timeline)
    (complete : Option Bool) (visible : Bool) (reason : String) :
    (s.rewriteTo store env rewritten complete visible reason).1.frames = [] ∨
      Resyncs (s.rewriteTo store env rewritten complete visible reason).1.frames := by
  apply rewriteTo_keeps (P := fun effect => effect.frames = [] ∨ Resyncs effect.frames)
  · exact .inl rfl
  · exact fun _ _ _ => .inl rfl
  · exact fun _ _ _ => .inl rfl
  · exact fun _ _ _ _ => .inl rfl
  · exact fun _ _ _ _ => .inr ⟨_, List.mem_singleton.mpr rfl, rfl⟩

lemma observe_frames (s : LiveSession) (env : Env) (r : NormalizedRegistration) :
    (s.observe env r).2 = [] ∨ Resyncs (s.observe env r).2 := by
  simp only [observe]
  split
  · exact .inr ⟨_, List.mem_singleton.mpr rfl, rfl⟩
  · exact .inl rfl

end LiveSession

open LiveSession

def World.Followable (w : World) (i : Input) (id : String) (s : LiveSession) : Prop :=
  (s.snapshot.hasUnresolvedBlocking → s.snapshot.turn = .awaitingInteraction none) ∧
  (s.snapshot.topology = "managed" → s.snapshot.terminalFallback.continuity = "unavailable") ∧
  s.snapshot.revision + s.inFlightCommands.length + 2 ≤ u64Max ∧
  match i.op with
  | .noteTurn target turn => target = id → s.snapshot.hasUnresolvedBlocking → turn = .awaitingInteraction none
  | .submit command => command.sessionId = id → command.snapshotEpoch = s.snapshot.snapshotEpoch ∧
      command.expectedGeneration = s.snapshot.processGeneration ∧
      ∀ r ∈ s.snapshot.latestCommandReceipts, r.commandId = command.commandId → r.updatedAt ≤ i.env.now
  | .recordReceipt target commandId _ _ _ => target = id →
      ∀ r ∈ s.snapshot.latestCommandReceipts, r.commandId = commandId → r.updatedAt ≤ i.env.now
  | .disconnect target _ _ => target = id → s.snapshot.topology ≠ "adopted" ∧ ¬ s.snapshot.hasUnresolvedBlocking ∧
      ∀ r ∈ s.snapshot.latestCommandReceipts, r.commandId ∈ s.inFlightCommands → r.updatedAt ≤ i.env.now
  | .endObserved target _ => target = id → ¬ s.snapshot.hasUnresolvedBlocking
  | .endAdopted target _ _ => target = id → s.snapshot.topology ≠ "adopted"
  | .refreshRoute target proof => target = id → proof.isSome → s.snapshot.topology ≠ "managed"
  | .register r _ | .registerObserver r => w.supervisor.mappedSessionId r = some id → s.inFlightCommands = []
  | _ => True

instance (w : World) (i : Input) (id : String) (s : LiveSession) : Decidable (w.Followable i id s) := by
  unfold World.Followable
  have : ∀ p q r t : Prop, [Decidable p] → [Decidable q] → [Decidable r] → Decidable t → Decidable (p ∧ q ∧ r ∧ t) :=
    fun _ _ _ _ _ _ _ _ => inferInstance
  apply this
  split <;> infer_instance

section

variable {w : World} {op : Op} {env : Env} {id : String} {s : LiveSession} {effect : Effect}

lemma World.Followable.registered {r : NormalizedRegistration} {sender : Option ℕ} (hc : w.Followable ⟨op, env⟩ id s)
    (hreg : op.registration = some (r, sender)) (hmapped : w.supervisor.mappedSessionId r = some id) :
    s.inFlightCommands = [] := by
  have hop := hc.2.2.2
  cases op <;> simp only [Op.registration, reduceCtorEq, Option.some.injEq, Prod.mk.injEq] at hreg <;>
    exact hop (hreg.1 ▸ hmapped)

lemma supersedeInFlight_frames (h : s.inFlightCommands = []) (env : Env) (store : MetadataStore) :
    (supersedeInFlight id env 1 s store s.inFlightCommands).1.frames = [] := by
  rw [h]
  rfl

theorem Moved.agree (hl : w.Legal ⟨op, env⟩) (hsound : w.supervisor.Sound)
    (hs : w.supervisor.sessions.lookup id = some s)
    (hm : Moved w.supervisor.metadata (w.supervisor.carriedHistory.lookup id) env id s op effect)
    (hfollowable : w.Followable ⟨op, env⟩ id s) :
    effect.frames = [] ∨ Resyncs effect.frames ∨ ∃ copy, s.snapshot.replay effect.frames = some copy ∧
      AgreeBesideTimeline copy effect.session.snapshot := by
  obtain ⟨h, hadopted⟩ := hsound.sessions id s hs
  have hnow := hl.now_ne_zero
  have hdecoded := hl.decoded
  have htyped := hl.typed
  have hids := fun n hn => hl.ids_valid (n := n) hn
  have ⟨hblocked, hmanaged, hroom, hop⟩ := hfollowable
  have hsettled : s.snapshot.Settled := ⟨hblocked, h.snapshot.continuity, hmanaged⟩
  have hnext : s.snapshot.revision < u64Max := by omega
  have hanswerable : ∀ commands n, (∀ r ∈ s.snapshot.latestCommandReceipts, r.commandId ∈ commands → r.updatedAt ≤ env.now) →
      n ≤ s.inFlightCommands.length + 2 → s.Answerable id env.now commands n := fun commands n hlate hle =>
    ⟨h, hsettled, by omega, hlate⟩
  have hone : s.Answerable id env.now [] 1 := hanswerable [] 1 (by simp) (by omega)
  have hfollowed : ∀ {result : LiveSession × List AgentServerFrame}, Follows s.snapshot result →
      result.2 = [] ∨ Resyncs result.2 ∨ ∃ copy, s.snapshot.replay result.2 = some copy ∧
        AgreeBesideTimeline copy result.1.snapshot := fun hf => .inr (.inr hf.agree)
  have hshown : ∀ {result : LiveSession × List AgentServerFrame}, Shows env.now s result →
      result.2 = [] ∨ Resyncs result.2 ∨ ∃ copy, s.snapshot.replay result.2 = some copy ∧
        AgreeBesideTimeline copy result.1.snapshot := fun hr => by
    cases hr with
    | quiet t ht => exact .inl rfl
    | row t e ht he =>
      exact .inr (publishEntry_agree (s := { s with toTimeline := t }) (h.withTimeline ht) hsettled hnext he)
  cases hm with
  | permissionMode mode => exact hfollowed (updatePermissionMode_follows h hsettled hnext hdecoded)
  | model model => exact hfollowed (updateModel_follows h hsettled hnext hdecoded)
  | effort effort => exact hfollowed (updateEffort_follows h hsettled hnext hdecoded)
  | catalogue models => exact hfollowed (updateModelCatalogue_follows h hsettled hnext hdecoded)
  | commands offered => exact hfollowed (updateCommands_follows h hsettled hnext offered)
  | turn turn => exact hfollowed (noteTurn_follows h hsettled hnext hdecoded (hop rfl))
  | latch kind _ => exact hfollowed (latchAttention_follows h hsettled hnext)
  | idle kind _ => exact hfollowed (idleReport_follows h hsettled hnext)
  | expire => exact hfollowed (expireTurnClaim_follows h hsettled hnext)
  | interaction i hi => exact hfollowed (upsertInteraction_follows h hsettled hnext hi)
  | resolution interactionId resolution hid hr =>
    exact hfollowed (resolveInteraction_follows h hsettled hnext hid hr)
  | entry e he => exact hshown (upsertEntry_shows h.timeline (hids 0 Nat.one_pos) ⟨he, htyped⟩)
  | text d hd => exact hshown (appendText_shows h.timeline (hids 0 Nat.one_pos) ⟨hd, htyped⟩)
  | snapshot entries complete _ => exact (rewriteTo_frames ..).imp_right .inl
  | backfill generation entries complete stem _ | turnRead generation entries stem scope _ =>
    apply Or.imp_right .inl
    exact reconcileHistory_keeps (P := fun effect => effect.frames = [] ∨ Resyncs effect.frames) (.inl rfl)
      fun _ _ _ _ _ => rewriteTo_frames ..
  | answered command receipt hvalid hid hnew _ | delivered command sender receipt hvalid hid hnew _ =>
    obtain ⟨hepoch, hgeneration, hlate⟩ := hop hid
    have hready := hanswerable [command.commandId] 2 (by simpa using hlate) (by omega)
    exact hfollowed (takeCommand_follows hnow hvalid hid hready ⟨hepoch, hgeneration⟩ w.supervisor.metadata (env.disk 0))
  | undelivered command sender receipt reason effect hvalid hid hnew htaken hreason =>
    obtain ⟨-, -, hlate⟩ := hop hid
    have hready := hanswerable [command.commandId] 2 (by simpa using hlate) (by omega)
    exact hfollowed (undelivered_follows hnow hvalid hid hready htaken hreason)
  | receipt commandId state evidence reasonCode hr _ =>
    have hready := hanswerable [commandId] 1 (by simpa using hop rfl) (by omega)
    have hevidence : state = "applied" → evidence ≠ none := fun happlied hnone =>
      hr (.inr (.inr (.inr (.inr (.inr ⟨happlied, hnone⟩)))))
    exact hfollowed (@landReceipt_follows id s (s.bridgeReceipt id env.now commandId state evidence reasonCode) env hready
      (h.bridgeReceipt_valid hnow hr) ⟨h.key.symm, rfl, rfl⟩ rfl hevidence w.supervisor.metadata)
  | disconnect token _ =>
    obtain ⟨htopology, hfree, hlate⟩ := hop rfl
    exact hfollowed (disconnected_follows hnow (hanswerable s.inFlightCommands _ hlate (by omega)) hfree htopology)
  | observedEnd hbridge =>
    have htopology : s.snapshot.topology ≠ "adopted" := fun ha => by
      have hsome := (hadopted ha).2
      rw [hbridge] at hsome
      cases hsome
    exact hfollowed (observedEnd_follows hone (hop rfl) htopology)
  | adoptedEnd reason ha => exact absurd ha (hop rfl)
  | route proof hroute => exact hfollowed (installRoute_follows hone (hids 0 Nat.one_pos) hroute.2 (hop rfl))
  | routeLost routeId reason hroute =>
    have htopology : s.snapshot.topology ≠ "adopted" := fun ha => by
      rw [(hadopted ha).1] at hroute
      cases hroute
    have hlost : { s with routeId := none }.Answerable id env.now [] 1 := ⟨{ h with }, hsettled, hone.room, hone.late⟩
    exact hfollowed (downgradeRoute_follows hlost hdecoded htopology)
  | observed r _ _ _ => exact (observe_frames ..).imp_right .inl
  | fenced op r sender e hreg _ hmapped _ =>
    exact .inl (supersedeInFlight_frames (hfollowable.registered hreg hmapped) ..)
  | unassigned op r sender e effect hreg _ hmapped hsup _ =>
    have hframes := @supersedeInFlight_frames id s (hfollowable.registered hreg hmapped) env w.supervisor.metadata
    rw [hsup] at hframes
    exact .inl hframes

end

lemma fenced_frames {sv fenced : Supervisor} {env : Env} {mapped : Option String} {live : Option ℕ} {id : String}
    (hf : sv.fenceSuperseded env mapped = (fenced, .ok live))
    (h : mapped = some id → ∀ s, sv.sessions.lookup id = some s → s.inFlightCommands = []) :
    fenced.framesOf id = sv.framesOf id := by
  by_cases hid : mapped = some id
  · rcases Supervisor.fenceSuperseded_cases sv env mapped with
      ⟨-, heq⟩ | ⟨id', s, effect, hmapped, hs, ⟨e, -, heq⟩ | ⟨hsup, heq⟩⟩
    · rw [hf, Prod.mk.injEq] at heq
      rw [heq.1]
    · simp [hf] at heq
    · rw [hf, Prod.mk.injEq] at heq
      obtain rfl : id = id' := Option.some.inj (hid.symm.trans hmapped)
      have hframes := @supersedeInFlight_frames id s (h hid s hs) env sv.metadata
      rw [hsup] at hframes
      rw [heq.1]
      simp [Supervisor.framesOf, Supervisor.putEffect, Supervisor.put, show effect.frames = [] from hframes]
  · exact (Supervisor.fenced_other hf hid).2

namespace Sample

def adopt : Input := ⟨.register (adoptedRegistration "thread-2") 0, env 0 ["s-1", "t-1", "r-1"]⟩

def loseBridge : Input := ⟨.disconnect "thread-2" "t-1" false, env 1 []⟩

end Sample

end CiaoHost.Session
