import CiaoHost.Session.SoundMoves
import CiaoHost.Session.Frames

/-! Every run keeps every part of every session, of the store and of the carried transcripts well
formed. -/

namespace CiaoHost.Session

open Protocol Lib Lib.Checks Lib.Saturating

def LiveSession.Adopted (s : LiveSession) : Prop :=
  s.snapshot.topology = "adopted" → s.routeId = none ∧ s.bridgeSender.isSome

structure Supervisor.Sound (sv : Supervisor) : Prop where
  sessions : ∀ id s, sv.sessions.lookup id = some s → s.Sound id ∧ s.Adopted
  store : sv.metadata.Sound
  carried : ∀ id rows, sv.carriedHistory.lookup id = some rows → ∀ e ∈ rows, Retained e

variable {s : LiveSession} {id : String} {effect : Effect} {store : MetadataStore} {sv : Supervisor}
  {mapping : IdentityMapping}

section

variable {w : World} {op : Op} {env : Env} (hl : w.Legal ⟨op, env⟩)

include hl

lemma World.Legal.now_ne_zero : env.now ≠ 0 := hl.clock.1.ne'

lemma World.Legal.epoch_ne_zero : env.epoch ≠ 0 := hl.epoch.1.ne'

lemma World.Legal.ids_valid {n : ℕ} (hn : n < w.supervisor.draws op) : validOpaqueId (env.ids n) = .ok () :=
  (hl.drawn n hn).1

theorem Moved.sound (hw : w.supervisor.Sound) (hs : w.supervisor.sessions.lookup id = some s)
    (hm : Moved w.supervisor.metadata (w.supervisor.carriedHistory.lookup id) env id s op effect) :
    effect.session.Sound id ∧ effect.store.Sound := by
  obtain ⟨h, hadopted⟩ := hw.sessions id s hs
  have hstore := hw.store
  have hnow := hl.now_ne_zero
  have hepoch := hl.epoch_ne_zero
  have hdecoded := hl.decoded
  have htyped := hl.typed
  have hids := fun n hn => hl.ids_valid (n := n) hn
  cases hm with
  | permissionMode mode => exact ⟨h.updatePermissionMode hdecoded, hstore⟩
  | model model => exact ⟨h.updateModel hdecoded, hstore⟩
  | effort effort => exact ⟨h.updateEffort hdecoded, hstore⟩
  | catalogue models => exact ⟨h.updateModelCatalogue hdecoded, hstore⟩
  | commands offered => exact ⟨h.updateCommands offered, hstore⟩
  | turn turn => exact ⟨h.noteTurn hdecoded, hstore⟩
  | latch kind _ => exact ⟨h.latchAttention, hstore⟩
  | idle kind _ => exact ⟨h.idleReport, hstore⟩
  | expire => exact ⟨h.expireTurnClaim, hstore⟩
  | interaction i hi => exact ⟨h.upsertInteraction hi, hstore⟩
  | resolution interactionId resolution _ _ => exact ⟨h.resolveInteraction interactionId resolution, hstore⟩
  | entry e he => exact ⟨h.shows (LiveSession.upsertEntry_shows h.timeline (hids 0 Nat.one_pos) ⟨he, htyped⟩), hstore⟩
  | text d hd => exact ⟨h.shows (LiveSession.appendText_shows h.timeline (hids 0 Nat.one_pos) ⟨hd, htyped⟩), hstore⟩
  | snapshot entries complete hentries =>
    exact h.replaceSnapshot hstore hepoch (hw.carried id) (fun e he => ⟨hentries e he, htyped e he⟩) hids
  | backfill generation entries complete stem hentries =>
    refine LiveSession.reconcileHistory_keeps (P := fun effect => effect.session.Sound id ∧ effect.store.Sound)
      ⟨h, hstore⟩ fun plan _ _ _ hplan => h.rewriteTo hstore hepoch (h.timeline.applyReconcilePlan (fun n hn => hids n ?_)
        fun e he => ⟨hentries e he, htyped e he⟩) ..
    rwa [Supervisor.draws, planned_length hs (fun _ => .backfill complete) hplan]
  | turnRead generation entries stem scope hentries =>
    refine LiveSession.reconcileHistory_keeps (P := fun effect => effect.session.Sound id ∧ effect.store.Sound)
      ⟨h, hstore⟩ fun plan _ _ _ hplan => h.rewriteTo hstore hepoch (h.timeline.applyReconcilePlan (fun n hn => hids n ?_)
        fun e he => ⟨hentries e he, htyped e he⟩) ..
    rwa [Supervisor.draws, planned_length hs (fun s => s.resolveMode (.turn false none) scope) hplan]
  | answered command receipt hc _ _ _ | delivered command sender receipt hc _ _ _ =>
    exact h.takeCommand hstore hc hnow ..
  | undelivered command sender receipt reason effect hc _ _ htaken hreason =>
    have hfirst := h.takeCommand hstore hc hnow env.now (env.disk 0)
    rw [htaken] at hfirst
    exact hfirst.1.landUnknown hfirst.2 hc hreason hnow
  | receipt commandId state evidence reasonCode hr _ =>
    exact h.landReceipt hstore (h.bridgeReceipt_valid hnow hr)
  | disconnect token _ => exact h.disconnected hstore hnow
  | observedEnd hbridge =>
    refine ⟨h.observedEnd fun htopology => ?_, hstore⟩
    have hsome := (hadopted htopology).2
    rw [hbridge] at hsome
    cases hsome
  | adoptedEnd reason _ => exact ⟨h.adoptedEnd hdecoded, hstore⟩
  | route proof hroute => exact ⟨h.installRoute hroute.2 (hids 0 Nat.one_pos), hstore⟩
  | routeLost routeId reason hroute =>
    have hlost : { s with routeId := none }.Sound id := { h with }
    refine ⟨hlost.downgradeRoute (fun htopology => ?_) hdecoded, hstore⟩
    rw [(hadopted htopology).1] at hroute
    cases hroute
  | observed r hr _ _ =>
    refine ⟨h.observe (@Accepted.registration env (.registerObserver r) r none rfl hdecoded hr), ?_⟩
    dsimp only
    split
    · exact hstore
    · exact hstore.updateRevision
  | fenced op r sender e hop hr _ _ =>
    exact (LiveSession.supersedeInFlight_issued ..).sound_ambiguous h hstore hnow (by decide) h.inFlight
  | unassigned op r sender e effect hop hr _ hsup _ =>
    have hissued := s.supersedeInFlight_issued w.supervisor.metadata id env 1 s.inFlightCommands
    rw [hsup] at hissued
    obtain ⟨hfirst, hwritten⟩ := hissued.sound_ambiguous h hstore hnow (by decide) h.inFlight
    have hid : validOpaqueId (env.ids 0) = .ok () := hids 0 (by
      cases op <;> simp [Op.registration] at hop <;> simp [Supervisor.draws])
    exact ⟨{ hfirst with inFlight := by simp }, (hwritten.register hid hepoch).1⟩

end

open LiveSession

lemma SamePlace.adopted {s' : LiveSession} (h : SamePlace s s') (ha : s.Adopted) : s'.Adopted := by
  intro htopology
  rw [h.routeId, h.bridgeSender]
  exact ha (h.topology ▸ htopology)

theorem Moved.adopted {carried : Option (List TimelineEntry)} {env : Env}
    {op : Op} (hm : Moved store carried env id s op effect) (ha : s.Adopted) :
    effect.session.Adopted := by
  by_cases hop : op.relocates = false
  · exact (hm.place hop).adopted ha
  · cases hm with
    | disconnect =>
      intro htopology
      simp only [disconnected] at htopology
      split at htopology
      · exact absurd (show "attached" = "adopted" from htopology) (by decide)
      · next hne => exact absurd htopology hne
    | observedEnd hbridge =>
      intro htopology
      have hsome := (ha htopology).2
      rw [hbridge] at hsome
      cases hsome
    | adoptedEnd =>
      intro htopology
      exact absurd (show "attached" = "adopted" from htopology) (by decide)
    | route proof hroute =>
      intro htopology
      exact absurd htopology hroute.2
    | routeLost =>
      intro htopology
      exact ⟨rfl, (ha htopology).2⟩
    | fenced op r sender e hopr | unassigned op r sender e effect hopr =>
      cases op <;> simp [Op.registration] at hopr <;> exact absurd rfl hop
    | _ => exact absurd rfl hop

lemma fenced_sound {fenced : Supervisor} {env : Env} (hnow : env.now ≠ 0) (h : sv.Sound) {mapped : Option String}
    {live : Option ℕ} (hf : sv.fenceSuperseded env mapped = (fenced, .ok live)) : fenced.Sound := by
  rcases Supervisor.fenceSuperseded_cases sv env mapped with
    ⟨-, heq⟩ | ⟨id, s, effect, hmapped, hs, ⟨e, -, heq⟩ | ⟨hsup, heq⟩⟩
  · rw [hf, Prod.mk.injEq] at heq
    exact heq.1 ▸ h
  · simp [hf] at heq
  · rw [hf, Prod.mk.injEq] at heq
    obtain ⟨hsound, hadopted⟩ := h.sessions id s hs
    have hissued := s.supersedeInFlight_issued sv.metadata id env 1 s.inFlightCommands
    rw [hsup] at hissued
    obtain ⟨hfirst, hwritten⟩ := hissued.sound_ambiguous hsound h.store hnow (by decide) hsound.inFlight
    have hr := hissued.receipted
    rw [heq.1]
    refine ⟨fun id' s' hs' => ?_, hwritten, h.carried⟩
    rcases KeyedMap.lookup_insert_cases hs' with ⟨rfl, rfl⟩ | ⟨-, hs'⟩
    · exact ⟨{ hfirst with inFlight := by simp }, (hr.sameHold.place.trans ⟨rfl, rfl, rfl⟩).adopted hadopted⟩
    · exact h.sessions id' s' hs'

lemma registrationFallback_valid (r : NormalizedRegistration) {routeId : String}
    (h : validOpaqueId routeId = .ok ()) : (registrationFallback r routeId).validate = .ok () := by
  unfold registrationFallback
  split
  · have hcontinuity : validToken "resumable_session" = .ok () := by decide
    have hreason : validToken "adopted_resume" = .ok () := by decide
    simp [TerminalFallback.validate, TerminalFallback.routeAgrees, h, hcontinuity, hreason]
  · exact unavailableFallback_valid (by decide)

lemma registrationFallback_continuity (r : NormalizedRegistration) (routeId : String) :
    (registrationFallback r routeId).continuity =
      if r.topology = "adopted" then "resumable_session" else "unavailable" := by
  unfold registrationFallback
  split <;> rfl

lemma mem_receiptsFor {sessionId : String} {generation epoch : ℕ} {receipt : CommandReceipt}
    (h : receipt ∈ store.receiptsFor sessionId generation epoch) : receipt ∈ store.receipts ∧
      receipt.sessionId = sessionId ∧ receipt.processGeneration = generation ∧ receipt.snapshotEpoch = epoch := by
  have hmem := List.mem_reverse.mp (List.mem_of_mem_take (List.mem_reverse.mp h))
  simpa using hmem

lemma length_receiptsFor (store : MetadataStore) (sessionId : String) (generation epoch : ℕ) :
    (store.receiptsFor sessionId generation epoch).length ≤ maxCommandReceipts := by
  unfold MetadataStore.receiptsFor
  rw [List.length_reverse, List.length_take]
  exact min_le_left _ _

variable {r : NormalizedRegistration}

lemma registeredSession_sound {env : Env} (hr : Accepted.Registration env r)
    (hroute : validOpaqueId (env.ids 2) = .ok ()) (hm : mapping.Sound)
    (hstore : store.Sound) {t : Timeline} (ht : t.Sound) (sender : Option ℕ) :
    (registeredSession r sender (env.ids 1) env.now (registrationSnapshot r env mapping
      (store.receiptsFor mapping.sessionId mapping.processGeneration mapping.snapshotEpoch)) t).Sound
      mapping.sessionId := by
  have hfallback := registrationFallback_valid r hroute
  have hcontinuity : validToken (registrationFallback r (env.ids 2)).continuity = .ok () := by
    simp only [TerminalFallback.validate, bind_ok] at hfallback
    exact hfallback.1
  have htopology : validToken r.topology = .ok () := by
    have hmem := hr.topology
    simp only [List.mem_cons, List.not_mem_nil, or_false] at hmem
    rcases hmem with h | h | h <;> rw [h] <;> decide
  refine Sound.refreshSnapshotWindow (s := { toTimeline := t, snapshot := _, .. }) ⟨?_, rfl, by simp, by simp, ht⟩
  exact
    { version := rfl
      sessionId := hm.sessionId
      epoch := hm.epoch
      revision := hm.seed
      generation := hm.generation
      adapter := adapterMetadata_valid hr
      topology := htopology
      presence := rfl
      storedReason := rfl
      controlOwner := hr.controlOwner
      observation := hr.observation
      turn := hr.turn
      permissionMode := by simp [registrationSnapshot]
      model := by simp [registrationSnapshot]
      effort := by simp [registrationSnapshot]
      models := by simp [registrationSnapshot]
      drift := fun _ hnote => driftNoteFor_valid hr hnote
      capabilities := capabilities_withContinuity hr.capabilities hcontinuity _
      pendingCount := Nat.zero_le _
      receiptCount := length_receiptsFor ..
      interactions := by simp [registrationSnapshot]
      receipts := fun receipt hmem => hstore.receipts receipt (mem_receiptsFor hmem).1
      window := ⟨Nat.zero_le _, hr.boundary, by simp [registrationSnapshot], rfl, rfl⟩
      fallback := hfallback
      continuity := rfl
      adopted := fun ha => by
        have hc := registrationFallback_continuity r (env.ids 2)
        rw [if_pos (show r.topology = "adopted" from ha)] at hc
        exact hc }

lemma inheritedTimeline_sound (h : sv.Sound) (mapping : IdentityMapping) : (sv.inheritedTimeline mapping).Sound := by
  unfold Supervisor.inheritedTimeline
  split
  · next previous hs =>
    split
    · exact (h.sessions _ previous hs).1.timeline
    · exact Timeline.sound_empty
  · exact Timeline.sound_empty

lemma Supervisor.Sound.withEnded (h : sv.Sound) (ended : KeyedMap String ℕ) : { sv with ended := ended }.Sound :=
  ⟨h.sessions, h.store, h.carried⟩

section

variable {w : World} {op : Op} {env : Env} (hl : w.Legal ⟨op, env⟩)

include hl

lemma World.Legal.registration_ids {sender : Option ℕ}
    (hop : op.registration = some (r, sender)) {n : ℕ} (hn : n < 3) : validOpaqueId (env.ids n) = .ok () := by
  refine hl.ids_valid ?_
  cases op <;> simp [Op.registration] at hop <;> exact hn

lemma registered_sound (h : w.supervisor.Sound) {fenced sv' : Supervisor} {sender live : Option ℕ}
    (hr : Registered w.supervisor env op fenced sv' r sender live mapping) :
    fenced.Sound ∧ sv'.metadata.Sound ∧ mapping.Sound := by
  obtain ⟨ended, hfence⟩ := hr.fence
  have hfenced := fenced_sound hl.now_ne_zero (h.withEnded ended) hfence
  have hassign := @MetadataStore.Sound.register fenced.metadata env.epoch (env.disk 0)
    (fenced.metadata.registrationClaim r live env.now) hfenced.store (env.ids 0)
    (hl.registration_ids hr.registers (by norm_num)) hl.epoch_ne_zero
  have heq := hr.assign
  unfold MetadataStore.assign at heq
  rw [heq] at hassign
  exact ⟨hfenced, hassign.1, hassign.2 mapping rfl⟩

theorem Supervisor.Sound.step (h : w.supervisor.Sound) : (w.supervisor.step env op).Sound := by
  refine ⟨fun id s hs => ?_, ?_, fun id rows hrows => ?_⟩
  · cases w.supervisor.step_change env op id with
    | kept heq => exact h.sessions id s (heq ▸ hs)
    | moved s₀ effect hs₀ hm hs' =>
      rw [hs', Option.some.injEq] at hs
      subst hs
      exact ⟨(hm.sound hl h hs₀).1, hm.adopted (h.sessions id s₀ hs₀).2⟩
    | removed hnone =>
      rw [hnone] at hs
      cases hs
    | installed fenced r sender live mapping hr hid =>
      obtain ⟨hfenced, hstore, hmapping⟩ := registered_sound hl h hr
      have hsession := hr.session
      rw [hid, hs, Option.some.injEq] at hsession
      subst hsession hid
      refine ⟨registeredSession_sound (Accepted.registration hr.registers hl.decoded hr.valid)
        (hl.registration_ids hr.registers (by norm_num)) hmapping hstore (inheritedTimeline_sound hfenced mapping)
        sender, fun htopology => ⟨rfl, ?_⟩⟩
      -- only an attached adapter registers without a bridge
      have hdecoded := hl.decoded
      have hop := hr.registers
      cases op <;> simp only [Op.registration, reduceCtorEq, Option.some.injEq, Prod.mk.injEq] at hop
      · obtain ⟨-, rfl⟩ := hop
        rfl
      · obtain ⟨rfl, -⟩ := hop
        have hattached : "adopted" = "attached" := htopology.symm.trans hdecoded.1
        exact absurd hattached (by decide)
  · cases w.supervisor.step_outcome env op with
    | quiet _ _ hm => exact hm ▸ h.store
    | put id s effect hs hmoved _ _ hm => exact hm ▸ (hmoved.sound hl h hs).2
    | expired _ heq => exact heq ▸ h.store
    | removed _ _ _ _ hm => exact hm ▸ h.store
    | unassigned r sender hop _ _ _ _ hm =>
      rw [hm]
      exact (h.store.register (hl.registration_ids hop (by norm_num)) hl.epoch_ne_zero).1
    | registered fenced r sender live mapping hr => exact (registered_sound hl h hr).2.1
  · rcases w.supervisor.step_carried env op id rows hrows with hrows | ⟨source, s, -, hs, rfl⟩
    · exact h.carried id rows hrows
    · exact fun e he => ((h.sessions source s hs).1.timeline.rows e he).1

end

theorem World.sound_of_reaches {digest : String → String} {allowed : World → Input → Prop}
    (hallowed : ∀ w i, allowed w i → w.Legal i) {w : World}
    (h : Runs.Reaches World.step allowed (World.start digest) w) : w.supervisor.Sound := by
  have hstart : (World.start digest).supervisor.Sound :=
    ⟨by simp [start, Supervisor.empty], ⟨by simp [start, Supervisor.empty], by simp [start, Supervisor.empty]⟩,
      by simp [start, Supervisor.empty]⟩
  exact h.invariant (P := fun w => w.supervisor.Sound) hstart fun w i hw hi =>
    Supervisor.Sound.step (hallowed w i hi) hw

end CiaoHost.Session
