import CiaoHost.Session.Coherent

/-! Every snapshot handed out passes the client's own check, in every run whose steps keep the
parts of a session together. -/

namespace CiaoHost.Session

open Protocol Lib Lib.Checks Lib.Saturating LiveSession

/-- The step does not answer a command of another epoch or generation, move the turn away from a
blocking card, end a bridge under one, or route a managed session. -/
def World.Orderly (w : World) (i : Input) : Prop :=
  match i.op with
  | .submit command => command.validate = .ok () → w.supervisor.metadata.receipt command.commandId = none →
      i.env.disk 0 = .ok () → ∀ s ∈ w.supervisor.sessions.lookup command.sessionId,
        command.snapshotEpoch = s.snapshot.snapshotEpoch ∧ command.expectedGeneration = s.snapshot.processGeneration
  | .noteTurn id turn => ∀ s ∈ w.supervisor.sessions.lookup id, s.snapshot.hasUnresolvedBlocking → turn.isAwaiting
  | .disconnect id token processExited => ∀ s ∈ w.supervisor.sessions.lookup id, s.bridgeDisconnectToken = token →
      processExited = false → s.snapshot.topology ≠ "adopted" → ¬ s.snapshot.hasUnresolvedBlocking
  | .endObserved id generation => ∀ s ∈ w.supervisor.sessions.lookup id, s.bridgeSender = none →
      s.snapshot.processGeneration = generation → ¬ s.snapshot.hasUnresolvedBlocking
  | .refreshRoute id proof => ∀ s ∈ w.supervisor.sessions.lookup id, s.adapterActive → proof.isSome →
      s.snapshot.topology ≠ "managed"
  | _ => True

instance (w : World) (i : Input) : Decidable (w.Orderly i) := by
  apply @Op.casesOn (fun op => Decidable (w.Orderly ⟨op, i.env⟩)) i.op <;> intros <;>
    first
    | exact .isTrue trivial
    | exact inferInstanceAs (Decidable (∀ s ∈ w.supervisor.sessions.lookup _, _))
    | exact inferInstanceAs (Decidable (_ → _ → _ → ∀ s ∈ w.supervisor.sessions.lookup _, _))

section

variable {w : World} {op : Op} {env : Env} {id : String} {s : LiveSession} {effect : Effect}

theorem Moved.coherent (hl : w.Legal ⟨op, env⟩) (hn : w.Numberable ⟨op, env⟩) (ho : w.Orderly ⟨op, env⟩)
    (hsound : w.supervisor.Sound) (hnumbered : w.Numbered) (hs : w.supervisor.sessions.lookup id = some s)
    (hm : Moved w.supervisor.metadata (w.supervisor.carriedHistory.lookup id) env id s op effect) (h : s.Coherent) :
    effect.session.Coherent := by
  have hkey := (hsound.sessions id s hs).1.key
  have hrows := (hnumbered.sessions id s hs).1
  have hunused := fun n hlt => hl.ids_unused hnumbered hs (n := n) hlt
  cases hm with
  | permissionMode mode | model model | effort effort =>
    exact h.report fun _ hc => ⟨hc.receipts, hc.sorted, hc.awaiting, hc.managed⟩
  | catalogue models => exact h.report fun _ hc => ⟨hc.receipts, hc.sorted, hc.awaiting, hc.managed⟩
  | commands offered => exact h.updateCommands ..
  | turn turn => exact h.noteTurn (ho s hs)
  | latch kind _ => exact h.latchAttention _
  | idle kind _ => exact h.idleReport _
  | expire => exact h.expireTurnClaim _
  | interaction i _ => exact h.upsertInteraction ..
  | resolution interactionId resolution _ _ => exact h.resolveInteraction ..
  | entry e _ =>
    have hfresh := hunused 0 Nat.one_pos
    exact h.appended hrows (hn s hs) (upsertEntry_appended hrows hfresh e)
  | text d _ =>
    have hfresh := hunused 0 Nat.one_pos
    exact h.appended hrows (hn s hs) (appendText_appended hrows hfresh d)
  | snapshot entries complete _ => exact h.rewriteTo (hnumbered.snapshotTimeline hl hn hs rfl).1 ..
  | backfill generation entries complete stem _ =>
    refine reconcileHistory_keeps (P := fun effect => effect.session.Coherent) h fun plan _ _ _ hplan => ?_
    exact h.rewriteTo (hnumbered.planned hl hs (fun _ => .backfill complete) rfl hplan (hn s hs)).1 ..
  | turnRead generation entries stem scope _ =>
    refine reconcileHistory_keeps (P := fun effect => effect.session.Coherent) h fun plan _ _ _ hplan => ?_
    exact h.rewriteTo (hnumbered.planned hl hs (fun s => s.resolveMode (.turn false none) scope) rfl hplan (hn s hs)).1 ..
  | answered command receipt hc hid hnew _ | delivered command sender receipt hc hid hnew _ =>
    exact h.takeCommand (hkey.trans hid.symm) fun hdisk => ho hc hnew hdisk s (hid ▸ hs)
  | undelivered command sender receipt reason effect hc hid hnew htaken _ =>
    obtain ⟨hcurrent, -, -, rfl, rfl⟩ := takeCommand_admitted htaken
    obtain ⟨hepoch, hgeneration, -⟩ : command.snapshotEpoch = s.snapshot.snapshotEpoch ∧
        command.expectedGeneration = s.snapshot.processGeneration ∧ _ := by simpa [isStale] using hcurrent
    have hid' := hkey.trans hid.symm
    apply Coherent.landUnknown
    · exact h.publishReceipt ⟨hid'.symm, hgeneration, hepoch⟩ env.now
    · exact hid'
    · exact hgeneration
    · exact hepoch
  | receipt commandId state evidence reasonCode _ _ =>
    exact h.landReceipt (show s.snapshot.ownsReceipt _ from ⟨hkey.symm, rfl, rfl⟩) ..
  | disconnect token htoken => exact h.disconnected hkey (ho s hs htoken rfl) ..
  | observedEnd hbridge =>
    apply Coherent.downgradeSession
    · exact h
    · exact ho s hs hbridge rfl
  | adoptedEnd reason _ =>
    apply Coherent.downgradeSession
    · apply Coherent.release
      exact h
    · intro hblocking
      cases hblocking
  | route proof hroute => exact h.installRoute (ho s hs hroute.1) ..
  | routeLost routeId reason _ =>
    apply Coherent.downgradeRoute
    exact h
  | observed r _ _ _ => exact h.observe ..
  | fenced op r sender e _ _ _ _ => exact (supersedeInFlight_issued ..).coherent_ambiguous h hkey
  | unassigned op r sender e effect _ _ _ hsup _ =>
    have hissued := s.supersedeInFlight_issued w.supervisor.metadata id env 1 s.inFlightCommands
    rw [hsup] at hissued
    exact hissued.coherent_ambiguous h hkey

lemma Registered.coherent {sv fenced sv' : Supervisor} {r : NormalizedRegistration} {sender live : Option ℕ}
    {mapping : IdentityMapping} (h : Registered sv env op fenced sv' r sender live mapping)
    (hrows : (fenced.inheritedTimeline mapping).WellNumbered)
    (hs : sv'.sessions.lookup mapping.sessionId = some s) : s.Coherent := by
  have hsession := h.session
  rw [hs, Option.some.injEq] at hsession
  subst hsession
  apply Coherent.refreshSnapshotWindow (s := { toTimeline := fenced.inheritedTimeline mapping, .. })
  · refine ⟨fun receipt hmem => ?_, List.Pairwise.nil, fun hblocking => absurd hblocking Bool.false_ne_true, fun hm => ?_⟩
    · exact (mem_receiptsFor hmem).2
    · have hcontinuity := registrationFallback_continuity r (env.ids 2)
      rwa [show r.topology = "managed" from hm, if_neg (by decide)] at hcontinuity
  · exact hrows.sorted

theorem World.coherent_step (hl : w.Legal ⟨op, env⟩) (hn : w.Numberable ⟨op, env⟩) (ho : w.Orderly ⟨op, env⟩)
    (hsound : w.supervisor.Sound) (hnumbered : w.Numbered)
    (h : ∀ id s, w.supervisor.sessions.lookup id = some s → s.Coherent) :
    ∀ id s, (w.supervisor.step env op).sessions.lookup id = some s → s.Coherent := by
  intro id s hs
  cases w.supervisor.step_change env op id with
  | kept heq => exact h id s (heq ▸ hs)
  | moved s₀ effect hs₀ hm hs' =>
    rw [hs', Option.some.injEq] at hs
    subst hs
    exact hm.coherent hl hn ho hsound hnumbered hs₀ (h id s₀ hs₀)
  | removed hnone =>
    rw [hnone] at hs
    cases hs
  | installed fenced r sender live mapping hr hid =>
    subst hid
    apply hr.coherent _ hs
    rcases hr.timeline with heq | ⟨s₀, hs₀, -, -, heq⟩
    · rw [heq]
      exact Timeline.wellNumbered_empty
    · rw [heq]
      exact (hnumbered.sessions _ s₀ hs₀).1

end

lemma World.coherent_of_reaches {digest : String → String} {allowed : World → Input → Prop}
    (hallowed : ∀ w i, allowed w i → w.Legal i ∧ w.Numberable i ∧ w.Orderly i) {w : World}
    (h : Runs.Reaches World.step allowed (World.start digest) w) :
    ∀ id s, w.supervisor.sessions.lookup id = some s → s.Coherent := by
  induction h with
  | refl => simp [start, Supervisor.empty]
  | tail i hreach hi ih =>
    obtain ⟨hl, hn, ho⟩ := hallowed _ i hi
    apply World.coherent_step hl hn ho
    · exact World.sound_of_reaches (fun w i hi => (hallowed w i hi).1) hreach
    · exact World.numbered_of_reaches (fun w i hi => ⟨(hallowed w i hi).1, (hallowed w i hi).2.1⟩) hreach
    · exact ih

end CiaoHost.Session
