import CiaoHost.Session.Change

/-! What the moves of a session leave alone. -/

namespace CiaoHost.Session

open Protocol Lib

namespace LiveSession

structure SameHold (s s' : LiveSession) : Prop where
  sessionId : s'.snapshot.sessionId = s.snapshot.sessionId
  generation : s'.snapshot.processGeneration = s.snapshot.processGeneration
  topology : s'.snapshot.topology = s.snapshot.topology
  routeId : s'.routeId = s.routeId
  bridgeSender : s'.bridgeSender = s.bridgeSender
  inFlight : s'.inFlightCommands = s.inFlightCommands

variable {s s' s'' : LiveSession}

lemma SameHold.refl (s : LiveSession) : SameHold s s := ⟨rfl, rfl, rfl, rfl, rfl, rfl⟩

lemma SameHold.trans (h : SameHold s s') (h' : SameHold s' s'') : SameHold s s'' :=
  ⟨h'.1.trans h.1, h'.2.trans h.2, h'.3.trans h.3, h'.4.trans h.4, h'.5.trans h.5, h'.6.trans h.6⟩

lemma Receipted.sameHold (h : s.Receipted s') : SameHold s s' := by
  obtain ⟨revision, receipts, now, rfl⟩ := h
  exact ⟨rfl, rfl, rfl, rfl, rfl, rfl⟩

structure Resting (s s' : LiveSession) : Prop extends SameHold s s' where
  receipts : ∀ r ∈ s'.snapshot.latestCommandReceipts, r ∈ s.snapshot.latestCommandReceipts

lemma Resting.refl (s : LiveSession) : Resting s s := ⟨.refl s, fun _ => id⟩

lemma Resting.trans (h : Resting s s') (h' : Resting s' s'') : Resting s s'' :=
  ⟨h.toSameHold.trans h'.toSameHold, fun r hr => h.receipts r (h'.receipts r hr)⟩

def standing (s : LiveSession) :
    (String × ℕ × String × Option String × Option ℕ × List String) × List CommandReceipt × Timeline × ℕ ×
      TimelineWindow :=
  ((s.snapshot.sessionId, s.snapshot.processGeneration, s.snapshot.topology, s.routeId, s.bridgeSender,
    s.inFlightCommands), s.snapshot.latestCommandReceipts, s.toTimeline, s.snapshot.snapshotEpoch,
    s.snapshot.timelineWindow)

def Restated (s s' : LiveSession) : Prop := s'.standing = s.standing

lemma Restated.resting (h : Restated s s') : Resting s s' := by
  simp only [Restated, standing, Prod.mk.injEq] at h
  obtain ⟨⟨hid, hgeneration, htopology, hroute, hsender, hflight⟩, hreceipts, -⟩ := h
  exact ⟨⟨hid, hgeneration, htopology, hroute, hsender, hflight⟩, fun r hr => hreceipts ▸ hr⟩

section

variable (now : ℕ)

lemma restated_report {α : Type} [DecidableEq α] {current : Option α} {value : α}
    {change : AgentSessionSnapshot → AgentSessionSnapshot} {published : AgentDeltaChange}
    (h : Restated s (s.publishChange now change fun _ => [published]).1) :
    Restated s (s.report now current value change published).1 := by
  rw [report]
  split
  · rfl
  · exact h

lemma restated_noteTurn (turn : TurnState) : Restated s (s.noteTurn now turn).1 := by
  rw [noteTurn]
  dsimp only
  split <;> rfl

lemma restated_latchAttention : Restated s (s.latchAttention now).1 := by
  rw [latchAttention]
  split <;> rfl

lemma restated_idleReport : Restated s (s.idleReport now).1 := by
  rw [idleReport]
  split <;> rfl

lemma restated_expireTurnClaim : Restated s (s.expireTurnClaim now).1 := by
  rw [expireTurnClaim]
  split <;> rfl

lemma restated_updateCommands (commands : CommandCapabilities) : Restated s (s.updateCommands now commands).1 := by
  rw [updateCommands]
  split <;> rfl

lemma restated_upsertInteraction (i : PendingInteraction) : Restated s (s.upsertInteraction now i).1.1 := by
  rw [upsertInteraction]
  split <;> split <;> rfl

lemma restated_resolveInteraction (interactionId resolution : String) :
    Restated s (s.resolveInteraction now interactionId resolution).1 := by
  rw [resolveInteraction]
  split <;> rfl

end

lemma restated_observe (env : Env) (r : NormalizedRegistration) : Restated s (s.observe env r).1 := by
  rw [observe]
  dsimp only
  split <;> rfl

lemma resting_withTimeline (s : LiveSession) (t : Timeline) : Resting s { s with toTimeline := t } :=
  ⟨⟨rfl, rfl, rfl, rfl, rfl, rfl⟩, fun _ => id⟩

lemma resting_setHistoryCoverage (complete : Bool) : Resting s (s.setHistoryCoverage complete).1 :=
  ⟨⟨rfl, rfl, rfl, rfl, rfl, rfl⟩, fun _ => id⟩

lemma Rowed.resting {result : LiveSession × List AgentServerFrame} (h : Rowed s now result) : Resting s result.1 := by
  cases h with
  | quiet t => exact resting_withTimeline s t
  | row t canonical =>
    refine (resting_withTimeline s t).trans (publishEntry_keeps _ now canonical ?_ ?_ ?_ ?_)
    · exact ⟨⟨rfl, rfl, rfl, rfl, rfl, rfl⟩, fun _ => id⟩
    · exact fun _ _ hr => hr.trans ⟨⟨rfl, rfl, rfl, rfl, rfl, rfl⟩, fun _ => id⟩
    · exact fun s hr => hr.trans (s.resting_setHistoryCoverage false)
    · exact fun _ hr => hr.trans ⟨⟨rfl, rfl, rfl, rfl, rfl, rfl⟩, fun _ => id⟩

lemma resting_rewriteTo (store : MetadataStore) (env : Env) (rewritten : Timeline) (complete : Option Bool)
    (visible : Bool) (reason : String) :
    Resting s (s.rewriteTo store env rewritten complete visible reason).1.session := by
  apply rewriteTo_keeps (P := fun effect => Resting s effect.session)
  · exact resting_withTimeline s rewritten
  · exact fun _ _ h => h.trans ⟨⟨rfl, rfl, rfl, rfl, rfl, rfl⟩, fun _ hr => absurd hr List.not_mem_nil⟩
  · exact fun s _ h => h.trans (resting_withTimeline s _)
  · exact fun _ _ complete h => h.trans (resting_setHistoryCoverage complete)
  · exact fun _ _ _ h => h.trans ⟨⟨rfl, rfl, rfl, rfl, rfl, rfl⟩, fun _ => id⟩

lemma takeCommand_admitted {store : MetadataStore} {command : AgentCommand} {now clock : ℕ}
    {disk : Except String Unit} {effect : Effect} {sender : Option ℕ} {receipt : CommandReceipt}
    (h : s.takeCommand store command now clock disk = (effect, .admitted sender receipt)) :
    ¬ s.isStale command ∧ disk = .ok () ∧ sender = s.bridgeSender ∧ receipt = sendingReceipt command now ∧
      effect = ⟨{ (s.publishReceipt clock receipt).1 with
          inFlightCommands := s.inFlightCommands.insert command.commandId },
        (s.publishReceipt clock receipt).2, (store.upsertReceipt receipt clock (.ok ())).1⟩ := by
  simp only [takeCommand] at h
  split at h
  · simp at h
  · next hcurrent =>
    split at h
    · simp at h
    · cases disk with
      | error e => simp [persistAndPublishReceipt, MetadataStore.upsertReceipt, MetadataStore.persist] at h
      | ok value =>
        simp only [persistAndPublishReceipt, MetadataStore.upsertReceipt, MetadataStore.persist, Prod.mk.injEq,
          Admission.admitted.injEq] at h
        obtain ⟨rfl, rfl, rfl⟩ := h
        exact ⟨hcurrent, rfl, rfl, rfl, rfl⟩

structure SameIdentity (s s' : LiveSession) : Prop where
  sessionId : s'.snapshot.sessionId = s.snapshot.sessionId
  generation : s'.snapshot.processGeneration = s.snapshot.processGeneration

lemma SameHold.identity (h : SameHold s s') : SameIdentity s s' := ⟨h.sessionId, h.generation⟩

structure Still (s s' : LiveSession) : Prop extends SameIdentity s s' where
  timeline : s'.toTimeline = s.toTimeline
  epoch : s'.snapshot.snapshotEpoch = s.snapshot.snapshotEpoch
  window : s'.snapshot.timelineWindow = s.snapshot.timelineWindow

lemma Restated.still (h : Restated s s') : Still s s' := by
  have hidentity := h.resting.identity
  simp only [Restated, standing, Prod.mk.injEq] at h
  exact ⟨hidentity, h.2.2.1, h.2.2.2.1, h.2.2.2.2⟩

def Flown (s s' : LiveSession) : Prop :=
  ∃ revision receipts now flight, s' = { s with
    snapshot := { s.snapshot with revision := revision, latestCommandReceipts := receipts }
    updatedAt := now
    inFlightCommands := flight }

lemma Receipted.flown (h : s.Receipted s') (flight : List String) : Flown s { s' with inFlightCommands := flight } := by
  obtain ⟨revision, receipts, now, rfl⟩ := h
  exact ⟨revision, receipts, now, flight, rfl⟩

lemma Flown.trans (h : Flown s s') (h' : Flown s' s'') : Flown s s'' := by
  obtain ⟨_, _, _, _, rfl⟩ := h
  obtain ⟨_, _, _, _, rfl⟩ := h'
  exact ⟨_, _, _, _, rfl⟩

lemma takeCommand_flown (s : LiveSession) (store : MetadataStore) (command : AgentCommand) (now clock : ℕ)
    (disk : Except String Unit) : Flown s (s.takeCommand store command now clock disk).1.session := by
  obtain ⟨answered, flight, hissued, heq, -⟩ := s.takeCommand_issued store now disk command clock
  rw [heq]
  exact hissued.receipted.flown flight

lemma Flown.still (h : Flown s s') : Still s s' := by
  obtain ⟨_, _, _, _, rfl⟩ := h
  exact ⟨⟨rfl, rfl⟩, rfl, rfl, rfl⟩

lemma Still.trans (h : Still s s') (h' : Still s' s'') : Still s s'' :=
  ⟨⟨h'.sessionId.trans h.sessionId, h'.generation.trans h.generation⟩, h'.timeline.trans h.timeline,
    h'.epoch.trans h.epoch, h'.window.trans h.window⟩

lemma still_disconnected (id : String) (store : MetadataStore) (env : Env) :
    Still s (s.disconnected id store env).session := by
  have hstill : Still s (abandonInFlight id env 0
      { s with bridgeSender := none, adapterActive := false, inFlightCommands := [] } store
      s.inFlightCommands).session := by
    obtain ⟨revision, receipts, now, heq⟩ := (abandonInFlight_issued _ store id env 0 s.inFlightCommands).receipted
    rw [heq]
    exact ⟨⟨rfl, rfl⟩, rfl, rfl, rfl⟩
  unfold disconnected
  dsimp only
  split
  · exact hstill.trans ⟨⟨rfl, rfl⟩, rfl, rfl, rfl⟩
  · exact hstill.trans ⟨⟨rfl, rfl⟩, rfl, rfl, rfl⟩

end LiveSession

structure SamePlace (s s' : LiveSession) : Prop where
  topology : s'.snapshot.topology = s.snapshot.topology
  routeId : s'.routeId = s.routeId
  bridgeSender : s'.bridgeSender = s.bridgeSender

lemma SamePlace.trans {s s' s'' : LiveSession} (h : SamePlace s s') (h' : SamePlace s' s'') : SamePlace s s'' :=
  ⟨h'.1.trans h.1, h'.2.trans h.2, h'.3.trans h.3⟩

lemma LiveSession.SameHold.place {s s' : LiveSession} (h : SameHold s s') : SamePlace s s' :=
  ⟨h.topology, h.routeId, h.bridgeSender⟩

lemma LiveSession.Flown.place {s s' : LiveSession} (h : Flown s s') : SamePlace s s' := by
  obtain ⟨_, _, _, _, rfl⟩ := h
  exact ⟨rfl, rfl, rfl⟩

def Op.rewrites : Op → Bool
  | .upsertEntry .. | .appendText .. | .replaceSnapshot .. | .backfill .. | .reconcileTurn .. => true
  | _ => false

def Op.relocates : Op → Bool
  | .disconnect .. | .endObserved .. | .endAdopted .. | .refreshRoute .. | .downgradeRoute .. => true
  | _ => false

def Op.posts : Op → Bool
  | .submit _ | .recordReceipt .. | .disconnect .. | .endAdopted .. | .register .. | .registerObserver _ => true
  | _ => false

lemma Op.posts_of_registration {op : Op} {r : NormalizedRegistration} {sender : Option ℕ}
    (h : op.registration = some (r, sender)) : op.posts = true := by
  cases op with
  | register | registerObserver => rfl
  | _ => cases h

open LiveSession

/-- The four ways a move goes: the session is said anew, its rows are rewritten, receipts are issued on
it, or it changes its place. -/
inductive Course (op : Op) (s s' : LiveSession) : Prop
  | restated (h : Restated s s')
  | rewrote (hop : op.rewrites) (h : Resting s s')
  | issued (hop : op.posts) (h : Flown s s')
  | relocated (hop : op.relocates) (h : Still s s')

variable {store : MetadataStore} {carried : Option (List TimelineEntry)} {env : Env} {id : String}
  {s : LiveSession} {op : Op} {effect : Effect}

section

variable (hm : Moved store carried env id s op effect)

include hm

theorem Moved.course : Course op s effect.session := by
  cases hm with
  | permissionMode | model | effort | catalogue => exact .restated (restated_report env.now (by rfl))
  | commands => exact .restated (restated_updateCommands ..)
  | turn => exact .restated (restated_noteTurn ..)
  | latch => exact .restated (restated_latchAttention ..)
  | idle => exact .restated (restated_idleReport ..)
  | expire => exact .restated (restated_expireTurnClaim ..)
  | interaction => exact .restated (restated_upsertInteraction ..)
  | resolution => exact .restated (restated_resolveInteraction ..)
  | observed => exact .restated (restated_observe ..)
  | entry => exact .rewrote rfl (upsertEntry_rowed ..).resting
  | text => exact .rewrote rfl (appendText_rowed ..).resting
  | snapshot => exact .rewrote rfl (resting_rewriteTo ..)
  | backfill | turnRead =>
    apply Course.rewrote rfl
    exact reconcileHistory_keeps (P := fun effect => Resting s effect.session) (.refl s)
      fun _ _ _ _ _ => resting_rewriteTo ..
  | answered | delivered => exact .issued rfl (takeCommand_flown ..)
  | undelivered command sender receipt reason effect hc hid hnew htaken hreason =>
    have hfirst := s.takeCommand_flown store command env.now env.now (env.disk 0)
    rw [htaken] at hfirst
    have herased := (Receipted.refl effect.session).flown (effect.session.inFlightCommands.erase command.commandId)
    exact .issued rfl ((hfirst.trans herased).trans ((persistOrPublishReceipt_issued ..).receipted.flown _))
  | receipt commandId state evidence reasonCode =>
    obtain ⟨answered, flight, hissued, heq, -⟩ :=
      s.landReceipt_issued store (s.bridgeReceipt id env.now commandId state evidence reasonCode) env
    rw [heq]
    exact .issued rfl (hissued.receipted.flown flight)
  | fenced op r sender e hop =>
    exact .issued (Op.posts_of_registration hop) ((supersedeInFlight_issued ..).receipted.flown _)
  | unassigned op r sender e effect hop hr hmapped hsup hassign =>
    have hissued := s.supersedeInFlight_issued store id env 1 s.inFlightCommands
    rw [hsup] at hissued
    exact .issued (Op.posts_of_registration hop) (hissued.receipted.flown [])
  | disconnect => exact .relocated rfl (still_disconnected id store env)
  | observedEnd | adoptedEnd | route | routeLost => exact .relocated rfl ⟨⟨rfl, rfl⟩, rfl, rfl, rfl⟩

theorem Moved.still (hop : op.rewrites = false) :
    Still s effect.session := by
  cases hm.course with
  | restated h => exact h.still
  | rewrote hrewrites => exact absurd hrewrites (by simp [hop])
  | issued _ h => exact h.still
  | relocated _ h => exact h

theorem Moved.identity : SameIdentity s effect.session := by
  cases hm.course with
  | restated h => exact h.resting.identity
  | rewrote _ h => exact h.identity
  | issued _ h => exact h.still.toSameIdentity
  | relocated _ h => exact h.toSameIdentity

theorem Moved.place (hop : op.relocates = false) :
    SamePlace s effect.session := by
  cases hm.course with
  | restated h => exact h.resting.place
  | rewrote _ h => exact h.place
  | issued _ h => exact h.place
  | relocated hrelocates => exact absurd hrelocates (by simp [hop])

end

end CiaoHost.Session
