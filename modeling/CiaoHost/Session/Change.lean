import CiaoHost.Session.RegisterOutcome

/-! Every operation has an outcome, and an outcome is one change of each session. -/

namespace CiaoHost.Session

open Protocol Lib Lib.Checks

namespace Supervisor

theorem step_outcome (sv : Supervisor) (env : Env) (op : Op) : Outcome sv env op (sv.step env op) := by
  cases op with
  | register r sender => exact registerNew_outcome sv.ended rfl
  | registerObserver r => exact registerObserver_outcome r
  | carryHistory source target =>
    simp only [step, carryHistoryInto]
    split
    · exact still_outcome
    · next hsome =>
      refine .quiet rfl rfl rfl fun id rows h => ?_
      rcases KeyedMap.lookup_insert_cases h with ⟨rfl, rfl⟩ | ⟨-, h⟩
      · cases hs : sv.sessions.lookup source with
        | none => simp [timelineForHandover, hs] at hsome
        | some s => exact .inr ⟨source, s, rfl, hs, by simp [timelineForHandover, hs]⟩
      · exact .inl h
  | replaceSnapshot id entries complete =>
    simp only [step, replaceBridgeSnapshotCovering]
    split
    · exact still_outcome
    · exact guarded_outcome fun h => withEffect_outcome rfl rfl rfl
        (fun _ _ hrows => .inl (KeyedMap.lookup_erase_some hrows).2) fun s => .snapshot entries complete (by simpa using h)
  | backfill id generation entries complete stem =>
    simp only [step, backfillBridgeHistory, reconcileBridgeHistory]
    split
    · exact still_outcome
    · exact guarded_outcome fun h => withEffect_outcome rfl rfl rfl (fun _ _ => .inl) fun s =>
        .backfill generation entries complete stem (by simpa using h)
  | reconcileTurn id generation entries stem scope =>
    simp only [step, reconcileBridgeTurn, reconcileBridgeHistory]
    split
    · exact still_outcome
    · exact guarded_outcome fun h => withEffect_outcome rfl rfl rfl (fun _ _ => .inl) fun s =>
        .turnRead generation entries stem scope (by simpa using h)
  | upsertEntry id entry => exact guarded_outcome fun h => withSession_outcome fun s => .entry entry h
  | appendText id delta => exact guarded_outcome fun h => withSession_outcome fun s => .text delta h
  | upsertInteraction id interaction =>
    exact guarded_outcome fun h => withSession_outcome fun s => .interaction interaction h
  | resolveInteraction id interactionId resolution =>
    refine guarded_outcome fun h => withSession_outcome fun s => ?_
    rw [bind_ok] at h
    exact .resolution interactionId resolution h.1 h.2
  | noteTurn id turn => exact withSession_outcome fun s => .turn turn
  | noteAttention id kind =>
    simp only [step, noteBridgeAttention]
    split
    · next h => exact withSession_outcome fun s => .latch kind h
    · next h => exact withSession_outcome fun s => .idle kind h
    · exact still_outcome
    · exact still_outcome
  | updatePermissionMode id mode => exact onSession_outcome fun s => .permissionMode mode
  | updateModel id model => exact onSession_outcome fun s => .model model
  | updateEffort id effort => exact onSession_outcome fun s => .effort effort
  | updateModelCatalogue id models => exact onSession_outcome fun s => .catalogue models
  | updateCommands id commands => exact onSession_outcome fun s => .commands commands
  | submit command => exact submitCommand_outcome command
  | recordReceipt id commandId state evidence reasonCode => exact recordBridgeReceipt_outcome ..
  | disconnect id token processExited => exact bridgeDisconnected_outcome ..
  | endObserved id generation => exact endObservedSession_outcome ..
  | endAdopted id generation reason => exact endAdoptedSession_outcome ..
  | expireTurnClaims => exact .expired rfl rfl
  | refreshRoute id proof => exact refreshRoute_outcome ..
  | downgradeRoute routeId id generation reason => exact downgradeIfCurrent_outcome ..
  | removeBinding id binding =>
    simp only [step, removeTerminalBindingIfCurrent]
    split
    · next h =>
      refine removeSession_outcome fun s hs => .unbound binding ?_
      simpa [hs] using h
    · exact still_outcome
  | sweep =>
    obtain ⟨hp, hm, hc⟩ := @removeAll_quiet sv env.now
      ((sv.sessions.entries.filter fun entry => ¬ env.processExists entry.2.processId).map (·.1))
    refine .removed _ (fun id hid s hs => .swept ?_) (removeAll_lookup env.now _) hp hm hc
    simp only [List.mem_map, List.mem_filter, decide_eq_true_eq] at hid
    obtain ⟨⟨id, s'⟩, ⟨hmem, hdead⟩, rfl⟩ := hid
    rw [KeyedMap.mem_entries, hs] at hmem
    cases hmem
    exact hdead

theorem step_carried (sv : Supervisor) (env : Env) (op : Op) : Carries sv op (sv.step env op) := by
  have hkept : ∀ {sv' : Supervisor}, sv'.carriedHistory = sv.carriedHistory → Carries sv op sv' :=
    fun heq id rows h => .inl (heq ▸ h)
  cases sv.step_outcome env op with
  | quiet _ _ _ hc => exact hc
  | put _ _ _ _ _ _ _ _ hc => exact hc
  | expired hop h => exact hkept (h ▸ rfl)
  | removed _ _ _ _ _ hc => exact hkept hc
  | unassigned _ _ _ _ _ _ _ _ hc => exact hkept hc
  | registered fenced r sender live mapping h => exact hkept h.carried

theorem step_snapshot_carried (sv : Supervisor) (env : Env) (id : String) (entries : List NormalizedTimelineEntry)
    (complete : Option Bool) : sv.step env (.replaceSnapshot id entries complete) = sv ∨
      (sv.step env (.replaceSnapshot id entries complete)).carriedHistory.lookup id = none := by
  simp only [step, replaceBridgeSnapshotCovering, guarded]
  split
  · exact .inl rfl
  · split
    · right
      rw [withEffect]
      split <;> simp [putEffect, put]
    · exact .inl rfl

end Supervisor

inductive Change (sv : Supervisor) (env : Env) (op : Op) (sv' : Supervisor) (id : String) : Prop
  | kept (hs : sv'.sessions.lookup id = sv.sessions.lookup id) (hf : sv'.framesOf id = sv.framesOf id)
  | moved (s : LiveSession) (effect : Effect) (hs : sv.sessions.lookup id = some s)
      (hmoved : Moved sv.metadata (sv.carriedHistory.lookup id) env id s op effect)
      (hs' : sv'.sessions.lookup id = some effect.session) (hf : sv'.framesOf id = sv.framesOf id ++ effect.frames)
      (hm : sv'.metadata = effect.store)
  | removed (hs' : sv'.sessions.lookup id = none)
      (h : ∀ s, sv.sessions.lookup id = some s → Leaves sv.metadata env id s op)
  | installed (fenced : Supervisor) (r : NormalizedRegistration) (sender live : Option ℕ)
      (mapping : IdentityMapping) (h : Registered sv env op fenced sv' r sender live mapping)
      (hid : mapping.sessionId = id)

variable {sv sv' : Supervisor} {env : Env} {op : Op}

lemma framesOf_append (frames : List (String × AgentServerFrame)) (id : String)
    (hp : sv'.published = sv.published ++ frames) :
    sv'.framesOf id = sv.framesOf id ++ (frames.filter (·.1 = id)).map (·.2) := by
  simp [Supervisor.framesOf, hp]

theorem Outcome.change (h : Outcome sv env op sv') (id : String) : Change sv env op sv' id := by
  have hframes : sv'.published = sv.published → sv'.framesOf id = sv.framesOf id := fun hp => by
    rw [Supervisor.framesOf, hp, Supervisor.framesOf]
  cases h with
  | quiet hs hp hm => exact .kept (by rw [hs]) (hframes hp)
  | put id' s effect hs hmoved hs' hp hm =>
    have hf := framesOf_append _ id hp
    by_cases hid : id = id'
    · subst hid
      refine .moved s effect hs hmoved (by simp [hs']) ?_ hm
      simpa [List.filter_map, Function.comp_def] using hf
    · refine .kept (by simp [hs', hid]) ?_
      simpa [List.filter_map, Function.comp_def, Ne.symm hid] using hf
  | expired hop h =>
    subst hop h
    have hf := @framesOf_append sv (sv.expireStaleTurnClaims env) _ id rfl
    rw [KeyedMap.filter_flatMap_entries sv.sessions fun s => (s.expireTurnClaim env.now).2] at hf
    cases hs : sv.sessions.lookup id with
    | none =>
      refine .kept ?_ ?_
      · simp [Supervisor.expireStaleTurnClaims, KeyedMap.lookup_mapValues, hs]
      · simpa [hs] using hf
    | some s =>
      refine .moved s _ hs .expire ?_ ?_ rfl
      · simp [Supervisor.expireStaleTurnClaims, KeyedMap.lookup_mapValues, hs, MetadataStore.quietly]
      · simpa [hs, MetadataStore.quietly] using hf
  | removed ids hids hs hp hm =>
    by_cases hid : id ∈ ids
    · exact .removed (by simp [hs, hid]) (hids id hid)
    · exact .kept (by simp [hs, hid]) (hframes hp)
  | unassigned r sender hop hr hmapped hs hp hm => exact .kept (by rw [hs]) (hframes hp)
  | registered fenced r sender live mapping h =>
    by_cases hid : id = mapping.sessionId
    · exact .installed fenced r sender live mapping h hid.symm
    · rcases h.others id hid with ⟨hmapped, hs⟩ | ⟨hs, hleaves⟩
      · obtain ⟨ended, hfence⟩ := h.fence
        refine .kept hs ?_
        rw [Supervisor.framesOf, h.published]
        exact (Supervisor.fenced_other hfence hmapped).2
      · exact .removed hs hleaves

theorem Supervisor.step_change (sv : Supervisor) (env : Env) (op : Op) (id : String) :
    Change sv env op (sv.step env op) id :=
  (sv.step_outcome env op).change id

end CiaoHost.Session
