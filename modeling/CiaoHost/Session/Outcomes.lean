import CiaoHost.Session.Moves

/-! What an operation does to the supervisor as a whole, and from it to each session. -/

namespace CiaoHost.Session

open Protocol Lib Lib.Checks

namespace Supervisor

def framesOf (sv : Supervisor) (id : String) : List AgentServerFrame :=
  (sv.published.filter (·.1 = id)).map (·.2)

end Supervisor

inductive Leaves (store : MetadataStore) (env : Env) (id : String) (s : LiveSession) : Op → Prop
  | exited (token : String) (h : s.bridgeDisconnectToken = token) : Leaves store env id s (.disconnect id token true)
  | unbound (binding : TerminalBinding) (h : s.terminalBinding = some binding) :
    Leaves store env id s (.removeBinding id binding)
  | swept (h : ¬ env.processExists s.processId) : Leaves store env id s .sweep
  | superseded (op : Op) (r : NormalizedRegistration) (sender : Option ℕ)
      (hop : op.registration = some (r, sender)) (hbridge : s.bridgeSender = none)
      (hprocess : s.processId = r.processId) : Leaves store env id s op
  | migrated (op : Op) (r : NormalizedRegistration) (sender : Option ℕ)
      (hop : op.registration = some (r, sender))
      (hmapped : (store.mappingFor r.upstreamIdentity).map (·.sessionId) = some id) : Leaves store env id s op

section

variable (sv : Supervisor) (env : Env) (op : Op)

structure Registered (fenced sv' : Supervisor) (r : NormalizedRegistration) (sender : Option ℕ)
    (live : Option ℕ) (mapping : IdentityMapping) : Prop where
  registers : op.registration = some (r, sender)
  valid : r.validate = .ok ()
  fence : ∃ ended, { sv with ended := ended }.fenceSuperseded env (sv.mappedSessionId r) = (fenced, .ok live)
  assign : fenced.metadata.assign env r live = (sv'.metadata, .ok mapping)
  session : sv'.sessions.lookup mapping.sessionId = some (registeredSession r sender (env.ids 1) env.now
    (registrationSnapshot r env mapping (sv'.metadata.receiptsFor mapping.sessionId
      mapping.processGeneration mapping.snapshotEpoch)) (fenced.inheritedTimeline mapping))
  others : ∀ id, id ≠ mapping.sessionId →
    (sv.mappedSessionId r ≠ some id ∧ sv'.sessions.lookup id = sv.sessions.lookup id) ∨
    sv'.sessions.lookup id = none ∧ ∀ s, sv.sessions.lookup id = some s → Leaves sv.metadata env id s op
  published : sv'.published = fenced.published
  carried : sv'.carriedHistory = sv.carriedHistory

/-- A transcript that waits to be carried into a session waited before, or was put there by the operation. -/
def Carries (sv' : Supervisor) : Prop :=
  ∀ id rows, sv'.carriedHistory.lookup id = some rows → sv.carriedHistory.lookup id = some rows ∨
    ∃ source s, op = .carryHistory source id ∧ sv.sessions.lookup source = some s ∧ rows = s.history

inductive Outcome (sv' : Supervisor) : Prop
  | quiet (hs : sv'.sessions = sv.sessions) (hp : sv'.published = sv.published)
      (hm : sv'.metadata = sv.metadata) (hc : Carries sv op sv')
  | put (id : String) (s : LiveSession) (effect : Effect) (hs : sv.sessions.lookup id = some s)
      (hmoved : Moved sv.metadata (sv.carriedHistory.lookup id) env id s op effect)
      (hs' : sv'.sessions = sv.sessions.insert id effect.session)
      (hp : sv'.published = sv.published ++ effect.frames.map fun frame => (id, frame))
      (hm : sv'.metadata = effect.store) (hc : Carries sv op sv')
  | expired (hop : op = .expireTurnClaims) (h : sv' = sv.expireStaleTurnClaims env)
  | removed (ids : List String)
      (hids : ∀ id ∈ ids, ∀ s, sv.sessions.lookup id = some s → Leaves sv.metadata env id s op)
      (hs : ∀ id, sv'.sessions.lookup id = if id ∈ ids then none else sv.sessions.lookup id)
      (hp : sv'.published = sv.published) (hm : sv'.metadata = sv.metadata)
      (hc : sv'.carriedHistory = sv.carriedHistory)
  | unassigned (r : NormalizedRegistration) (sender : Option ℕ) (hop : op.registration = some (r, sender))
      (hr : r.validate = .ok ()) (hmapped : ∀ id ∈ sv.mappedSessionId r, sv.sessions.lookup id = none)
      (hs : sv'.sessions = sv.sessions) (hp : sv'.published = sv.published)
      (hm : sv'.metadata = (sv.metadata.assign env r none).1) (hc : sv'.carriedHistory = sv.carriedHistory)
  | registered (fenced : Supervisor) (r : NormalizedRegistration) (sender live : Option ℕ)
      (mapping : IdentityMapping) (h : Registered sv env op fenced sv' r sender live mapping)

end

namespace Supervisor

variable {sv : Supervisor} {env : Env} {op : Op}

lemma still_outcome : Outcome sv env op sv := .quiet rfl rfl rfl fun _ _ => .inl

variable {id : String}

lemma onSession_outcome {f : LiveSession → LiveSession × List AgentServerFrame}
    (h : ∀ s, Moved sv.metadata (sv.carriedHistory.lookup id) env id s op (sv.metadata.quietly (f s))) :
    Outcome sv env op (sv.onSession id f) := by
  unfold onSession
  split
  · exact still_outcome
  · next s hs => exact .put id s _ hs (h s) rfl rfl rfl fun _ _ => .inl

lemma withSession_outcome {α : Type} {f : LiveSession → (LiveSession × List AgentServerFrame) × Except String α}
    (h : ∀ s, Moved sv.metadata (sv.carriedHistory.lookup id) env id s op (sv.metadata.quietly (f s).1)) :
    Outcome sv env op (sv.withSession id f).1 := by
  unfold withSession
  split
  · exact still_outcome
  · next s hs => exact .put id s _ hs (h s) rfl rfl rfl fun _ _ => .inl

lemma withEffect_outcome {sv' : Supervisor} {f : LiveSession → Effect × Except String Unit}
    (hs : sv'.sessions = sv.sessions) (hp : sv'.published = sv.published) (hm : sv'.metadata = sv.metadata)
    (hc : Carries sv op sv') (h : ∀ s, Moved sv.metadata (sv.carriedHistory.lookup id) env id s op (f s).1) :
    Outcome sv env op (sv'.withEffect id f).1 := by
  unfold withEffect
  split
  · exact .quiet hs hp hm hc
  · next s hlookup =>
    refine .put id s (f s).1 (hs ▸ hlookup) (h s) ?_ ?_ rfl hc
    · simp [putEffect, put, hs]
    · simp [putEffect, put, hp]

lemma guarded_outcome {check : Checked} {refusal : String} {act : Supervisor × Except String Unit}
    (h : check = .ok () → Outcome sv env op act.1) : Outcome sv env op (sv.guarded check refusal act).1 := by
  unfold guarded
  split
  · exact h rfl
  · exact still_outcome

lemma removeSession_lookup (now : ℕ) (id id' : String) :
    (sv.removeSession now id).sessions.lookup id' = if id' = id then none else sv.sessions.lookup id' := by
  unfold removeSession
  split
  · next hnone =>
    split
    · next h => rw [h, hnone]
    · rfl
  · split
    · next h => simp [h]
    · next h => simp [h]

lemma removeSession_quiet (now : ℕ) (id : String) :
    (sv.removeSession now id).published = sv.published ∧ (sv.removeSession now id).metadata = sv.metadata ∧
      (sv.removeSession now id).carriedHistory = sv.carriedHistory := by
  unfold removeSession
  split <;> exact ⟨rfl, rfl, rfl⟩

lemma removeAll_lookup (now : ℕ) (ids : List String) (id' : String) :
    (ids.foldl (removeSession · now) sv).sessions.lookup id' =
      if id' ∈ ids then none else sv.sessions.lookup id' := by
  induction ids generalizing sv with
  | nil => simp
  | cons id ids ih =>
    rw [List.foldl_cons, ih, removeSession_lookup]
    by_cases hid : id' = id <;> simp [hid]

lemma removeAll_quiet (now : ℕ) (ids : List String) : (ids.foldl (removeSession · now) sv).published = sv.published ∧
      (ids.foldl (removeSession · now) sv).metadata = sv.metadata ∧
      (ids.foldl (removeSession · now) sv).carriedHistory = sv.carriedHistory := by
  induction ids generalizing sv with
  | nil => exact ⟨rfl, rfl, rfl⟩
  | cons id ids ih =>
    obtain ⟨hp, hm, hc⟩ := sv.removeSession_quiet now id
    obtain ⟨hp', hm', hc'⟩ := @ih (sv.removeSession now id)
    exact ⟨hp'.trans hp, hm'.trans hm, hc'.trans hc⟩

lemma removeSession_outcome {now : ℕ} (h : ∀ s, sv.sessions.lookup id = some s → Leaves sv.metadata env id s op) :
    Outcome sv env op (sv.removeSession now id) := by
  obtain ⟨hp, hm, hc⟩ := sv.removeSession_quiet now id
  refine .removed [id] (by simpa using h) (fun id' => ?_) hp hm hc
  simp [removeSession_lookup]

variable {command : AgentCommand}

lemma lookupCommand_eq_none {now : ℕ} :
    sv.lookupCommand command now = none ↔ sv.metadata.receipt command.commandId = none := by
  simp [lookupCommand]

lemma markOutcomeUnknown_put {effect : Effect} (reason : String) (now : ℕ) (disk : Except String Unit) :
    ((sv.putEffect command.sessionId effect).markOutcomeUnknown command reason now disk).1 =
      sv.putEffect command.sessionId
        { effect.session.landUnknown effect.store command reason now disk with
          frames := effect.frames ++ (effect.session.landUnknown effect.store command reason now disk).frames } := by
  simp [markOutcomeUnknown, putEffect, put, List.append_assoc]

lemma submitCommand_outcome (command : AgentCommand) :
    Outcome sv env (.submit command) (sv.submitCommand env command).1 := by
  unfold submitCommand
  split
  · exact still_outcome
  · next hcommand =>
    split
    · exact still_outcome
    · next hlookup =>
      have hnew := lookupCommand_eq_none.mp hlookup
      cases hs : sv.sessions.lookup command.sessionId with
      | none =>
        simp only [admitCommand, hs]
        exact still_outcome
      | some s =>
        obtain ⟨effect, admission, htaken⟩ : ∃ effect admission,
            s.takeCommand sv.metadata command env.now env.now (env.disk 0) = (effect, admission) := ⟨_, _, rfl⟩
        have heffect : (s.takeCommand sv.metadata command env.now env.now (env.disk 0)).1 = effect := by rw [htaken]
        cases admission with
        | answered receipt =>
          simp only [admitCommand, hs, htaken]
          exact .put _ s effect hs
            (heffect ▸ .answered command receipt hcommand rfl hnew (by rw [htaken])) rfl rfl rfl fun _ _ => .inl
        | admitted sender receipt =>
          have hunknown : ∀ reason, validToken reason = .ok () → Outcome sv env (.submit command)
              ((sv.putEffect command.sessionId effect).markOutcomeUnknown command reason env.now
                (env.disk 1)).1 := by
            intro reason hreason
            rw [markOutcomeUnknown_put]
            exact .put _ s _ hs (.undelivered command sender receipt reason effect hcommand rfl hnew htaken hreason)
              rfl rfl rfl fun _ _ => .inl
          simp only [admitCommand, hs, htaken, deliverCommand]
          cases sender with
          | none => exact hunknown _ (by decide)
          | some channel =>
            dsimp only
            split
            · exact .put _ s effect hs
                (heffect ▸ .delivered command channel receipt hcommand rfl hnew (by rw [htaken])) rfl rfl rfl fun _ _ => .inl
            · exact hunknown _ (by decide)

lemma recordBridgeReceipt_outcome (id commandId state : String) (evidence reasonCode : Option String) :
    Outcome sv env (.recordReceipt id commandId state evidence reasonCode)
      (sv.recordBridgeReceipt env id commandId state evidence reasonCode).1 := by
  unfold recordBridgeReceipt
  split
  · exact still_outcome
  · next hrefused =>
    split
    · exact still_outcome
    · next s hs =>
      split
      · exact still_outcome
      · next hflight =>
        exact .put id s _ hs (.receipt commandId state evidence reasonCode hrefused (not_not.mp hflight))
          rfl rfl rfl fun _ _ => .inl

lemma bridgeDisconnected_outcome (id token : String) (processExited : Bool) :
    Outcome sv env (.disconnect id token processExited) (sv.bridgeDisconnected env id token processExited) := by
  unfold bridgeDisconnected
  split
  · exact still_outcome
  · next s hs =>
    split
    · exact still_outcome
    · next htoken =>
      split
      · next hexit =>
        subst hexit
        refine removeSession_outcome fun s' hs' => .exited token ?_
        rw [hs] at hs'
        cases hs'
        exact not_not.mp htoken
      · next hexit =>
        rw [Bool.not_eq_true] at hexit
        subst hexit
        exact .put id s _ hs (.disconnect token (not_not.mp htoken)) rfl rfl rfl fun _ _ => .inl

lemma endObservedSession_outcome (id : String) (generation : ℕ) :
    Outcome sv env (.endObserved id generation) (sv.endObservedSession env id generation) := by
  unfold endObservedSession
  split
  · exact still_outcome
  · next s hs =>
    split
    · exact still_outcome
    · next h =>
      rw [not_or, Option.not_isSome_iff_eq_none, not_not] at h
      obtain ⟨hbridge, rfl⟩ := h
      exact .put id s _ hs (.observedEnd hbridge) rfl rfl rfl fun _ _ => .inl

lemma endAdoptedSession_outcome (id : String) (generation : ℕ) (reason : String) :
    Outcome sv env (.endAdopted id generation reason) (sv.endAdoptedSession env id generation reason) := by
  unfold endAdoptedSession
  split
  · exact still_outcome
  · next s hs =>
    split
    · exact still_outcome
    · next h =>
      rw [not_or, not_not, not_not] at h
      obtain ⟨htopology, rfl⟩ := h
      exact .put id s _ hs (.adoptedEnd reason htopology) rfl rfl rfl fun _ _ => .inl

lemma refreshRoute_outcome (id : String) (proof : Option AgentRouteProof) :
    Outcome sv env (.refreshRoute id proof) (sv.refreshRoute env id proof) := by
  unfold refreshRoute
  split
  · exact still_outcome
  · next s hs =>
    split
    · next h => cases proof <;> exact .put id s _ hs (.route _ h) rfl rfl rfl fun _ _ => .inl
    · exact still_outcome

lemma downgradeIfCurrent_outcome (routeId id : String) (generation : ℕ) (reason : String) :
    Outcome sv env (.downgradeRoute routeId id generation reason)
      (sv.downgradeIfCurrent env routeId id generation reason) := by
  unfold downgradeIfCurrent
  split
  · exact still_outcome
  · next s hs =>
    split
    · next h =>
      obtain ⟨hroute, rfl⟩ := h
      exact .put id s _ hs (.routeLost routeId reason hroute) rfl rfl rfl fun _ _ => .inl
    · exact still_outcome

end Supervisor

end CiaoHost.Session
