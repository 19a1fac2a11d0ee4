import CiaoHost.Managed.Directory
import CiaoHost.Protocol.Descriptor

/-! How a stored managed session is listed and opened (`stored_descriptor` and `stored_snapshot`), and what a record
must be for both to pass the phone's checks. -/

namespace CiaoHost.Managed

open Lib Lib.Checks Lib.Text Protocol

def StoredReason.text : StoredReason → String
  | .daemonRestart => "daemon_restart"
  | .released => "released"
  | .stopped => "stopped"
  | .workerCrash => "worker_crash"
  | .externallyOwned => "externally_owned"

def truncateOnCharBoundary (text : List Char) (limit : ℕ) : List Char :=
  if weight Char.utf8Size text ≤ limit then text
  else ((takeWithin Char.utf8Size limit text).reverse.dropWhile isWhiteSpace).reverse

def firstLineBounded (text : String) (limit : ℕ) : Option String :=
  match (text.toList.splitOn '\n').map (fun line => trim (String.ofList line)) |>.find? (· ≠ []) with
  | none => none
  | some line =>
    let bounded := truncateOnCharBoundary line limit
    if bounded = [] then none else some (String.ofList bounded)

def claudeResumeCommand (vendor : String) : Option String :=
  let command := "claude --resume " ++ vendor
  if validResumeCommand command = .ok () then some command else none

section Projection

variable (humanPrompt : String → Option String) (r : ManagedRecord) (liveTerminals : Finset String)

def liveHandback : Option String := r.handbackSession.filter (· ∈ liveTerminals)

def resumeCommand : Option String :=
  if r.storedReason = some .released then r.vendorSessionId.bind claudeResumeCommand else none

def storedContinuity : String :=
  if (liveHandback r liveTerminals).isSome ∨ (resumeCommand r).isSome then "resumable_session" else "unavailable"

def storedFallback : TerminalFallback :=
  match liveHandback r liveTerminals, resumeCommand r with
  | none, none =>
    ⟨"unavailable", none, some (if r.handbackSession.isSome then "terminal_closed" else "managed_headless"), none, none⟩
  | handback, resume =>
    ⟨"resumable_session", none, if handback.isNone then some "terminal_closed" else none, handback, resume⟩

/-- `stored_descriptor`; `humanPrompt` is the newest prompt that a conversation's transcript shows. -/
def storedDescriptor : AgentSessionDescriptor where
  v := agentProtocolVersion
  sessionId := r.sessionId
  adapterFamily := r.adapterFamily
  adapterVersion := r.adapterVersion
  topology := "managed"
  presence := "stored"
  storedReason := r.storedReason.map StoredReason.text
  processGeneration := r.processGeneration
  observation := ⟨"unavailable", "worker_not_running", none⟩
  turn := .idle
  capabilities := ⟨"none", .none, .none, "none", storedContinuity r liveTerminals⟩
  workspaceDisplay := r.workspaceLabel
  terminalFallback := storedFallback r liveTerminals
  recentPrompt := r.vendorSessionId.bind fun vendor =>
    (humanPrompt vendor).bind (firstLineBounded · maxRecentPromptBytes)
  managedSessionId := none
  takeover := none
  drift := none
  revision := r.revision
  updatedAt := r.updatedAt

def snapshotOf (d : AgentSessionDescriptor) : AgentSessionSnapshot where
  v := agentProtocolVersion
  sessionId := d.sessionId
  snapshotEpoch := d.revision
  revision := d.revision
  processGeneration := d.processGeneration
  adapter := ⟨d.adapterFamily, d.adapterVersion, "compatible"⟩
  topology := d.topology
  presence := d.presence
  storedReason := d.storedReason
  controlOwner := "shared"
  observation := d.observation
  turn := d.turn
  permissionMode := none
  model := none
  effort := none
  models := none
  drift := none
  capabilities := d.capabilities
  pendingInteractions := []
  timelineWindow := ⟨[], false, if r.vendorSessionId.isSome then some "resume" else none, none, none, false⟩
  terminalFallback := d.terminalFallback
  latestCommandReceipts := []

def storedSnapshot (s : ManagedMetadataStore) (sessionId : String) : Option AgentSessionSnapshot :=
  (s.records.find? fun r => r.sessionId = sessionId ∧ r.presence = .stored).map fun r =>
    snapshotOf r (storedDescriptor humanPrompt r liveTerminals)

end Projection

lemma truncateOnCharBoundary_weight (text : List Char) (limit : ℕ) :
    weight Char.utf8Size (truncateOnCharBoundary text limit) ≤ limit := by
  rw [truncateOnCharBoundary]
  split
  · next hfits => exact hfits
  · have hprefix : ((takeWithin Char.utf8Size limit text).reverse.dropWhile isWhiteSpace).reverse <+:
        takeWithin Char.utf8Size limit text := by
      rw [← List.reverse_suffix, List.reverse_reverse]
      exact List.dropWhile_suffix _
    exact (weight_prefix_le hprefix).trans (weight_takeWithin _ _)

lemma firstLineBounded_bound {text line : String} {limit : ℕ} (h : firstLineBounded text limit = some line) :
    line ≠ "" ∧ byteLen line ≤ limit := by
  rw [firstLineBounded] at h
  split at h
  · cases h
  · dsimp only at h
    split at h
    · cases h
    · next hne =>
      obtain rfl := Option.some.inj h
      rw [byteLen_ofList]
      exact ⟨by simpa using hne, truncateOnCharBoundary_weight _ _⟩

lemma claudeResumeCommand_valid {vendor command : String} (h : claudeResumeCommand vendor = some command) :
    validResumeCommand command = .ok () := by
  rw [claudeResumeCommand] at h
  split at h
  · next hvalid =>
    obtain rfl := Option.some.inj h
    exact hvalid
  · cases h

structure ManagedRecord.Presentable (r : ManagedRecord) : Prop where
  sessionId : validOpaqueId r.sessionId = .ok ()
  family : validToken r.adapterFamily = .ok ()
  version : validToken r.adapterVersion = .ok ()
  label : r.workspaceLabel ≠ "" ∧ byteLen r.workspaceLabel ≤ maxWorkspaceLabelBytes
  generation : r.processGeneration ≠ 0
  revision : r.revision ≠ 0
  updatedAt : r.updatedAt ≠ 0
  handback : ∀ name, r.handbackSession = some name →
    validSessionName name ∧ r.presence = .stored ∧ r.storedReason = some .released

section Presentable

variable {r : ManagedRecord} (liveTerminals : Finset String)

lemma StoredReason.text_valid (reason : StoredReason) : validToken reason.text = .ok () := by
  cases reason <;> decide

lemma liveHandback_some {name : String} (h : liveHandback r liveTerminals = some name) :
    r.handbackSession = some name :=
  (Option.filter_eq_some_iff.mp h).1

lemma resumeCommand_some {command : String} (h : resumeCommand r = some command) :
    r.storedReason = some .released ∧ validResumeCommand command = .ok () := by
  rw [resumeCommand] at h
  split at h
  · next hreleased =>
    obtain ⟨vendor, -, hcommand⟩ := Option.bind_eq_some_iff.mp h
    exact ⟨hreleased, claudeResumeCommand_valid hcommand⟩
  · cases h

lemma storedFallback_cases (r : ManagedRecord) :
    (storedContinuity r liveTerminals = "unavailable" ∧ ∃ reason, validToken reason = .ok () ∧
      storedFallback r liveTerminals = ⟨"unavailable", none, some reason, none, none⟩) ∨
    (storedContinuity r liveTerminals = "resumable_session" ∧ ∃ reason : Option String,
      (∀ x, reason = some x → validToken x = .ok ()) ∧
      ((liveHandback r liveTerminals).isSome ∨ (resumeCommand r).isSome) ∧
      storedFallback r liveTerminals =
        ⟨"resumable_session", none, reason, liveHandback r liveTerminals, resumeCommand r⟩) := by
  rw [storedContinuity, storedFallback.eq_def]
  cases hhandback : liveHandback r liveTerminals with
  | none =>
    cases hresume : resumeCommand r with
    | none =>
      refine .inl ⟨by simp, _, ?_, rfl⟩
      split <;> decide
    | some command =>
      refine .inr ⟨by simp, some "terminal_closed", ?_, by simp, rfl⟩
      rintro x hx
      obtain rfl := Option.some.inj hx
      decide
  | some name => exact .inr ⟨by simp, none, by simp, by simp, rfl⟩

lemma storedFallback_continuity (r : ManagedRecord) :
    (storedFallback r liveTerminals).continuity = storedContinuity r liveTerminals := by
  obtain ⟨hc, reason, -, hf⟩ | ⟨hc, reason, -, -, hf⟩ := storedFallback_cases liveTerminals r <;> rw [hc, hf]

variable (h : r.Presentable)
include h

lemma ManagedRecord.Presentable.fallback_valid : (storedFallback r liveTerminals).validate = .ok () := by
  obtain ⟨-, reason, hreason, hf⟩ | ⟨-, reason, hreason, hsome, hf⟩ := storedFallback_cases liveTerminals r
  · rw [hf]
    simp only [TerminalFallback.validate, bind_ok, whenSome_ok, TerminalFallback.routeAgrees]
    refine ⟨by decide, by simp, by simp, ?_, by simp, by simp⟩
    rintro x hx
    obtain rfl := Option.some.inj hx
    exact hreason
  · rw [hf]
    simp only [TerminalFallback.validate, bind_ok, whenSome_ok, refuseIf_ok, not_not, TerminalFallback.routeAgrees]
    refine ⟨by decide, by simp, ?_, hreason, ?_, ?_⟩
    · intro name hname
      exact (h.handback name (liveHandback_some liveTerminals hname)).1
    · intro command hcommand
      exact (resumeCommand_some hcommand).2
    · simp [hsome]

lemma ManagedRecord.Presentable.released (hc : storedContinuity r liveTerminals ≠ "unavailable") :
    r.storedReason = some .released ∧ storedContinuity r liveTerminals = "resumable_session" := by
  obtain ⟨hnone, -⟩ | ⟨hsome, -, -, hroute, -⟩ := storedFallback_cases liveTerminals r
  · exact absurd hnone hc
  · refine ⟨?_, hsome⟩
    rcases hroute with hroute | hroute
    · obtain ⟨name, hname⟩ := Option.isSome_iff_exists.mp hroute
      exact (h.handback name (liveHandback_some liveTerminals hname)).2.2
    · obtain ⟨command, hcommand⟩ := Option.isSome_iff_exists.mp hroute
      exact (resumeCommand_some hcommand).1

lemma ManagedRecord.Presentable.placed :
    validateTopologyPresence "managed" "stored" (r.storedReason.map StoredReason.text) .idle
      ⟨"none", .none, .none, "none", storedContinuity r liveTerminals⟩ = .ok () := by
  simp only [validateTopologyPresence, bind_ok, whenSome_ok, refuseIf_ok]
  refine ⟨?_, by simp [TurnState.isMidTurn], ?_, by simp⟩
  · intro reason hreason
    obtain ⟨stored, -, rfl⟩ := Option.map_eq_some_iff.mp hreason
    exact ⟨stored.text_valid, by simp⟩
  · rintro ⟨-, hroute, hnot⟩
    obtain ⟨hreleased, hresumable⟩ := h.released liveTerminals hroute
    apply hnot
    simp [hreleased, hresumable, StoredReason.text]

lemma ManagedRecord.Presentable.descriptor_valid (humanPrompt : String → Option String) :
    (storedDescriptor humanPrompt r liveTerminals).validate = .ok () := by
  have hcontinuity : validToken (storedContinuity r liveTerminals) = .ok () := by
    rw [storedContinuity]
    split <;> decide
  have hlabel := h.label.2
  rw [maxWorkspaceLabelBytes] at hlabel
  rw [AgentSessionDescriptor.validate_iff]
  exact {
    version := rfl
    sessionId := h.sessionId
    family := h.family
    adapterVersion := h.version
    topology := (by decide : validToken "managed" = .ok ())
    presence := (by decide : validToken "stored" = .ok ())
    generation := h.generation
    revision := h.revision
    updatedAt := h.updatedAt
    display := ⟨h.label.1, hlabel.trans (by decide)⟩
    prompt := by
      intro prompt hprompt
      obtain ⟨vendor, -, hread⟩ := Option.bind_eq_some_iff.mp hprompt
      obtain ⟨text, -, hline⟩ := Option.bind_eq_some_iff.mp hread
      exact firstLineBounded_bound hline
    takeover := fun _ hverb => nomatch hverb
    drift := fun _ hdrift => nomatch hdrift
    observation := (by decide : (Observation.mk "unavailable" "worker_not_running" none).validate = .ok ())
    turn := rfl
    capabilities := by
      simp only [AgentCapabilities.validate, bind_ok]
      have hnone : validToken "none" = .ok () := by decide
      exact ⟨hnone, hnone, hcontinuity, InteractionCapabilities.none_validate⟩
    fallback := h.fallback_valid liveTerminals
    continuity := (storedFallback_continuity liveTerminals r).symm
    placed := h.placed liveTerminals }

end Presentable

lemma snapshotOf_valid {r : ManagedRecord} {d : AgentSessionDescriptor} (h : d.validate = .ok ()) :
    (snapshotOf r d).validate = .ok () := by
  rw [AgentSessionDescriptor.validate_iff] at h
  have hwindow : (snapshotOf r d).timelineWindow.validate = .ok () := by
    change TimelineWindow.validate ⟨[], false, if r.vendorSessionId.isSome then some "resume" else none, none, none,
      false⟩ = .ok ()
    split <;> decide
  simp only [AgentSessionSnapshot.validate, AgentAdapterMetadata.validate, requireVersion, bind_ok, whenSome_ok,
    refuseIf_ok, each_ok]
  refine ⟨not_not.mpr rfl, h.sessionId, ?_, ⟨h.family, h.adapterVersion, (by decide : validToken "compatible" = .ok ())⟩,
    h.topology, h.presence, (by decide : validToken "shared" = .ok ()), h.observation, h.turn, by simp [snapshotOf],
    by simp [snapshotOf], by simp [snapshotOf], by simp [snapshotOf], by simp [snapshotOf], h.capabilities,
    by simp [snapshotOf], by simp [snapshotOf], by simp [snapshotOf], hwindow, h.fallback, ?_, h.placed,
    by simp [snapshotOf]⟩
  · rintro (hzero | hzero | hzero)
    · exact h.revision hzero
    · exact h.revision hzero
    · exact h.generation hzero
  · rintro (hne | ⟨hblocked, -⟩)
    · exact hne h.continuity
    · cases hblocked

end CiaoHost.Managed
