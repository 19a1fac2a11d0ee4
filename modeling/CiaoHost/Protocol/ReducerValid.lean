import CiaoHost.Protocol.Valid
import CiaoHost.Protocol.Deliveries

/-! What the reducer makes of a valid snapshot: when an applied delta leaves it valid, and when a
refused one leaves it alone. -/

namespace CiaoHost.Protocol

open Lib.Checks Lib.Text Lib.KeyedList

variable {changes : List AgentDeltaChange}

namespace AgentSessionSnapshot

variable {s s' : AgentSessionSnapshot}

lemma applyChanges_keeps {P : AgentSessionSnapshot → Prop}
    (hstep : ∀ s, P s → ∀ c ∈ changes, P (s.applyChange c).1) (h : P s) : P (s.applyChanges changes).1 := by
  induction changes generalizing s with
  | nil => exact h
  | cons c rest ih =>
    have hnext := hstep s h c List.mem_cons_self
    rw [applyChanges]
    cases hc : s.applyChange c with
    | mk s' outcome =>
      rw [hc] at hnext
      cases outcome with
      | ok _ => exact ih (fun s hs c hmem => hstep s hs c (List.mem_cons_of_mem _ hmem)) hnext
      | error e => exact hnext

lemma applyProof_keeps {P : AgentSessionSnapshot → Prop}
    (hstep : ∀ s, P s → ∀ c ∈ changes, P (s.applyProof c)) (h : P s) : P (changes.foldl applyProof s) := by
  induction changes generalizing s with
  | nil => exact h
  | cons c rest ih =>
    exact ih (fun s hs c hmem => hstep s hs c (List.mem_cons_of_mem _ hmem)) (hstep s h c List.mem_cons_self)

lemma Parts.routed (h : s.Parts) {fallback : TerminalFallback} (hvalid : fallback.validate = .ok ()) : Parts { s with
      terminalFallback := fallback
      capabilities := { s.capabilities with terminalContinuity := fallback.continuity } } := by
  have hcaps := h.capabilities
  have hcont : validToken fallback.continuity = .ok () := by
    simp only [TerminalFallback.validate, bind_ok] at hvalid
    exact hvalid.1
  simp only [AgentCapabilities.validate, bind_ok] at hcaps
  refine { h with fallback := hvalid, capabilities := ?_ }
  simp only [AgentCapabilities.validate, bind_ok]
  exact ⟨hcaps.1, hcaps.2.1, hcont, hcaps.2.2.2⟩

lemma Parts.applyProof (h : s.Parts) {c : AgentDeltaChange} (hc : c.validate = .ok ()) : (s.applyProof c).Parts := by
  cases c with
  | terminalFallback fallback => exact h.routed hc
  | capabilities offered => exact { h with capabilities := hc }
  | _ => exact h

end AgentSessionSnapshot

namespace TimelineWindow

variable {w : TimelineWindow} {entry : TimelineEntry}

lemma mem_upsertEntry {e : TimelineEntry} (h : e ∈ (w.upsertEntry entry).entries) : e = entry ∨ e ∈ w.entries := by
  simp only [upsertEntry] at h
  split at h
  · split at h
    · exact mem_of_mem_replaceFirst h
    · exact .inr h
  · split at h
    · have hmem := List.mem_of_mem_tail h
      rw [mem_sortByKey, List.mem_append, List.mem_singleton] at hmem
      exact hmem.symm
    · rw [mem_sortByKey, List.mem_append, List.mem_singleton] at h
      exact h.symm

lemma WellFormed.upsertEntry (h : w.WellFormed) (hentry : entry.validate = .ok ()) :
    (w.upsertEntry entry).WellFormed := by
  refine ⟨?_, ?_, fun e he => ?_, rfl, rfl⟩
  · have hcount := h.count
    simp only [TimelineWindow.upsertEntry]
    split
    · split
      · simpa using hcount
      · exact hcount
    · split
      · simp only [List.length_tail, length_sortByKey, List.length_append, List.length_singleton]
        omega
      · next hle => exact not_lt.mp hle
  · have hboundary := h.boundary
    simp only [TimelineWindow.upsertEntry]
    split <;> split <;> exact hboundary
  · rcases mem_upsertEntry he with rfl | he
    · exact hentry
    · exact h.entries e he

def Named (rows : List TimelineEntry) : Prop :=
  ∀ a ∈ rows, ∀ b ∈ rows, a.entryId = b.entryId ↔ a.sequence = b.sequence

instance (rows : List TimelineEntry) : Decidable (Named rows) :=
  inferInstanceAs (Decidable (∀ a ∈ rows, ∀ b ∈ rows, a.entryId = b.entryId ↔ a.sequence = b.sequence))

/-- The rows are among `rows` and stand in order. -/
def Drawn (rows : List TimelineEntry) (w : TimelineWindow) : Prop :=
  (∀ e ∈ w.entries, e ∈ rows) ∧ w.entries.Pairwise (·.sequence < ·.sequence)

lemma Drawn.upsertEntry {rows : List TimelineEntry} (hnamed : Named rows) (h : w.Drawn rows)
    (hentry : entry ∈ rows) : (w.upsertEntry entry).Drawn rows := by
  refine ⟨fun e he => ?_, ?_⟩
  · rcases mem_upsertEntry he with rfl | he
    · exact hentry
    · exact h.1 e he
  · simp only [TimelineWindow.upsertEntry]
    split
    · split
      · -- The row in its place has the sequence of the one it replaces.
        have hsequences : (replaceFirst TimelineEntry.entryId entry w.entries).map TimelineEntry.sequence =
            w.entries.map TimelineEntry.sequence :=
          map_replaceFirst _ fun e he hid => (hnamed e (h.1 e he) entry hentry).mp hid
        rw [← List.pairwise_map (f := TimelineEntry.sequence) (R := (· < ·)), hsequences, List.pairwise_map]
        exact h.2
      · exact h.2
    · next hfind =>
      have hfresh : entry.sequence ∉ w.entries.map TimelineEntry.sequence := by
        intro hmem
        obtain ⟨e, he, hseq⟩ := List.mem_map.mp hmem
        have hid := (hnamed e (h.1 e he) entry hentry).mpr hseq
        exact absurd (List.find?_eq_none.mp hfind e he) (by simpa using hid)
      have hnodup : ((w.entries ++ [entry]).map TimelineEntry.sequence).Nodup := by
        rw [List.map_append, List.nodup_append]
        refine ⟨?_, List.nodup_singleton _, ?_⟩
        · rw [List.Nodup, List.pairwise_map]
          exact h.2.imp fun hlt => hlt.ne
        · rintro a ha b hb rfl
          rw [List.map_singleton, List.mem_singleton] at hb
          exact hfresh (hb ▸ ha)
      have hsorted := sortByKey_strict hnodup
      split
      · exact hsorted.tail
      · exact hsorted

end TimelineWindow

namespace AgentSessionSnapshot

variable {s : AgentSessionSnapshot}

lemma Parts.upsertInteraction (h : s.Parts) {interaction : PendingInteraction}
    (hvalid : interaction.validate = .ok ()) : (s.upsertInteraction interaction).1.Parts := by
  rw [AgentSessionSnapshot.upsertInteraction]
  split
  · split
    · refine { h with pendingCount := ?_, interactions := fun i hi => ?_ }
      · rw [length_replaceFirst]
        exact h.pendingCount
      · rcases mem_of_mem_replaceFirst hi with rfl | hi
        · exact hvalid
        · exact h.interactions i hi
    · exact h
  · split
    · exact h
    · next hroom =>
      refine { h with pendingCount := ?_, interactions := fun i hi => ?_ }
      · rw [List.length_append, List.length_singleton]
        omega
      · rcases List.mem_append.mp hi with hi | hi
        · exact h.interactions i hi
        · rw [List.mem_singleton.mp hi]
          exact hvalid

lemma mem_boundReceipts {receipts : List CommandReceipt} {r : CommandReceipt} (h : r ∈ boundReceipts receipts) :
    r ∈ receipts := by
  rw [boundReceipts] at h
  split at h
  · exact List.mem_of_mem_tail h
  · exact h

lemma Parts.upsertReceipt (h : s.Parts) {receipt : CommandReceipt} (hvalid : receipt.validate = .ok ()) :
    (s.upsertReceipt receipt).1.Parts := by
  rw [AgentSessionSnapshot.upsertReceipt]
  split
  · exact h
  · next howns =>
    have howns := not_not.mp howns
    split
    · split
      · exact h
      · split
        · refine { h with receiptCount := ?_, receipts := fun r hr => ?_ }
          · rw [length_replaceFirst]
            exact h.receiptCount
          · rcases mem_of_mem_replaceFirst hr with rfl | hr
            · exact ⟨hvalid, howns⟩
            · exact h.receipts r hr
        · exact h
    · refine { h with receiptCount := ?_, receipts := fun r hr => ?_ }
      · have hcount := h.receiptCount
        rw [boundReceipts]
        split
        · rw [List.length_tail, List.length_append, List.length_singleton]
          omega
        · next hle => exact not_lt.mp hle
      · rcases List.mem_append.mp (mem_boundReceipts hr) with hr | hr
        · exact h.receipts r hr
        · rw [List.mem_singleton.mp hr]
          exact ⟨hvalid, howns⟩

lemma Parts.applyChange (h : s.Parts) {c : AgentDeltaChange} (hc : c.validate = .ok ()) :
    (s.applyChange c).1.Parts := by
  cases c with
  | upsertEntry entry => exact { h with window := h.window.upsertEntry hc }
  | observation reported => exact { h with observation := hc }
  | turn reported => exact { h with turn := hc }
  | permissionMode mode =>
    refine { h with permissionMode := fun mode' hm => ?_ }
    cases hm
    simpa [AgentDeltaChange.validate] using hc
  | model value =>
    refine { h with model := fun value' hm => ?_ }
    cases hm
    exact hc
  | effort level =>
    refine { h with effort := fun level' hm => ?_ }
    cases hm
    exact hc
  | modelCatalogue models =>
    refine { h with models := fun models' hm => ?_ }
    cases hm
    exact hc
  | upsertInteraction interaction => exact h.upsertInteraction hc
  | removeInteraction interactionId resolution =>
    refine { h with pendingCount := ?_, interactions := fun i hi => ?_ }
    · exact (List.length_filter_le _ _).trans h.pendingCount
    · exact h.interactions i (List.mem_of_mem_filter hi)
  | commandReceipt receipt => exact h.upsertReceipt hc
  | unknown =>
    have hreason : validToken "unsupported_delta" = .ok () := by decide
    exact { h with turn := hreason }
  | capabilities offered | terminalFallback fallback => exact h

end AgentSessionSnapshot

namespace AgentDeltaChange

def leavesDormant : AgentDeltaChange → Bool
  | .turn reported => !reported.isMidTurn
  | .capabilities offered => offered.commands = .none ∧ offered.interactions = .none
  | .upsertInteraction _ => false
  | _ => true

def routesOnlyTo (continuity : String) : AgentDeltaChange → Bool
  | .terminalFallback fallback => fallback.continuity = continuity
  | _ => true

def entry? : AgentDeltaChange → Option TimelineEntry
  | .upsertEntry entry => some entry
  | _ => none

def isInteraction : AgentDeltaChange → Bool
  | .upsertInteraction _ => true
  | _ => false

end AgentDeltaChange

namespace AgentSessionSnapshot

variable {s : AgentSessionSnapshot} {d : AgentSessionDelta} {c : AgentDeltaChange}

/-- The delta fits the session it is for: it renumbers no row and gives no number twice, it starts
nothing on a stored session, and it leaves an adopted one resumable. -/
structure Suits (s : AgentSessionSnapshot) (d : AgentSessionDelta) : Prop where
  rows : TimelineWindow.Named (s.timelineWindow.entries ++ d.changes.filterMap AgentDeltaChange.entry?)
  stored : s.presence = "stored" → ∀ c ∈ d.changes, c.leavesDormant
  adopted : s.topology = "adopted" → ∀ c ∈ d.changes, c.routesOnlyTo "resumable_session"

/-- Nothing in the delta is refused once the delta itself is accepted: its cards find room, and no way
back to a terminal is on a managed session or reported for it. -/
structure Admits (s : AgentSessionSnapshot) (d : AgentSessionDelta) : Prop where
  room : s.pendingInteractions.length + d.changes.countP AgentDeltaChange.isInteraction ≤ maxPendingInteractions
  unrouted : s.topology = "managed" → s.terminalFallback.continuity = "unavailable"
  routes : s.topology = "managed" → ∀ c ∈ d.changes, c.routesOnlyTo "unavailable"

section

variable (s : AgentSessionSnapshot)

lemma applyProof_place (c : AgentDeltaChange) :
    (s.applyProof c).topology = s.topology ∧ (s.applyProof c).presence = s.presence ∧
      (s.applyProof c).storedReason = s.storedReason ∧ (s.applyProof c).timelineWindow = s.timelineWindow ∧
      (s.applyProof c).pendingInteractions = s.pendingInteractions ∧ (s.applyProof c).turn = s.turn := by
  cases c <;> exact ⟨rfl, rfl, rfl, rfl, rfl, rfl⟩

lemma upsertInteraction_eq (i : PendingInteraction) :
    (s.upsertInteraction i).1 = { s with pendingInteractions := (s.upsertInteraction i).1.pendingInteractions } := by
  rw [upsertInteraction]
  split <;> split <;> rfl

lemma upsertReceipt_eq (r : CommandReceipt) :
    (s.upsertReceipt r).1 = { s with latestCommandReceipts := (s.upsertReceipt r).1.latestCommandReceipts } := by
  rw [upsertReceipt]
  split
  · rfl
  · split
    · split
      · rfl
      · split <;> rfl
    · rfl

lemma applyChange_place (c : AgentDeltaChange) :
    (s.applyChange c).1.topology = s.topology ∧ (s.applyChange c).1.presence = s.presence ∧
      (s.applyChange c).1.storedReason = s.storedReason ∧
      (s.applyChange c).1.terminalFallback = s.terminalFallback ∧
      (s.applyChange c).1.capabilities = s.capabilities := by
  cases c with
  | upsertInteraction interaction =>
    rw [applyChange, upsertInteraction_eq]
    exact ⟨rfl, rfl, rfl, rfl, rfl⟩
  | commandReceipt receipt =>
    rw [applyChange, upsertReceipt_eq]
    exact ⟨rfl, rfl, rfl, rfl, rfl⟩
  | _ => exact ⟨rfl, rfl, rfl, rfl, rfl⟩

end

structure Reduces (s₀ : AgentSessionSnapshot) (rows : List TimelineEntry) (s : AgentSessionSnapshot) : Prop where
  parts : s.Parts
  topology : s.topology = s₀.topology
  presence : s.presence = s₀.presence
  storedReason : s.storedReason = s₀.storedReason
  drawn : s.timelineWindow.Drawn rows
  dormant : s.Dormant
  adopted : s.topology = "adopted" → s.terminalFallback.continuity = "resumable_session"

variable {s₀ : AgentSessionSnapshot} {rows : List TimelineEntry}

lemma Reduces.applyProof (h : s₀.Reduces rows s)
    (hc : c.validate = .ok ()) (hstored : s₀.presence = "stored" → c.leavesDormant)
    (hadopted : s₀.topology = "adopted" → c.routesOnlyTo "resumable_session") :
    s₀.Reduces rows (s.applyProof c) := by
  obtain ⟨htopology, hpresence, hreason, hwindow, hpending, hturn⟩ := s.applyProof_place c
  refine ⟨h.parts.applyProof hc, htopology.trans h.topology, hpresence.trans h.presence,
    hreason.trans h.storedReason, hwindow ▸ h.drawn, fun hp => ?_, fun ha => ?_⟩
  · rw [hpresence] at hp
    obtain ⟨hnone, hidle, hcommands, hinteractions⟩ := h.dormant hp
    refine ⟨hpending.trans hnone, by rw [hturn, hidle], ?_⟩
    cases c with
    | capabilities offered =>
      have hquiet := hstored (h.presence ▸ hp)
      simpa [AgentDeltaChange.leavesDormant, AgentSessionSnapshot.applyProof] using hquiet
    | _ => exact ⟨hcommands, hinteractions⟩
  · cases c with
    | terminalFallback fallback =>
      have hroute := hadopted (h.topology ▸ ha)
      simpa [AgentDeltaChange.routesOnlyTo, AgentSessionSnapshot.applyProof] using hroute
    | _ => exact h.adopted ha

lemma Reduces.applyChange (hnamed : TimelineWindow.Named rows) (h : s₀.Reduces rows s) (hc : c.validate = .ok ())
    (hentry : ∀ entry, c.entry? = some entry → entry ∈ rows)
    (hstored : s₀.presence = "stored" → c.leavesDormant) : s₀.Reduces rows (s.applyChange c).1 := by
  obtain ⟨htopology, hpresence, hreason, hfallback, hcapabilities⟩ := s.applyChange_place c
  refine ⟨h.parts.applyChange hc, htopology.trans h.topology, hpresence.trans h.presence,
    hreason.trans h.storedReason, ?_, fun hp => ?_, fun ha => ?_⟩
  · cases c with
    | upsertEntry entry => exact h.drawn.upsertEntry hnamed (hentry entry rfl)
    | upsertInteraction interaction =>
      rw [AgentSessionSnapshot.applyChange, upsertInteraction_eq]
      exact h.drawn
    | commandReceipt receipt =>
      rw [AgentSessionSnapshot.applyChange, upsertReceipt_eq]
      exact h.drawn
    | _ => exact h.drawn
  · rw [hpresence] at hp
    have hquiet := hstored (h.presence ▸ hp)
    obtain ⟨hnone, hidle, hoffers⟩ := h.dormant hp
    rw [hcapabilities]
    refine ⟨?_, ?_, hoffers⟩
    · cases c with
      | upsertInteraction interaction => simp [AgentDeltaChange.leavesDormant] at hquiet
      | removeInteraction interactionId resolution => simp [AgentSessionSnapshot.applyChange, hnone]
      | commandReceipt receipt =>
        rw [AgentSessionSnapshot.applyChange, upsertReceipt_eq]
        exact hnone
      | _ => exact hnone
    · cases c with
      | turn reported => simpa [AgentDeltaChange.leavesDormant, AgentSessionSnapshot.applyChange] using hquiet
      | upsertInteraction interaction => simp [AgentDeltaChange.leavesDormant] at hquiet
      | commandReceipt receipt =>
        rw [AgentSessionSnapshot.applyChange, upsertReceipt_eq]
        exact hidle
      | unknown => rfl
      | _ => exact hidle
  · rw [htopology] at ha
    rw [hfallback]
    exact h.adopted ha

lemma Parts.enforced (h : s.Parts) : s.enforceReducerInvariants.1.Parts := by
  have hturn : (if s.hasUnresolvedBlocking then { s with turn := .awaitingInteraction none } else s).Parts := by
    split
    · exact { h with turn := rfl }
    · exact h
  exact hturn.routed hturn.fallback

def changedBy (s : AgentSessionSnapshot) (d : AgentSessionDelta) : AgentSessionSnapshot × Checked :=
  (d.changes.foldl AgentSessionSnapshot.applyProof s).applyChanges d.changes

lemma applyDelta_of_applied (h : (applyDelta s d).2 = .ok .applied) : d.validate = .ok () ∧ s.revision < d.revision ∧
      { (s.changedBy d).1 with revision := d.revision }.enforceReducerInvariants = ((applyDelta s d).1, .ok ()) := by
  rw [applyDelta] at h ⊢
  split at h
  · cases h
  · next hvalid =>
    refine ⟨hvalid, ?_⟩
    split_ifs at h ⊢ with hidentity hpassed hequal hgap
    · cases h
    · cases h
    · cases h
    · cases h
    · refine ⟨not_le.mp hpassed, ?_⟩
      rw [changedBy]
      split at h
      · cases h
      · next changed hchanged =>
        rw [hchanged]
        cases henforced : ({ changed with revision := d.revision } : AgentSessionSnapshot).enforceReducerInvariants with
        | mk enforced outcome =>
          rw [henforced] at h
          cases outcome with
          | error e => cases h
          | ok u => rfl

lemma applyDelta_of_error {e : AgentProtocolError} (h : (applyDelta s d).2 = .error e) :
    (applyDelta s d).1 = s ∨ d.validate = .ok () ∧ ((s.changedBy d).2 ≠ .ok () ∨
      { (s.changedBy d).1 with revision := d.revision }.enforceReducerInvariants.2 ≠ .ok ()) := by
  rw [applyDelta] at h ⊢
  split at h
  · exact .inl rfl
  · next hvalid =>
    split_ifs at h ⊢ with hidentity hpassed hequal
    · refine .inr ⟨hvalid, ?_⟩
      rw [changedBy]
      split at h
      · next changed refusal hchanged =>
        rw [hchanged]
        exact .inl (by simp)
      · next changed hchanged =>
        rw [hchanged]
        refine .inr fun hok => ?_
        cases henforced : ({ changed with revision := d.revision } : AgentSessionSnapshot).enforceReducerInvariants with
        | mk enforced outcome =>
          rw [henforced] at h hok
          cases hok
          cases h

lemma each_change_valid (h : d.validate = .ok ()) : ∀ c ∈ d.changes, c.validate = .ok () := by
  simp only [AgentSessionDelta.validate, bind_ok, each_ok] at h
  exact h.2.2.2

lemma Suits.reduces (hvalid : s.validate = .ok ()) (hdelta : d.validate = .ok ()) (h : s.Suits d) :
    s.Reduces (s.timelineWindow.entries ++ d.changes.filterMap AgentDeltaChange.entry?) (s.changedBy d).1 := by
  obtain ⟨hparts, -, hsorted, -, -, hdormant, -, hrouted⟩ := validate_ok_iff.mp hvalid
  have hchanges := each_change_valid hdelta
  apply applyChanges_keeps
  · intro s' hs' c hc
    refine hs'.applyChange h.rows (hchanges c hc) (fun entry hentry => ?_) fun hp => h.stored hp c hc
    exact List.mem_append_right _ (List.mem_filterMap.mpr ⟨c, hc, hentry⟩)
  · apply applyProof_keeps
    · intro s' hs' c hc
      exact hs'.applyProof (hchanges c hc) (fun hp => h.stored hp c hc) fun ha => h.adopted ha c hc
    · exact ⟨hparts, rfl, rfl, rfl, ⟨fun e he => List.mem_append_left _ he, hsorted⟩, hdormant, hrouted.adopted⟩

lemma enforceReducerInvariants_turn (s : AgentSessionSnapshot) : s.enforceReducerInvariants.1.turn =
      if s.hasUnresolvedBlocking then .awaitingInteraction none else s.turn := by
  simp only [enforceReducerInvariants]
  split <;> rfl

lemma enforceReducerInvariants_rest (s : AgentSessionSnapshot) : s.enforceReducerInvariants.1 = { s with
      turn := s.enforceReducerInvariants.1.turn
      capabilities := { s.capabilities with terminalContinuity := s.terminalFallback.continuity } } := by
  simp only [enforceReducerInvariants]
  split <;> rfl

lemma enforceReducerInvariants_ok : s.enforceReducerInvariants.2 = .ok () ↔
    ¬ (s.topology = "managed" ∧ s.terminalFallback.continuity ≠ "unavailable") := by
  simp only [enforceReducerInvariants, refuseIf_ok]
  split <;> rfl

lemma Reduces.enforced_valid {changed s' : AgentSessionSnapshot} {revision : ℕ}
    (hplaced : s₀.Placed) (h : s₀.Reduces rows changed) (hrevision : revision ≠ 0)
    (henforced : { changed with revision := revision }.enforceReducerInvariants = (s', .ok ())) :
    s'.validate = .ok () := by
  have hparts : Parts { changed with revision := revision } := { h.parts with }
  have hturn : { changed with revision := revision }.enforceReducerInvariants.1.turn =
      if changed.hasUnresolvedBlocking then .awaitingInteraction none else changed.turn :=
    enforceReducerInvariants_turn { changed with revision := revision }
  have hrest := enforceReducerInvariants_rest { changed with revision := revision }
  have hparts' := hparts.enforced
  have hroute := enforceReducerInvariants_ok.mp (congrArg Prod.snd henforced)
  rw [henforced] at hturn hrest hparts'
  generalize hnow : s'.turn = now at hturn hrest
  subst hrest
  rw [validate_ok_iff]
  refine ⟨hparts', hrevision, h.drawn.2, rfl, fun hblocked => ?_, fun hp => ?_, ?_, ?_⟩
  · have hblocked : changed.hasUnresolvedBlocking := hblocked
    rw [hturn, if_pos hblocked]
    rfl
  · obtain ⟨hnone, hidle, hoffers⟩ := h.dormant hp
    have hunblocked : changed.hasUnresolvedBlocking = false := by
      rw [hasUnresolvedBlocking, hnone]
      rfl
    refine ⟨hnone, ?_, hoffers⟩
    rw [hturn, hunblocked]
    exact hidle
  · refine ⟨fun reason hr => ?_, fun hp => ?_, fun ha => ?_⟩
    · obtain ⟨htoken, hp⟩ := hplaced.reason reason (h.storedReason ▸ hr)
      exact ⟨htoken, h.presence.trans hp⟩
    · exact h.topology.trans (hplaced.stored (h.presence ▸ hp))
    · exact h.presence.trans (hplaced.adopted (h.topology ▸ ha))
  · exact ⟨fun hm hne => absurd ⟨hm, hne⟩ hroute, h.adopted⟩

lemma applyChange_pending (s : AgentSessionSnapshot) (c : AgentDeltaChange) :
    (s.applyChange c).1.pendingInteractions.length ≤
      s.pendingInteractions.length + if c.isInteraction then 1 else 0 := by
  cases c with
  | upsertInteraction interaction =>
    simp only [applyChange, upsertInteraction, AgentDeltaChange.isInteraction, if_true]
    split
    · split
      · rw [length_replaceFirst]
        exact Nat.le_succ _
      · exact Nat.le_succ _
    · split
      · exact Nat.le_succ _
      · rw [List.length_append, List.length_singleton]
  | removeInteraction interactionId resolution => exact List.length_filter_le _ _
  | commandReceipt receipt =>
    rw [applyChange, upsertReceipt_eq]
    exact le_rfl
  | _ => exact le_rfl

lemma applyChange_ok (hc : c.validate = .ok ())
    (hroom : s.pendingInteractions.length + (if c.isInteraction then 1 else 0) ≤ maxPendingInteractions) :
    (s.applyChange c).2 = .ok () := by
  cases c with
  | upsertInteraction interaction =>
    simp only [applyChange, upsertInteraction]
    split
    · split <;> rfl
    · rw [if_neg]
      simp only [AgentDeltaChange.isInteraction, if_true] at hroom
      omega
  | commandReceipt receipt =>
    -- A receipt that says applied without evidence is refused by its own check.
    have hevidence := ((CommandReceipt.validate_ok receipt).mp hc).2.2.2.2.2.2
    simp only [applyChange, upsertReceipt]
    split
    · rfl
    · split
      · split
        · next hclaims => exact absurd hclaims.2.2 (hevidence hclaims.2.1)
        · split <;> rfl
      · rfl
  | _ => rfl

lemma applyChanges_ok (hchanges : ∀ c ∈ changes, c.validate = .ok ())
    (hroom : s.pendingInteractions.length + changes.countP AgentDeltaChange.isInteraction ≤
      maxPendingInteractions) : (s.applyChanges changes).2 = .ok () := by
  induction changes generalizing s with
  | nil => rfl
  | cons c rest ih =>
    rw [List.countP_cons] at hroom
    have hok : (s.applyChange c).2 = .ok () := applyChange_ok (hchanges c List.mem_cons_self) (by omega)
    have hpending := s.applyChange_pending c
    rw [applyChanges]
    cases hc : s.applyChange c with
    | mk s' outcome =>
      rw [hc] at hok hpending
      cases hok
      exact ih (fun c hmem => hchanges c (List.mem_cons_of_mem _ hmem)) (by dsimp only at hpending; omega)

lemma applyProof_route {continuity : String} (h : s.terminalFallback.continuity = continuity)
    (hc : c.routesOnlyTo continuity) : (s.applyProof c).terminalFallback.continuity = continuity := by
  cases c with
  | terminalFallback fallback => simpa [AgentDeltaChange.routesOnlyTo, applyProof] using hc
  | _ => exact h

lemma changedBy_route (htopology : s.topology = "managed" → s.terminalFallback.continuity = "unavailable")
    (hroutes : s.topology = "managed" → ∀ c ∈ d.changes, c.routesOnlyTo "unavailable") :
    (s.changedBy d).1.topology = "managed" → (s.changedBy d).1.terminalFallback.continuity = "unavailable" := by
  have hkept : (s.changedBy d).1.topology = s.topology ∧
      (s.topology = "managed" → (s.changedBy d).1.terminalFallback.continuity = "unavailable") := by
    apply applyChanges_keeps (P := fun s' => s'.topology = s.topology ∧
      (s.topology = "managed" → s'.terminalFallback.continuity = "unavailable"))
    · intro s' hs' c _
      obtain ⟨htop, -, -, hfallback, -⟩ := s'.applyChange_place c
      rw [htop, hfallback]
      exact hs'
    · apply applyProof_keeps (P := fun s' => s'.topology = s.topology ∧
        (s.topology = "managed" → s'.terminalFallback.continuity = "unavailable"))
      · intro s' hs' c hc
        exact ⟨(s'.applyProof_place c).1.trans hs'.1, fun hm => applyProof_route (hs'.2 hm) (hroutes hm c hc)⟩
      · exact ⟨rfl, htopology⟩
  exact fun hm => hkept.2 (hkept.1 ▸ hm)

lemma applyProof_pending (changes : List AgentDeltaChange) (s : AgentSessionSnapshot) :
    (changes.foldl applyProof s).pendingInteractions = s.pendingInteractions :=
  applyProof_keeps (P := fun s' => s'.pendingInteractions = s.pendingInteractions)
    (fun s' hs' c _ => (s'.applyProof_place c).2.2.2.2.1.trans hs') rfl

namespace Sample

def row (entryId : String) (sequence : ℕ) : TimelineEntry :=
  ⟨entryId, 1, sequence, 1, "complete", "assistant_message", .text "hello", ⟨false, none, none⟩⟩

def card : PendingInteraction :=
  ⟨"i-1", 1, "permission", true, 1, none, none, "Run it?", .unsupported, ⟨"unavailable", none, none, none, none⟩, "pending"⟩

def oneRow : AgentSessionSnapshot :=
  { snapshot with timelineWindow := ⟨[row "e-1" 1], false, none, some 1, some 1, false⟩ }

def rowAndCard : AgentSessionDelta :=
  ⟨1, "s-1", 7, 1, 3, 4, [.upsertEntry (row "e-2" 2), .upsertInteraction card, .turn .idle]⟩

def sameNumber : AgentSessionDelta := ⟨1, "s-1", 7, 1, 3, 4, [.upsertEntry (row "e-2" 1)]⟩

def modeAndRoute : AgentSessionDelta :=
  ⟨1, "s-1", 7, 1, 3, 4, [.permissionMode "plan", .terminalFallback ⟨"exact_live", some "r-1", none, none, none⟩]⟩

end Sample

end AgentSessionSnapshot

end CiaoHost.Protocol
