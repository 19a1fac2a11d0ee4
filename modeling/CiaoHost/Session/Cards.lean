import CiaoHost.Session.Writes

/-! The cards that a session shows, and the operations that put them up, take them away or leave
them alone. -/

namespace CiaoHost.Session

open Protocol Lib Lib.Checks Lib.KeyedList

variable {result : LiveSession × List AgentServerFrame}

namespace LiveSession

variable {s : LiveSession}

lemma Rowed.pending {now : ℕ} (h : Rowed s now result) :
    result.1.snapshot.pendingInteractions = s.snapshot.pendingInteractions := by
  cases h with
  | quiet t => rfl
  | row t canonical =>
    apply publishEntry_keeps (P := fun s' => s'.snapshot.pendingInteractions = s.snapshot.pendingInteractions)
    · rfl
    · exact fun _ _ h => h
    · exact fun _ h => h
    · exact fun _ h => h

section

variable (s : LiveSession)

lemma noteTurn_pending (now : ℕ) (turn : TurnState) :
    (s.noteTurn now turn).1.snapshot.pendingInteractions = s.snapshot.pendingInteractions := by
  rw [noteTurn]
  dsimp only
  split
  · rfl
  · rfl

lemma updateModel_pending (now : ℕ) (model : String) :
    (s.updateModel now model).1.snapshot.pendingInteractions = s.snapshot.pendingInteractions := by
  rw [updateModel, report]
  split
  · rfl
  · rfl

lemma updateEffort_pending (now : ℕ) (effort : String) :
    (s.updateEffort now effort).1.snapshot.pendingInteractions = s.snapshot.pendingInteractions := by
  rw [updateEffort, report]
  split
  · rfl
  · rfl

lemma landReceipt_pending (store : MetadataStore) (env : Env) (receipt : CommandReceipt) :
    (s.landReceipt store env receipt).1.session.snapshot.pendingInteractions = s.snapshot.pendingInteractions := by
  obtain ⟨effect, flight, hissued, heq, -⟩ := s.landReceipt_issued store receipt env
  obtain ⟨revision, receipts, now, hr⟩ := hissued.receipted
  rw [heq, hr]

end

end LiveSession

namespace Supervisor

def cards (sv : Supervisor) (sessionId : String) : List String :=
  ((sv.sessions.lookup sessionId).map fun s => s.snapshot.pendingInteractions.map (·.interactionId)).getD []

inductive CardFree (sessionId : String) : Op → Prop
  | noteTurn (turn : TurnState) : CardFree sessionId (.noteTurn sessionId turn)
  | upsertEntry (entry : NormalizedTimelineEntry) : CardFree sessionId (.upsertEntry sessionId entry)
  | appendText (delta : NormalizedTextDelta) : CardFree sessionId (.appendText sessionId delta)
  | updateModel (model : String) : CardFree sessionId (.updateModel sessionId model)
  | updateEffort (effort : String) : CardFree sessionId (.updateEffort sessionId effort)
  | recordReceipt (commandId state : String) (evidence reason : Option String) :
      CardFree sessionId (.recordReceipt sessionId commandId state evidence reason)

variable {sv : Supervisor} {sessionId : String} {env : Env}

lemma cards_put {s : LiveSession} (hs : sv.sessions.lookup sessionId = some s)
    (hpending : result.1.snapshot.pendingInteractions = s.snapshot.pendingInteractions) :
    (sv.put sessionId result).cards sessionId = sv.cards sessionId := by
  rw [cards, cards, put, KeyedMap.lookup_insert_self, hs]
  simp only [Option.map_some, Option.getD_some, hpending]

lemma cards_cardFree {op : Op} (hop : CardFree sessionId op) : (sv.step env op).cards sessionId = sv.cards sessionId := by
  cases hs : sv.sessions.lookup sessionId with
  | none =>
    cases hop with
    | noteTurn turn => rw [step, noteBridgeTurn, withSession, hs]
    | upsertEntry entry =>
      rw [step, upsertBridgeEntry, guarded.eq_def, withSession, hs]
      split <;> rfl
    | appendText delta =>
      rw [step, appendBridgeText, guarded.eq_def, withSession, hs]
      split <;> rfl
    | updateModel model => rw [step, updateBridgeModel, onSession, hs]
    | updateEffort effort => rw [step, updateBridgeEffort, onSession, hs]
    | recordReceipt commandId state evidence reason =>
      rw [step, recordBridgeReceipt, hs]
      split <;> rfl
  | some s =>
    cases hop with
    | noteTurn turn =>
      rw [step, noteBridgeTurn, withSession, hs]
      exact cards_put hs (s.noteTurn_pending ..)
    | upsertEntry entry =>
      rw [step, upsertBridgeEntry, guarded.eq_def, withSession, hs]
      split
      · exact cards_put hs (s.upsertEntry_rowed ..).pending
      · rfl
    | appendText delta =>
      rw [step, appendBridgeText, guarded.eq_def, withSession, hs]
      split
      · exact cards_put hs (s.appendText_rowed ..).pending
      · rfl
    | updateModel model =>
      rw [step, updateBridgeModel, onSession, hs]
      exact cards_put hs (s.updateModel_pending ..)
    | updateEffort effort =>
      rw [step, updateBridgeEffort, onSession, hs]
      exact cards_put hs (s.updateEffort_pending ..)
    | recordReceipt commandId state evidence reason =>
      rw [step, recordBridgeReceipt, hs]
      split
      · rfl
      · dsimp only
        split
        · rfl
        · exact cards_put hs (s.landReceipt_pending ..)

lemma cards_upsertInteraction {interaction : PendingInteraction}
    (hok : (sv.upsertBridgeInteraction env sessionId interaction).2 = .ok ()) (k : String) :
    validOpaqueId interaction.interactionId = .ok () ∧
      (k ∈ (sv.step env (.upsertInteraction sessionId interaction)).cards sessionId ↔
        k ∈ sv.cards sessionId ∨ k = interaction.interactionId) := by
  rw [step]
  rw [upsertBridgeInteraction, guarded.eq_def] at hok ⊢
  cases hvalid : interaction.validate with
  | error e =>
    rw [hvalid] at hok
    cases hok
  | ok _ =>
    have hid : validOpaqueId interaction.interactionId = .ok () := by
      have hchecked : interaction.validate = .ok () := hvalid
      simp only [PendingInteraction.validate, bind_ok] at hchecked
      exact hchecked.1
    refine ⟨hid, ?_⟩
    rw [hvalid] at hok
    dsimp only at hok ⊢
    rw [withSession] at hok ⊢
    cases hs : sv.sessions.lookup sessionId with
    | none =>
      rw [hs] at hok
      cases hok
    | some s =>
      rw [hs] at hok
      dsimp only at hok ⊢
      rw [cards, cards, put, KeyedMap.lookup_insert_self, hs]
      simp only [Option.map_some, Option.getD_some]
      rw [LiveSession.upsertInteraction] at hok ⊢
      cases hfind : s.snapshot.pendingInteractions.find? (·.interactionId = interaction.interactionId) with
      | some existing =>
        have hin : interaction.interactionId ∈ s.snapshot.pendingInteractions.map (·.interactionId) := by
          have heq : existing.interactionId = interaction.interactionId := by simpa using List.find?_some hfind
          exact List.mem_map.mpr ⟨existing, List.mem_of_find?_eq_some hfind, heq⟩
        have hall : k ∈ s.snapshot.pendingInteractions.map (·.interactionId) ↔
            k ∈ s.snapshot.pendingInteractions.map (·.interactionId) ∨ k = interaction.interactionId :=
          ⟨.inl, fun h => h.elim (fun h => h) fun h => h ▸ hin⟩
        dsimp only
        split
        · exact hall
        · rw [LiveSession.publishInteraction]
          change k ∈ (replaceFirst PendingInteraction.interactionId interaction _).map (·.interactionId) ↔ _
          rw [map_key_replaceFirst]
          exact hall
      | none =>
        rw [hfind] at hok
        dsimp only at hok ⊢
        split
        · rename_i hfull
          rw [if_pos hfull] at hok
          cases hok
        · change k ∈ (s.snapshot.pendingInteractions ++ [interaction]).map (·.interactionId) ↔ _
          rw [List.map_append, List.mem_append, List.map_singleton, List.mem_singleton]

lemma cards_resolveInteraction {interactionId : String} (hid : validOpaqueId interactionId = .ok ()) (k : String) :
    k ∈ (sv.step env (.resolveInteraction sessionId interactionId "answered")).cards sessionId ↔
      k ∈ sv.cards sessionId ∧ k ≠ interactionId := by
  rw [step, resolveBridgeInteraction, guarded.eq_def]
  have hchecked : (do validOpaqueId interactionId; validToken "answered" : Checked) = .ok () := by
    rw [hid]
    decide +kernel
  rw [hchecked]
  dsimp only
  rw [withSession]
  cases hs : sv.sessions.lookup sessionId with
  | none => simp [cards, hs]
  | some s =>
    dsimp only
    rw [cards, cards, put, KeyedMap.lookup_insert_self, hs]
    simp only [Option.map_some, Option.getD_some]
    rw [LiveSession.resolveInteraction]
    dsimp only
    split
    · change k ∈ (s.snapshot.pendingInteractions.filter _).map (·.interactionId) ↔ _
      simp only [List.mem_map, List.mem_filter, decide_eq_true_eq]
      constructor
      · rintro ⟨i, ⟨hi, hne⟩, rfl⟩
        exact ⟨⟨i, hi, rfl⟩, hne⟩
      · rintro ⟨⟨i, hi, rfl⟩, hne⟩
        exact ⟨i, ⟨hi, hne⟩, rfl⟩
    · rename_i hnone
      have hout : interactionId ∉ s.snapshot.pendingInteractions.map (·.interactionId) := by
        intro hmem
        obtain ⟨i, hi, hsame⟩ := List.mem_map.mp hmem
        exact hnone (List.any_eq_true.mpr ⟨i, hi, decide_eq_true hsame⟩)
      constructor
      · intro hk
        refine ⟨hk, ?_⟩
        rintro rfl
        exact hout hk
      · exact And.left

end Supervisor

end CiaoHost.Session
