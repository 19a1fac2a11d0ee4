import CiaoHost.Session.FiledStep

/-! The live and the durable receipt of a command agree after every posting, and a final one stays
final, as long as the clock does not step back and no command is filed twice. -/

namespace CiaoHost.Session

open Protocol Lib Lib.Checks Lib.KeyedList

namespace LiveSession

variable {s : LiveSession} {store : MetadataStore}

lemma admissionReceipt_named (s : LiveSession) (command : AgentCommand) (now : ℕ) :
    (s.admissionReceipt command now).commandId = command.commandId ∧
      (s.admissionReceipt command now).sessionId = command.sessionId ∧
      (s.admissionReceipt command now).updatedAt = now := by
  rw [admissionReceipt]
  split
  · exact ⟨rfl, rfl, rfl⟩
  · split
    · exact ⟨rfl, rfl, rfl⟩
    · exact ⟨rfl, rfl, rfl⟩

end LiveSession

namespace Supervisor

variable {homes : List (String × String)} {clock : ℕ} {sv : Supervisor}

variable {now : ℕ}

variable {command : AgentCommand}

section

variable (hf : Filed homes clock sv)

include hf

lemma Filed.admitEntered {s : LiveSession}
    (hs : sv.sessions.lookup command.sessionId = some s) (hhomes : (homes.map Prod.fst).Nodup)
    (hnew : command.commandId ∉ homes.map Prod.fst) {later : ℕ} (hnow : now ≤ clock) (hlater : clock ≤ later)
    (disk : Except String Unit) :
    Filed (homes ++ [(command.commandId, command.sessionId)]) later (sv.admitCommand command now later disk).1 ∧
      sv.Steady (sv.admitCommand command now later disk).1 := by
  obtain ⟨effect, flight, hissued, heq, hinFlight⟩ := s.takeCommand_issued sv.metadata now disk command later
  have hissued : Posted (· = s.admissionReceipt command now) s sv.metadata effect := hissued.posted fun _ _ hr => hr
  have hposted : Posted (· = s.admissionReceipt command now) s sv.metadata
      { effect with session := { effect.session with inFlightCommands := flight } } :=
    ⟨hissued.booked, hissued.durable, hissued.live⟩
  obtain ⟨hid, hsession, hat⟩ := s.admissionReceipt_named command now
  have hadmitted : (sv.admitCommand command now later disk).1 =
      sv.putEffect command.sessionId { effect with session := { effect.session with inFlightCommands := flight } } := by
    rw [← heq, admitCommand, hs]
  have hposts : sv.Posts (· = s.admissionReceipt command now) command.sessionId
      (sv.admitCommand command now later disk).1 :=
    posts_putEffect hs hposted (by rw [hadmitted]; rfl) (by rw [hadmitted]; rfl)
  have hfresh : ∀ r ∈ sv.metadata.receipts, r.commandId ≠ command.commandId := by
    intro r hr hsame
    exact hnew (hsame ▸ List.mem_map_of_mem (hf.home r hr))
  have hflown : ∀ c ∈ s.inFlightCommands, c ≠ command.commandId := by
    intro c hc hsame
    exact hnew (hsame ▸ List.mem_map_of_mem (hf.flying _ s hs c hc).1)
  refine ⟨hf.posts hposts hlater (List.subset_append_left _ _) ?_ ?_ ?_, .posts hf.booked hposts ?_⟩
  · rw [List.map_append, List.map_singleton, ← List.concat_eq_append]
    exact hhomes.concat hnew
  · rintro r rfl
    rw [hid, hsession, hat]
    exact ⟨hnow.trans hlater, rfl, List.mem_append_right _ (List.mem_singleton_self _)⟩
  · intro s' hs'
    rw [hadmitted, putEffect, put, KeyedMap.lookup_insert_self] at hs'
    cases hs'
    have hold : ∀ c ∈ s.inFlightCommands, (c, command.sessionId) ∈ homes ++ [(command.commandId, command.sessionId)] ∧
        ∀ r ∈ (sv.admitCommand command now later disk).1.metadata.receipts, r.commandId = c → isFinal r.state = false := by
      intro c hc
      obtain ⟨hhome, hopen⟩ := hf.flying _ s hs c hc
      refine ⟨List.mem_append_left _ hhome, ?_⟩
      intro r hr hsame
      rcases hposts.durable r hr with hold | rfl
      · exact hopen r hold hsame
      · exact absurd (hsame.symm.trans hid) (hflown c hc)
    dsimp only
    rcases hinFlight with hsame | ⟨hsame, hsending⟩
    · rw [hsame]
      exact ⟨hf.once _ s hs, hold⟩
    · rw [hsame]
      refine ⟨(hf.once _ s hs).insert, ?_⟩
      intro c hc
      rcases List.mem_insert_iff.mp hc with rfl | hc
      · refine ⟨List.mem_append_right _ (List.mem_singleton_self _), ?_⟩
        intro r hr hsame
        rcases hposts.durable r hr with hold | rfl
        · exact absurd hsame (hfresh r hold)
        · rw [hsending]
          rfl
      · exact hold c hc
  · rintro r rfl
    right
    intro r' hr' hsame
    exact absurd (hsame.trans hid) (hfresh r' hr')

lemma Filed.unknown (hhomes : (homes.map Prod.fst).Nodup)
    (hhome : (command.commandId, command.sessionId) ∈ homes) (hnow : clock ≤ now) (reason : String)
    (disk : Except String Unit) :
    Filed homes now (sv.markOutcomeUnknown command reason now disk).1 ∧
      sv.Steady (sv.markOutcomeUnknown command reason now disk).1 := by
  cases hs : sv.sessions.lookup command.sessionId with
  | none =>
    rw [markOutcomeUnknown, hs]
    exact ⟨hf.eased hnow (.of_same rfl rfl), .refl sv⟩
  | some s =>
    have hissued := LiveSession.persistOrPublishReceipt_issued
      { s with inFlightCommands := s.inFlightCommands.erase command.commandId } sv.metadata now disk
      (rejectedReceipt command "outcome_unknown" reason now)
    have hlanded : Posted (· = rejectedReceipt command "outcome_unknown" reason now) _ sv.metadata _ :=
      hissued.posted fun _ _ hr => hr
    have hposted : Posted (· = rejectedReceipt command "outcome_unknown" reason now) s sv.metadata
        (s.landUnknown sv.metadata command reason now disk) := ⟨hlanded.booked, hlanded.durable, hlanded.live⟩
    have hinFlight : (s.landUnknown sv.metadata command reason now disk).session.inFlightCommands =
        s.inFlightCommands.erase command.commandId := hissued.receipted.sameHold.inFlight
    have hposts : sv.Posts (· = rejectedReceipt command "outcome_unknown" reason now) command.sessionId
        (sv.markOutcomeUnknown command reason now disk).1 := by
      apply posts_putEffect hs hposted
      · rw [markOutcomeUnknown, hs]
        rfl
      · rw [markOutcomeUnknown, hs]
        rfl
    refine ⟨hf.posts hposts hnow (List.Subset.refl _) hhomes ?_ ?_, .posts hf.booked hposts ?_⟩
    · rintro r rfl
      exact ⟨le_refl _, rfl, hhome⟩
    · intro s' hs'
      rw [markOutcomeUnknown, hs] at hs'
      dsimp only at hs'
      rw [putEffect, put, KeyedMap.lookup_insert_self] at hs'
      cases hs'
      dsimp only
      rw [hinFlight]
      refine ⟨(hf.once _ s hs).erase _, ?_⟩
      intro c hc
      obtain ⟨hne, hc⟩ := (hf.once _ s hs).mem_erase_iff.mp hc
      obtain ⟨hown, hopen⟩ := hf.flying _ s hs c hc
      refine ⟨hown, ?_⟩
      intro r hr hsame
      rcases hposts.durable r hr with hold | rfl
      · exact hopen r hold hsame
      · exact absurd hsame.symm hne
    · rintro r rfl
      exact .inl rfl

lemma Filed.deliver (hhomes : (homes.map Prod.fst).Nodup) {handing : Handing}
    (hhome : (handing.command.commandId, handing.command.sessionId) ∈ homes) (hnow : clock ≤ now)
    (accepts : Bool) (disk : Except String Unit) :
    Filed homes now (sv.deliverCommand handing.command handing.sender handing.receipt now accepts disk).1 ∧
      sv.Steady (sv.deliverCommand handing.command handing.sender handing.receipt now accepts disk).1 := by
  rw [deliverCommand.eq_def]
  cases handing.sender with
  | none => exact hf.unknown hhomes hhome hnow _ disk
  | some channel =>
    dsimp only
    split
    · exact ⟨hf.eased hnow (.of_same rfl rfl), ⟨(Steady.refl sv).durable, (Steady.refl sv).live⟩⟩
    · exact hf.unknown hhomes hhome hnow _ disk

end

end Supervisor

namespace MetadataStore

structure Settled (store : MetadataStore) (now : ℕ) : Prop where
  booked : store.Booked
  past : ∀ r ∈ store.receipts, r.updatedAt ≤ now

variable {store : MetadataStore} {receipt : CommandReceipt} {now : ℕ}

lemma Settled.current (h : store.Settled now) (hat : receipt.updatedAt = now) : store.Current receipt now := by
  refine ⟨?_, ?_, .inl ?_⟩
  · intro r hr _
    exact hat ▸ h.past r hr
  · rw [hat, Nat.sub_self]
    exact Nat.zero_le _
  · intro r hr
    exact hat ▸ h.past r hr

lemma Settled.upserted (h : store.Settled now) (hat : receipt.updatedAt = now) (disk : Except String Unit) :
    (store.upsertReceipt receipt now disk).1.Settled now := by
  have hbooked := h.booked.upserted receipt now
  have hpast : ∀ r ∈ store.upserted receipt now, r.updatedAt ≤ now := by
    intro r hr
    rcases mem_upserted hr with rfl | hold
    · exact hat.le
    · exact h.past r hold
  rw [upsertReceipt, persist]
  generalize store.upserted receipt now = receipts at hbooked hpast ⊢
  exact ⟨hbooked, hpast⟩

end MetadataStore

namespace Posting

def Current (p : Posting) : Prop := p.store.Booked ∧ p.store.Current p.receipt p.clock

lemma Current.agrees {p : Posting} (h : p.Current) : p.Agrees := by
  intro hok
  obtain ⟨hlive, hdurable⟩ := LiveSession.persistAndPublishReceipt_agrees h.1 h.2 hok
  exact hlive.trans hdurable.symm

end Posting

namespace LiveSession

variable {store : MetadataStore} {sessionId : String}

section

variable (commands : List String) (index : ℕ) (s : LiveSession)

lemma abandonPostings_current {env : Env}
    (hstore : store.Settled env.now) :
    ∀ p ∈ abandonPostings sessionId env index s store commands, p.Current := by
  induction commands generalizing index s store with
  | nil =>
    intro p hp
    rw [abandonPostings] at hp
    cases hp
  | cons commandId rest ih =>
    intro p hp
    rw [abandonPostings] at hp
    rcases List.mem_cons.mp hp with rfl | hp
    · exact ⟨hstore.booked, hstore.current rfl⟩
    · rw [persistOrPublishReceipt_eq] at hp
      exact ih (index + 1) _ (hstore.upserted rfl (env.disk index)) p hp

lemma supersedePostings_current {env : Env}
    (hstore : store.Settled env.now) :
    ∀ p ∈ supersedePostings sessionId env index s store commands, p.Current := by
  induction commands generalizing index s store with
  | nil =>
    intro p hp
    rw [supersedePostings] at hp
    cases hp
  | cons commandId rest ih =>
    intro p hp
    rw [supersedePostings] at hp
    rcases List.mem_cons.mp hp with rfl | hp
    · exact ⟨hstore.booked, hstore.current rfl⟩
    · cases hdisk : env.disk index with
      | error e =>
        rw [hdisk] at hp
        cases hp
      | ok u =>
        rw [hdisk] at hp
        exact ih (index + 1) _ (hstore.upserted rfl (.ok u)) p hp

end

end LiveSession

namespace Supervisor

variable {sv : Supervisor} {env : Env}

lemma registerPostings_current (hstore : sv.metadata.Settled env.now) (r : NormalizedRegistration) :
    ∀ p ∈ sv.registerPostings env r, p.Current := by
  intro p hp
  rw [registerPostings.eq_def] at hp
  split at hp
  · cases hs : sv.sessions.lookup _ with
    | none =>
      rw [hs] at hp
      cases hp
    | some s =>
      rw [hs] at hp
      exact LiveSession.supersedePostings_current _ 1 s hstore p hp
  · cases hp

lemma postings_current (hstore : sv.metadata.Settled env.now) (op : Op) : ∀ p ∈ sv.postings env op, p.Current := by
  intro p hp
  cases op with
  | recordReceipt sessionId commandId state evidence reasonCode =>
    rw [postings] at hp
    split at hp
    · cases hp
    · cases hs : sv.sessions.lookup sessionId with
      | none =>
        rw [hs] at hp
        cases hp
      | some s =>
        rw [hs] at hp
        dsimp only [Option.elim] at hp
        split at hp
        · cases hp
        · rw [List.mem_singleton] at hp
          subst hp
          exact ⟨hstore.booked, hstore.current rfl⟩
  | disconnect sessionId token processExited =>
    cases processExited with
    | true => cases hp
    | false =>
      rw [postings] at hp
      cases hs : sv.sessions.lookup sessionId with
      | none =>
        rw [hs] at hp
        cases hp
      | some s =>
        rw [hs] at hp
        dsimp only [Option.elim] at hp
        split at hp
        · cases hp
        · exact LiveSession.abandonPostings_current _ 0 _ hstore p hp
  | register r sender => exact registerPostings_current hstore r p hp
  | registerObserver r =>
    rw [postings] at hp
    split at hp
    · cases hp
    · rename_i hvalid
      split at hp
      · rename_i revoked hrefresh
        have hmetadata : revoked.metadata = sv.metadata := by
          rw [not_or, not_not, not_not] at hvalid
          rcases refreshObserverRegistration_cases sv env hvalid.1 hvalid.2 with ⟨ended, heq⟩ | ⟨-, hne⟩
          · rw [hrefresh] at heq
            cases heq
            rfl
          · rw [hrefresh] at hne
            exact absurd rfl hne
        exact registerPostings_current (hmetadata ▸ hstore) r p hp
      · cases hp
  | _ => cases hp

lemma deliveryPostings_current {now : ℕ} (hstore : sv.metadata.Settled now) (handing : Handing) (accepts : Bool)
    (disk : Except String Unit) : ∀ p ∈ sv.deliveryPostings handing now accepts disk, p.Current := by
  have hunknown : ∀ reason, ∀ p ∈ (sv.sessions.lookup handing.command.sessionId).elim [] fun s =>
      [Posting.mk { s with inFlightCommands := s.inFlightCommands.erase handing.command.commandId } sv.metadata now disk
        (rejectedReceipt handing.command "outcome_unknown" reason now)], p.Current := by
    intro reason p hp
    cases hs : sv.sessions.lookup handing.command.sessionId with
    | none =>
      rw [hs] at hp
      cases hp
    | some s =>
      rw [hs] at hp
      dsimp only [Option.elim] at hp
      rw [List.mem_singleton] at hp
      subst hp
      exact ⟨hstore.booked, hstore.current rfl⟩
  intro p hp
  rw [deliveryPostings] at hp
  dsimp only at hp
  split at hp
  · exact hunknown _ p hp
  · split at hp
    · cases hp
    · exact hunknown _ p hp

end Supervisor

namespace Submissions

/-- The clock does not step back; receipts of a bridge and of a superseding registration can be
written; and a command is filed once, within a day of its lookup and not behind a full store of
later receipts. -/
def Orderly (d : Submissions) : Input → Prop
  | .op env op => d.clock ≤ env.now ∧ d.supervisor.Written env op
  | .lookUp _ now => d.clock ≤ now
  | .admitEntered index clock _ => d.clock ≤ clock ∧ ∀ entry ∈ d.entered[index]?,
      entry.1.commandId ∉ d.homes.map Prod.fst ∧ clock - entry.2 ≤ receiptTtlSeconds ∧
      ((∀ r ∈ d.supervisor.metadata.receipts, r.updatedAt ≤ entry.2) ∨
        d.supervisor.metadata.receipts.length < MetadataStore.receiptBound)
  | .deliver _ now _ _ => d.clock ≤ now

instance (sv : Supervisor) (env : Env) (op : Op) : Decidable (sv.Written env op) :=
  inferInstanceAs (Decidable (_ ∧ _))

instance (d : Submissions) : ∀ input, Decidable (d.Orderly input)
  | .op _ _ => inferInstanceAs (Decidable (_ ∧ _))
  | .lookUp _ _ => inferInstanceAs (Decidable (_ ≤ _))
  | .admitEntered _ _ _ => inferInstanceAs (Decidable (_ ∧ _))
  | .deliver _ _ _ _ => inferInstanceAs (Decidable (_ ≤ _))

structure Kept (d : Submissions) : Prop where
  filed : Supervisor.Filed d.homes d.clock d.supervisor
  homes : (d.homes.map Prod.fst).Nodup
  entered : ∀ entry ∈ d.entered, entry.2 ≤ d.clock
  handing : ∀ h ∈ d.handing, (h.command.commandId, h.command.sessionId) ∈ d.homes

variable {d : Submissions}

lemma Kept.settled (h : d.Kept) {now : ℕ} (hnow : d.clock ≤ now) : d.supervisor.metadata.Settled now :=
  ⟨h.filed.booked, fun r hr => (h.filed.past r hr).trans hnow⟩

variable {input : Input}

lemma Kept.postings_current (h : d.Kept) (horderly : d.Orderly input) : ∀ p ∈ d.postings input, p.Current := by
  intro p hp
  cases input with
  | op env op => exact Supervisor.postings_current (h.settled horderly.1) op p hp
  | lookUp command now => cases hp
  | admitEntered index clock disk =>
    rw [postings] at hp
    cases hentry : d.entered[index]? with
    | none =>
      rw [hentry] at hp
      cases hp
    | some entry =>
      obtain ⟨command, now⟩ := entry
      rw [hentry] at hp
      obtain ⟨hnew, hfresh, hroom⟩ := horderly.2 _ hentry
      dsimp only at hp hnew hfresh hroom
      cases hs : d.supervisor.sessions.lookup command.sessionId with
      | none =>
        rw [hs] at hp
        cases hp
      | some s =>
        rw [hs] at hp
        dsimp only [Option.elim] at hp
        rw [List.mem_singleton] at hp
        subst hp
        obtain ⟨hid, -, hat⟩ := s.admissionReceipt_named command now
        refine ⟨h.filed.booked, ?_, ?_, ?_⟩
        · intro r hr hsame
          exact absurd (List.mem_map_of_mem (h.filed.home r hr)) (hsame.trans hid ▸ hnew)
        · rw [hat]
          exact hfresh
        · rw [hat]
          exact hroom
  | deliver index now accepts disk =>
    rw [postings] at hp
    cases hhanding : d.handing[index]? with
    | none =>
      rw [hhanding] at hp
      cases hp
    | some handing =>
      rw [hhanding] at hp
      exact Supervisor.deliveryPostings_current (h.settled horderly) handing accepts disk p hp

lemma Kept.clocked (h : d.Kept) (now : ℕ) : Supervisor.Filed d.homes (max d.clock now) d.supervisor :=
  h.filed.eased (le_max_left _ _) (.of_same rfl rfl)

lemma Kept.op (h : d.Kept) {env : Env} {op : Op} (horderly : d.Orderly (.op env op)) :
    (d.step (.op env op)).Kept ∧ d.supervisor.Steady (d.step (.op env op)).supervisor := by
  cases hsubmit : op.submits with
  | true =>
    cases op with
    | submit command => exact ⟨h, .refl _⟩
    | _ => cases hsubmit
  | false =>
    obtain ⟨hnow, hwritten⟩ := horderly
    obtain ⟨hfiled, hsteady⟩ := h.filed.step h.homes hnow hsubmit hwritten
    have hstep : d.step (.op env op) =
        { d with supervisor := d.supervisor.step env op, clock := max d.clock env.now } := by
      cases op with
      | submit command => cases hsubmit
      | _ => rfl
    rw [hstep]
    refine ⟨⟨?_, h.homes, ?_, h.handing⟩, hsteady⟩
    · dsimp only
      rw [max_eq_right hnow]
      exact hfiled
    · exact fun entry hentry => (h.entered entry hentry).trans (le_max_left _ _)

lemma Kept.lookUp (h : d.Kept) (command : AgentCommand) (now : ℕ) :
    (d.lookUp command now).Kept ∧ d.supervisor.Steady (d.lookUp command now).supervisor := by
  have hentered : ∀ entry ∈ d.entered, entry.2 ≤ max d.clock now := fun entry hentry =>
    (h.entered entry hentry).trans (le_max_left _ _)
  rw [Submissions.lookUp]
  dsimp only
  split
  · refine ⟨⟨h.clocked now, h.homes, ?_, h.handing⟩, .refl _⟩
    intro entry hentry
    rcases List.mem_append.mp hentry with hold | hnew
    · exact hentered entry hold
    · rw [List.mem_singleton.mp hnew]
      exact le_max_right _ _
  · exact ⟨⟨h.clocked now, h.homes, hentered, h.handing⟩, .refl _⟩

variable {disk : Except String Unit}

lemma Kept.admitEntered (h : d.Kept) {index clock : ℕ} (horderly : d.Orderly (.admitEntered index clock disk)) :
    (d.admitEntered index clock disk).Kept ∧ d.supervisor.Steady (d.admitEntered index clock disk).supervisor := by
  obtain ⟨hclock, hfirst⟩ := horderly
  rw [Submissions.admitEntered]
  cases hentry : d.entered[index]? with
  | none => exact ⟨h, .refl _⟩
  | some entry =>
    obtain ⟨command, now⟩ := entry
    obtain ⟨hnew, -, -⟩ := hfirst _ hentry
    have hmem := List.mem_of_getElem? hentry
    have hentered : ∀ entry ∈ d.entered.eraseIdx index, entry.2 ≤ max d.clock clock := fun entry hin =>
      (h.entered entry (List.mem_of_mem_eraseIdx hin)).trans (le_max_left _ _)
    dsimp only
    cases hs : d.supervisor.sessions.lookup command.sessionId with
    | none =>
      have hanswered : d.supervisor.admitCommand command now clock disk =
          (d.supervisor, .answered (rejectedReceipt command "unavailable" "session_unavailable" now)) := by
        rw [Supervisor.admitCommand, hs]
      rw [hanswered]
      exact ⟨⟨h.clocked clock, h.homes, hentered, h.handing⟩, .refl _⟩
    | some s =>
      obtain ⟨hfiled, hsteady⟩ := h.filed.admitEntered hs h.homes hnew (h.entered _ hmem) hclock disk
      refine ⟨⟨?_, ?_, hentered, ?_⟩, hsteady⟩
      · dsimp only [Option.isSome]
        rw [max_eq_right hclock]
        exact hfiled
      · dsimp only [Option.isSome]
        rw [if_pos rfl, List.map_append, List.map_singleton, ← List.concat_eq_append]
        exact h.homes.concat hnew
      · dsimp only [Option.isSome]
        rw [if_pos rfl]
        intro handing hhanding
        split at hhanding
        · exact List.mem_append_left _ (h.handing handing hhanding)
        · rcases List.mem_append.mp hhanding with hold | hnew
          · exact List.mem_append_left _ (h.handing handing hold)
          · rw [List.mem_singleton.mp hnew]
            exact List.mem_append_right _ (List.mem_singleton_self _)

lemma Kept.deliver (h : d.Kept) {index now : ℕ} {accepts : Bool} (hnow : d.clock ≤ now) :
    (d.deliver index now accepts disk).Kept ∧ d.supervisor.Steady (d.deliver index now accepts disk).supervisor := by
  rw [Submissions.deliver]
  cases hhanding : d.handing[index]? with
  | none => exact ⟨h, .refl _⟩
  | some handing =>
    have hhome := h.handing handing (List.mem_of_getElem? hhanding)
    obtain ⟨hfiled, hsteady⟩ := h.filed.deliver h.homes hhome hnow accepts disk
    refine ⟨⟨?_, h.homes, ?_, ?_⟩, hsteady⟩
    · dsimp only
      rw [max_eq_right hnow]
      exact hfiled
    · exact fun entry hentry => (h.entered entry hentry).trans (le_max_left _ _)
    · exact fun other hother => h.handing other (List.mem_of_mem_eraseIdx hother)

lemma Kept.step (h : d.Kept) (horderly : d.Orderly input) :
    (d.step input).Kept ∧ d.supervisor.Steady (d.step input).supervisor := by
  cases input with
  | op env op => exact h.op horderly
  | lookUp command now => exact h.lookUp command now
  | admitEntered index clock disk => exact h.admitEntered horderly
  | deliver index now accepts disk => exact h.deliver horderly

lemma start_kept {store : MetadataStore} {clock : ℕ} (hbooked : store.Booked)
    (hpast : ∀ r ∈ store.receipts, r.updatedAt ≤ clock) : (start store clock).Kept := by
  have hnone : ∀ id s, (start store clock).supervisor.sessions.lookup id ≠ some s := fun id s => by
    simp [start, Supervisor.empty]
  refine ⟨⟨hbooked, hpast, ?_, ?_, ?_⟩, ?_, by simp [start], by simp [start]⟩
  · exact fun r hr => List.mem_map_of_mem hr
  · exact fun id s hs => absurd hs (hnone id s)
  · exact fun id s hs => absurd hs (hnone id s)
  · change ((store.receipts.map fun r => (r.commandId, r.sessionId)).map Prod.fst).Nodup
    rw [List.map_map]
    exact hbooked.once

theorem receipts_agree {store : MetadataStore} {clock : ℕ} (hbooked : store.Booked)
    (hpast : ∀ r ∈ store.receipts, r.updatedAt ≤ clock) {d : Submissions}
    (hreaches : Runs.Reaches step Orderly (start store clock) d) {input : Input} (horderly : d.Orderly input) :
    (∀ p ∈ d.postings input, p.Agrees) ∧ d.supervisor.Steady (d.step input).supervisor := by
  have hkept : d.Kept := by
    apply hreaches.invariant (P := Kept)
    · exact start_kept hbooked hpast
    · intro s input hs horderly
      exact (hs.step horderly).1
  exact ⟨fun p hp => (hkept.postings_current horderly p hp).agrees, (hkept.step horderly).2⟩

end Submissions

namespace Sample

def noReceipts : MetadataStore := ⟨id, [], []⟩

def submissions : Submissions := .start noReceipts 0

def hello : AgentCommand := ⟨1, "cmd-1", "s-1", 1000, 1, none, .prompt "hi"⟩

def submittedRun : List Submissions.Input :=
  [.op register.env register.op, .lookUp hello 101, .admitEntered 0 101 (.ok ()), .deliver 0 101 true (.ok ())]

def appliedAt (now : ℕ) : Submissions.Input :=
  .op { env 0 [] with now := now } (.recordReceipt "s-1" "cmd-1" "applied" (some "replay") none)

def afterSubmissions (inputs : List Submissions.Input) : Submissions := inputs.foldl Submissions.step submissions

end Sample

instance (p : Posting) : Decidable p.Agrees := inferInstanceAs (Decidable (_ → _))

theorem Submissions.receipts_agree_applied :
    ((Sample.afterSubmissions Sample.submittedRun).postings (Sample.appliedAt 102)).length = 1 ∧
    (∀ p ∈ (Sample.afterSubmissions Sample.submittedRun).postings (Sample.appliedAt 102), p.Agrees) ∧
    (Sample.afterSubmissions Sample.submittedRun).supervisor.Steady
      ((Sample.afterSubmissions Sample.submittedRun).step (Sample.appliedAt 102)).supervisor := by
  have hallowed : Runs.Allowed step Orderly Sample.submissions Sample.submittedRun := by decide +kernel
  have hbooked : Sample.noReceipts.Booked := ⟨List.nodup_nil, Nat.zero_le _⟩
  have hpast : ∀ r ∈ Sample.noReceipts.receipts, r.updatedAt ≤ 0 := by simp [Sample.noReceipts]
  exact ⟨by decide +kernel,
    receipts_agree hbooked hpast (Runs.Reaches.refl.of_run hallowed) (by decide +kernel)⟩

theorem Submissions.earlier_clock_disagrees :
    ∃ d input, Runs.Reaches step (fun _ _ => True) Sample.submissions d ∧ ∃ p ∈ d.postings input, ¬ p.Agrees := by
  refine ⟨Sample.afterSubmissions Sample.submittedRun, Sample.appliedAt 50,
    Runs.Reaches.refl.of_run (by simp [Runs.Allowed, Sample.submittedRun]), ?_⟩
  decide +kernel

end CiaoHost.Session
