import CiaoHost.Session.Filed

/-! Every operation keeps the receipts filed and undoes no final one. -/

namespace CiaoHost.Session

open Protocol Lib Lib.Checks Lib.KeyedList

namespace MetadataStore

lemma assign_receipts (store : MetadataStore) (env : Env) (r : NormalizedRegistration) (live : Option ℕ) :
    (store.assign env r live).1.receipts.Sublist store.receipts := by
  rw [assign]
  rcases register_cases store (store.registrationClaim r live env.now) (env.ids 0) env.epoch (env.disk 0) with
    ⟨e, heq⟩ | ⟨-, ⟨mapping, -, heq⟩ | ⟨-, heq⟩⟩
  · rw [heq]
  · rw [heq]
    dsimp only [receiptsAfterMove]
    split
    · exact List.filter_sublist
    · exact List.Sublist.refl _
  · rw [heq]

end MetadataStore

namespace LiveSession

variable {s : LiveSession} {store : MetadataStore} {env : Env}

lemma disconnected_posted (s : LiveSession) (id : String) (store : MetadataStore) (env : Env) :
    Posted (LastWord id env.now s.inFlightCommands) s store (s.disconnected id store env) ∧
      (s.disconnected id store env).session.inFlightCommands = [] := by
  have hissued := abandonInFlight_issued { s with bridgeSender := none, adapterActive := false, inFlightCommands := [] }
    store id env 0 s.inFlightCommands
  have hposted := hissued.lastWords
  have hreceipted := hissued.receipted
  rw [disconnected]
  dsimp only
  split
  · exact ⟨⟨hposted.booked, hposted.durable, hposted.live⟩, hreceipted.sameHold.inFlight⟩
  · exact ⟨⟨hposted.booked, hposted.durable, hposted.live⟩, hreceipted.sameHold.inFlight⟩

lemma landReceipt_posted {receipt : CommandReceipt} (hdisk : env.disk 0 = .ok ()) :
    Posted (· = receipt) s store (s.landReceipt store env receipt).1 ∧
      (s.landReceipt store env receipt).1.session.inFlightCommands =
        if Supervisor.isFinal receipt.state then s.inFlightCommands.erase receipt.commandId else s.inFlightCommands := by
  obtain ⟨effect, flight, hissued, heq, hflight⟩ := s.landReceipt_issued store receipt env
  have hposted : Posted (· = receipt) s store effect := hissued.posted fun _ _ hr => hr
  rw [heq]
  refine ⟨⟨hposted.booked, hposted.durable, hposted.live⟩, ?_⟩
  rcases hflight with ⟨rfl, hopen⟩ | ⟨rfl, hfinal⟩
  · rw [if_neg (hopen hdisk)]
  · rw [if_pos hfinal]

end LiveSession

def Op.records : Op → Bool
  | .recordReceipt .. => true
  | _ => false

def Op.submits : Op → Bool
  | .submit _ => true
  | _ => false

namespace Supervisor

variable {homes : List (String × String)} {clock : ℕ} {sv sv' : Supervisor} {env : Env} {op : Op}

variable {id : String} {s : LiveSession}

section

variable (hf : Filed homes clock sv) (hhomes : (homes.map Prod.fst).Nodup) (hclock : clock ≤ env.now)

include hf hhomes hclock

lemma Filed.lastWords {effect : Effect}
    (hs : sv.sessions.lookup id = some s)
    (hposted : Posted (LiveSession.LastWord id env.now s.inFlightCommands) s sv.metadata effect)
    (hinFlight : effect.session.inFlightCommands = [])
    (hsessions : sv'.sessions = sv.sessions.insert id effect.session) (hmetadata : sv'.metadata = effect.store) :
    Filed homes env.now sv' ∧ sv.Steady sv' := by
  have hposts := posts_putEffect hs hposted hsessions hmetadata
  refine ⟨hf.posts hposts hclock (List.Subset.refl _) hhomes ?_ ?_, .posts hf.booked hposts ?_⟩
  · rintro r ⟨hsession, hat, -, hmem⟩
    exact ⟨hat.le, hsession, (hf.flying id s hs r.commandId hmem).1⟩
  · intro s' hs'
    rw [hsessions, KeyedMap.lookup_insert_self] at hs'
    cases hs'
    rw [hinFlight]
    exact ⟨List.nodup_nil, nofun⟩
  · exact fun r hr => .inl hr.2.2.1

lemma Filed.recordReceipt {commandId state : String} {evidence reasonCode : Option String}
    (hs : sv.sessions.lookup id = some s) (hflight : commandId ∈ s.inFlightCommands) (hdisk : env.disk 0 = .ok ())
    (hsessions : sv'.sessions = sv.sessions.insert id
      (s.landReceipt sv.metadata env (s.bridgeReceipt id env.now commandId state evidence reasonCode)).1.session)
    (hmetadata : sv'.metadata =
      (s.landReceipt sv.metadata env (s.bridgeReceipt id env.now commandId state evidence reasonCode)).1.store) :
    Filed homes env.now sv' ∧ sv.Steady sv' := by
  obtain ⟨hposted, hinFlight⟩ := @LiveSession.landReceipt_posted s sv.metadata env
    (s.bridgeReceipt id env.now commandId state evidence reasonCode) hdisk
  have hposts := posts_putEffect hs hposted hsessions hmetadata
  refine ⟨hf.posts hposts hclock (List.Subset.refl _) hhomes ?_ ?_, .posts hf.booked hposts ?_⟩
  · rintro r rfl
    exact ⟨le_refl _, rfl, (hf.flying id s hs commandId hflight).1⟩
  · intro s' hs'
    rw [hsessions, KeyedMap.lookup_insert_self] at hs'
    cases hs'
    rw [hinFlight]
    have hold : ∀ c ∈ s.inFlightCommands, ∀ r ∈ sv'.metadata.receipts, r.commandId = c →
        isFinal r.state = false ∨ (c = commandId ∧ r.state = state) := by
      intro c hc r hr hid
      rcases hposts.durable r hr with hold | rfl
      · exact .inl ((hf.flying id s hs c hc).2 r hold hid)
      · exact .inr ⟨hid.symm, rfl⟩
    change (if isFinal state then s.inFlightCommands.erase commandId else s.inFlightCommands).Nodup ∧
      ∀ c ∈ (if isFinal state then s.inFlightCommands.erase commandId else s.inFlightCommands), _
    split
    · refine ⟨(hf.once id s hs).erase _, ?_⟩
      intro c hc
      obtain ⟨hne, hc⟩ := (hf.once id s hs).mem_erase_iff.mp hc
      refine ⟨(hf.flying id s hs c hc).1, ?_⟩
      intro r hr hid
      rcases hold c hc r hr hid with hopen | ⟨rfl, -⟩
      · exact hopen
      · exact absurd rfl hne
    · rename_i hopen
      refine ⟨hf.once id s hs, ?_⟩
      intro c hc
      refine ⟨(hf.flying id s hs c hc).1, ?_⟩
      intro r hr hid
      rcases hold c hc r hr hid with hopen | ⟨-, hstate⟩
      · exact hopen
      · rw [hstate]
        simpa using hopen
  · rintro r rfl
    exact .inr (hf.flying id s hs commandId hflight).2

lemma Filed.fence {mapped : Option String} {fenced : Supervisor} {live : Option ℕ}
    (hfence : sv.fenceSuperseded env mapped = (fenced, .ok live)) : Filed homes env.now fenced ∧ sv.Steady fenced := by
  rcases fenceSuperseded_cases sv env mapped with ⟨-, heq⟩ | ⟨id, s, effect, -, hs, ⟨e, -, heq⟩ | ⟨hsup, heq⟩⟩
  · rw [hfence, Prod.mk.injEq] at heq
    obtain ⟨rfl, -⟩ := heq
    exact ⟨hf.eased hclock (.of_same rfl rfl), .refl _⟩
  · rw [hfence, Prod.mk.injEq] at heq
    cases heq.2
  · rw [hfence, Prod.mk.injEq] at heq
    obtain ⟨rfl, -⟩ := heq
    have hposted := (s.supersedeInFlight_issued sv.metadata id env 1 s.inFlightCommands).lastWords
    rw [hsup] at hposted
    have hcleared : Posted (LiveSession.LastWord id env.now s.inFlightCommands) s sv.metadata
        { effect with session := { effect.session with inFlightCommands := [] } } :=
      ⟨hposted.booked, hposted.durable, hposted.live⟩
    exact hf.lastWords hhomes hclock hs hcleared rfl rfl rfl

end

lemma registered_eased {fenced : Supervisor} {r : NormalizedRegistration} {sender live : Option ℕ}
    {mapping : IdentityMapping} (h : Registered sv env op fenced sv' r sender live mapping) : fenced.Eased sv' := by
  refine ⟨?_, ?_⟩
  · have hreceipts := fenced.metadata.assign_receipts env r live
    rw [h.assign] at hreceipts
    exact hreceipts
  · intro id s' hs'
    by_cases hid : id = mapping.sessionId
    · subst hid
      rw [h.session] at hs'
      cases hs'
      right
      refine ⟨rfl, ?_⟩
      intro receipt hreceipt
      change receipt ∈ sv'.metadata.receiptsFor _ _ _ at hreceipt
      rw [MetadataStore.receiptsFor, List.mem_reverse] at hreceipt
      have htaken := List.mem_of_mem_take hreceipt
      rw [List.mem_reverse] at htaken
      exact (List.mem_filter.mp htaken).1
    · left
      rcases h.others id hid with ⟨hmapped, hsame⟩ | ⟨hnone, -⟩
      · obtain ⟨ended, hfence⟩ := h.fence
        refine ⟨s', ?_, rfl, fun _ hr => hr⟩
        rw [(fenced_other hfence hmapped).1]
        exact hsame ▸ hs'
      · rw [hnone] at hs'
        cases hs'

def Written (sv : Supervisor) (env : Env) (op : Op) : Prop :=
  (op.records → env.disk 0 = .ok ()) ∧
  ∀ r ∈ op.registration.map Prod.fst, ∀ id ∈ sv.mappedSessionId r, ∀ s ∈ sv.sessions.lookup id,
    (LiveSession.supersedeInFlight id env 1 s sv.metadata s.inFlightCommands).2 = .ok ()

lemma eased_of_calm {s' : LiveSession} (hs : sv.sessions.lookup id = some s) (hcalm : s.Calm s')
    (hsessions : sv'.sessions = sv.sessions.insert id s')
    (hreceipts : sv'.metadata.receipts.Sublist sv.metadata.receipts) : sv.Eased sv' := by
  refine ⟨hreceipts, ?_⟩
  intro other after hafter
  left
  rw [hsessions] at hafter
  rcases KeyedMap.lookup_insert_cases hafter with ⟨rfl, rfl⟩ | ⟨-, hold⟩
  · exact ⟨s, hs, hcalm.inFlight, hcalm.receipts⟩
  · exact ⟨after, hold, rfl, fun _ hr => hr⟩

section

variable (hf : Filed homes clock sv) (hhomes : (homes.map Prod.fst).Nodup) (hclock : clock ≤ env.now) (hsubmit : op.submits = false) (hwritten : sv.Written env op)

include hf hhomes hclock hsubmit hwritten

lemma Filed.moved {effect : Effect}
    (hs : sv.sessions.lookup id = some s)
    (hmoved : Moved sv.metadata (sv.carriedHistory.lookup id) env id s op effect)
    (hsessions : sv'.sessions = sv.sessions.insert id effect.session) (hmetadata : sv'.metadata = effect.store) :
    Filed homes env.now sv' ∧ sv.Steady sv' := by
  have hcalmly : s.Calm effect.session → effect.store.receipts = sv.metadata.receipts →
      Filed homes env.now sv' ∧ sv.Steady sv' := by
    intro hcalm hstore
    have he : sv.Eased sv' := eased_of_calm hs hcalm hsessions (by rw [hmetadata, hstore])
    exact ⟨hf.eased hclock he, (Steady.refl sv).eased hf.booked he⟩
  cases hop : op.posts with
  | false =>
    obtain ⟨hcalm, hstore⟩ := hmoved.calm hop
    exact hcalmly hcalm hstore
  | true =>
    cases hmoved with
    | receipt commandId state evidence reasonCode hvalid hflight =>
      exact hf.recordReceipt hhomes hclock hs hflight (hwritten.1 rfl) hsessions hmetadata
    | disconnect token htoken =>
      obtain ⟨hposted, hinFlight⟩ := s.disconnected_posted id sv.metadata env
      exact hf.lastWords hhomes hclock hs hposted hinFlight hsessions hmetadata
    | adoptedEnd reason htopology =>
      have he : sv.Eased sv' := by
        refine ⟨by rw [hmetadata]; exact List.Sublist.refl _, ?_⟩
        intro other after hafter
        left
        rw [hsessions] at hafter
        rcases KeyedMap.lookup_insert_cases hafter with ⟨rfl, rfl⟩ | ⟨-, hold⟩
        · exact ⟨s, hs, rfl, fun _ hr => hr⟩
        · exact ⟨after, hold, rfl, fun _ hr => hr⟩
      exact ⟨hf.eased hclock he, (Steady.refl sv).eased hf.booked he⟩
    | observed r hr hnone hmapped =>
      apply hcalmly (LiveSession.restated_observe env r).resting.calm
      dsimp only
      split
      · rfl
      · exact LiveSession.updateMapping_receipts ..
    | fenced op r sender e hopr hr hmapped hfailed =>
      have hok := hwritten.2 r (by rw [hopr]; rfl) id hmapped s hs
      rw [hfailed] at hok
      cases hok
    | unassigned op r sender e effect hopr hr hmapped hsup hassign =>
      have hposted := (s.supersedeInFlight_issued sv.metadata id env 1 s.inFlightCommands).lastWords
      rw [hsup] at hposted
      have hsub := effect.store.assign_receipts env r (some effect.session.snapshot.revision)
      apply hf.lastWords hhomes hclock hs ?_ rfl hsessions hmetadata
      exact ⟨fun hbooked => (hposted.booked hbooked).sublist hsub,
        fun receipt hreceipt => hposted.durable receipt (hsub.subset hreceipt), hposted.live⟩
    | answered | delivered | undelivered => cases hsubmit
    | _ => cases hop

lemma Filed.step :
    Filed homes env.now (sv.step env op) ∧ sv.Steady (sv.step env op) := by
  have heased : ∀ {sv' : Supervisor}, sv.Eased sv' → Filed homes env.now sv' ∧ sv.Steady sv' := fun he =>
    ⟨hf.eased hclock he, (Steady.refl sv).eased hf.booked he⟩
  cases sv.step_outcome env op with
  | quiet hs hp hm => exact heased (.of_same hs hm)
  | put id s effect hs hmoved hs' hp hm => exact hf.moved hhomes hclock hsubmit hwritten hs hmoved hs' hm
  | expired hop h =>
    subst hop
    apply heased
    refine ⟨List.Sublist.refl _, ?_⟩
    intro id s' hs'
    simp only [Supervisor.step, expireStaleTurnClaims, KeyedMap.lookup_mapValues] at hs'
    obtain ⟨s, hs, rfl⟩ := Option.map_eq_some_iff.mp hs'
    have hmoved : Moved sv.metadata none env id s .expireTurnClaims (sv.metadata.quietly (s.expireTurnClaim env.now)) :=
      .expire
    obtain ⟨hcalm, -⟩ := hmoved.calm rfl
    exact .inl ⟨s, hs, hcalm.inFlight, hcalm.receipts⟩
  | removed ids hids hs hp hm =>
    apply heased
    refine ⟨by rw [hm], ?_⟩
    intro id s' hs'
    rw [hs] at hs'
    split at hs'
    · cases hs'
    · exact .inl ⟨s', hs', rfl, fun _ hr => hr⟩
  | unassigned r sender hop hr hmapped hs hp hm =>
    apply heased
    refine ⟨?_, ?_⟩
    · rw [hm]
      exact sv.metadata.assign_receipts env r none
    · intro id s' hs'
      exact .inl ⟨s', hs ▸ hs', rfl, fun _ hr => hr⟩
  | registered fenced r sender live mapping h =>
    obtain ⟨ended, hfence⟩ := h.fence
    have hended : Filed homes clock { sv with ended := ended } := ⟨hf.booked, hf.past, hf.home, hf.once, hf.flying⟩
    obtain ⟨hfenced, hsteady⟩ := hended.fence hhomes hclock hfence
    have hsteady' : sv.Steady fenced := ⟨hsteady.durable, hsteady.live⟩
    exact ⟨hfenced.eased le_rfl (registered_eased h), hsteady'.eased hfenced.booked (registered_eased h)⟩

end

end Supervisor

end CiaoHost.Session
