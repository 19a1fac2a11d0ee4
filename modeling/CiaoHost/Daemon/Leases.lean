import CiaoHost.Daemon.Admissions
import CiaoHost.Lib.Runs

/-! Normal connections and their leases, cut at the two locks they take in turn: the admissions and
the table of open handles (daemon.rs). -/

namespace CiaoHost.Daemon

open Lib Lib.Runs

inductive LeasePhase where
  | admitted (evicted : Finset ℕ)
  | held
  | releasing
  | dropped
  deriving DecidableEq

def LeasePhase.inProgress : LeasePhase → Bool
  | .admitted _ => true
  | _ => false

structure NormalConnectionLease where
  endpoint : String
  connection : ℕ
  phase : LeasePhase
  deriving DecidableEq

/-- The two tables with the leases by token. `closed` and `evicted` keep what was done so far. -/
structure Connections where
  normalConnections : ConnectionAdmissions
  hostConnections : KeyedMap ℕ ℕ
  leases : KeyedMap ℕ NormalConnectionLease
  closed : Finset ℕ
  evicted : Finset ℕ

inductive ConnectionEvent where
  | connect (endpoint : String) (connection token : ℕ)
  | store (token : ℕ)
  | release (token : ℕ)
  | settle (token : ℕ)
  deriving DecidableEq

namespace Connections

def empty : Connections := ⟨.empty, ∅, ∅, ∅, ∅⟩

variable (s : Connections)

def evictedBy (endpoint : String) (token : ℕ) : Finset ℕ :=
  (s.normalConnections.admitOrEvict endpoint token).2.1

def stale (evicted : Finset ℕ) : Finset ℕ :=
  ((s.hostConnections.entries.filter fun e => e.1 ∈ evicted).map (·.2)).toFinset

def connect (endpoint : String) (connection token : ℕ) : Connections :=
  match s.normalConnections.admitOrEvict endpoint token with
  | (admissions, evicted, admitted) =>
    { s with
      normalConnections := admissions
      evicted := s.evicted ∪ evicted
      leases := if admitted then s.leases.insert token ⟨endpoint, connection, .admitted evicted⟩ else s.leases
      -- a connection that is refused is closed as busy
      closed := if admitted then s.closed else insert connection s.closed }

def store (token : ℕ) : Connections :=
  match s.leases.lookup token with
  | some ⟨endpoint, connection, .admitted evicted⟩ =>
    { s with
      closed := s.closed ∪ s.stale evicted
      hostConnections := (KeyedMap.retain (fun old _ => old ∉ evicted) s.hostConnections).insert token connection
      leases := s.leases.insert token ⟨endpoint, connection, .held⟩ }
  | _ => s

def release (token : ℕ) : Connections :=
  match s.leases.lookup token with
  | some ⟨endpoint, connection, .held⟩ =>
    { s with
      closed := insert connection s.closed
      hostConnections := s.hostConnections.erase token
      leases := s.leases.insert token ⟨endpoint, connection, .releasing⟩ }
  | _ => s

def settle (token : ℕ) : Connections :=
  match s.leases.lookup token with
  | some ⟨endpoint, connection, .releasing⟩ =>
    { s with
      normalConnections := s.normalConnections.remove endpoint token
      leases := s.leases.insert token ⟨endpoint, connection, .dropped⟩ }
  | _ => s

/-- Tokens are drawn at random, so a draw that was already used does not occur. -/
def step : ConnectionEvent → Connections
  | .connect endpoint connection token =>
    if s.leases.lookup token = none then s.connect endpoint connection token else s
  | .store token => s.store token
  | .release token => s.release token
  | .settle token => s.settle token

def Quiescent : Prop := ∀ token lease, s.leases.lookup token = some lease → ¬ lease.phase.inProgress

/-- An endpoint that evicts is at its own cap, and none of its connections stands between its two
sections. -/
def Orderly : ConnectionEvent → Prop
  | .connect endpoint _ token =>
    s.evictedBy endpoint token ≠ ∅ →
      maxNormalConnectionsPerEndpoint ≤ (s.normalConnections.held endpoint).card ∧
      ∀ e ∈ s.leases.entries, e.2.endpoint = endpoint → ¬ e.2.phase.inProgress
  | _ => True

instance : ∀ e : ConnectionEvent, Decidable (s.Orderly e)
  | .connect _ _ _ => inferInstanceAs (Decidable (_ → _ ∧ _))
  | .store _ | .release _ | .settle _ => .isTrue trivial

def Awaited (token : ℕ) : Prop :=
  ∃ call lease evicted, s.leases.lookup call = some lease ∧ lease.phase = .admitted evicted ∧ token ∈ evicted

/-- What the tables hold for a lease. -/
def Stands (token connection : ℕ) : LeasePhase → Prop
  | .admitted evicted => evicted ⊆ s.evicted ∧ token ∉ s.evicted ∧ s.hostConnections.lookup token = none
  | .held => s.hostConnections.lookup token = some connection ∧ (token ∈ s.evicted → s.Awaited token) ∨
      s.hostConnections.lookup token = none ∧ token ∈ s.evicted ∧ connection ∈ s.closed
  | .releasing | .dropped => s.hostConnections.lookup token = none ∧ connection ∈ s.closed

def Fits (token : ℕ) : Option NormalConnectionLease → Prop
  | none => token ∉ s.evicted ∧ s.hostConnections.lookup token = none ∧
      ∀ endpoint, token ∉ s.normalConnections.held endpoint
  | some lease => (∀ endpoint, token ∈ s.normalConnections.held endpoint →
      lease.endpoint = endpoint ∧ token ∉ s.evicted) ∧ s.Stands token lease.connection lease.phase

structure Kept : Prop where
  counted : s.normalConnections.Counted
  fits : ∀ token, s.Fits token (s.leases.lookup token)

lemma empty_kept : empty.Kept where
  counted := ConnectionAdmissions.empty_counted
  fits token := by
    rw [empty, KeyedMap.lookup_empty]
    simp [Fits]

variable {s} {s' : Connections} {token connection : ℕ} {endpoint : String} {phase : LeasePhase} {evicted : Finset ℕ}
  {lease? : Option NormalConnectionLease} {lease : NormalConnectionLease}

lemma Kept.fits_some (h : s.Kept) (hlease : s.leases.lookup token = some lease) : s.Fits token (some lease) :=
  hlease ▸ h.fits token

lemma Kept.owner (h : s.Kept) (hheld : token ∈ s.normalConnections.held endpoint) :
    ∃ lease, s.leases.lookup token = some lease ∧ lease.endpoint = endpoint := by
  have hfits := h.fits token
  cases hlease : s.leases.lookup token with
  | none =>
    rw [hlease] at hfits
    exact absurd hheld (hfits.2.2 endpoint)
  | some lease =>
    rw [hlease] at hfits
    exact ⟨lease, rfl, (hfits.1 endpoint hheld).1⟩

lemma mem_stale (hmem : token ∈ evicted)
    (h : s.hostConnections.lookup token = some connection) : connection ∈ s.stale evicted := by
  rw [stale, List.mem_toFinset, List.mem_map]
  exact ⟨⟨token, connection⟩, List.mem_filter.mpr ⟨KeyedMap.mem_entries.mpr h, decide_eq_true hmem⟩, rfl⟩

lemma Awaited.insert {old : ℕ} (h : s.Awaited old)
    (hnot : ∀ lease, s.leases.lookup token = some lease → ¬ lease.phase.inProgress)
    (hleases : s'.leases = s.leases.insert token lease) : s'.Awaited old := by
  obtain ⟨call, waiting, olds, hcall, hphase, hmem⟩ := h
  refine ⟨call, waiting, olds, ?_, hphase, hmem⟩
  have hne : call ≠ token := by
    rintro rfl
    exact hnot waiting hcall (by rw [hphase]; rfl)
  rw [hleases, KeyedMap.lookup_insert_ne hne]
  exact hcall

/-- A token whose lease is left alone: its handle stays, or it was evicted and its connection is closed. -/
lemma Fits.other (h : s.Fits token lease?) (hevicted : s.evicted ⊆ s'.evicted) (hclosed : s.closed ⊆ s'.closed)
    (hheld : ∀ e, token ∈ s'.normalConnections.held e →
      token ∈ s.normalConnections.held e ∧ (token ∈ s'.evicted → token ∈ s.evicted))
    (hnew : token ∈ s'.evicted → token ∈ s.evicted ∨
      s'.Awaited token ∧ ∃ lease, lease? = some lease ∧ ¬ lease.phase.inProgress)
    (hhandle : s'.hostConnections.lookup token = s.hostConnections.lookup token ∧ (s.Awaited token → s'.Awaited token) ∨
      s'.hostConnections.lookup token = none ∧ token ∈ s'.evicted ∧
        ∀ c, s.hostConnections.lookup token = some c → c ∈ s'.closed) : s'.Fits token lease? := by
  have hnone : s.hostConnections.lookup token = none → s'.hostConnections.lookup token = none := by
    rcases hhandle with ⟨hsame, -⟩ | ⟨hgone, -⟩
    · exact hsame.trans
    · exact fun _ => hgone
  cases lease? with
  | none =>
    refine ⟨fun hmem => ?_, hnone h.2.1, fun e hmem => h.2.2 e (hheld e hmem).1⟩
    rcases hnew hmem with hmem | ⟨-, lease, hlease, -⟩
    · exact h.1 hmem
    · cases hlease
  | some lease =>
    obtain ⟨howned, hstands⟩ := h
    refine ⟨fun e hmem => ?_, ?_⟩
    · obtain ⟨hmem, hold⟩ := hheld e hmem
      exact ⟨(howned e hmem).1, mt hold (howned e hmem).2⟩
    generalize hphase : lease.phase = phase at hstands
    cases phase with
    | admitted evicted =>
      refine ⟨hstands.1.trans hevicted, fun hmem => ?_, hnone hstands.2.2⟩
      rcases hnew hmem with hmem | ⟨-, lease', hlease, hidle⟩
      · exact hstands.2.1 hmem
      · cases hlease
        exact hidle (by rw [hphase]; rfl)
    | held =>
      rcases hstands with ⟨hhas, hawaited⟩ | ⟨hgone, hmem, hshut⟩
      · rcases hhandle with ⟨hsame, hstill⟩ | ⟨hgone, hmem, hshut⟩
        · exact .inl ⟨hsame.trans hhas, fun hmem => (hnew hmem).elim (fun hold => hstill (hawaited hold)) And.left⟩
        · exact .inr ⟨hgone, hmem, hshut _ hhas⟩
      · exact .inr ⟨hnone hgone, hevicted hmem, hclosed hshut⟩
    | releasing | dropped => exact ⟨hnone hstands.1, hclosed hstands.2⟩

lemma Kept.admitted {a' : ConnectionAdmissions} (h : s.Kept) (hfresh : s.leases.lookup token = none)
    (hcounted : a'.Counted)
    (hheld : ∀ e, ∀ t ∈ a'.held e, t = token ∧ e = endpoint ∨ t ∉ evicted ∧ t ∈ s.normalConnections.held e)
    (hevicted : ∀ t ∈ evicted, ∃ lease, s.leases.lookup t = some lease ∧ ¬ lease.phase.inProgress) :
    Kept ⟨a', s.hostConnections, s.leases.insert token ⟨endpoint, connection, .admitted evicted⟩, s.closed,
      s.evicted ∪ evicted⟩ := by
  refine ⟨hcounted, fun t => ?_⟩
  rw [KeyedMap.lookup_insert]
  split
  · next heq =>
    subst heq
    have hunseen := h.fits t
    rw [hfresh] at hunseen
    have hnew : t ∉ s.evicted ∪ evicted := by
      rw [Finset.mem_union]
      rintro (hmem | hmem)
      · exact hunseen.1 hmem
      · obtain ⟨lease, hlease, -⟩ := hevicted t hmem
        rw [hfresh] at hlease
        cases hlease
    refine ⟨fun e hmem => ⟨?_, hnew⟩, Finset.subset_union_right, hnew, hunseen.2.1⟩
    exact (hheld e t hmem).elim (fun hown => hown.2.symm) fun hold => absurd hold.2 (hunseen.2.2 e)
  · next hne =>
    refine (h.fits t).other Finset.subset_union_left (Finset.Subset.refl _) (fun e hmem => ?_) (fun hmem => ?_)
      (.inl ⟨rfl, fun hawaited => hawaited.insert (by simp [hfresh]) rfl⟩)
    · obtain ⟨hout, hmem⟩ := (hheld e t hmem).resolve_left fun hown => hne hown.1
      exact ⟨hmem, fun hin => (Finset.mem_union.mp hin).resolve_right hout⟩
    · refine (Finset.mem_union.mp hmem).imp_right fun hmem => ⟨?_, hevicted t hmem⟩
      exact ⟨token, _, evicted, KeyedMap.lookup_insert_self _ _ _, rfl, hmem⟩

lemma Kept.connect (h : s.Kept) (hfresh : s.leases.lookup token = none)
    (horderly : s.Orderly (.connect endpoint connection token)) : (s.connect endpoint connection token).Kept := by
  have hunseen := h.fits token
  rw [hfresh] at hunseen
  have hadmitted := ConnectionAdmissions.admitOrEvict_admitted h.counted (hunseen.2.2 endpoint)
  rw [Orderly, evictedBy] at horderly
  rw [Connections.connect]
  generalize s.normalConnections.admitOrEvict endpoint token = result at hadmitted horderly
  cases hadmitted with
  | refused hcounted _ hheld =>
    refine ⟨hcounted, fun t => ?_⟩
    dsimp only
    rw [Finset.union_empty, if_neg Bool.false_ne_true]
    refine (h.fits t).other (Finset.Subset.refl _) (Finset.subset_insert _ _) (fun e hmem => ⟨hheld e ▸ hmem, id⟩)
      .inl (.inl ⟨rfl, id⟩)
  | beside hcounted hheld =>
    apply h.admitted hfresh hcounted
    · intro e t ht
      rw [hheld] at ht
      split at ht
      · next he =>
        rcases Finset.mem_insert.mp ht with rfl | ht
        · exact .inl ⟨rfl, he⟩
        · exact .inr ⟨Finset.notMem_empty t, he ▸ ht⟩
      · exact .inr ⟨Finset.notMem_empty t, ht⟩
    · exact fun t ht => absurd ht (Finset.notMem_empty t)
  | superseding hcounted hsome hheld =>
    have hquiet := (horderly hsome).2
    apply h.admitted hfresh hcounted
    · intro e t ht
      rw [hheld] at ht
      split at ht
      · next he => exact .inl ⟨Finset.mem_singleton.mp ht, he⟩
      · next he =>
        refine .inr ⟨fun hmem => ?_, ht⟩
        -- a token is held under the endpoint of its lease only
        obtain ⟨lease, hlease, hendpoint⟩ := h.owner hmem
        obtain ⟨lease', hlease', hendpoint'⟩ := h.owner ht
        rw [hlease, Option.some.injEq] at hlease'
        exact he (hendpoint'.symm.trans (hlease' ▸ hendpoint))
    · intro t ht
      obtain ⟨lease, hlease, hendpoint⟩ := h.owner ht
      exact ⟨lease, hlease, hquiet _ (KeyedMap.mem_entries.mpr hlease) hendpoint⟩

lemma Kept.store (h : s.Kept) : (s.store token).Kept := by
  rw [Connections.store]
  split
  · next endpoint connection evicted hlease =>
    obtain ⟨howned, hevicted, hmine, -⟩ := h.fits_some hlease
    refine ⟨h.counted, fun t => ?_⟩
    rw [KeyedMap.lookup_insert]
    split
    · next heq =>
      subst heq
      exact ⟨howned, .inl ⟨KeyedMap.lookup_insert_self _ _ _, fun hmem => absurd hmem hmine⟩⟩
    · next hne =>
      refine (h.fits t).other (Finset.Subset.refl _) Finset.subset_union_left (fun e hmem => ⟨hmem, id⟩) .inl ?_
      dsimp only
      rw [KeyedMap.lookup_insert_ne hne, KeyedMap.lookup_retain]
      by_cases hold : t ∈ evicted
      · refine .inr ⟨?_, hevicted hold, fun c hc => Finset.mem_union_right _ (mem_stale hold hc)⟩
        rw [Option.filter_eq_none_iff]
        simp [hold]
      · refine .inl ⟨by cases s.hostConnections.lookup t <;> simp [hold], ?_⟩
        rintro ⟨call, waiting, olds, hcall, hwaiting, hmem⟩
        refine ⟨call, waiting, olds, (KeyedMap.lookup_insert_ne ?_).trans hcall, hwaiting, hmem⟩
        rintro rfl
        rw [hlease, Option.some.injEq] at hcall
        subst hcall
        cases hwaiting
        exact hold hmem
  · exact h

lemma Kept.moved {a' : ConnectionAdmissions} {handles : KeyedMap ℕ ℕ} {closed : Finset ℕ} (h : s.Kept)
    (hlease : s.leases.lookup token = some ⟨endpoint, connection, phase⟩) (hidle : ¬ phase.inProgress)
    (hcounted : a'.Counted) (hheld : ∀ e, a'.held e ⊆ s.normalConnections.held e) (hclosed : s.closed ⊆ closed)
    (hhandles : ∀ t, t ≠ token → handles.lookup t = s.hostConnections.lookup t) (hgone : handles.lookup token = none)
    (hshut : connection ∈ closed) {phase' : LeasePhase} (hphase' : phase' = .releasing ∨ phase' = .dropped) :
    Kept ⟨a', handles, s.leases.insert token ⟨endpoint, connection, phase'⟩, closed, s.evicted⟩ := by
  refine ⟨hcounted, fun t => ?_⟩
  rw [KeyedMap.lookup_insert]
  split
  · next heq =>
    subst heq
    refine ⟨fun e hmem => (h.fits_some hlease).1 e (hheld e hmem), ?_⟩
    rcases hphase' with rfl | rfl
    · exact ⟨hgone, hshut⟩
    · exact ⟨hgone, hshut⟩
  · next hne =>
    refine (h.fits t).other (Finset.Subset.refl _) hclosed (fun e hmem => ⟨hheld e hmem, id⟩) .inl (.inl ⟨hhandles t hne, ?_⟩)
    refine fun hawaited => hawaited.insert (fun lease hlease' => ?_) rfl
    rw [hlease, Option.some.injEq] at hlease'
    exact hlease' ▸ hidle

lemma Kept.release (h : s.Kept) : (s.release token).Kept := by
  rw [Connections.release]
  split
  · next endpoint connection hlease =>
    exact h.moved hlease Bool.false_ne_true h.counted (fun _ => Finset.Subset.refl _) (Finset.subset_insert _ _)
      (fun _ hne => KeyedMap.lookup_erase_ne hne) (KeyedMap.lookup_erase_self _ _) (Finset.mem_insert_self _ _) (.inl rfl)
  · exact h

lemma Kept.settle (h : s.Kept) : (s.settle token).Kept := by
  rw [Connections.settle]
  split
  · next endpoint connection hlease =>
    obtain ⟨-, hgone, hshut⟩ := h.fits_some hlease
    refine h.moved hlease Bool.false_ne_true h.counted.remove (fun e => ?_) (Finset.Subset.refl _) (fun _ _ => rfl)
      hgone hshut (.inr rfl)
    rw [ConnectionAdmissions.held_remove]
    split
    · next he => exact he ▸ Finset.erase_subset _ _
    · exact Finset.Subset.refl _
  · exact h

variable {e : ConnectionEvent}

lemma Kept.step (h : s.Kept) (horderly : s.Orderly e) : (s.step e).Kept := by
  cases e with
  | connect endpoint connection token =>
    rw [Connections.step]
    split
    · next hfresh => exact h.connect hfresh horderly
    · exact h
  | store token => exact h.store
  | release token => exact h.release
  | settle token => exact h.settle

/-- The counts are exact, and once no connection is between its sections the evicted ones are closed
and gone and the others are in the table. -/
structure Exact (s : Connections) : Prop where
  total : s.normalConnections.total = s.normalConnections.tokenCount
  global : s.normalConnections.total ≤ maxNormalConnections
  perEndpoint : ∀ endpoint, (s.normalConnections.held endpoint).card ≤ maxNormalConnectionsPerEndpoint
  superseded : s.Quiescent → ∀ token ∈ s.evicted, s.hostConnections.lookup token = none ∧
    ∃ lease, s.leases.lookup token = some lease ∧ lease.connection ∈ s.closed
  stored : s.Quiescent → ∀ token lease, s.leases.lookup token = some lease → lease.phase = .held →
    token ∉ s.evicted → s.hostConnections.lookup token = some lease.connection

lemma Kept.exact (h : s.Kept) : s.Exact where
  total := h.counted.total
  global := h.counted.global
  perEndpoint := h.counted.perEndpoint
  superseded hquiet token hmem := by
    have hfits := h.fits token
    cases hlease : s.leases.lookup token with
    | none =>
      rw [hlease] at hfits
      exact absurd hmem hfits.1
    | some lease =>
      rw [hlease] at hfits
      have hstands := hfits.2
      have hidle := hquiet token lease hlease
      generalize lease.phase = phase at hstands hidle
      cases phase with
      | admitted olds => exact absurd rfl hidle
      | held =>
        rcases hstands with ⟨-, hawaited⟩ | ⟨hnone, -, hshut⟩
        · obtain ⟨call, waiting, olds, hcall, hwaiting, -⟩ := hawaited hmem
          exact absurd (by rw [hwaiting]; rfl) (hquiet call waiting hcall)
        · exact ⟨hnone, lease, rfl, hshut⟩
      | releasing | dropped => exact ⟨hstands.1, lease, rfl, hstands.2⟩
  stored _ token lease hlease hphase hmem := by
    have hstands := (h.fits_some hlease).2
    rw [hphase] at hstands
    exact (hstands.resolve_right fun hs => hmem hs.2.1).1

def EvictsAtCap (s : Connections) (e : ConnectionEvent) : Prop :=
  ∀ old ∈ (s.step e).evicted, old ∉ s.evicted → ∃ endpoint connection token, e = .connect endpoint connection token ∧
    (s.leases.lookup old).map NormalConnectionLease.endpoint = some endpoint ∧
    (s.normalConnections.held endpoint).card = maxNormalConnectionsPerEndpoint

lemma Kept.evictsAtCap (h : s.Kept) (horderly : s.Orderly e) : s.EvictsAtCap e := by
  intro old hold hnew
  cases e with
  | connect endpoint connection token =>
    refine ⟨endpoint, connection, token, rfl, ?_⟩
    rw [Connections.step] at hold
    split at hold
    · next hfresh =>
      have hunseen := h.fits token
      rw [hfresh] at hunseen
      have hadmitted := ConnectionAdmissions.admitOrEvict_admitted h.counted (hunseen.2.2 endpoint)
      rw [Orderly, evictedBy] at horderly
      rw [Connections.connect] at hold
      generalize s.normalConnections.admitOrEvict endpoint token = result at hadmitted hold horderly
      cases hadmitted with
      | refused | beside => exact absurd (Finset.union_empty s.evicted ▸ hold) hnew
      | superseding _ hsome =>
        have hold := (Finset.mem_union.mp hold).resolve_left hnew
        obtain ⟨lease, hlease, hendpoint⟩ := h.owner hold
        refine ⟨by rw [hlease, Option.map_some, hendpoint], ?_⟩
        exact Nat.le_antisymm (h.counted.perEndpoint endpoint) (horderly hsome).1
    · exact absurd hold hnew
  | store token =>
    rw [Connections.step, Connections.store] at hold
    split at hold <;> exact absurd hold hnew
  | release token =>
    rw [Connections.step, Connections.release] at hold
    split at hold <;> exact absurd hold hnew
  | settle token =>
    rw [Connections.step, Connections.settle] at hold
    split at hold <;> exact absurd hold hnew

def Sample.redialed : List ConnectionEvent :=
  [.connect "phone" 1 11, .store 11, .connect "phone" 2 12, .store 12, .connect "phone" 3 13, .store 13, .release 11,
    .settle 11]

def Sample.evictedMidway : List ConnectionEvent :=
  [.connect "phone" 1 11, .connect "phone" 2 12, .store 12, .connect "phone" 3 13, .store 13, .store 11]

def Sample.crowded : List ConnectionEvent :=
  [.connect "phone" 0 0, .store 0] ++
    (List.range 15).flatMap fun i => [.connect (toString (i / 2)) (i + 1) (i + 1), .store (i + 1)]

end Connections

end CiaoHost.Daemon
