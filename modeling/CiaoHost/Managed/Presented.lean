import CiaoHost.Managed.Stored

/-! Stored managed sessions along runs of the directory: when every one of them can be shown. -/

namespace CiaoHost.Managed

open Lib Lib.Text Protocol

lemma bumped_ne_zero (n : ℕ) : bumped n ≠ 0 := by
  rw [bumped]
  omega

lemma Env.unixNow_ne_zero (env : Env) : env.unixNow ≠ 0 := by
  rw [Env.unixNow]
  omega

lemma workspaceLabel_bound (path : Path) :
    workspaceLabel path ≠ "" ∧ byteLen (workspaceLabel path) ≤ maxWorkspaceLabelBytes := by
  rw [workspaceLabel]
  split
  · exact ⟨by decide, by decide⟩
  · next hne => exact ⟨hne, byteLen_cut _ _⟩

lemma opaqueId_valid (drawn : ℕ) : validOpaqueId (opaqueId drawn) = .ok () := by
  have hvalid := @validOpaqueId_hex32 "" (by simp) (by decide) drawn
  rwa [String.empty_append] at hvalid

lemma handbackSessionName_valid {label sessionId name : String} (h : handbackSessionName label sessionId = some name) :
    validSessionName name := by
  simp only [handbackSessionName] at h
  split at h
  · cases h
  · obtain ⟨hvalid, hname⟩ := Option.ite_none_right_eq_some.mp h
    obtain rfl := Option.some.inj hname
    exact hvalid

namespace ManagedRecord.Presentable

variable {r : ManagedRecord} {now : ℕ} (h : r.Presentable) (hnow : now ≠ 0)
include h hnow

lemma stoppedRecord (hterminal : r.handbackSession = none) : (Managed.stoppedRecord now r).Presentable :=
  { h with
    revision := bumped_ne_zero _
    updatedAt := hnow
    handback := fun name hname => absurd (hterminal.symm.trans hname) (by simp) }

lemma releasedRecord {route : Option String} (hroute : ∀ name, route = some name → validSessionName name) :
    (Managed.releasedRecord route now r).Presentable :=
  { h with
    revision := bumped_ne_zero _
    updatedAt := hnow
    handback := fun name hname => ⟨hroute name hname, rfl, rfl⟩ }

lemma resumedRecord (generation : ℕ) : (Managed.resumedRecord (bumped generation) now r).Presentable :=
  { h with
    generation := bumped_ne_zero _
    revision := bumped_ne_zero _
    updatedAt := hnow
    handback := fun _ hname => nomatch hname }

lemma exitedRecord (crashed : Bool) : (Managed.exitedRecord crashed now r).Presentable := by
  rw [Managed.exitedRecord]
  split
  · next hlive =>
    exact { h with
      revision := bumped_ne_zero _
      updatedAt := hnow
      handback := fun name hname => by
        have hstored := (h.handback name hname).2.1
        rw [hlive] at hstored
        cases hstored }
  · exact h

lemma externallyOwnedRecord (hterminal : r.handbackSession = none) :
    (Managed.externallyOwnedRecord now r).Presentable := by
  rw [Managed.externallyOwnedRecord]
  split
  · exact { h with
      revision := bumped_ne_zero _
      updatedAt := hnow
      handback := fun name hname => absurd (hterminal.symm.trans hname) (by simp) }
  · exact h

lemma vendorRecord (vendor : String) : (Managed.vendorRecord vendor now r).Presentable := by
  rw [Managed.vendorRecord]
  split
  · exact h
  · exact { h with updatedAt := hnow }

lemma restartedRecord : (Managed.restartedRecord now r).Presentable := by
  rw [Managed.restartedRecord]
  split
  · next hlive =>
    exact { h with
      updatedAt := hnow
      handback := fun name hname => by
        have hstored := (h.handback name hname).2.1
        rw [hlive] at hstored
        cases hstored }
  · exact h

end ManagedRecord.Presentable

lemma restartedRecord_sessionId (now : ℕ) (r : ManagedRecord) : (restartedRecord now r).sessionId = r.sessionId := by
  rw [restartedRecord]
  split <;> rfl

lemma exitedRecord_sessionId (crashed : Bool) (now : ℕ) (r : ManagedRecord) :
    (exitedRecord crashed now r).sessionId = r.sessionId := by
  rw [exitedRecord]
  split <;> rfl

lemma externallyOwnedRecord_sessionId (now : ℕ) (r : ManagedRecord) :
    (externallyOwnedRecord now r).sessionId = r.sessionId := by
  rw [externallyOwnedRecord]
  split <;> rfl

lemma vendorRecord_sessionId (vendor : String) (now : ℕ) (r : ManagedRecord) :
    (vendorRecord vendor now r).sessionId = r.sessionId := by
  rw [vendorRecord]
  split <;> rfl

namespace ManagedMetadataStore

structure Shows (s : ManagedMetadataStore) : Prop where
  records : ∀ r ∈ s.records, r.Presentable
  distinct : s.Distinct

variable {s : ManagedMetadataStore} {sessionId : String} {f : ManagedRecord → ManagedRecord}

section

variable (h : s.Shows)

include h

lemma Shows.of_records {s' : ManagedMetadataStore} (hrecords : s'.records = s.records) : s'.Shows :=
  ⟨by rw [hrecords]; exact h.records, by rw [Distinct, hrecords]; exact h.distinct⟩

lemma Shows.update (hid : ∀ r, (f r).sessionId = r.sessionId)
    (hf : ∀ r, s.record sessionId = some r → r.Presentable → (f r).Presentable) : (s.update sessionId f).Shows := by
  refine ⟨fun r hr => ?_, h.distinct.update hid⟩
  rcases KeyedList.mem_of_mem_updateFirst hr with hr | ⟨r, hfound, rfl⟩
  · exact h.records r hr
  · exact hf r hfound (h.records r (List.mem_of_find?_eq_some hfound))

lemma Shows.remove : (s.remove sessionId).Shows :=
  ⟨fun r hr => h.records r (List.mem_of_mem_eraseP hr), h.distinct.remove⟩

lemma Shows.push {r : ManagedRecord} (hr : r.Presentable) (hfresh : s.record r.sessionId = none) :
    (s.push r).Shows := by
  refine ⟨fun r' hr' => ?_, h.distinct.push hfresh⟩
  rcases List.mem_append.mp hr' with hr' | hr'
  · exact h.records r' hr'
  · rw [List.mem_singleton.mp hr']
    exact hr

lemma Shows.load {file : ManagedMetadataStore} (hload : s.load = some file) : file.Shows := by
  rw [ManagedMetadataStore.load] at hload
  split at hload
  · obtain rfl := Option.some.inj hload
    exact h.of_records rfl
  · cases hload

lemma Shows.restarted {now : ℕ} (hnow : now ≠ 0) :
    ({ s with records := s.records.map (restartedRecord now) } : ManagedMetadataStore).Shows := by
  refine ⟨fun r hr => ?_, ?_⟩
  · obtain ⟨r', hr', rfl⟩ := List.mem_map.mp hr
    exact (h.records r' hr').restartedRecord hnow
  · rw [Distinct, List.map_map]
    have hids : ManagedRecord.sessionId ∘ restartedRecord now = ManagedRecord.sessionId := by
      funext r
      exact restartedRecord_sessionId now r
    rw [hids]
    exact h.distinct

end

variable {other : String}

lemma record_update_none (hid : ∀ r, (f r).sessionId = r.sessionId) (h : s.record other = none) :
    (s.update sessionId f).record other = none := by
  by_cases heq : other = sessionId
  · subst heq
    rw [record_update_self hid, h]
    rfl
  · rw [record_update_ne hid heq, h]

lemma record_remove_none (h : s.record other = none) : (s.remove sessionId).record other = none := by
  rw [record, List.find?_eq_none] at h ⊢
  exact fun r hr => h r (List.mem_of_mem_eraseP hr)

end ManagedMetadataStore

def Event.drawn : Event → Option ℕ
  | .start _ _ _ drawn | .scanned _ _ drawn | .startAtPath _ _ _ _ drawn | .promote _ _ _ _ _ drawn
  | .probed _ _ drawn => some drawn
  | _ => none

def Call.newLaunch : Call → Option Launch
  | .launching launch | .spawned launch => if launch.resumes = none then some launch else none
  | _ => none

def Call.Sound (s : ManagedMetadataStore) : Call → Prop
  | .closing launch | .resumeProbing launch => launch.resumes ≠ none
  | .launching launch | .spawned launch => launch.resumes = none → validOpaqueId launch.sessionId = .ok () ∧
      (launch.label ≠ "" ∧ byteLen launch.label ≤ maxWorkspaceLabelBytes) ∧ s.record launch.sessionId = none
  | _ => True

variable {call : Call}

lemma Call.Sound.mono {s s' : ManagedMetadataStore} (h : call.Sound s)
    (hids : ∀ l, call.newLaunch = some l → s.record l.sessionId = none → s'.record l.sessionId = none) :
    call.Sound s' := by
  cases call with
  | launching launch | spawned launch =>
    intro hnew
    obtain ⟨hid, hlabel, hfresh⟩ := h hnew
    exact ⟨hid, hlabel, hids launch (if_pos hnew) hfresh⟩
  | _ => exact h

namespace Directory

variable {workspaceId : String → String} {d : Directory} {env : Env} {n : ℕ}

def Fresh (d : Directory) (sessionId : String) : Prop :=
  d.store.record sessionId = none ∧
    ∀ e ∈ d.calls.entries, ∀ launch ∈ e.2.newLaunch, launch.sessionId ≠ sessionId

instance (sessionId : String) : Decidable (d.Fresh sessionId) := inferInstanceAs (Decidable (_ ∧ _))

def handedBack (d : Directory) (sessionId : String) : Bool :=
  (d.store.record sessionId).any fun r => r.handbackSession.isSome

def stoppingSession (d : Directory) (n : ℕ) : Option String :=
  match d.calls.lookup n with
  | some (.stopping sessionId _) => some sessionId
  | _ => none

def restates (d : Directory) : Event → Option String
  | .stopped n => d.stoppingSession n
  | .markExternallyOwned sessionId => some sessionId
  | _ => none

/-- Session ids are drawn fresh, and no other reason is written over a handback. -/
def Orderly (d : Directory) (i : Input) : Prop :=
  (∀ drawn ∈ i.event.drawn, d.Fresh (opaqueId drawn)) ∧
    ∀ sessionId ∈ d.restates i.event, d.handedBack sessionId = false

instance (i : Input) : Decidable (d.Orderly i) := inferInstanceAs (Decidable (_ ∧ _))

structure Presented (d : Directory) : Prop where
  store : d.store.Shows
  saved : d.saved.Shows
  calls : ∀ n call, d.calls.lookup n = some call → call.Sound d.store
  apart : ∀ n n' call call' launch launch', d.calls.lookup n = some call → d.calls.lookup n' = some call' →
    call.newLaunch = some launch → call'.newLaunch = some launch' → launch.sessionId = launch'.sessionId → n = n'

variable {sessionId : String}

namespace Presented

lemma empty : Presented .empty where
  store := ⟨nofun, List.nodup_nil⟩
  saved := ⟨nofun, List.nodup_nil⟩
  calls := fun n call hcall => by simp [Directory.empty] at hcall
  apart := fun n n' call call' _ _ hcall => by simp [Directory.empty] at hcall

lemma persist (h : d.Presented) : (d.persist env).Presented := by
  rw [Directory.persist]
  split
  · exact { h with saved := h.store }
  · exact h

lemma withWorkers (h : d.Presented) (workers : Finset String) : ({ d with workers := workers } : Directory).Presented :=
  { h with }

lemma finish (h : d.Presented) (n : ℕ) : (d.finish n).Presented :=
  { h with
    calls := fun n' call hcall => h.calls n' call (KeyedMap.lookup_erase_some hcall).2
    apart := fun n₁ n₂ call call' launch launch' h₁ h₂ => h.apart n₁ n₂ call call' launch launch'
      (KeyedMap.lookup_erase_some h₁).2 (KeyedMap.lookup_erase_some h₂).2 }

variable {store : ManagedMetadataStore} {generation : Option ℕ} {f : ManagedRecord → ManagedRecord}

section

variable (h : d.Presented)

include h

lemma withStore (hstore : store.Shows)
    (hids : ∀ sessionId, d.store.record sessionId = none → store.record sessionId = none) :
    ({ d with store := store } : Directory).Presented :=
  { h with
    store := hstore
    calls := fun n call hcall => (h.calls n call hcall).mono fun _ _ => hids _ }

lemma withCall (hcall : call.Sound d.store)
    (hnew : ∀ launch, call.newLaunch = some launch → ∀ n' call' launch', n' ≠ n → d.calls.lookup n' = some call' →
      call'.newLaunch = some launch' → launch'.sessionId ≠ launch.sessionId) : (d.withCall n call).Presented where
  store := h.store
  saved := h.saved
  calls := by
    intro n' call' hlookup
    rcases KeyedMap.lookup_insert_cases hlookup with ⟨-, rfl⟩ | ⟨-, hlookup⟩
    · exact hcall
    · exact h.calls n' call' hlookup
  apart := by
    intro n₁ n₂ call₁ call₂ launch₁ launch₂ h₁ h₂ hl₁ hl₂ hid
    rcases KeyedMap.lookup_insert_cases h₁ with ⟨hn₁, hc₁⟩ | ⟨hne₁, hold₁⟩
    · rcases KeyedMap.lookup_insert_cases h₂ with ⟨hn₂, -⟩ | ⟨hne₂, hold₂⟩
      · exact hn₁.trans hn₂.symm
      · exact absurd hid.symm (hnew launch₁ (hc₁ ▸ hl₁) n₂ call₂ launch₂ hne₂ hold₂ hl₂)
    · rcases KeyedMap.lookup_insert_cases h₂ with ⟨-, hc₂⟩ | ⟨hne₂, hold₂⟩
      · exact absurd hid (hnew launch₂ (hc₂ ▸ hl₂) n₁ call₁ launch₁ hne₁ hold₁ hl₁)
      · exact h.apart n₁ n₂ call₁ call₂ launch₁ launch₂ hold₁ hold₂ hl₁ hl₂ hid

lemma refuse (commandId reason : String) : (d.refuse env commandId reason).Presented := by
  have hstore : (d.store.refuse commandId reason).Shows := h.store.of_records rfl
  exact (h.withStore hstore fun _ hnone => hnone).persist

lemma settle {commandId : String} {sessionId : Option String} (hstore : store.Shows)
    (hids : ∀ sessionId, d.store.record sessionId = none → store.record sessionId = none) :
    (d.settle env store commandId sessionId generation).Presented := by
  have haccepted : (store.accept commandId sessionId generation).Shows := hstore.of_records rfl
  exact (h.withStore haccepted hids).persist

lemma settleUpdate {commandId : String} {answered : Option String}
    (hid : ∀ r, (f r).sessionId = r.sessionId)
    (hf : ∀ r, d.store.record sessionId = some r → r.Presentable → (f r).Presentable) :
    ((d.finish n).settle env (d.store.update sessionId f) commandId answered generation).Presented :=
  (h.finish n).settle (h.store.update hid hf) fun _ => ManagedMetadataStore.record_update_none hid

lemma amend (hid : ∀ r, (f r).sessionId = r.sessionId)
    (hf : ∀ r, d.store.record sessionId = some r → r.Presentable → (f r).Presentable) :
    (d.amend env sessionId f).Presented :=
  (h.withStore (h.store.update hid hf) fun _ => ManagedMetadataStore.record_update_none hid).persist

end

end Presented

variable {r : ManagedRecord} {launch : Launch} {commandId : String} {drawn : ℕ} {usable evidence : Bool} {path : Path}

lemma handback_none_of_not_handedBack (h : d.handedBack sessionId = false)
    (hr : d.store.record sessionId = some r) : r.handbackSession = none := by
  simpa [handedBack, hr] using h

namespace Presented

section Calls

variable (h : d.Presented)

include h

lemma opening {opened : Directory} (hopened : opened.Presented) : (d.opening n opened).Presented := by
  rw [Directory.opening]
  split
  · exact h
  · exact hopened

lemma waiting (hcall : call.Sound d.store) (hnone : call.newLaunch = none) : (d.withCall n call).Presented :=
  h.withCall hcall (by rw [hnone]; exact nofun)

lemma startInWorkspace {label : String} {vendor : Option String} (hfresh : d.Fresh (opaqueId drawn))
    (hlabel : label ≠ "" ∧ byteLen label ≤ maxWorkspaceLabelBytes) :
    (d.startInWorkspace n path label vendor commandId drawn).Presented := by
  refine h.withCall (fun _ => ⟨opaqueId_valid drawn, hlabel, hfresh.1⟩) ?_
  intro launch hlaunch n' call' launch' _ hlookup hl'
  rw [Call.newLaunch, if_pos rfl] at hlaunch
  obtain rfl := Option.some.inj hlaunch
  exact hfresh.2 ⟨n', call'⟩ (KeyedMap.mem_entries.mpr hlookup) launch' hl'

lemma managedStart {workspace : String} (hfresh : d.Fresh (opaqueId drawn)) :
    (d.managedStart n workspace commandId drawn).Presented := by
  rw [Directory.managedStart]
  split
  · exact h
  · split
    · next r hr => exact h.startInWorkspace hfresh (h.store.records r (List.mem_of_find?_eq_some hr)).label
    · exact h.waiting trivial rfl

lemma scanAnswered {found : Option Path} (hfresh : d.Fresh (opaqueId drawn)) :
    (d.scanAnswered workspaceId env n found drawn).Presented := by
  rw [Directory.scanAnswered]
  split
  · split
    · exact h.startInWorkspace hfresh (workspaceLabel_bound _)
    · exact (h.finish n).refuse _ _
  · exact h

lemma managedStartAtPath (hfresh : d.Fresh (opaqueId drawn)) :
    (d.managedStartAtPath env n path usable commandId drawn).Presented := by
  rw [Directory.managedStartAtPath]
  split
  · exact h
  · split
    · exact h.refuse _ _
    · exact h.startInWorkspace hfresh (workspaceLabel_bound _)

lemma managedPromote {vendor : Option String} (hfresh : d.Fresh (opaqueId drawn)) :
    (d.managedPromote env n path usable vendor commandId drawn).Presented := by
  rw [Directory.managedPromote.eq_def]
  split
  · exact h
  · split
    · exact h.refuse _ _
    · cases vendor with
      | none => exact h.startInWorkspace hfresh (workspaceLabel_bound _)
      | some vendor =>
        dsimp only
        split
        · exact h.refuse _ _
        · exact h.waiting trivial rfl

lemma promotionProbed (hfresh : d.Fresh (opaqueId drawn)) : (d.promotionProbed env n evidence drawn).Presented := by
  rw [Directory.promotionProbed]
  split
  · split
    · exact (h.finish n).refuse _ _
    · exact h.startInWorkspace hfresh (workspaceLabel_bound _)
  · exact h

lemma launchAgain (hresumes : launch.resumes ≠ none) : (d.withCall n (.launching launch)).Presented :=
  h.waiting (fun hnew => absurd hnew hresumes) (if_neg hresumes)

lemma probeOrLaunch (hresumes : launch.resumes ≠ none) : (d.probeOrLaunch n launch).Presented := by
  rw [Directory.probeOrLaunch]
  split
  · exact h.waiting hresumes rfl
  · exact h.launchAgain hresumes

lemma managedResume : (d.managedResume env n sessionId commandId).Presented := by
  rw [Directory.managedResume]
  split
  · exact h
  · split
    · exact h.refuse _ _
    · dsimp only
      split
      · exact h.refuse _ _
      · split
        · exact h.refuse _ _
        · split
          · exact h.waiting (Option.some_ne_none _) rfl
          · exact h.probeOrLaunch (Option.some_ne_none _)

lemma handbackClosed : (d.handbackClosed n).Presented := by
  rw [Directory.handbackClosed]
  split
  · next hcall => exact h.probeOrLaunch (h.calls n _ hcall)
  · exact h

lemma resumeProbed : (d.resumeProbed env n evidence).Presented := by
  rw [Directory.resumeProbed]
  split
  · next hcall =>
    split
    · exact (h.finish n).refuse _ _
    · exact h.launchAgain (h.calls n _ hcall)
  · exact h

lemma launcherAnswered {failure : Option String} : (d.launcherAnswered env n failure).Presented := by
  rw [Directory.launcherAnswered]
  split
  · next launch hcall =>
    split
    · exact (h.finish n).refuse _ _
    · have hsound : (Call.spawned launch).Sound d.store := h.calls n (.launching launch) hcall
      refine (h.withWorkers _).withCall hsound ?_
      intro l hl n' call' launch' hne hlookup hl' heq
      exact hne (h.apart n' n call' _ launch' l hlookup hcall hl' hl heq)
  · exact h

lemma records (hcall : d.calls.lookup n = some (.spawned launch))
    (hnew : launch.resumes = none) : ((d.finish n).settle env (d.store.push (newRecord workspaceId env launch))
      launch.commandId (some launch.sessionId) none).Presented := by
  obtain ⟨hid, hlabel, hfresh⟩ := h.calls n _ hcall hnew
  have hrecord : (newRecord workspaceId env launch).Presentable :=
    { sessionId := hid
      family := (by decide : validToken adapterFamily = .ok ())
      version := (by decide : validToken pinnedManagedCliVersion = .ok ())
      label := hlabel
      generation := one_ne_zero
      revision := one_ne_zero
      updatedAt := env.unixNow_ne_zero
      handback := fun _ hname => nomatch hname }
  have hfinished := h.finish n
  refine persist { hfinished with store := (h.store.push hrecord hfresh).of_records rfl, calls := ?_ }
  intro n' call hlookup
  obtain ⟨hne, hlookup⟩ := KeyedMap.lookup_erase_some hlookup
  refine (h.calls n' call hlookup).mono fun l hl hnone => ?_
  change (d.store.push (newRecord workspaceId env launch)).record l.sessionId = none
  have hother : launch.sessionId ≠ l.sessionId := fun heq =>
    hne (h.apart n' n call _ l launch hlookup hcall hl (if_pos hnew) heq.symm)
  rw [ManagedMetadataStore.record_push, hnone]
  exact if_neg hother

lemma launchRecorded : (d.launchRecorded workspaceId env n).Presented := by
  rw [Directory.launchRecorded]
  split
  · next hcall =>
    split
    · next hnew =>
      split
      · exact (h.finish n).refuse _ _
      · exact h.records hcall hnew
    · exact h.settleUpdate (fun _ => rfl) fun r _ hr => hr.resumedRecord env.unixNow_ne_zero _
  · exact h

lemma managedStop {generation : ℕ} : (d.managedStop env n sessionId generation commandId).Presented := by
  rw [Directory.managedStop]
  split
  · exact h
  · split
    · exact h.refuse _ _
    · split
      · exact h.refuse _ _
      · split
        · exact h.refuse _ _
        · exact (h.withWorkers _).waiting trivial rfl

lemma stopFinished (hterminal : ∀ sessionId ∈ d.stoppingSession n, d.handedBack sessionId = false) :
    (d.stopFinished env n).Presented := by
  rw [Directory.stopFinished]
  split
  · next sessionId commandId hcall =>
    refine h.settleUpdate (fun _ => rfl) fun r hr hp => ?_
    apply hp.stoppedRecord env.unixNow_ne_zero
    exact handback_none_of_not_handedBack (hterminal sessionId (by simp [stoppingSession, hcall])) hr
  · exact h

lemma managedRelease : (d.managedRelease env n sessionId commandId usable).Presented := by
  rw [Directory.managedRelease]
  split
  · exact h
  · split
    · exact h.refuse _ _
    · split
      · exact h.refuse _ _
      · split
        · exact h.refuse _ _
        · exact (h.withWorkers _).waiting trivial rfl

lemma releaseFinished {created : Bool} : (d.releaseFinished env n created).Presented := by
  rw [Directory.releaseFinished]
  split
  · refine h.settleUpdate (fun _ => rfl) fun r _ hp => ?_
    refine hp.releasedRecord env.unixNow_ne_zero fun name hname => ?_
    split at hname
    · exact handbackSessionName_valid hname
    · cases hname
  · exact h

lemma managedForget : (d.managedForget env sessionId commandId).Presented := by
  rw [Directory.managedForget]
  split
  · exact h
  · split
    · exact h.refuse _ _
    · split
      · exact h.refuse _ _
      · exact h.settle h.store.remove fun _ => ManagedMetadataStore.record_remove_none

lemma recordVendorSession {vendor : String} : (d.recordVendorSession env sessionId vendor).Presented := by
  rw [Directory.recordVendorSession]
  split
  · exact h
  · split
    · exact h
    · exact h.amend (vendorRecord_sessionId _ _) fun r _ hr => hr.vendorRecord env.unixNow_ne_zero _

lemma exited {crashed : Bool} : (d.amend env sessionId (exitedRecord crashed env.unixNow)).Presented :=
  h.amend (exitedRecord_sessionId _ _) fun _ _ hr => hr.exitedRecord env.unixNow_ne_zero _

lemma restarted : (d.restarted env).Presented := by
  rw [Directory.restarted]
  split
  · next file hfile =>
    split at hfile
    · have hshows := (h.saved.load hfile).restarted env.unixNow_ne_zero
      exact {
        store := hshows
        saved := hshows
        calls := fun n call hcall => by simp at hcall
        apart := fun n n' call call' _ _ hcall => by simp at hcall }
    · cases hfile
  · exact h

lemma step {i : Input} (hi : d.Orderly i) : (d.step workspaceId i).Presented := by
  obtain ⟨e, env⟩ := i
  obtain ⟨hdrawn, hkeeps⟩ := hi
  cases e with
  | start n workspace commandId drawn => exact h.opening (h.managedStart (hdrawn drawn rfl))
  | scanned n found drawn => exact h.scanAnswered (hdrawn drawn rfl)
  | startAtPath n path usable commandId drawn => exact h.opening (h.managedStartAtPath (hdrawn drawn rfl))
  | promote n path usable vendor commandId drawn => exact h.opening (h.managedPromote (hdrawn drawn rfl))
  | probed n evidence drawn => exact h.promotionProbed (hdrawn drawn rfl)
  | resume n sessionId commandId => exact h.opening h.managedResume
  | closed n => exact h.handbackClosed
  | resumeProbed n evidence => exact h.resumeProbed
  | launched n failure => exact h.launcherAnswered
  | recorded n => exact h.launchRecorded
  | stop n sessionId generation commandId => exact h.opening h.managedStop
  | stopped n => exact h.stopFinished hkeeps
  | release n sessionId commandId usable => exact h.opening h.managedRelease
  | released n created => exact h.releaseFinished
  | forget sessionId commandId => exact h.managedForget
  | recordVendorSession sessionId vendor => exact h.recordVendorSession
  | reap sessionId crashed =>
    rw [Directory.step]
    dsimp only
    split
    · exact (h.withWorkers _).exited
    · exact h
  | recordWorkerExit sessionId crashed => exact h.exited
  | markExternallyOwned sessionId =>
    refine h.amend (externallyOwnedRecord_sessionId _) fun r hr hp => ?_
    exact hp.externallyOwnedRecord env.unixNow_ne_zero (handback_none_of_not_handedBack (hkeeps _ rfl) hr)
  | stopWorker sessionId => exact h.withWorkers _
  | restart => exact h.restarted

end Calls

end Presented

lemma presented_of_reaches (h : Runs.Reaches (Directory.step workspaceId) Orderly .empty d) : d.Presented :=
  h.invariant (P := Presented) .empty fun _ _ hd hi => hd.step hi

lemma Presented.storedSnapshot {humanPrompt : String → Option String} {liveTerminals : Finset String}
    (h : d.Presented) (hr : r ∈ d.store.records) (hstored : r.presence = .stored) :
    storedSnapshot humanPrompt liveTerminals d.store r.sessionId =
      some (snapshotOf r (storedDescriptor humanPrompt r liveTerminals)) := by
  have hfind : d.store.records.find? (fun r' => r'.sessionId = r.sessionId ∧ r'.presence = .stored) = some r := by
    cases hfound : d.store.records.find? (fun r' => r'.sessionId = r.sessionId ∧ r'.presence = .stored) with
    | none => exact absurd hstored (by simpa using List.find?_eq_none.mp hfound r hr)
    | some r' =>
      obtain ⟨hid, -⟩ : r'.sessionId = r.sessionId ∧ r'.presence = .stored := by simpa using List.find?_some hfound
      have hrecord := h.store.distinct.record_of_mem (List.mem_of_find?_eq_some hfound)
      rw [hid, h.store.distinct.record_of_mem hr] at hrecord
      exact hrecord.symm
  rw [Managed.storedSnapshot, hfind]
  rfl

theorem stored_sessions_presentable (workspaceId : String → String) {d : Directory}
    (h : Runs.Reaches (Directory.step workspaceId) Orderly .empty d) (humanPrompt : String → Option String)
    (liveTerminals : Finset String) {r : ManagedRecord} (hr : r ∈ d.store.records) (hstored : r.presence = .stored) :
    (storedDescriptor humanPrompt r liveTerminals).validate = .ok () ∧
      ∃ snapshot, Managed.storedSnapshot humanPrompt liveTerminals d.store r.sessionId = some snapshot ∧
        snapshot.validate = .ok () ∧
        snapshot.presence = (storedDescriptor humanPrompt r liveTerminals).presence ∧
        snapshot.storedReason = (storedDescriptor humanPrompt r liveTerminals).storedReason ∧
        snapshot.capabilities = (storedDescriptor humanPrompt r liveTerminals).capabilities ∧
        snapshot.terminalFallback = (storedDescriptor humanPrompt r liveTerminals).terminalFallback ∧
        snapshot.processGeneration = (storedDescriptor humanPrompt r liveTerminals).processGeneration ∧
        snapshot.revision = (storedDescriptor humanPrompt r liveTerminals).revision := by
  have hpresented := presented_of_reaches h
  have hvalid := (hpresented.store.records r hr).descriptor_valid liveTerminals humanPrompt
  exact ⟨hvalid, _, hpresented.storedSnapshot hr hstored, snapshotOf_valid hvalid, rfl, rfl, rfl, rfl, rfl, rfl⟩

namespace Sample

def session : String := "00000000000000000000000000000001"

def terminal : String := "ciao-w-000000000000"

def handback : List Event :=
  [.startAtPath 0 ⟨"/w", some "w"⟩ true "c1" 1, .launched 0 none, .recorded 0, .recordVendorSession session "v",
    .release 1 session "c2" true, .released 1 true]

def markedAfterwards : List Event :=
  [.startAtPath 0 ⟨"/w", some "w"⟩ true "c1" 1, .launched 0 none, .recorded 0, .recordVendorSession session "v",
    .stopWorker session, .release 1 session "c2" true, .released 1 true, .recordWorkerExit session false,
    .markExternallyOwned session]

def inputs (events : List Event) : List Input := events.map fun e => ⟨e, ⟨1, true⟩⟩

def reached (events : List Event) : Directory := (inputs events).foldl (Directory.step fun _ => "w1") .empty

def record (reason : StoredReason) (revision : ℕ) : ManagedRecord where
  sessionId := session
  vendorSessionId := some "v"
  workspacePath := "/w"
  workspaceId := "w1"
  workspaceLabel := "w"
  adapterFamily := "Claude"
  adapterVersion := "2.1.314"
  processGeneration := 1
  presence := .stored
  storedReason := some reason
  externallyOwned := true
  handbackSession := some terminal
  revision := revision
  updatedAt := 1

end Sample

theorem stored_sessions_presentable_handed_back :
    Sample.record .released 2 ∈ (Sample.reached Sample.handback).store.records ∧
      (storedDescriptor (fun _ => none) (Sample.record .released 2) {Sample.terminal}).validate = .ok () := by
  have hr : Sample.record .released 2 ∈ (Sample.reached Sample.handback).store.records := by decide +kernel
  have hrun : Runs.Allowed (Directory.step fun _ => "w1") Orderly .empty (Sample.inputs Sample.handback) := by
    decide +kernel
  exact ⟨hr, (stored_sessions_presentable (fun _ => "w1") (Runs.Reaches.refl.of_run hrun) (fun _ => none)
    {Sample.terminal} hr rfl).1⟩

theorem marked_handback_refused :
    Sample.record .externallyOwned 3 ∈ (Sample.reached Sample.markedAfterwards).store.records ∧
      (storedDescriptor (fun _ => none) (Sample.record .externallyOwned 3) {Sample.terminal}).validate =
        .error .invalidValue := by
  decide +kernel

end Directory

end CiaoHost.Managed
