import CiaoHost.Managed.Store
import CiaoHost.Lib.KeyedMap
import CiaoHost.Lib.Hex
import CiaoHost.Lib.Runs
import CiaoHost.Protocol.Tokens

/-! The managed session directory as a machine: lifecycle commands cut at their awaits, the launcher's table of
workers, what the daemon's monitor reports, and restarts from what was written (managed_session.rs,
managed_worker.rs). -/

namespace CiaoHost.Managed

open Lib Lib.Checks Lib.Text Protocol

def maxWorkspaceLabelBytes : ℕ := 128

structure Path where
  text : String
  fileName : Option String
  deriving DecidableEq, Repr

def workspaceLabel (path : Path) : String :=
  let label := (path.fileName.filter (· ≠ "")).getD "workspace"
  let bounded := cut label maxWorkspaceLabelBytes
  if bounded = "" then "workspace" else bounded

def opaqueId (drawn : ℕ) : String := Hex.hex32 drawn

def handbackSessionName (workspaceLabel sessionId : String) : Option String :=
  let label := (workspaceLabel.toList.map fun c => if c.isAlphanum || c ∈ ['-', '_'] then c else '-').take 24
  let fragment := (sessionId.toList.filter Char.isAlphanum).take 12
  if fragment = [] then none
  else
    let name := if label = [] then "ciao-".toList ++ fragment else "ciao-".toList ++ label ++ '-' :: fragment
    if validSessionName (String.ofList name) then some (String.ofList name) else none

structure Launch where
  sessionId : String
  path : String
  label : String
  vendor : Option String
  commandId : String
  resumes : Option ℕ
  deriving DecidableEq, Repr

inductive Call where
  | scanning (workspaceId commandId : String)
  | probing (path : Path) (vendor : String) (commandId : String)
  | closing (launch : Launch)
  | resumeProbing (launch : Launch)
  | launching (launch : Launch)
  | spawned (launch : Launch)
  | stopping (sessionId commandId : String)
  | releasing (sessionId label commandId : String)
  deriving DecidableEq, Repr

structure Directory where
  store : ManagedMetadataStore
  saved : ManagedMetadataStore
  workers : Finset String
  calls : KeyedMap ℕ Call

def Directory.empty : Directory := ⟨⟨[], []⟩, ⟨[], []⟩, ∅, ∅⟩

structure Env where
  now : ℕ
  /-- Whether the file can be read and written. -/
  disk : Bool

def Env.unixNow (env : Env) : ℕ := max env.now 1

inductive Event where
  | start (call : ℕ) (workspaceId commandId : String) (drawn : ℕ)
  | scanned (call : ℕ) (found : Option Path) (drawn : ℕ)
  | startAtPath (call : ℕ) (path : Path) (usable : Bool) (commandId : String) (drawn : ℕ)
  | promote (call : ℕ) (path : Path) (usable : Bool) (vendor : Option String) (commandId : String) (drawn : ℕ)
  | probed (call : ℕ) (evidence : Bool) (drawn : ℕ)
  | resume (call : ℕ) (sessionId commandId : String)
  | closed (call : ℕ)
  | resumeProbed (call : ℕ) (evidence : Bool)
  | launched (call : ℕ) (failure : Option String)
  | recorded (call : ℕ)
  | stop (call : ℕ) (sessionId : String) (expectedGeneration : ℕ) (commandId : String)
  | stopped (call : ℕ)
  | release (call : ℕ) (sessionId commandId : String) (usable : Bool)
  | released (call : ℕ) (created : Bool)
  | forget (sessionId commandId : String)
  | recordVendorSession (sessionId vendor : String)
  | reap (sessionId : String) (crashed : Bool)
  | recordWorkerExit (sessionId : String) (crashed : Bool)
  | markExternallyOwned (sessionId : String)
  | stopWorker (sessionId : String)
  | restart
  deriving DecidableEq, Repr

structure Input where
  event : Event
  env : Env

def LifecycleOutcome.validate (outcome : LifecycleOutcome) : Checked := do
  validOpaqueId outcome.commandId
  whenSome validOpaqueId outcome.sessionId
  whenSome validToken outcome.reasonCode
  match outcome.state with
  | .accepted => refuseIf .invalidValue (outcome.reasonCode.isSome)
  | .refused =>
    refuseIf .invalidValue
      (outcome.reasonCode.isNone ∨ outcome.sessionId.isSome ∨ outcome.processGeneration.isSome)

/-- What `load` asks of a record; presence and reason are enumerations here. -/
def ManagedRecord.Loadable (r : ManagedRecord) : Prop :=
  validOpaqueId r.sessionId = .ok () ∧ validOpaqueId r.workspaceId = .ok () ∧
    validToken r.adapterFamily = .ok () ∧ validToken r.adapterVersion = .ok () ∧
    (∀ vendor ∈ r.vendorSessionId, vendor ≠ "" ∧ byteLen vendor ≤ 128) ∧
    r.workspacePath ≠ "" ∧ r.workspaceLabel ≠ "" ∧ byteLen r.workspaceLabel ≤ maxWorkspaceLabelBytes ∧
    r.processGeneration ≠ 0 ∧ r.revision ≠ 0

instance : DecidablePred ManagedRecord.Loadable := fun _ => inferInstanceAs (Decidable (_ ∧ _))

def ManagedMetadataStore.load (file : ManagedMetadataStore) : Option ManagedMetadataStore :=
  if file.records.length ≤ maxManagedRecords ∧
      file.lifecycle.length ≤ maxManagedRecords * maxLifecycleReceipts ∧ ∀ r ∈ file.records, r.Loadable then
    some { file with lifecycle := file.lifecycle.filter fun outcome => outcome.validate = .ok () }
  else none

def restartedRecord (now : ℕ) (r : ManagedRecord) : ManagedRecord :=
  if r.presence = .live then { r with presence := .stored, storedReason := some .daemonRestart, updatedAt := now } else r

def adapterFamily : String := "Claude"

def pinnedManagedCliVersion : String := "2.1.314"

namespace Directory

variable (workspaceId : String → String) (d : Directory) (env : Env)

/-- `persist`: a write that fails is ignored, and the next one writes everything. -/
def persist : Directory := if env.disk then { d with saved := d.store } else d

def withCall (n : ℕ) (call : Call) : Directory := { d with calls := d.calls.insert n call }

def finish (n : ℕ) : Directory := { d with calls := d.calls.erase n }

def refuse (commandId reason : String) : Directory := { d with store := d.store.refuse commandId reason }.persist env

def settle (store : ManagedMetadataStore) (commandId : String) (sessionId : Option String) (generation : Option ℕ) :
    Directory :=
  { d with store := store.accept commandId sessionId generation }.persist env

def amend (sessionId : String) (f : ManagedRecord → ManagedRecord) : Directory :=
  { d with store := d.store.update sessionId f }.persist env

def startInWorkspace (n : ℕ) (path : Path) (label : String) (vendor : Option String) (commandId : String) (drawn : ℕ) :
    Directory :=
  d.withCall n (.launching ⟨opaqueId drawn, path.text, label, vendor, commandId, none⟩)

def managedStart (n : ℕ) (workspace commandId : String) (drawn : ℕ) : Directory :=
  if (d.store.deduplicated commandId).isSome then d
  else match d.store.records.find? (·.workspaceId = workspace) with
    | some r => d.startInWorkspace n ⟨r.workspacePath, none⟩ r.workspaceLabel none commandId drawn
    | none => d.withCall n (.scanning workspace commandId)

def scanAnswered (n : ℕ) (found : Option Path) (drawn : ℕ) : Directory :=
  match d.calls.lookup n with
  | some (.scanning workspace commandId) =>
    match found.filter fun path => workspaceId path.text = workspace with
    | some path => d.startInWorkspace n path (workspaceLabel path) none commandId drawn
    | none => (d.finish n).refuse env commandId "unknown_workspace"
  | _ => d

def managedStartAtPath (n : ℕ) (path : Path) (usable : Bool) (commandId : String) (drawn : ℕ) : Directory :=
  if (d.store.deduplicated commandId).isSome then d
  else if ¬ usable then d.refuse env commandId "unknown_workspace"
  else d.startInWorkspace n path (workspaceLabel path) none commandId drawn

def holdsLive (vendor : String) : Bool :=
  d.store.records.any fun r => r.vendorSessionId = some vendor && r.presence = .live

def managedPromote (n : ℕ) (path : Path) (usable : Bool) (vendor : Option String) (commandId : String) (drawn : ℕ) :
    Directory :=
  if (d.store.deduplicated commandId).isSome then d
  else if ¬ usable then d.refuse env commandId "unknown_workspace"
  else match vendor with
    | some vendor =>
      if d.holdsLive vendor then d.refuse env commandId "already_live"
      else d.withCall n (.probing path vendor commandId)
    | none => d.startInWorkspace n path (workspaceLabel path) none commandId drawn

def promotionProbed (n : ℕ) (evidence : Bool) (drawn : ℕ) : Directory :=
  match d.calls.lookup n with
  | some (.probing path vendor commandId) =>
    if evidence then (d.finish n).refuse env commandId "foreign_owner_live"
    else d.startInWorkspace n path (workspaceLabel path) (some vendor) commandId drawn
  | _ => d

def probeOrLaunch (n : ℕ) (launch : Launch) : Directory :=
  d.withCall n (if launch.vendor.isSome then .resumeProbing launch else .launching launch)

def managedResume (n : ℕ) (sessionId commandId : String) : Directory :=
  if (d.store.deduplicated commandId).isSome then d
  else match d.store.record sessionId with
    | none => d.refuse env commandId "unknown_session"
    | some r =>
      let handedBack := r.storedReason = some .released
      if r.presence = .live then d.refuse env commandId "already_live"
      else if r.externallyOwned ∧ ¬ handedBack then d.refuse env commandId "externally_owned"
      else
        let launch : Launch :=
          ⟨sessionId, r.workspacePath, r.workspaceLabel, r.vendorSessionId, commandId, some r.processGeneration⟩
        if handedBack ∧ r.handbackSession.isSome then d.withCall n (.closing launch) else d.probeOrLaunch n launch

def handbackClosed (n : ℕ) : Directory :=
  match d.calls.lookup n with
  | some (.closing launch) => d.probeOrLaunch n launch
  | _ => d

def resumeProbed (n : ℕ) (evidence : Bool) : Directory :=
  match d.calls.lookup n with
  | some (.resumeProbing launch) =>
    if evidence then (d.finish n).refuse env launch.commandId "foreign_owner_live"
    else d.withCall n (.launching launch)
  | _ => d

def launcherAnswered (n : ℕ) (failure : Option String) : Directory :=
  match d.calls.lookup n with
  | some (.launching launch) =>
    match failure with
    | some reason => (d.finish n).refuse env launch.commandId reason
    | none => { d with workers := insert launch.sessionId d.workers }.withCall n (.spawned launch)
  | _ => d

def newRecord (launch : Launch) : ManagedRecord where
  sessionId := launch.sessionId
  vendorSessionId := launch.vendor
  workspacePath := launch.path
  workspaceId := workspaceId launch.path
  workspaceLabel := launch.label
  adapterFamily := adapterFamily
  adapterVersion := pinnedManagedCliVersion
  processGeneration := 1
  presence := .live
  storedReason := none
  externallyOwned := false
  handbackSession := none
  revision := 1
  updatedAt := env.unixNow

def launchRecorded (n : ℕ) : Directory :=
  match d.calls.lookup n with
  | some (.spawned launch) =>
    match launch.resumes with
    | none =>
      if maxManagedRecords ≤ d.store.records.length then (d.finish n).refuse env launch.commandId "record_limit"
      else (d.finish n).settle env (d.store.push (newRecord workspaceId env launch)) launch.commandId (some launch.sessionId) none
    | some generation =>
      (d.finish n).settle env (d.store.update launch.sessionId (resumedRecord (bumped generation) env.unixNow))
        launch.commandId (some launch.sessionId) (some (bumped generation))
  | _ => d

def managedStop (n : ℕ) (sessionId : String) (expectedGeneration : ℕ) (commandId : String) : Directory :=
  if (d.store.deduplicated commandId).isSome then d
  else match d.store.record sessionId with
    | none => d.refuse env commandId "unknown_session"
    | some r =>
      if r.presence ≠ .live then d.refuse env commandId "already_stored"
      else if r.processGeneration ≠ expectedGeneration then d.refuse env commandId "stale_generation"
      else { d with workers := d.workers.erase sessionId }.withCall n (.stopping sessionId commandId)

def stopFinished (n : ℕ) : Directory :=
  match d.calls.lookup n with
  | some (.stopping sessionId commandId) =>
    (d.finish n).settle env (d.store.update sessionId (stoppedRecord env.unixNow)) commandId (some sessionId) none
  | _ => d

def managedRelease (n : ℕ) (sessionId commandId : String) (usable : Bool) : Directory :=
  if (d.store.deduplicated commandId).isSome then d
  else match d.store.record sessionId with
    | none => d.refuse env commandId "unknown_session"
    | some r =>
      if r.vendorSessionId = none then d.refuse env commandId "no_vendor_session"
      else if ¬ usable then d.refuse env commandId "unknown_workspace"
      else { d with workers := d.workers.erase sessionId }.withCall n (.releasing sessionId r.workspaceLabel commandId)

def releaseFinished (n : ℕ) (created : Bool) : Directory :=
  match d.calls.lookup n with
  | some (.releasing sessionId label commandId) =>
    let route := if created then handbackSessionName label sessionId else none
    (d.finish n).settle env (d.store.update sessionId (releasedRecord route env.unixNow)) commandId (some sessionId) none
  | _ => d

def managedForget (sessionId commandId : String) : Directory :=
  if (d.store.deduplicated commandId).isSome then d
  else match d.store.record sessionId with
    | none => d.refuse env commandId "unknown_session"
    | some r =>
      if r.presence = .live then d.refuse env commandId "already_live"
      else d.settle env (d.store.remove sessionId) commandId (some sessionId) none

/-- `record_vendor_session` writes only when the id is new to the record. -/
def recordVendorSession (sessionId vendor : String) : Directory :=
  match d.store.record sessionId with
  | none => d
  | some r =>
    if r.vendorSessionId = some vendor then d else d.amend env sessionId (vendorRecord vendor env.unixNow)

def restarted : Directory :=
  match if env.disk then d.saved.load else none with
  | some file =>
    let store := { file with records := file.records.map (restartedRecord env.unixNow) }
    ⟨store, store, ∅, ∅⟩
  -- a daemon that cannot load does not run: what follows is another restart from the same file
  | none => d

def opening (n : ℕ) (opened : Directory) : Directory := if (d.calls.lookup n).isSome then d else opened

def step (i : Input) : Directory :=
  match i.event with
  | .start n workspace commandId drawn => d.opening n (d.managedStart n workspace commandId drawn)
  | .scanned n found drawn => d.scanAnswered workspaceId i.env n found drawn
  | .startAtPath n path usable commandId drawn => d.opening n (d.managedStartAtPath i.env n path usable commandId drawn)
  | .promote n path usable vendor commandId drawn =>
    d.opening n (d.managedPromote i.env n path usable vendor commandId drawn)
  | .probed n evidence drawn => d.promotionProbed i.env n evidence drawn
  | .resume n sessionId commandId => d.opening n (d.managedResume i.env n sessionId commandId)
  | .closed n => d.handbackClosed n
  | .resumeProbed n evidence => d.resumeProbed i.env n evidence
  | .launched n failure => d.launcherAnswered i.env n failure
  | .recorded n => d.launchRecorded workspaceId i.env n
  | .stop n sessionId expectedGeneration commandId => d.opening n (d.managedStop i.env n sessionId expectedGeneration commandId)
  | .stopped n => d.stopFinished i.env n
  | .release n sessionId commandId usable => d.opening n (d.managedRelease i.env n sessionId commandId usable)
  | .released n created => d.releaseFinished i.env n created
  | .forget sessionId commandId => d.managedForget i.env sessionId commandId
  | .recordVendorSession sessionId vendor => d.recordVendorSession i.env sessionId vendor
  | .reap sessionId crashed =>
    if sessionId ∈ d.workers then
      { d with workers := d.workers.erase sessionId }.amend i.env sessionId (exitedRecord crashed i.env.unixNow)
    else d
  | .recordWorkerExit sessionId crashed => d.amend i.env sessionId (exitedRecord crashed i.env.unixNow)
  | .markExternallyOwned sessionId => d.amend i.env sessionId (externallyOwnedRecord i.env.unixNow)
  | .stopWorker sessionId => { d with workers := d.workers.erase sessionId }
  | .restart => d.restarted i.env

end Directory

end CiaoHost.Managed
