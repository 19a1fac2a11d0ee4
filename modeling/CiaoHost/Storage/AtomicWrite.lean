import CiaoHost.Devices.Store

/-! The atomic write with its temporary file, and the two stores that answer a failure of it by keeping what they
held. The store of paired devices sees only the file under its path: `atomicWritePrivate_held` says that what it
sees is the write of this module. -/

namespace CiaoHost.Storage

open Devices

structure Target where
  path : String
  parent : Option String
  name : Option String

section Write

variable {Bytes : Type}

/-- The file under the path, and the one under the name the call draws for its temporary file. -/
structure Folder (Bytes : Type) where
  held : Option (StoredFile Bytes)
  temporary : Option (StoredFile Bytes)

/-- What goes wrong in a call: the step that fails, what had reached the temporary file if that is the write,
what the system says, and whether the removal afterwards is done. -/
structure Faults (Bytes : Type) where
  fails : Option WriteStep
  written : Bytes
  cause : String
  removes : Bool

def WriteStep.error (target : Target) (cause : String) : WriteStep → String
  | .create => "create secure temporary file in " ++ target.parent.getD ""
  | .rename => "atomically replace " ++ target.path
  | _ => cause

def WriteStep.performed (empty contents : Bytes) (folder : Folder Bytes) : WriteStep → Option (Folder Bytes)
  | .create => if folder.temporary.isSome then none else some { folder with temporary := some ⟨empty, none⟩ }
  | .write => some { folder with temporary := some ⟨contents, none⟩ }
  | .rename => some ⟨folder.temporary, none⟩
  | .setPermissions | .sync | .openParent | .syncParent => some folder

def WriteStep.abandoned (written : Bytes) (folder : Folder Bytes) : WriteStep → Folder Bytes
  | .write => { folder with temporary := some ⟨written, none⟩ }
  | _ => folder

variable (target : Target) (empty contents : Bytes) (x : Faults Bytes)

def perform : List WriteStep → Folder Bytes → Folder Bytes × Except String Unit
  | [], folder => (folder, .ok ())
  | step :: rest, folder =>
    if x.fails = some step then
      (WriteStep.abandoned x.written folder step, .error (WriteStep.error target x.cause step))
    else match WriteStep.performed empty contents folder step with
      | none => (folder, .error (WriteStep.error target x.cause step))
      | some folder => perform rest folder

def writeSteps : List WriteStep := [.create, .setPermissions, .write, .sync, .rename, .openParent, .syncParent]

def removeTemporary (folder : Folder Bytes) : Folder Bytes :=
  if x.removes then { folder with temporary := none } else folder

def atomicWritePrivate (folder : Folder Bytes) : Folder Bytes × Except String Unit :=
  match target.parent, target.name with
  | none, _ => (folder, .error (target.path ++ " has no parent directory"))
  | some _, none => (folder, .error (target.path ++ " has an invalid filename"))
  | some _, some _ =>
    match perform target empty contents x writeSteps folder with
    | (after, .ok ()) => (after, .ok ())
    -- the result of the removal is dropped
    | (after, .error e) => (removeTemporary x after, .error e)

def Faults.Early : Prop := ∀ step, x.fails = some step → step.replaced = false

instance : Decidable x.Early :=
  match h : x.fails with
  | none => .isTrue fun step hstep => by cases h.symm.trans hstep
  | some step => decidable_of_iff (step.replaced = false)
      ⟨fun hstep other hother => Option.some.inj (h.symm.trans hother) ▸ hstep, fun hall => hall step h⟩

variable {target empty contents x} {folder : Folder Bytes}

lemma perform_early (hearly : x.Early) :
    match perform target empty contents x writeSteps folder with
    | (after, .ok ()) => after = ⟨some ⟨contents, none⟩, none⟩
    | (after, .error _) => after.held = folder.held := by
  by_cases htaken : folder.temporary.isSome = true
  · simp only [writeSteps, perform, WriteStep.performed, if_pos htaken]
    split_ifs with hcreate
    · rfl
    · rfl
  · cases hfails : x.fails with
    | none => simp [writeSteps, perform, WriteStep.performed, htaken, hfails]
    | some step =>
      have hbefore := hearly step hfails
      cases step <;>
        simp_all [writeSteps, perform, WriteStep.performed, WriteStep.abandoned, WriteStep.replaced]

/-- What the callers of the write see: the new contents, or what was there before. -/
structure AllOrNothing (target : Target) (contents : Bytes) (before : Folder Bytes)
    (answer : Folder Bytes × Except String Unit) : Prop where
  written : answer.2 = .ok () → answer.1 = ⟨some ⟨contents, none⟩, none⟩
  unchanged : ∀ e, answer.2 = .error e → answer.1.held = before.held
  clean : target.parent.isSome → target.name.isSome → answer.1.temporary = none

lemma atomicWritePrivate_early (hearly : x.Early) (hremoves : x.removes = true) :
    AllOrNothing target contents folder (atomicWritePrivate target empty contents x folder) := by
  rw [atomicWritePrivate.eq_def]
  split
  · next hparent => exact ⟨nofun, fun _ _ => rfl, fun hsome => by simp [hparent] at hsome⟩
  · next hname => exact ⟨nofun, fun _ _ => rfl, fun _ hsome => by simp [hname] at hsome⟩
  · have hperform := @perform_early _ target empty contents x folder hearly
    split
    · next after hafter =>
      rw [hafter] at hperform
      exact ⟨fun _ => hperform, nofun, fun _ _ => congrArg Folder.temporary hperform⟩
    · next after e hafter =>
      rw [hafter] at hperform
      have hremoved : removeTemporary x after = { after with temporary := none } := if_pos hremoves
      rw [hremoved]
      exact ⟨nofun, fun _ _ => hperform, fun _ _ => rfl⟩

theorem atomicWritePrivate_held (hparent : target.parent.isSome) (hname : target.name.isSome)
    (hfree : folder.temporary = none) :
    (Devices.atomicWritePrivate folder.held contents x.fails).1 =
        (atomicWritePrivate target empty contents x folder).1.held ∧
      (Devices.atomicWritePrivate folder.held contents x.fails).2.isOk =
        (atomicWritePrivate target empty contents x folder).2.isOk := by
  obtain ⟨parent, hparent⟩ := Option.isSome_iff_exists.mp hparent
  obtain ⟨name, hname⟩ := Option.isSome_iff_exists.mp hname
  cases hfails : x.fails with
  | none =>
    simp [atomicWritePrivate, hparent, hname, writeSteps, perform, WriteStep.performed, hfree, hfails,
      Devices.atomicWritePrivate, Except.isOk, Except.toBool]
  | some step =>
    cases step <;> cases hremoves : x.removes <;>
      simp [atomicWritePrivate, hparent, hname, writeSteps, perform, WriteStep.performed, WriteStep.abandoned,
        removeTemporary, hfree, hfails, hremoves, Devices.atomicWritePrivate, WriteStep.replaced, Except.isOk,
        Except.toBool]

end Write

section Peers

variable {Bytes Store T : Type}

structure Peers (Bytes Store : Type) where
  store : Store
  folder : Folder Bytes

/-- What a store of peers is checked against and how it is written. -/
structure PeerFormat (Bytes Store : Type) where
  validate : Store → Except String Unit
  toVec : Store → Option Bytes
  len : Bytes → ℕ

def maxStoreBytes : ℕ := 512 * 1024

def Peers.change (format : PeerFormat Bytes Store) (target : Target) (empty : Bytes) (peers : Peers Bytes Store)
    (change : Store → Except String T × Store) (x : Faults Bytes) : Peers Bytes Store × Except String T :=
  match change peers.store with
  | (.error e, _) => (peers, .error e)
  | (.ok value, next) =>
    match format.validate next, format.toVec next with
    | .error _, _ => (peers, .error "invalid_peer_state")
    | .ok (), none => (peers, .error "storage_failed")
    | .ok (), some bytes =>
      if format.len bytes > maxStoreBytes then (peers, .error "peer_limit")
      else match atomicWritePrivate target empty bytes x peers.folder with
        | (folder, .ok ()) => (⟨next, folder⟩, .ok value)
        | (folder, .error _) => ({ peers with folder := folder }, .error "storage_failed")

def Peers.Agrees (format : PeerFormat Bytes Store) (peers : Peers Bytes Store) : Prop :=
  ∃ bytes, format.toVec peers.store = some bytes ∧ peers.folder.held.map StoredFile.bytes = some bytes

lemma Peers.change_early {format : PeerFormat Bytes Store} {target : Target} {empty : Bytes}
    {change : Store → Except String T × Store} {x : Faults Bytes} {peers : Peers Bytes Store}
    (hearly : x.Early) (hremoves : x.removes = true) (hagrees : peers.Agrees format) :
    (peers.change format target empty change x).1.Agrees format ∧
      ∀ e, (peers.change format target empty change x).2 = .error e →
        (peers.change format target empty change x).1.store = peers.store ∧
          (peers.change format target empty change x).1.folder.held = peers.folder.held := by
  rw [Peers.change.eq_def]
  split
  · exact ⟨hagrees, fun _ _ => ⟨rfl, rfl⟩⟩
  · next value next _ =>
    split
    · exact ⟨hagrees, fun _ _ => ⟨rfl, rfl⟩⟩
    · exact ⟨hagrees, fun _ _ => ⟨rfl, rfl⟩⟩
    · next bytes _ hbytes =>
      split
      · exact ⟨hagrees, fun _ _ => ⟨rfl, rfl⟩⟩
      · have hwrite := @atomicWritePrivate_early _ target empty bytes x peers.folder hearly hremoves
        split
        · next folder hfolder =>
          rw [hfolder] at hwrite
          refine ⟨⟨bytes, hbytes, ?_⟩, nofun⟩
          exact congrArg (fun f => f.held.map StoredFile.bytes) (hwrite.written rfl)
        · next folder e hfolder =>
          rw [hfolder] at hwrite
          have hheld : folder.held = peers.folder.held := hwrite.unchanged e rfl
          obtain ⟨kept, hkept, hfile⟩ := hagrees
          exact ⟨⟨kept, hkept, hheld.symm ▸ hfile⟩, fun _ _ => ⟨rfl, hheld⟩⟩

end Peers

section Devices

variable {Bytes : Type} (codec : Codec Bytes)

def DevicesAgree (s : PairedDeviceStore Bytes) : Prop :=
  s.file.map StoredFile.bytes = some (codec.encode ⟨1, s.devices⟩)

variable {codec}

lemma persist_early {s : PairedDeviceStore Bytes} {updated : List PairedDevice} {x : Faults Bytes}
    (hearly : x.Early) (hagrees : DevicesAgree codec s) :
    DevicesAgree codec (s.persist codec updated x.fails).1 ∧
      ∀ e, (s.persist codec updated x.fails).2 = .error e → (s.persist codec updated x.fails).1 = s := by
  cases hfails : x.fails with
  | none => exact ⟨rfl, nofun⟩
  | some step =>
    have hkept : (s.persist codec updated (some step)).1 = s := by
      simp only [PairedDeviceStore.persist, Devices.atomicWritePrivate, hearly step hfails, Bool.false_eq_true, if_false]
    exact ⟨hkept.symm ▸ hagrees, fun _ _ => hkept⟩

end Devices

namespace Sample

def target : Target := ⟨"/home/ciao/peers.json", some "/home/ciao", some "peers.json"⟩

def faults (fails : Option WriteStep) : Faults (List ℕ) := ⟨fails, [1], "input/output error", true⟩

def format : PeerFormat (List ℕ) (List ℕ) := ⟨fun _ => .ok (), some, List.length⟩

def peers : Peers (List ℕ) (List ℕ) := ⟨[0], ⟨some ⟨[0], none⟩, none⟩⟩

def push (store : List ℕ) : Except String Unit × List ℕ := (.ok (), store ++ [1])

end Sample

end CiaoHost.Storage
