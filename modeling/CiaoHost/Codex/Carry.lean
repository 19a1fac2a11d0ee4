import CiaoHost.Codex.Versions
import CiaoHost.Lib.KeyedMap

/-! Evidence carried across a Codex minor: the extract a build ships, the extract of an installed
binary, and the verdict cached in the run directory (codex_carry.rs). -/

namespace CiaoHost.Codex

open Lib

/-- The fields of an extract that decide a verdict. -/
structure ReadSet where
  requiredClientMethods : List String
  adoptedServerRequests : List String
  commandExecutionDecisions : List String
  fileChangeDecisions : List String
  adoptedNotifications : List String
  steerRequiredParams : List String
  interruptRequiredParams : List String
  threadStartSandboxIsMode : Bool
  sandboxModes : List String
  hookEventNames : List String
  hookSources : List String
  hookRunStatus : List String
  threadItemTypes : List String
  threadStatusTypes : List String
  turnStatus : List String
  threadActiveFlags : List String
  deriving DecidableEq, Repr

structure PinExtract extends ReadSet where
  clientMethods : ℕ
  serverNotifications : ℕ
  schemaDigest : String
  deriving DecidableEq, Repr

def changedIf (differs : Bool) (name : String) : List String := if differs then [name] else []

def PinExtract.readSetChanges (e other : PinExtract) : List String :=
  changedIf (e.requiredClientMethods ≠ other.requiredClientMethods) "requiredClientMethods" ++
  changedIf (e.adoptedServerRequests ≠ other.adoptedServerRequests) "adoptedServerRequests" ++
  changedIf (e.commandExecutionDecisions ≠ other.commandExecutionDecisions) "commandExecutionDecisions" ++
  changedIf (e.fileChangeDecisions ≠ other.fileChangeDecisions) "fileChangeDecisions" ++
  changedIf (e.adoptedNotifications ≠ other.adoptedNotifications) "adoptedNotifications" ++
  changedIf (e.steerRequiredParams ≠ other.steerRequiredParams) "steerRequiredParams" ++
  changedIf (e.interruptRequiredParams ≠ other.interruptRequiredParams) "interruptRequiredParams" ++
  changedIf (e.threadStartSandboxIsMode ≠ other.threadStartSandboxIsMode) "threadStartSandboxIsMode" ++
  changedIf (e.sandboxModes ≠ other.sandboxModes) "sandboxModes" ++
  changedIf (e.hookEventNames ≠ other.hookEventNames) "hookEventNames" ++
  changedIf (e.hookSources ≠ other.hookSources) "hookSources" ++
  changedIf (e.hookRunStatus ≠ other.hookRunStatus) "hookRunStatus" ++
  changedIf (e.threadItemTypes ≠ other.threadItemTypes) "threadItemTypes" ++
  changedIf (e.threadStatusTypes ≠ other.threadStatusTypes) "threadStatusTypes" ++
  changedIf (e.turnStatus ≠ other.turnStatus) "turnStatus" ++
  changedIf (e.threadActiveFlags ≠ other.threadActiveFlags) "threadActiveFlags"

@[simp] lemma changedIf_eq_nil {differs : Bool} {name : String} : changedIf differs name = [] ↔ differs = false := by
  cases differs <;> simp [changedIf]

lemma PinExtract.readSetChanges_eq_nil {e other : PinExtract} :
    e.readSetChanges other = [] ↔ e.toReadSet = other.toReadSet := by
  obtain ⟨⟨⟩⟩ := e
  obtain ⟨⟨⟩⟩ := other
  simp [readSetChanges]

structure Build where
  pinned : String
  embedded : Option PinExtract
  deriving DecidableEq, Repr

def Build.readSet (build : Build) : Option ReadSet := build.embedded.map PinExtract.toReadSet

structure Stat where
  size : ℕ
  mtime : ℕ
  deriving DecidableEq, Repr

/-- What running a binary gives: the version it answers and the extract of its schema, if it makes one. -/
structure Installed where
  version : String
  extract : Option PinExtract
  deriving DecidableEq, Repr

structure BinaryIdentity where
  path : String
  stat : Stat
  sha256 : String
  deriving DecidableEq, Repr

structure CarryVerdict where
  version : String
  binary : BinaryIdentity
  carried : Bool
  changed : List String
  schemaDigest : String
  checkedAt : ℕ
  deriving DecidableEq, Repr

/-- The machine's binaries: the files, the one the integration found and the one the path names. -/
structure Binaries where
  files : KeyedMap String Stat
  codexBinary : Option String
  onPath : Option String

def isAbsolute (path : String) : Bool := path.toList.head? = some '/'

namespace Binaries

variable (m : Binaries)

def resolveOnPath (binary : String) : Option String := if isAbsolute binary then some binary else m.onPath

def resolved (binary : String) : String := (m.resolveOnPath binary).getD binary

def verdictCovers (verdict : CarryVerdict) (version binary : String) : Bool :=
  verdict.version = version && verdict.binary.path = binary && m.files.lookup binary = some verdict.binary.stat

end Binaries

def carryEligible (build : Build) (version : String) : Bool := laterMinorOfTestedMajor version build.pinned

def stateFor (build : Build) (m : Binaries) (verdict : Option CarryVerdict) (version : String)
    (binary : Option String) : VendorVersionState :=
  let classified := classifyVendorVersion version build.pinned
  if classified ≠ .unsupported then classified
  else if ¬ carryEligible build version then classified
  else
    match binary, verdict with
    | some binary, some verdict =>
      if m.verdictCovers verdict version (m.resolved binary) ∧ verdict.carried then .carried else classified
    | _, _ => classified

lemma classifyVendorVersion_ne_carried (running tested : String) : classifyVendorVersion running tested ≠ .carried := by
  rw [classifyVendorVersion]
  split
  · split_ifs <;> exact VendorVersionState.noConfusion
  · exact VendorVersionState.noConfusion

lemma stateFor_carried {build : Build} {m : Binaries} {verdict : Option CarryVerdict} {version : String}
    {binary : Option String} (h : stateFor build m verdict version binary = .carried) :
    ∃ b v, binary = some b ∧ verdict = some v ∧ m.verdictCovers v version (m.resolved b) ∧ v.carried := by
  have hnot := classifyVendorVersion_ne_carried version build.pinned
  rw [stateFor.eq_def] at h
  dsimp only at h
  split at h
  · exact absurd h hnot
  · split at h
    · exact absurd h hnot
    · split at h
      · next b v =>
        split at h
        · next hcovers => exact ⟨b, v, rfl, rfl, hcovers⟩
        · exact absurd h hnot
      · exact absurd h hnot

end CiaoHost.Codex
