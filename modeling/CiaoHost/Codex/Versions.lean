import Mathlib.Data.List.SplitOn
import Mathlib.Tactic

/-! What a vendor version says beside the tested one (agent_protocol.rs). -/

namespace CiaoHost.Codex

def parseU32 (text : List Char) : Option ℕ :=
  let digits := if text.head? = some '+' then text.tail else text
  let value := digits.foldl (fun value digit => 10 * value + (digit.toNat - '0'.toNat)) 0
  if digits ≠ [] ∧ digits.all Char.isDigit ∧ value < 2 ^ 32 then some value else none

def parseVersion (text : String) : Option (ℕ × ℕ × ℕ) :=
  match text.toList.splitOn '.' with
  | [major, minor, patch] => do return (← parseU32 major, ← parseU32 minor, ← parseU32 patch)
  | _ => none

def versionMajorMatches (running tested : String) : Bool :=
  match parseVersion running, parseVersion tested with
  | some running, some tested => running.1 = tested.1
  | _, _ => false

def pinnedCodexVersion : String := "0.166.0"

inductive VendorVersionState where
  | grounded | ahead | carried | unsupported
  deriving DecidableEq, Repr

def laterMinorOfTestedMajor (running tested : String) : Bool :=
  match parseVersion running, parseVersion tested with
  | some running, some tested => running.1 = tested.1 && tested.2.1 < running.2.1
  | _, _ => false

def classifyVendorVersion (running tested : String) : VendorVersionState :=
  match parseVersion running, parseVersion tested with
  | some running, some tested =>
    if running.1 ≠ tested.1 then .unsupported
    else if running.2.1 < tested.2.1 then .unsupported
    else if running.2.1 = tested.2.1 then if tested.2.2 ≤ running.2.2 then .grounded else .unsupported
    else if 1 ≤ tested.1 then .ahead else .unsupported
  | _, _ => .unsupported

end CiaoHost.Codex
