import Mathlib.Tactic

/-! The names the store gives its files, the quoted path a prompt refers to, and the time it states. -/

namespace CiaoHost.Upload

def maxSanitizedFilename : ℕ := 64
def maxPreservedExtension : ℕ := 16

def keptInFilename (c : Char) : Bool := c.isAlphanum || c ∈ ['.', '_', '-']

/-- The characters kept, a run of any others collapsed to one `_`. -/
def reduceFilename : Bool → List Char → List Char
  | _, [] => []
  | replacementPending, c :: cs =>
    if keptInFilename c then c :: reduceFilename false cs
    else if replacementPending then reduceFilename true cs
    else '_' :: reduceFilename true cs

def preservedExtension (cs : List Char) : Option (List Char) :=
  if '.' ∈ cs then
    let extension := (cs.reverse.takeWhile (· ≠ '.')).reverse
    if extension ≠ [] ∧ extension.length ≤ maxPreservedExtension ∧ extension.all Char.isAlphanum then
      some extension
    else none
  else none

def sanitizeFilename (name : String) : String :=
  let result := (reduceFilename false name.toList).dropWhile (· = '.')
  if result = [] then "upload"
  else if maxSanitizedFilename < result.length then
    match preservedExtension result with
    | some extension =>
      String.ofList (result.take (maxSanitizedFilename - extension.length - 1) ++ '.' :: extension)
    | none => String.ofList (result.take maxSanitizedFilename)
  else String.ofList result

def partialName (token : String) : String := token ++ ".partial"

def finalName (token filename : String) : String := token ++ ("-" ++ sanitizeFilename filename)

/-- `name.ends_with(".partial")`, by which a scan tells a partial from a completed upload. -/
def isPartial (name : String) : Bool := ".partial".toList.isSuffixOf name.toList

def posixSingleQuote (text : String) : String :=
  String.ofList ('\'' :: text.toList.flatMap (fun c => if c = '\'' then "'\\''".toList else [c]) ++ ['\''])

def nanosPerSecond : ℕ := 1000000000

def civilFromDays (daysSinceEpoch : ℤ) : ℤ × ℕ × ℕ :=
  let z := daysSinceEpoch + 719468
  let era := (if 0 ≤ z then z else z - 146096).tdiv 146097
  let dayOfEra := (z - era * 146097).toNat
  let yearOfEra := (dayOfEra - dayOfEra / 1460 + dayOfEra / 36524 - dayOfEra / 146096) / 365
  let year : ℤ := yearOfEra + era * 400
  let dayOfYear := dayOfEra - (365 * yearOfEra + yearOfEra / 4 - yearOfEra / 100)
  let mp := (5 * dayOfYear + 2) / 153
  let day := dayOfYear - (153 * mp + 2) / 5 + 1
  let month := if mp < 10 then mp + 3 else mp - 9
  (if month ≤ 2 then year + 1 else year, month, day)

def padded (width n : ℕ) : String :=
  String.ofList (List.replicate (width - (Nat.repr n).length) '0') ++ Nat.repr n

def formatRfc3339Utc (time : ℕ) : String :=
  let seconds := time / nanosPerSecond
  let rem := seconds % 86400
  let (year, month, day) := civilFromDays (seconds / 86400 : ℕ)
  padded 4 year.toNat ++ "-" ++ padded 2 month ++ "-" ++ padded 2 day ++ "T" ++ padded 2 (rem / 3600) ++ ":" ++
    padded 2 (rem % 3600 / 60) ++ ":" ++ padded 2 (rem % 60) ++ "Z"

lemma isPartial_partialName (token : String) : isPartial (partialName token) = true := by
  rw [isPartial, partialName, String.toList_append, List.isSuffixOf_iff_suffix]
  exact List.suffix_append _ _

lemma partialName_ne_finalName (token filename : String) : partialName token ≠ finalName token filename := by
  intro h
  have hlists := congrArg String.toList h
  rw [partialName, finalName, String.toList_append, String.toList_append, List.append_cancel_left_eq,
    String.toList_append] at hlists
  have hhead : some '.' = some '-' := congrArg List.head? hlists
  exact absurd hhead (by decide)

lemma partialName_injective : Function.Injective partialName := by
  intro a b h
  have hlists := congrArg String.toList h
  rw [partialName, partialName, String.toList_append, String.toList_append, List.append_cancel_right_eq] at hlists
  exact String.toList_inj.mp hlists

end CiaoHost.Upload
