import Mathlib.Tactic

/-! How a POSIX shell reads a line as words: quoting, quote removal, and where a word ends. -/

namespace CiaoHost.Lib.ShellWords

inductive Mode where
  | plain | escape | single | double | doubleEscape
  deriving DecidableEq, Repr

structure Reader where
  mode : Mode
  word : Option (List Char)
  words : List (List Char)
  deriving DecidableEq, Repr

def blanks : List Char := [' ', '\t', '\n']

/-- Operators, expansions, patterns and comments: an unquoted one makes the line more than its words. -/
def active : List Char := ['|', '&', ';', '<', '>', '(', ')', '$', '`', '*', '?', '[', '#', '~']

namespace Reader

variable (r : Reader)

def push (c : Char) (mode : Mode) : Reader := { r with mode := mode, word := some (r.word.getD [] ++ [c]) }

def step (c : Char) : Option Reader :=
  match r.mode with
  | .plain =>
    if c = '\'' then some { r with mode := .single, word := some (r.word.getD []) }
    else if c = '"' then some { r with mode := .double, word := some (r.word.getD []) }
    else if c = '\\' then some { r with mode := .escape }
    else if c ∈ blanks then some ⟨.plain, none, r.words ++ r.word.toList⟩
    else if c ∈ active then none
    else some (r.push c .plain)
  -- an escaped newline joins two lines
  | .escape => some (if c = '\n' then { r with mode := .plain } else r.push c .plain)
  | .single => some (if c = '\'' then { r with mode := .plain } else r.push c .single)
  | .double =>
    if c = '"' then some { r with mode := .plain }
    else if c = '\\' then some { r with mode := .doubleEscape }
    else if c ∈ ['$', '`'] then none
    else some (r.push c .double)
  | .doubleEscape =>
    some (if c = '\n' then { r with mode := .double }
      else if c ∈ ['$', '`', '"', '\\'] then r.push c .double
      else (r.push '\\' .double).push c .double)

end Reader

/-- The words of a line with their quotes removed, unless it is unfinished or more than words. -/
def words (line : String) : Option (List String) :=
  (line.toList.foldlM Reader.step ⟨.plain, none, []⟩).bind fun r =>
    if r.mode = .plain then some ((r.words ++ r.word.toList).map String.ofList) else none

example : words "cp 'a b' \"c d\"\\ e" = some ["cp", "a b", "c d e"] := by decide +kernel

end CiaoHost.Lib.ShellWords
