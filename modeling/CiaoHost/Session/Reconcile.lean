import CiaoHost.Session.Timeline

/-! Lining a vendor-side read up with the held timeline. -/

namespace CiaoHost.Session

open Protocol Lib Lib.Text

inductive ReconcileMode where
  | backfill (complete : Bool)
  | turn (fromTurnStart : Bool) (after : Option ℕ)
  deriving DecidableEq, Repr

namespace ReconcileMode

def isTurn : ReconcileMode → Bool
  | turn .. => true
  | backfill _ => false

def fromTurnStart : ReconcileMode → Bool
  | turn fromStart _ => fromStart
  | backfill _ => false

def after : ReconcileMode → Option ℕ
  | turn _ mark => mark
  | backfill _ => none

def complete : ReconcileMode → Option Bool
  | backfill covered => some covered
  | turn .. => none

end ReconcileMode

structure HeldEntry where
  entry : TimelineEntry
  source : Option String
  deriving DecidableEq, Repr

inductive Planned where
  | held (index : ℕ) (refresh : Option ℕ) (rekey : Bool)
  | new (authority : ℕ)
  deriving DecidableEq, Repr

namespace Patience

/-- `tails` ends the best chain of each length; `previous` links each match to the one before it
in its chain. -/
structure State where
  tails : List ℕ
  previous : List (Option ℕ)

def place (chain : List (ℕ × ℕ)) (state : State) (position : ℕ) (authority : ℕ) : State :=
  let length := (state.tails.takeWhile fun tail => (chain[tail]?).any (·.2 < authority)).length
  { tails := if length = state.tails.length then state.tails ++ [position]
      else state.tails.set length position
    previous := state.previous ++ [if length = 0 then none else state.tails[length - 1]?] }

def sort (chain : List (ℕ × ℕ)) : State :=
  chain.zipIdx.foldl (fun state (pair, position) => place chain state position pair.2) ⟨[], []⟩

/-- Every link points to an earlier match, so `fuel` matches are enough. -/
def follow (chain : List (ℕ × ℕ)) (previous : List (Option ℕ)) : ℕ → Option ℕ → List (ℕ × ℕ)
  | 0, _ | _, none => []
  | fuel + 1, some position =>
    match chain[position]? with
    | none => []
    | some pair => pair :: follow chain previous fuel (previous[position]?).join

end Patience

def longestIncreasingChain (chain : List (ℕ × ℕ)) : List (ℕ × ℕ) :=
  let state := Patience.sort chain
  (Patience.follow chain state.previous chain.length state.tails.getLast?).reverse

def differs (held : TimelineEntry) (authority : NormalizedTimelineEntry) : Bool :=
  held.body ≠ authority.body || held.truncation ≠ authority.truncation || held.state ≠ authority.state

def refreshes (held : TimelineEntry) (authority : NormalizedTimelineEntry) (mode : ReconcileMode) : Bool :=
  differs held authority &&
    if authority.kind = "assistant_message" then true
    else if authority.kind = "tool" then mode.isTurn && held.state = "streaming"
    else false

def textOf : TimelineBody → Option String
  | .text t => some t
  | _ => none

structure Alignment where
  held : List HeldEntry
  authority : List NormalizedTimelineEntry
  mode : ReconcileMode
  liveOnlyPrefix : Option String

namespace Alignment

variable (a : Alignment)

def bySource : KeyedMap String ℕ :=
  a.authority.zipIdx.foldl (fun found (entry, index) => found.insert entry.sourceId index) ∅

def sharedRows : List (ℕ × ℕ) :=
  a.held.zipIdx.filterMap fun (row, index) =>
    (row.source.bind a.bySource.lookup).map fun authority => (index, authority)

def isNew (index : ℕ) : Bool := index ∉ a.sharedRows.map Prod.snd

def newBetween (first last : ℕ) : List ℕ := (List.range' first (last - first)).filter a.isNew

def afterTurn (index : ℕ) : Bool :=
  a.mode.after.any fun mark => (a.held[index]?).any (mark ≤ ·.entry.sequence)

def isDisplay (index : ℕ) : Bool :=
  a.mode.isTurn && !a.afterTurn index && a.liveOnlyPrefix.any fun stem =>
    ((a.held[index]?).bind (·.source)).any fun source => stem.toList.isPrefixOf source.toList

def heldText (index : ℕ) : Option String := (a.held[index]?).bind fun row => textOf row.entry.body

def recordText (index : ℕ) : Option String := (a.authority[index]?).bind fun entry => textOf entry.body

def isReply (index : ℕ) : Bool := (a.authority[index]?).any (·.kind = "assistant_message")

def pairByText : List ℕ → List ℕ → List (ℕ × ℕ)
  | [], _ => []
  | display :: displays, replies =>
    match a.heldText display with
    | none => pairByText displays replies
    | some shown =>
      if trim shown = [] then pairByText displays replies
      else match replies.dropWhile fun reply =>
          !(a.recordText reply).any fun t => (trim shown).isPrefixOf (trimStart t) with
        | [] => pairByText displays replies
        | reply :: rest => (display, reply) :: pairByText displays rest

def pairDisplaysWithReplies (displays replies : List ℕ) : List (ℕ × ℕ) :=
  if displays.length = replies.length then displays.zip replies else a.pairByText displays replies

def heldRow (index : ℕ) : Planned := .held index none false

instance : LawfulBEq (List Char) := inferInstance

def mergeGap (pairs : List (ℕ × ℕ)) (gapReplies : List (List Char)) : List ℕ → List ℕ → List Planned
  | [], pending => pending.map .new
  | index :: rest, pending =>
    if a.afterTurn index then
      pending.map .new ++ heldRow index :: mergeGap pairs gapReplies rest []
    else match pairs.lookup index with
      | some reply =>
        let later := pending.dropWhile (· < reply)
        let later := if later.head? = some reply then later.tail else later
        (pending.takeWhile (· < reply)).map .new ++
          .held index (some reply) true :: mergeGap pairs gapReplies rest later
      | none =>
        if a.isDisplay index then
          -- the same reply, already on the timeline under the record's own source
          if (a.heldText index).any fun shown => trim shown ∈ gapReplies then
            mergeGap pairs gapReplies rest pending
          else pending.map .new ++ heldRow index :: mergeGap pairs gapReplies rest []
        else heldRow index :: mergeGap pairs gapReplies rest pending

def planGap (heldIndex authorityIndex heldEnd authorityEnd : ℕ) : List Planned :=
  let gapNew := a.newBetween (authorityIndex + 1) authorityEnd
  let gapHeld := List.range' (heldIndex + 1) (heldEnd - (heldIndex + 1))
  let pairs := a.pairDisplaysWithReplies (gapHeld.filter a.isDisplay) (gapNew.filter a.isReply)
  let gapReplies := ((List.range' authorityIndex (authorityEnd - authorityIndex)).filter
    a.isReply).filterMap fun index => (a.recordText index).map trim
  a.mergeGap pairs gapReplies gapHeld gapNew

def refreshOf (heldIndex authorityIndex : ℕ) : Option ℕ :=
  match a.held[heldIndex]?, a.authority[authorityIndex]? with
  | some row, some record =>
    if refreshes row.entry record a.mode then some authorityIndex else none
  | _, _ => none

def planAnchors : List (ℕ × ℕ) → List Planned
  | [] => []
  | (heldIndex, authorityIndex) :: rest =>
    let (heldEnd, authorityEnd) := rest.head?.getD (a.held.length, a.authority.length)
    .held heldIndex (a.refreshOf heldIndex authorityIndex) false ::
      a.planGap heldIndex authorityIndex heldEnd authorityEnd ++ planAnchors rest

def heldBetween (first last : ℕ) : List Planned := (List.range' first (last - first)).map heldRow

def planStart (firstHeld firstAuthority : ℕ) : List Planned :=
  let restored := (a.newBetween 0 firstAuthority).map Planned.new
  if a.mode.isTurn then
    heldBetween 0 firstHeld ++ if a.mode.fromTurnStart then restored else []
  else restored ++ heldBetween 0 firstHeld

def planReconcile : Option (List Planned) :=
  match longestIncreasingChain a.sharedRows with
  | [] =>
    if a.mode.isTurn then none
    else some ((a.newBetween 0 a.authority.length).map .new ++ heldBetween 0 a.held.length)
  | anchors@((firstHeld, firstAuthority) :: _) =>
    some (a.planStart firstHeld firstAuthority ++ a.planAnchors anchors)

end Alignment

end CiaoHost.Session
