import CiaoHost.Codex.Carry
import CiaoHost.Lib.KeyedList
import CiaoHost.Lib.Runs

/-! Host builds over one run directory: their sightings and verifications, cut where a verification
waits, among changes of the installed binaries (codex_carry.rs). -/

namespace CiaoHost.Codex

open Lib Lib.Runs

def recheckBackoff : ℕ := 600

structure HostProcess where
  build : Build
  checksEnabled : Bool
  attempts : KeyedMap String ℕ
  inFlight : Bool
  running : Bool

inductive CheckPhase where
  | waiting
  | located (path : String) (stat : Stat)
  | hashed (path : String) (stat : Stat) (sha256 : String)
  | extracted (path : String) (stat : Stat) (sha256 : String) (extract : PinExtract)
  | ended
  deriving DecidableEq, Repr

def CheckPhase.judges : CheckPhase → Option (String × Stat)
  | .located path stat | .hashed path stat _ | .extracted path stat _ _ => some (path, stat)
  | .waiting | .ended => none

/-- One verification, of the build of its process; `sighting` tells that the process waits for it. -/
structure Verification where
  process : ℕ
  build : Build
  version : String
  sighting : Bool
  phase : CheckPhase
  deriving DecidableEq, Repr

structure StoredVerdict where
  verdict : CarryVerdict
  writer : Build
  deriving DecidableEq, Repr

structure Carrying where
  binaries : Binaries
  stored : Option StoredVerdict
  processes : List HostProcess
  checks : List Verification

inductive CarryEvent where
  | start (build : Build) (checksEnabled : Bool)
  | stop (process : ℕ)
  | install (path : String) (stat : Stat)
  | remove (path : String)
  | relocate (codexBinary onPath : Option String)
  | discard
  | sight (process : ℕ) (version : String) (now : ℕ) (spawns : Bool)
  | verify (process : ℕ) (version : String)
  | advance (check : ℕ) (fails : Bool) (now : ℕ) (disk : Bool)
  deriving DecidableEq, Repr

namespace Carrying

def empty (binaries : Binaries) : Carrying := ⟨binaries, none, [], []⟩

variable (contents : Stat → Installed) (sha : Stat → String) (s : Carrying)

def verdict : Option CarryVerdict := s.stored.map (·.verdict)

def schedules (p : HostProcess) (version : String) (now : ℕ) : Bool :=
  p.running && carryEligible p.build version && p.checksEnabled && !p.inFlight &&
    !(s.binaries.codexBinary.any fun binary => s.verdict.any fun v => s.binaries.verdictCovers v version binary) &&
    !((p.attempts.lookup version).any fun last => now - last < recheckBackoff)

def noteSighting (i : ℕ) (version : String) (now : ℕ) (spawns : Bool) : Carrying :=
  match s.processes[i]? with
  | none => s
  | some p =>
    if s.schedules p version now then
      { s with
        processes := s.processes.set i { p with attempts := p.attempts.insert version now, inFlight := spawns }
        -- without a runtime the flag is cleared again and nothing is spawned
        checks := if spawns then s.checks ++ [⟨i, p.build, version, true, .waiting⟩] else s.checks }
    else s

def nextPhase (check : Verification) (fails : Bool) : CheckPhase :=
  if fails then .ended
  else
    match check.phase with
    | .waiting =>
      match s.binaries.codexBinary with
      | none => .ended
      | some binary =>
        match s.binaries.files.lookup (s.binaries.resolved binary) with
        | none => .ended
        | some stat => .located (s.binaries.resolved binary) stat
    | .located path stat =>
      match s.binaries.files.lookup path with
      | none => .ended
      | some found => .hashed path stat (sha found)
    | .hashed path stat sha256 =>
      match s.binaries.files.lookup path with
      | none => .ended
      | some found =>
        if (contents found).version ≠ check.version then .ended
        else
          match (contents found).extract with
          | none => .ended
          | some extract => .extracted path stat sha256 extract
    | .extracted _ _ _ _ | .ended => .ended

def judged (check : Verification) (now : ℕ) : Option StoredVerdict :=
  match check.phase, check.build.embedded with
  | .extracted path stat sha256 extract, some embedded =>
    some
      ⟨{ version := check.version
         binary := ⟨path, stat, sha256⟩
         carried := embedded.readSetChanges extract = []
         changed := embedded.readSetChanges extract
         schemaDigest := extract.schemaDigest
         checkedAt := now }, check.build⟩
  | _, _ => none

def clearInFlight (check : Verification) : List HostProcess :=
  if check.sighting then s.processes.modify check.process fun p => { p with inFlight := false } else s.processes

def advance (i : ℕ) (fails : Bool) (now : ℕ) (disk : Bool) : Carrying :=
  match s.checks[i]? with
  | none => s
  | some check =>
    let phase := s.nextPhase contents sha check fails
    { s with
      checks := s.checks.set i { check with phase := phase }
      stored := if disk ∧ ¬ fails then (judged check now).or s.stored else s.stored
      processes := if phase = .ended ∧ check.phase ≠ .ended then s.clearInFlight check else s.processes }

def step : CarryEvent → Carrying
  | .start build checksEnabled => { s with processes := s.processes ++ [⟨build, checksEnabled, ∅, false, true⟩] }
  | .stop i =>
    { s with
      processes := s.processes.modify i fun p => { p with running := false }
      checks := s.checks.map fun c => if c.process = i then { c with phase := .ended } else c }
  | .install path stat => { s with binaries := { s.binaries with files := s.binaries.files.insert path stat } }
  | .remove path => { s with binaries := { s.binaries with files := s.binaries.files.erase path } }
  | .relocate codexBinary onPath => { s with binaries := { s.binaries with codexBinary, onPath } }
  | .discard => { s with stored := none }
  | .sight i version now spawns => s.noteSighting i version now spawns
  | .verify i version =>
    match s.processes[i]? with
    | none => s
    | some p => if p.running then { s with checks := s.checks ++ [⟨i, p.build, version, false, .waiting⟩] } else s
  | .advance i fails now disk => s.advance contents sha i fails now disk

def builds : List Build :=
  (s.processes.filter (·.running)).map (·.build) ++ (s.checks.filter (·.phase ≠ .ended)).map (·.build) ++
    s.stored.toList.map (·.writer)

/-- A build joins others with its own read set only, and a binary does not change while it is judged. -/
def Settled : CarryEvent → Prop
  | .start build _ => ∀ b ∈ s.builds, b.readSet = build.readSet
  | .install path _ | .remove path => ∀ c ∈ s.checks, ∀ judged ∈ c.phase.judges, judged.1 ≠ path
  | .advance i _ _ _ => ∀ c ∈ s.checks[i]?, c.phase = .waiting →
      ∀ binary ∈ s.binaries.codexBinary, isAbsolute (s.binaries.resolved binary)
  | _ => True

instance : ∀ e, Decidable (s.Settled e)
  | .start build _ => inferInstanceAs (Decidable (∀ b ∈ s.builds, b.readSet = build.readSet))
  | .install path _ => inferInstanceAs (Decidable (∀ c ∈ s.checks, ∀ judged ∈ c.phase.judges, judged.1 ≠ path))
  | .remove path => inferInstanceAs (Decidable (∀ c ∈ s.checks, ∀ judged ∈ c.phase.judges, judged.1 ≠ path))
  | .advance i _ _ _ => inferInstanceAs (Decidable (∀ c ∈ s.checks[i]?, _))
  | .stop _ | .relocate _ _ | .discard | .sight _ _ _ _ | .verify _ _ => .isTrue trivial

def Matches (build : Build) (installed : Installed) : Prop :=
  ∃ extract, installed.extract = some extract ∧ build.readSet = some extract.toReadSet

/-- What a verification has found is what the files hold. -/
def Found (files : KeyedMap String Stat) : CheckPhase → Prop
  | .waiting | .ended => True
  | .located path stat | .hashed path stat _ => files.lookup path = some stat ∧ isAbsolute path
  | .extracted path stat _ extract =>
    (files.lookup path = some stat ∧ isAbsolute path) ∧ (contents stat).extract = some extract

/-- Every build at work has the read set `r`. -/
structure Sound (r : Option ReadSet) : Prop where
  processes : ∀ p ∈ s.processes, p.running → p.build.readSet = r
  checks : ∀ c ∈ s.checks, Found contents s.binaries.files c.phase ∧ (c.phase ≠ .ended → c.build.readSet = r)
  stored : ∀ v, s.stored = some v → v.writer.readSet = r ∧ isAbsolute v.verdict.binary.path ∧
    (v.verdict.carried ↔ Matches v.writer (contents v.verdict.binary.stat))

lemma empty_sound (binaries : Binaries) (r : Option ReadSet) : (empty binaries).Sound contents r where
  processes := nofun
  checks := nofun
  stored := nofun

variable {contents sha s} {s' : Carrying} {r : Option ReadSet} {files : KeyedMap String Stat} {phase : CheckPhase}

lemma Found.congr {files' : KeyedMap String Stat} (h : Found contents files phase)
    (hfiles : ∀ judged ∈ phase.judges, files'.lookup judged.1 = files.lookup judged.1) :
    Found contents files' phase := by
  cases phase with
  | waiting | ended => trivial
  | located | hashed => exact ⟨(hfiles _ rfl).trans h.1, h.2⟩
  | extracted => exact ⟨⟨(hfiles _ rfl).trans h.1.1, h.1.2⟩, h.2⟩

variable {p : HostProcess} {v : StoredVerdict} {check : Verification} {now i : ℕ} {fails : Bool} {stat : Stat}
   {version : String}

lemma judged_sound (h : Found contents files check.phase) (hv : judged check now = some v) :
    v.writer = check.build ∧ check.phase ≠ .ended ∧ isAbsolute v.verdict.binary.path ∧
      (v.verdict.carried ↔ Matches v.writer (contents v.verdict.binary.stat)) := by
  rw [judged.eq_def] at hv
  split at hv
  · next path stat sha256 extract embedded hphase hembedded =>
    cases hv
    rw [hphase] at h ⊢
    refine ⟨rfl, CheckPhase.noConfusion, h.1.2, ?_⟩
    simp [Matches, h.2, Build.readSet, hembedded, PinExtract.readSetChanges_eq_nil]
  · cases hv

lemma nextPhase_found (h : Found contents s.binaries.files check.phase)
    (habsolute : check.phase = .waiting → ∀ binary ∈ s.binaries.codexBinary, isAbsolute (s.binaries.resolved binary)) :
    Found contents s.binaries.files (s.nextPhase contents sha check fails) := by
  rw [nextPhase.eq_def]
  split
  · trivial
  · generalize check.phase = phase at h habsolute ⊢
    cases phase with
    | waiting =>
      dsimp only
      split
      · trivial
      · next binary hbinary =>
        split
        · trivial
        · next hfile => exact ⟨hfile, habsolute rfl binary hbinary⟩
    | located path stat =>
      dsimp only
      split
      · trivial
      · exact h
    | hashed path stat sha256 =>
      dsimp only
      split
      · trivial
      · next found hfound =>
        split
        · trivial
        · split
          · trivial
          · next hextract =>
            -- the file found now is the one whose size and time were taken
            obtain rfl : found = stat := Option.some.inj (hfound.symm.trans h.1)
            exact ⟨h, hextract⟩
    | extracted | ended => trivial

lemma nextPhase_ended (h : check.phase = .ended) : s.nextPhase contents sha check fails = .ended := by
  rw [nextPhase.eq_def, h]
  split <;> rfl

section

variable (h : s.Sound contents r)

include h

lemma Sound.modified {f : HostProcess → HostProcess} (hp : p ∈ s.processes.modify i f) (hrunning : p.running)
    (hf : ∀ p, (f p).running → p.running ∧ (f p).build = p.build) : p.build.readSet = r := by
  rcases KeyedList.mem_modify hp with hp | ⟨q, hq, rfl⟩
  · exact h.processes p hp hrunning
  · rw [(hf q hrunning).2]
    exact h.processes q hq (hf q hrunning).1

lemma Sound.advance {disk : Bool}
    (hsettled : s.Settled (.advance i fails now disk)) : (s.advance contents sha i fails now disk).Sound contents r := by
  rw [Carrying.advance]
  cases hcheck : s.checks[i]? with
  | none => exact h
  | some check =>
    obtain ⟨hfound, hbuild⟩ := h.checks check (List.mem_of_getElem? hcheck)
    refine ⟨?_, ?_, ?_⟩
    · intro p hp hrunning
      dsimp only [clearInFlight] at hp
      split_ifs at hp
      · exact h.modified hp hrunning fun _ hp => ⟨hp, rfl⟩
      · exact h.processes p hp hrunning
      · exact h.processes p hp hrunning
    · intro c hc
      rcases List.mem_or_eq_of_mem_set hc with hc | rfl
      · exact h.checks c hc
      · exact ⟨nextPhase_found hfound (hsettled check hcheck),
          fun hphase => hbuild fun hended => hphase (nextPhase_ended hended)⟩
    · intro v hv
      dsimp only at hv
      split at hv
      · rcases Option.or_eq_some_iff.mp hv with hv | ⟨-, hv⟩
        · obtain ⟨hwriter, hphase, hverdict⟩ := judged_sound hfound hv
          exact ⟨hwriter ▸ hbuild hphase, hverdict⟩
        · exact h.stored v hv
      · exact h.stored v hv

lemma Sound.binaries {binaries : Binaries} (hjudged : ∀ c ∈ s.checks, ∀ judged ∈ c.phase.judges,
      binaries.files.lookup judged.1 = s.binaries.files.lookup judged.1) :
    Sound contents { s with binaries := binaries } r :=
  ⟨h.processes, fun c hc => ⟨(h.checks c hc).1.congr (hjudged c hc), (h.checks c hc).2⟩, h.stored⟩

lemma Sound.begun {processes : List HostProcess} {sighting : Bool}
    (hp : p ∈ s.processes) (hrunning : p.running) (hprocesses : ∀ q ∈ processes, q.running → q.build.readSet = r) :
    Sound contents
      { s with processes := processes, checks := s.checks ++ [⟨i, p.build, version, sighting, .waiting⟩] } r := by
  refine ⟨hprocesses, fun c hc => ?_, h.stored⟩
  rcases List.mem_append.mp hc with hc | hc
  · exact h.checks c hc
  · rw [List.mem_singleton.mp hc]
    exact ⟨trivial, fun _ => h.processes p hp hrunning⟩

lemma Sound.noteSighting {spawns : Bool} : (s.noteSighting i version now spawns).Sound contents r := by
  rw [Carrying.noteSighting]
  cases hp : s.processes[i]? with
  | none => exact h
  | some p =>
    have hmem : p ∈ s.processes := List.mem_of_getElem? hp
    dsimp only
    split
    · next hschedules =>
      have hrunning : p.running := by
        simp only [schedules, Bool.and_eq_true] at hschedules
        exact hschedules.1.1.1.1.1
      have hprocesses : ∀ q ∈ s.processes.set i
          { p with attempts := p.attempts.insert version now, inFlight := spawns }, q.running → q.build.readSet = r := by
        intro q hq hqrunning
        rcases List.mem_or_eq_of_mem_set hq with hq | rfl
        · exact h.processes q hq hqrunning
        · exact h.processes p hmem hrunning
      cases spawns with
      | true => exact h.begun hmem hrunning hprocesses
      | false => exact ⟨hprocesses, h.checks, h.stored⟩
    · exact h

lemma Sound.start {build : Build} {checksEnabled : Bool} (hsettled : ∀ b ∈ s.builds, b.readSet = build.readSet) :
    (s.step contents sha (.start build checksEnabled)).Sound contents build.readSet := by
  refine ⟨fun p hp hrunning => ?_, fun c hc => ⟨(h.checks c hc).1, fun hphase => hsettled _ ?_⟩,
    fun v hv => ⟨hsettled _ ?_, (h.stored v hv).2⟩⟩
  · rcases List.mem_append.mp hp with hp | hp
    · exact hsettled _ (by simpa [builds] using .inl ⟨p, ⟨hp, hrunning⟩, rfl⟩)
    · rw [List.mem_singleton.mp hp]
  · simpa [builds] using .inr (.inl ⟨c, ⟨hc, hphase⟩, rfl⟩)
  · simpa [builds] using .inr (.inr ⟨v, hv, rfl⟩)

lemma Sound.step {e : CarryEvent} (hsettled : s.Settled e) : ∃ r, (s.step contents sha e).Sound contents r := by
  cases e with
  | start build checksEnabled => exact ⟨_, h.start hsettled⟩
  | stop i =>
    refine ⟨r, fun p hp hrunning => h.modified hp hrunning fun _ => nofun, fun c hc => ?_, h.stored⟩
    obtain ⟨before, hbefore, rfl⟩ := List.mem_map.mp hc
    split
    · exact ⟨trivial, fun hphase => absurd rfl hphase⟩
    · exact h.checks before hbefore
  | install path stat =>
    exact ⟨r, h.binaries fun c hc judged hjudged => KeyedMap.lookup_insert_ne (hsettled c hc judged hjudged)⟩
  | remove path =>
    exact ⟨r, h.binaries fun c hc judged hjudged => KeyedMap.lookup_erase_ne (hsettled c hc judged hjudged)⟩
  | relocate codexBinary onPath => exact ⟨r, h.binaries fun _ _ _ _ => rfl⟩
  | discard => exact ⟨r, h.processes, h.checks, nofun⟩
  | sight i version now spawns => exact ⟨r, h.noteSighting⟩
  | verify i version =>
    refine ⟨r, ?_⟩
    rw [Carrying.step]
    cases hp : s.processes[i]? with
    | none => exact h
    | some p =>
      dsimp only
      split
      · next hrunning => exact h.begun (List.mem_of_getElem? hp) hrunning h.processes
      · exact h
  | advance i fails now disk => exact ⟨r, h.advance hsettled⟩

end

/-- Where `state_for` finds the located binary on disk. -/
def installedStat (s : Carrying) (binary : String) : Option Stat :=
  s.binaries.files.lookup (s.binaries.resolved binary)

lemma Sound.carried_iff (h : s.Sound contents r) (hp : p ∈ s.processes) (hrunning : p.running)
    (hv : s.stored = some v) : v.verdict.carried ↔ Matches p.build (contents v.verdict.binary.stat) := by
  obtain ⟨hwriter, -, hverdict⟩ := h.stored v hv
  rw [hverdict, Matches, Matches, hwriter, h.processes p hp hrunning]

variable {binary : String}

lemma verdictCovers_iff {m : Binaries} {v : CarryVerdict} : m.verdictCovers v version binary ↔
      (v.version = version ∧ v.binary.path = binary) ∧ m.files.lookup binary = some v.binary.stat := by
  simp [Binaries.verdictCovers]

lemma Sound.judged_or_schedules (h : s.Sound contents r) (hp : p ∈ s.processes) (hrunning : p.running)
    (hbinary : s.binaries.codexBinary = some binary)
    (hstat : s.installedStat binary = some stat) (hmatches : Matches p.build (contents stat))
    (heligible : carryEligible p.build version) (hchecks : p.checksEnabled) (hidle : ¬ p.inFlight)
    (hbackoff : ∀ last ∈ p.attempts.lookup version, recheckBackoff ≤ now - last) :
    (∃ v, s.verdict = some v ∧ s.binaries.verdictCovers v version (s.binaries.resolved binary) ∧ v.carried) ∨
      s.schedules p version now := by
  by_cases hcovered : s.verdict.any fun v => s.binaries.verdictCovers v version binary
  · left
    obtain ⟨v, hv, hcovers⟩ := (Option.any_eq_true _ _).mp hcovered
    obtain ⟨stored, hstored, rfl⟩ := Option.map_eq_some_iff.mp hv
    obtain ⟨⟨hversion, hpath⟩, hfile⟩ := verdictCovers_iff.mp hcovers
    -- a stored path is absolute, so the located name is the one that is resolved
    have hresolved : s.binaries.resolved binary = binary := by
      have habsolute := hpath ▸ (h.stored stored hstored).2.1
      rw [Binaries.resolved, Binaries.resolveOnPath, if_pos habsolute]
      rfl
    refine ⟨stored.verdict, hv, hresolved.symm ▸ hcovers, ?_⟩
    rw [installedStat, hresolved, hfile, Option.some.injEq] at hstat
    rw [h.carried_iff hp hrunning hstored, hstat]
    exact hmatches
  · right
    have hwaited : (p.attempts.lookup version).any (fun last => now - last < recheckBackoff) = false := by
      cases hlast : p.attempts.lookup version with
      | none => rfl
      | some last =>
        have hpassed := hbackoff last hlast
        simpa using hpassed
    simp only [schedules, hrunning, heligible, hchecks, hbinary, Option.any_some, hcovered, hwaited, hidle, Bool.and_true,
      Bool.not_false]

lemma noteSighting_schedules (hp : s.processes[i]? = some p) (h : s.schedules p version now) :
    (s.noteSighting i version now true).checks = s.checks ++ [⟨i, p.build, version, true, .waiting⟩] := by
  rw [noteSighting, hp]
  dsimp only
  rw [if_pos h]
  rfl

/-- A running build answers carried only for a binary that matches it, and a located binary that
matches it has a verdict that says so or is verified at the next sighting past the backoff. -/
def Own (contents : Stat → Installed) (sha : Stat → String) (s : Carrying) (i : ℕ) (p : HostProcess)
    (version : String) : Prop :=
  (∀ binary, stateFor p.build s.binaries s.verdict version (some binary) = .carried →
    ∃ stat, s.installedStat binary = some stat ∧ Matches p.build (contents stat)) ∧
  ∀ binary stat now, s.binaries.codexBinary = some binary → s.installedStat binary = some stat →
    Matches p.build (contents stat) → carryEligible p.build version → p.checksEnabled → ¬ p.inFlight →
    (∀ last ∈ p.attempts.lookup version, recheckBackoff ≤ now - last) →
    (∃ v, s.verdict = some v ∧ s.binaries.verdictCovers v version (s.binaries.resolved binary) ∧ v.carried) ∨
      (s.step contents sha (.sight i version now true)).checks =
        s.checks ++ [⟨i, p.build, version, true, .waiting⟩]

theorem carried_evidence_own {binaries : Binaries}
    (h : Reaches (fun s e => s.step contents sha e) Settled (empty binaries) s) {i : ℕ} {p : HostProcess}
    (hp : s.processes[i]? = some p) (hrunning : p.running) (version : String) : Own contents sha s i p version := by
  obtain ⟨r, hsound⟩ : ∃ r, s.Sound contents r :=
    h.invariant (P := fun s => ∃ r, s.Sound contents r) ⟨none, empty_sound contents binaries none⟩
      fun _ _ ⟨_, hs⟩ ha => hs.step ha
  have hmem : p ∈ s.processes := List.mem_of_getElem? hp
  constructor
  · intro binary hcarried
    obtain ⟨b, v, hb, hv, hcovers, hsays⟩ := stateFor_carried hcarried
    cases hb
    obtain ⟨stored, hstored, rfl⟩ := Option.map_eq_some_iff.mp hv
    exact ⟨_, (verdictCovers_iff.mp hcovers).2, (hsound.carried_iff hmem hrunning hstored).mp hsays⟩
  · intro binary stat now hbinary hstat hmatches heligible hchecks hidle hbackoff
    exact (hsound.judged_or_schedules hmem hrunning hbinary hstat hmatches heligible hchecks hidle hbackoff).imp_right
      (noteSighting_schedules hp)

namespace Sample

def extract : PinExtract :=
  ⟨⟨["thread/start"], [], [], [], [], [], [], true, [], [], [], [], [], [], [], []⟩, 1, 0, "digest"⟩

def grown : PinExtract := { extract with requiredClientMethods := ["thread/start", "turn/steer"] }

def build (embedded : PinExtract) : Build := ⟨"0.166.0", some embedded⟩

def installed (extract : PinExtract) (_ : Stat) : Installed := ⟨"0.167.0", some extract⟩

def machine : Binaries := ⟨(∅ : KeyedMap String Stat).insert "/usr/bin/codex" ⟨10, 20⟩, some "/usr/bin/codex", none⟩

def verified (embedded : PinExtract) : List CarryEvent :=
  [.start (build embedded) true, .sight 0 "0.167.0" 1000 true, .advance 0 false 1001 true, .advance 0 false 1002 true,
    .advance 0 false 1003 true, .advance 0 false 1004 true]

def updated (before after : PinExtract) : List CarryEvent := verified before ++ [.stop 0, .start (build after) true]

end Sample

def Sample.after (extract : PinExtract) (events : List CarryEvent) : Carrying :=
  events.foldl (fun s e => s.step (Sample.installed extract) (fun _ => "sha") e) (empty Sample.machine)

def Sample.verifiedTwice : List CarryEvent :=
  Sample.verified Sample.extract ++ [.start (Sample.build Sample.extract) false]

theorem carried_evidence_own_verified :
    ∃ p, (Sample.after Sample.extract Sample.verifiedTwice).processes[1]? = some p ∧
      Own (Sample.installed Sample.extract) (fun _ => "sha") (Sample.after Sample.extract Sample.verifiedTwice) 1 p
        "0.167.0" := by
  have hrun : Allowed (fun s e => s.step (Sample.installed Sample.extract) (fun _ => "sha") e) Settled
      (empty Sample.machine) Sample.verifiedTwice := by decide +kernel
  have hp : ∃ p ∈ (Sample.after Sample.extract Sample.verifiedTwice).processes[1]?, p.running := by decide +kernel
  obtain ⟨p, hp, hrunning⟩ := hp
  exact ⟨p, hp, carried_evidence_own (Reaches.refl.of_run hrun) hp hrunning "0.167.0"⟩

theorem other_builds_verdict_stands :
    (∃ p, (Sample.after Sample.extract (Sample.updated Sample.extract Sample.grown)).processes[1]? = some p ∧
      p.running ∧ ¬ Own (Sample.installed Sample.extract) (fun _ => "sha")
        (Sample.after Sample.extract (Sample.updated Sample.extract Sample.grown)) 1 p "0.167.0") ∧
    ((Sample.after Sample.grown (Sample.updated Sample.extract Sample.grown)).verdict.map (·.carried) = some false ∧
      Matches (Sample.build Sample.grown) (Sample.installed Sample.grown ⟨10, 20⟩) ∧
      ((Sample.after Sample.grown (Sample.updated Sample.extract Sample.grown)).step (Sample.installed Sample.grown)
        (fun _ => "sha") (.sight 1 "0.167.0" 100000 true)).checks =
          (Sample.after Sample.grown (Sample.updated Sample.extract Sample.grown)).checks) := by
  refine ⟨?_, by decide +kernel, ⟨Sample.grown, rfl, rfl⟩, by decide +kernel⟩
  have hp : ∃ p ∈ (Sample.after Sample.extract (Sample.updated Sample.extract Sample.grown)).processes[1]?,
      p.running ∧ p.build = Sample.build Sample.grown ∧
      stateFor p.build (Sample.after Sample.extract (Sample.updated Sample.extract Sample.grown)).binaries
        (Sample.after Sample.extract (Sample.updated Sample.extract Sample.grown)).verdict "0.167.0"
        (some "/usr/bin/codex") = .carried := by decide +kernel
  obtain ⟨p, hp, hrunning, hbuild, hcarried⟩ := hp
  refine ⟨p, hp, hrunning, ?_⟩
  intro hown
  obtain ⟨stat, -, extract, hextract, hread⟩ := hown.1 _ hcarried
  rw [hbuild] at hread
  cases hextract
  exact absurd hread (by decide)

end Carrying

end CiaoHost.Codex
