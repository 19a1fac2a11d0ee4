import CiaoHost.Session.Outcomes

/-! Terminals that show a Codex thread: which of their bindings a restart takes up again and a sweep leaves. -/

namespace CiaoHost.Codex

open Lib Session

def serverThread (b : TerminalBinding) : String × ℕ × String := (b.serverIdentity, b.serverPid, b.threadId)

def unambiguous (bindings : List TerminalBinding) : List TerminalBinding :=
  bindings.filter fun b => bindings.countP (fun c => serverThread c = serverThread b) = 1

/-- What was found in a directory, or that it could not be read. -/
def liveBindings (found : Except String (List TerminalBinding)) : Except String (List TerminalBinding) :=
  found.map unambiguous

structure AgentSighting where
  vendorSessionId : String
  processId : ℕ
  cwd : String

structure Recovery where
  directories : List String
  found : String → Except String (List TerminalBinding)
  rollouts : List AgentSighting
  agents : List AgentSighting
  cwd : ℕ → Option String
  looksLikeTui : ℕ → Bool
  processStart : ℕ → Option String

namespace Recovery

variable (r : Recovery)

def sight (state : List AgentSighting × KeyedMap ℕ TerminalBinding) (b : TerminalBinding) :
    List AgentSighting × KeyedMap ℕ TerminalBinding :=
  match r.cwd b.tuiPid with
  | none => state
  | some cwd => (⟨b.threadId, b.tuiPid, cwd⟩ :: state.1, state.2.insert b.tuiPid b)

def sightDirectory (state : List AgentSighting × KeyedMap ℕ TerminalBinding) (directory : String) :
    List AgentSighting × KeyedMap ℕ TerminalBinding :=
  match liveBindings (r.found directory) with
  | .error _ => state
  | .ok bindings => bindings.foldl r.sight state

/-- What each sighted process is registered with, the first time it is seen. -/
def offers : List AgentSighting → List ℕ → KeyedMap ℕ TerminalBinding →
    List (AgentSighting × String × Option TerminalBinding)
  | [], _, _ => []
  | sighting :: rest, seen, shared =>
    if sighting.processId ∈ seen then offers rest seen shared
    else if ¬ r.looksLikeTui sighting.processId then offers rest (sighting.processId :: seen) shared
    else match r.processStart sighting.processId with
      | none => offers rest (sighting.processId :: seen) shared
      | some start => (sighting, start, shared.lookup sighting.processId) ::
          offers rest (sighting.processId :: seen) (shared.erase sighting.processId)

def readoptAttached : List (AgentSighting × String × Option TerminalBinding) :=
  let (sightings, shared) := r.directories.foldl r.sightDirectory (r.rollouts, ∅)
  r.offers (sightings ++ r.agents) [] shared

def claimed : List TerminalBinding := r.readoptAttached.filterMap (·.2.2)

end Recovery

def currentBindings (found : String → Except String (List TerminalBinding)) (directory : String) :
    List TerminalBinding :=
  match liveBindings (found directory) with
  | .error _ => []
  | .ok bindings => bindings

def revalidateRecorded (env : Env) (found : String → Except String (List TerminalBinding)) (sv : Supervisor)
    (recorded : String × TerminalBinding) : Supervisor :=
  if recorded.2 ∈ currentBindings found recorded.2.statusDirectory then sv
  else sv.removeTerminalBindingIfCurrent env recorded.1 recorded.2

def revalidateBindings (sv : Supervisor) (env : Env) (found : String → Except String (List TerminalBinding)) :
    Supervisor :=
  (sv.sessions.entries.filterMap fun entry => entry.2.terminalBinding.map (entry.1, ·)).foldl
    (revalidateRecorded env found) sv

/-- Terminals of one server and thread are found in one directory. -/
def Apart (found : String → Except String (List TerminalBinding)) : Prop :=
  ∀ d d' bs bs', found d = .ok bs → found d' = .ok bs' →
    ∀ b ∈ bs, ∀ b' ∈ bs', serverThread b = serverThread b' → d = d'

variable {found : String → Except String (List TerminalBinding)} {b b' : TerminalBinding}

lemma eq_of_unambiguous {bindings : List TerminalBinding} (hb : b ∈ unambiguous bindings)
    (hb' : b' ∈ unambiguous bindings) (h : serverThread b = serverThread b') : b = b' := by
  obtain ⟨hmem, hone⟩ := List.mem_filter.mp hb
  have hmem' := (List.mem_filter.mp hb').1
  rw [decide_eq_true_eq, List.countP_eq_length_filter, List.length_eq_one_iff] at hone
  obtain ⟨only, honly⟩ := hone
  have hall : ∀ c ∈ bindings, serverThread c = serverThread b → c = only := by
    intro c hc hkey
    have hin : c ∈ bindings.filter fun c => serverThread c = serverThread b :=
      List.mem_filter.mpr ⟨hc, decide_eq_true hkey⟩
    rw [honly] at hin
    exact List.mem_singleton.mp hin
  rw [hall b hmem rfl, hall b' hmem' h.symm]

lemma mem_currentBindings {d : String} (h : b ∈ currentBindings found d) :
    ∃ bs, found d = .ok bs ∧ b ∈ unambiguous bs := by
  rw [currentBindings, liveBindings] at h
  cases hfound : found d with
  | error e => simp [hfound, Except.map] at h
  | ok bs => exact ⟨bs, rfl, by simpa [hfound, Except.map] using h⟩

lemma Apart.eq (hapart : Apart found) {d d' : String} (hb : b ∈ currentBindings found d)
    (hb' : b' ∈ currentBindings found d') (h : serverThread b = serverThread b') : b = b' := by
  obtain ⟨bs, hfound, hmem⟩ := mem_currentBindings hb
  obtain ⟨bs', hfound', hmem'⟩ := mem_currentBindings hb'
  obtain rfl := hapart d d' bs bs' hfound hfound' b (List.mem_of_mem_filter hmem) b' (List.mem_of_mem_filter hmem') h
  obtain rfl : bs = bs' := Except.ok.inj (hfound.symm.trans hfound')
  exact eq_of_unambiguous hmem hmem' h

namespace Recovery

variable {r : Recovery} {state : List AgentSighting × KeyedMap ℕ TerminalBinding} {pid : ℕ}

lemma sight_shared {bindings : List TerminalBinding} (h : (bindings.foldl r.sight state).2.lookup pid = some b) :
    state.2.lookup pid = some b ∨ b ∈ bindings := by
  induction bindings generalizing state with
  | nil => exact .inl h
  | cons c bindings ih =>
    rcases ih h with hfirst | hmem
    · rw [sight] at hfirst
      split at hfirst
      · exact .inl hfirst
      · rcases KeyedMap.lookup_insert_cases hfirst with ⟨-, rfl⟩ | ⟨-, hstate⟩
        · exact .inr List.mem_cons_self
        · exact .inl hstate
    · exact .inr (List.mem_cons_of_mem c hmem)

lemma sighted_shared {directories : List String}
    (h : (directories.foldl r.sightDirectory state).2.lookup pid = some b) :
    state.2.lookup pid = some b ∨ ∃ d ∈ directories, b ∈ currentBindings r.found d := by
  induction directories generalizing state with
  | nil => exact .inl h
  | cons d directories ih =>
    rcases ih h with hfirst | ⟨d', hd', hmem⟩
    · rw [sightDirectory] at hfirst
      split at hfirst
      · exact .inl hfirst
      · next bindings hlive =>
        refine (sight_shared hfirst).imp_right fun hmem => ⟨d, List.mem_cons_self, ?_⟩
        rw [currentBindings, hlive]
        exact hmem
    · exact .inr ⟨d', List.mem_cons_of_mem d hd', hmem⟩

lemma offers_shared {sightings : List AgentSighting} {seen : List ℕ} {shared : KeyedMap ℕ TerminalBinding}
    {sighting : AgentSighting} {start : String} (h : (sighting, start, some b) ∈ r.offers sightings seen shared) :
    ∃ pid, shared.lookup pid = some b := by
  induction sightings generalizing seen shared with
  | nil => cases h
  | cons next rest ih =>
    rw [offers] at h
    split at h
    · exact ih h
    · split at h
      · exact ih h
      · split at h
        · exact ih h
        · rcases List.mem_cons.mp h with heq | h
          · simp only [Prod.mk.injEq] at heq
            exact ⟨_, heq.2.2.symm⟩
          · obtain ⟨pid, hpid⟩ := ih h
            exact ⟨pid, (KeyedMap.lookup_erase_some hpid).2⟩

lemma claimed_current (h : b ∈ r.claimed) : ∃ d, b ∈ currentBindings r.found d := by
  obtain ⟨⟨sighting, start, binding⟩, hoffer, hb⟩ := List.mem_filterMap.mp h
  dsimp only at hb
  subst hb
  obtain ⟨pid, hpid⟩ := offers_shared hoffer
  rcases sighted_shared hpid with hnone | ⟨d, -, hmem⟩
  · rw [KeyedMap.lookup_empty] at hnone
    cases hnone
  · exact ⟨d, hmem⟩

end Recovery

variable {sv : Supervisor} {env : Env} {id : String} {s : LiveSession}

lemma removeTerminalBinding_lookup {id' : String}
    (h : (sv.removeTerminalBindingIfCurrent env id' b).sessions.lookup id = some s) :
    sv.sessions.lookup id = some s ∧ ¬ (id = id' ∧ s.terminalBinding = some b) := by
  rw [Supervisor.removeTerminalBindingIfCurrent] at h
  split at h
  · rw [Supervisor.removeSession_lookup] at h
    split at h
    · cases h
    · next hne => exact ⟨h, fun hsame => hne hsame.1⟩
  · next hkept =>
    refine ⟨h, ?_⟩
    rintro ⟨rfl, hbinding⟩
    simp [h, hbinding] at hkept

lemma revalidate_lookup {recorded : List (String × TerminalBinding)}
    (h : (recorded.foldl (revalidateRecorded env found) sv).sessions.lookup id = some s) :
    sv.sessions.lookup id = some s ∧
      ∀ b, (id, b) ∈ recorded → s.terminalBinding = some b → b ∈ currentBindings found b.statusDirectory := by
  induction recorded generalizing sv with
  | nil => exact ⟨h, nofun⟩
  | cons first rest ih =>
    obtain ⟨hfirst, hrest⟩ := ih h
    rw [revalidateRecorded] at hfirst
    split at hfirst
    · next hcurrent =>
      refine ⟨hfirst, fun b hb hbinding => ?_⟩
      rcases List.mem_cons.mp hb with rfl | hb
      · exact hcurrent
      · exact hrest b hb hbinding
    · obtain ⟨hbefore, hother⟩ := removeTerminalBinding_lookup hfirst
      refine ⟨hbefore, fun b hb hbinding => ?_⟩
      rcases List.mem_cons.mp hb with rfl | hb
      · exact absurd ⟨rfl, hbinding⟩ hother
      · exact hrest b hb hbinding

lemma revalidated_current (hs : (revalidateBindings sv env found).sessions.lookup id = some s)
    (hb : s.terminalBinding = some b) : b ∈ currentBindings found b.statusDirectory := by
  obtain ⟨hbefore, hcurrent⟩ := revalidate_lookup hs
  refine hcurrent b (List.mem_filterMap.mpr ⟨⟨id, s⟩, KeyedMap.mem_entries.mpr hbefore, ?_⟩) hb
  rw [hb]
  rfl

namespace Sample

def terminal (tuiPid : ℕ) (directory : String) : TerminalBinding :=
  ⟨tuiPid, "tui", 7, "server", 1, "thread", directory⟩

def recovery (found : String → List TerminalBinding) : Recovery :=
  ⟨["home", "work"], fun d => .ok (found d), [], [], fun _ => some "/", fun _ => true, fun _ => some "start"⟩

def shared : Recovery := recovery fun d => if d = "home" then [terminal 1 d, terminal 2 d] else []

end Sample

end CiaoHost.Codex
