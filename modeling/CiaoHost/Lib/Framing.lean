import Mathlib.Data.List.Infix
import Mathlib.Tactic

/-! Length-delimited frames, and a reader that takes them off a stream cut into arbitrary reads. -/

namespace CiaoHost.Lib.Framing

def be32 (n : ℕ) : List UInt8 :=
  [UInt8.ofNat (n / 16777216), UInt8.ofNat (n / 65536), UInt8.ofNat (n / 256), UInt8.ofNat n]

def ofBe32 (a b c d : UInt8) : ℕ :=
  a.toNat * 16777216 + b.toNat * 65536 + c.toNat * 256 + d.toNat

def frame (kind : UInt8) (payload : List UInt8) : List UInt8 := kind :: (be32 payload.length ++ payload)

lemma ofBe32_be32 {n : ℕ} (h : n < 4294967296) :
    ofBe32 (UInt8.ofNat (n / 16777216)) (UInt8.ofNat (n / 65536)) (UInt8.ofNat (n / 256)) (UInt8.ofNat n) = n := by
  simp only [ofBe32, UInt8.toNat_ofNat']
  omega

lemma ofBe32_lt (a b c d : UInt8) : ofBe32 a b c d < 4294967296 := by
  have ha := a.toNat_lt
  have hb := b.toNat_lt
  have hc := c.toNat_lt
  have hd := d.toNat_lt
  rw [ofBe32]
  omega

lemma ofNat_eq_of_mod {n : ℕ} {a : UInt8} (h : n % 256 = a.toNat) : UInt8.ofNat n = a := by
  apply UInt8.toNat_inj.mp
  rw [UInt8.toNat_ofNat']
  exact h

lemma be32_ofBe32 (a b c d : UInt8) : be32 (ofBe32 a b c d) = [a, b, c, d] := by
  have ha := a.toNat_lt
  have hb := b.toNat_lt
  have hc := c.toNat_lt
  have hd := d.toNat_lt
  simp only [be32, ofBe32, List.cons.injEq, and_true]
  refine ⟨ofNat_eq_of_mod ?_, ofNat_eq_of_mod ?_, ofNat_eq_of_mod ?_, ofNat_eq_of_mod ?_⟩ <;> omega

structure Format (E F : Type) where
  limit : UInt8 → Except E ℕ
  tooLarge : E
  decode : UInt8 → List UInt8 → Except E F

namespace Format

variable {E F : Type} (fmt : Format E F)

/-- The frame whose header names `kind` and `length`, once `body` holds its payload. The cap is
checked on the header alone, before the payload is awaited. -/
def takePayload (kind : UInt8) (length : ℕ) (body : List UInt8) : Except E (Option (F × List UInt8)) :=
  match fmt.limit kind with
  | .error e => .error e
  | .ok cap =>
    if cap < length then .error fmt.tooLarge
    else if body.length < length then .ok none
    else
      match fmt.decode kind (body.take length) with
      | .error e => .error e
      | .ok f => .ok (some (f, body.drop length))

def takeFrame : List UInt8 → Except E (Option (F × List UInt8))
  | kind :: a :: b :: c :: d :: body => fmt.takePayload kind (ofBe32 a b c d) body
  | _ => .ok none

inductive Next (E F : Type)
  | frame (f : F) (buffered : List UInt8) (reads : List (List UInt8))
  | failed (e : E)
  /-- A read of zero bytes: the peer has closed the stream. -/
  | closed
  /-- No read is left: the stream broke, or nothing arrives any more. -/
  | over

def next (buffered : List UInt8) : List (List UInt8) → Next E F
  | [] =>
    match fmt.takeFrame buffered with
    | .error e => .failed e
    | .ok (some (f, rest)) => .frame f rest []
    | .ok none => .over
  | chunk :: reads =>
    match fmt.takeFrame buffered with
    | .error e => .failed e
    | .ok (some (f, rest)) => .frame f rest (chunk :: reads)
    | .ok none => if chunk = [] then .closed else next (buffered ++ chunk) reads

def received : List (List UInt8) → List UInt8
  | [] => []
  | chunk :: reads => if chunk = [] then [] else chunk ++ received reads

variable {fmt}

variable {kind : UInt8} {rest more buffered : List UInt8} {f : F}

variable {payload body : List UInt8} {length : ℕ}

lemma takePayload_eq {cap : ℕ} (hlimit : fmt.limit kind = .ok cap) (hcap : payload.length ≤ cap)
    (hdecode : fmt.decode kind payload = .ok f) :
    fmt.takePayload kind payload.length (payload ++ rest) = .ok (some (f, rest)) := by
  simp only [takePayload, hlimit, not_lt.mpr hcap, if_false]
  rw [if_neg (by simp), List.take_left, List.drop_left, hdecode]

lemma takePayload_some (h : fmt.takePayload kind length body = .ok (some (f, rest))) :
    ∃ payload cap, body = payload ++ rest ∧ payload.length = length ∧ fmt.limit kind = .ok cap ∧
      length ≤ cap ∧ fmt.decode kind payload = .ok f := by
  rw [takePayload] at h
  cases hlimit : fmt.limit kind with
  | error e => simp [hlimit] at h
  | ok cap =>
    simp only [hlimit] at h
    split_ifs at h with hcap hlen
    · cases h
    cases hdecode : fmt.decode kind (body.take length) with
    | error e => simp [hdecode] at h
    | ok g =>
      simp only [hdecode, Except.ok.injEq, Option.some.injEq, Prod.mk.injEq] at h
      obtain ⟨rfl, rfl⟩ := h
      refine ⟨body.take length, cap, (List.take_append_drop _ _).symm, ?_, rfl, not_lt.mp hcap, hdecode⟩
      rw [List.length_take]
      exact min_eq_left (not_lt.mp hlen)

lemma takePayload_error {e : E} (h : fmt.takePayload kind length body = .error e) :
    fmt.takePayload kind length (body ++ more) = .error e := by
  rw [takePayload] at h ⊢
  cases hlimit : fmt.limit kind with
  | error e' => simpa [hlimit] using h
  | ok cap =>
    simp only [hlimit] at h ⊢
    by_cases hcap : cap < length
    · rwa [if_pos hcap] at h ⊢
    · rw [if_neg hcap] at h ⊢
      by_cases hlen : body.length < length
      · rw [if_pos hlen] at h
        cases h
      · rw [if_neg hlen] at h
        rw [if_neg (by rw [List.length_append]; omega),
          List.take_append_of_le_length (not_lt.mp hlen)]
        cases hdecode : fmt.decode kind (body.take length) with
        | error e' => simpa [hdecode] using h
        | ok g => simp [hdecode] at h

lemma takeFrame_frame {cap : ℕ}
    (hlimit : fmt.limit kind = .ok cap) (hcap : payload.length ≤ cap) (hsize : payload.length < 4294967296)
    (hdecode : fmt.decode kind payload = .ok f) :
    fmt.takeFrame (frame kind payload ++ rest) = .ok (some (f, rest)) := by
  simp only [frame, be32, List.cons_append, List.nil_append, takeFrame]
  rw [ofBe32_be32 hsize]
  exact takePayload_eq hlimit hcap hdecode

section

variable (h : fmt.takeFrame buffered = .ok (some (f, rest)))

include h

lemma takeFrame_some :
    ∃ kind payload cap, buffered = frame kind payload ++ rest ∧ fmt.limit kind = .ok cap ∧
      payload.length ≤ cap ∧ payload.length < 4294967296 ∧ fmt.decode kind payload = .ok f := by
  match buffered, h with
  | kind :: a :: b :: c :: d :: body, h =>
    obtain ⟨payload, cap, rfl, hlen, hlimit, hcap, hdecode⟩ := takePayload_some h
    refine ⟨kind, payload, cap, ?_, hlimit, hlen ▸ hcap, hlen ▸ ofBe32_lt a b c d, hdecode⟩
    rw [frame, hlen, be32_ofBe32]
    rfl

lemma takeFrame_some_length : rest.length < buffered.length := by
  obtain ⟨kind, payload, _, rfl, _⟩ := takeFrame_some h
  simp only [frame, List.cons_append, List.length_cons, List.length_append]
  omega

lemma takeFrame_append_some :
    fmt.takeFrame (buffered ++ more) = .ok (some (f, rest ++ more)) := by
  obtain ⟨kind, payload, cap, rfl, hlimit, hcap, hsize, hdecode⟩ := takeFrame_some h
  rw [List.append_assoc]
  exact takeFrame_frame hlimit hcap hsize hdecode

end

lemma takeFrame_append_error {e : E}
    (h : fmt.takeFrame buffered = .error e) : fmt.takeFrame (buffered ++ more) = .error e := by
  match buffered, h with
  | kind :: a :: b :: c :: d :: body, h => exact takePayload_error h

variable (fmt) in
lemma next_eq (buffered : List UInt8) (reads : List (List UInt8)) :
    match fmt.takeFrame (buffered ++ received reads) with
    | .error e => fmt.next buffered reads = .failed e
    | .ok (some (f, rest)) =>
      ∃ buffered' reads', fmt.next buffered reads = .frame f buffered' reads' ∧
        buffered' ++ received reads' = rest
    | .ok none => fmt.next buffered reads = .closed ∨ fmt.next buffered reads = .over := by
  induction reads generalizing buffered with
  | nil =>
    rw [received, List.append_nil, next]
    cases fmt.takeFrame buffered with
    | error e => rfl
    | ok taken =>
      cases taken with
      | none => exact .inr rfl
      | some taken => exact ⟨taken.2, [], rfl, List.append_nil _⟩
  | cons chunk reads ih =>
    rw [next]
    cases htake : fmt.takeFrame buffered with
    | error e => rw [takeFrame_append_error htake]
    | ok taken =>
      cases taken with
      | some taken =>
        rw [takeFrame_append_some htake]
        exact ⟨taken.2, chunk :: reads, rfl, rfl⟩
      | none =>
        by_cases hchunk : chunk = []
        · simp [received, hchunk, htake]
        · simp only [received, if_neg hchunk, ← List.append_assoc]
          exact ih (buffered ++ chunk)

lemma next_of_some {reads : List (List UInt8)}
    (h : fmt.takeFrame (buffered ++ received reads) = .ok (some (f, rest))) :
    ∃ buffered' reads', fmt.next buffered reads = .frame f buffered' reads' ∧
      buffered' ++ received reads' = rest := by
  have hnext := next_eq fmt buffered reads
  rwa [h] at hnext

lemma next_frame {buffered' : List UInt8} {reads reads' : List (List UInt8)}
    (h : fmt.next buffered reads = .frame f buffered' reads') :
    fmt.takeFrame (buffered ++ received reads) = .ok (some (f, buffered' ++ received reads')) := by
  have hnext := next_eq fmt buffered reads
  cases htake : fmt.takeFrame (buffered ++ received reads) with
  | error e =>
    rw [htake] at hnext
    simp [h] at hnext
  | ok taken =>
    cases taken with
    | none =>
      rw [htake] at hnext
      simp [h] at hnext
    | some taken =>
      rw [htake] at hnext
      obtain ⟨_, _, heq, hrest⟩ := hnext
      rw [h, Next.frame.injEq] at heq
      obtain ⟨rfl, rfl, rfl⟩ := heq
      rw [hrest]

lemma next_none {reads : List (List UInt8)} (h : fmt.takeFrame (buffered ++ received reads) = .ok none) :
    fmt.next buffered reads = if [] ∈ reads then .closed else .over := by
  induction reads generalizing buffered with
  | nil =>
    rw [received, List.append_nil] at h
    simp [next, h]
  | cons chunk reads ih =>
    cases htake : fmt.takeFrame buffered with
    | error e => simp [takeFrame_append_error htake] at h
    | ok taken =>
      cases taken with
      | some taken => simp [takeFrame_append_some htake] at h
      | none =>
        rw [next, htake]
        by_cases hchunk : chunk = []
        · simp [hchunk]
        · rw [received, if_neg hchunk, ← List.append_assoc] at h
          simp [hchunk, ih h, Ne.symm hchunk]

lemma next_frame_closed {buffered' : List UInt8} {reads reads' : List (List UInt8)}
    (h : fmt.next buffered reads = .frame f buffered' reads') : [] ∈ reads' ↔ [] ∈ reads := by
  induction reads generalizing buffered with
  | nil =>
    rw [next] at h
    split at h <;> cases h
    rfl
  | cons chunk reads ih =>
    rw [next] at h
    split at h
    · cases h
    · cases h
      rfl
    · split at h
      · cases h
      · next hchunk => simp [ih h, Ne.symm hchunk]

end Format

end CiaoHost.Lib.Framing
