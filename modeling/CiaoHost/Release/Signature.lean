import CiaoHost.Lib.Framing
import CiaoHost.Lib.Text

/-! The SSH signature of a release archive (release_signature.rs): what a text must decode to for it to
verify, and what the signed message says. -/

namespace CiaoHost.Release

open Lib.Framing Lib.Text

inductive HashAlgorithm where
  | sha256 | sha512
  deriving DecidableEq, Repr

def ascii (text : String) : List UInt8 := text.toList.map Char.toUInt8

def HashAlgorithm.name : HashAlgorithm → List UInt8
  | .sha256 => ascii "sha256"
  | .sha512 => ascii "sha512"

/-- The primitives of the crates: decoders, digests, and whether a key that is one verifies. -/
structure Primitives where
  fromUtf8 : List UInt8 → Option String
  base64 : List Char → Option (List UInt8)
  digest : HashAlgorithm → List UInt8 → List UInt8
  digest_length : ∀ hash data, (digest hash data).length ≤ 64
  verify : List UInt8 → List UInt8 → List UInt8 → Bool

def signingNamespace : List UInt8 := ascii "ciao-release"
def magic : List UInt8 := ascii "SSHSIG"
def keyType : List UInt8 := ascii "ssh-ed25519"
def armorBegin : List Char := "-----BEGIN SSH SIGNATURE-----".toList
def armorEnd : List Char := "-----END SSH SIGNATURE-----".toList

def putString (field : List UInt8) : List UInt8 := be32 field.length ++ field

namespace WireReader

def take (wire : List UInt8) (count : ℕ) : Option (List UInt8 × List UInt8) :=
  if wire.length < count then none else some (wire.splitAt count)

def u32 (wire : List UInt8) : Option (ℕ × List UInt8) :=
  match take wire 4 with
  | some ([a, b, c, d], rest) => some (ofBe32 a b c d, rest)
  | _ => none

def string (wire : List UInt8) : Option (List UInt8 × List UInt8) := do
  let (length, rest) ← u32 wire
  take rest length

end WireReader

def ed25519Value (size : ℕ) (wire : List UInt8) : Option (List UInt8) := do
  let (kind, rest) ← WireReader.string wire
  if kind ≠ keyType then none
  else
    let (value, rest) ← WireReader.string rest
    if value.length = size ∧ rest = [] then some value else none

def ed25519PublicKey (wire : List UInt8) : Option (List UInt8) := ed25519Value 32 wire

def ed25519Signature (wire : List UInt8) : Option (List UInt8) := ed25519Value 64 wire

def splitWhitespace (text : List Char) : List (List Char) := (text.splitOnP isWhiteSpace).filter (· ≠ [])

variable (p : Primitives)

def dearmor (armored : List UInt8) : Option (List UInt8) := do
  let text ← p.fromUtf8 armored
  let text := trim text
  if armorBegin <+: text then
    let body := text.drop armorBegin.length
    if armorEnd <:+ body then p.base64 (splitWhitespace (body.take (body.length - armorEnd.length))).flatten
    else none
  else none

def publicKeyFromLine (line : String) : Option (List UInt8) :=
  match splitWhitespace line.toList with
  | kind :: value :: _ => if kind = "ssh-ed25519".toList then (p.base64 value).bind ed25519PublicKey else none
  | _ => none

def signedMessage (spaceName reserved : List UInt8) (hash : HashAlgorithm) (data : List UInt8) : List UInt8 :=
  magic ++ putString spaceName ++ putString reserved ++ putString hash.name ++ putString (p.digest hash data)

def hashOf (name : List UInt8) : Option HashAlgorithm :=
  if name = ascii "sha512" then some .sha512
  else if name = ascii "sha256" then some .sha256
  else none

/-- The fields of a signature blob, if it is read to its end. -/
def readBlob (blob : List UInt8) : Option (List UInt8 × List UInt8 × List UInt8 × List UInt8 × List UInt8) := do
  let (head, rest) ← WireReader.take blob magic.length
  let (version, rest) ← WireReader.u32 rest
  if head ≠ magic ∨ version ≠ 1 then none
  else
    let (keyWire, rest) ← WireReader.string rest
    let key ← ed25519PublicKey keyWire
    let (spaceName, rest) ← WireReader.string rest
    let (reserved, rest) ← WireReader.string rest
    let (hashName, rest) ← WireReader.string rest
    let (signatureWire, rest) ← WireReader.string rest
    let signature ← ed25519Signature signatureWire
    if rest ≠ [] then none else some (key, spaceName, reserved, hashName, signature)

def verifySignedBy (data armored : List UInt8) (trustedKeyLine : String) : Except String Unit :=
  let refused := "the release signature does not verify against Ciao's release key"
  match publicKeyFromLine p trustedKeyLine with
  | none => .error "the embedded release signing key is malformed"
  | some trusted =>
    match (dearmor p armored).bind readBlob with
    | none => .error refused
    | some (key, spaceName, reserved, hashName, signature) =>
      if key ≠ trusted ∨ spaceName ≠ signingNamespace then .error refused
      else match hashOf hashName with
        | none => .error refused
        | some hash =>
          if p.verify key (signedMessage p spaceName reserved hash data) signature then .ok () else .error refused

/-- The encoding of a signature of version 1. -/
def sshsig (key spaceName reserved hashName signature : List UInt8) : List UInt8 :=
  magic ++ (be32 1 ++ (putString (putString keyType ++ putString key) ++ (putString spaceName ++ (putString reserved ++
    (putString hashName ++ putString (putString keyType ++ putString signature))))))

variable {p} {wire rest field : List UInt8}

lemma take_some {count : ℕ} {head : List UInt8} (h : WireReader.take wire count = some (head, rest)) :
    wire = head ++ rest ∧ head.length = count := by
  rw [WireReader.take] at h
  split at h
  · cases h
  · next hle =>
    rw [List.splitAt_eq, Option.some.injEq, Prod.mk.injEq] at h
    obtain ⟨rfl, rfl⟩ := h
    exact ⟨(List.take_append_drop _ _).symm, List.length_take_of_le (not_lt.mp hle)⟩

lemma u32_some {n : ℕ} (h : WireReader.u32 wire = some (n, rest)) : wire = be32 n ++ rest ∧ n < 4294967296 := by
  rw [WireReader.u32] at h
  split at h
  · next a b c d rest' htake =>
    cases h
    rw [be32_ofBe32]
    exact ⟨(take_some htake).1, ofBe32_lt a b c d⟩
  · cases h

lemma string_some (h : WireReader.string wire = some (field, rest)) :
    wire = putString field ++ rest ∧ field.length < 4294967296 := by
  obtain ⟨⟨length, wire'⟩, hlength, htake⟩ := Option.bind_eq_some_iff.mp h
  obtain ⟨rfl, rfl⟩ := take_some htake
  obtain ⟨rfl, hlt⟩ := u32_some hlength
  exact ⟨(List.append_assoc _ _ _).symm, hlt⟩

lemma take_append (head rest : List UInt8) : WireReader.take (head ++ rest) head.length = some (head, rest) := by
  rw [WireReader.take, if_neg (by simp), List.splitAt_eq, List.take_left, List.drop_left]

lemma u32_be32 {n : ℕ} (h : n < 4294967296) (rest : List UInt8) : WireReader.u32 (be32 n ++ rest) = some (n, rest) := by
  have htake : WireReader.take (be32 n ++ rest) 4 = some (be32 n, rest) := take_append (be32 n) rest
  rw [WireReader.u32, htake, be32]
  dsimp only
  rw [ofBe32_be32 h]

lemma string_putString (h : field.length < 4294967296) (rest : List UInt8) :
    WireReader.string (putString field ++ rest) = some (field, rest) := by
  rw [WireReader.string, putString, List.append_assoc, u32_be32 h]
  exact take_append field rest

lemma putString_inj {field' rest' : List UInt8} (h : field.length < 4294967296) (h' : field'.length < 4294967296)
    (heq : putString field ++ rest = putString field' ++ rest') : field = field' ∧ rest = rest' := by
  have hread := congrArg WireReader.string heq
  rw [string_putString h, string_putString h'] at hread
  simpa using hread

lemma ed25519Value_iff {size : ℕ} (hsize : size < 4294967296) {value : List UInt8} : ed25519Value size wire = some value ↔
    wire = putString keyType ++ putString value ∧ value.length = size := by
  constructor
  · intro hread
    obtain ⟨⟨kind, rest⟩, hkind, hread⟩ := Option.bind_eq_some_iff.mp hread
    dsimp only at hread
    split at hread
    · cases hread
    · next hsame =>
      obtain ⟨⟨value', rest'⟩, hvalue, hread⟩ := Option.bind_eq_some_iff.mp hread
      dsimp only at hread
      split at hread
      · next hend =>
        cases hread
        rw [(string_some hkind).1, (string_some hvalue).1, not_not.mp hsame, hend.2, List.append_nil]
        exact ⟨rfl, hend.1⟩
      · cases hread
  · rintro ⟨rfl, rfl⟩
    have hread := string_putString hsize []
    rw [List.append_nil] at hread
    rw [ed25519Value, string_putString (by decide)]
    simp [hread]

lemma readBlob_iff {blob key spaceName reserved hashName signature : List UInt8} :
    readBlob blob = some (key, spaceName, reserved, hashName, signature) ↔
      blob = sshsig key spaceName reserved hashName signature ∧ key.length = 32 ∧ signature.length = 64 ∧
        spaceName.length < 4294967296 ∧ reserved.length < 4294967296 ∧ hashName.length < 4294967296 := by
  constructor
  · intro h
    obtain ⟨⟨head, rest⟩, hhead, h⟩ := Option.bind_eq_some_iff.mp h
    obtain ⟨⟨version, rest'⟩, hversion, h⟩ := Option.bind_eq_some_iff.mp h
    dsimp only at h
    split at h
    · cases h
    · next hopening =>
      obtain ⟨hmagic, hone⟩ := not_or.mp hopening
      obtain ⟨⟨keyWire, afterKey⟩, hkeyWire, h⟩ := Option.bind_eq_some_iff.mp h
      obtain ⟨key', hkey, h⟩ := Option.bind_eq_some_iff.mp h
      obtain ⟨⟨spaceName', afterSpace⟩, hspace, h⟩ := Option.bind_eq_some_iff.mp h
      obtain ⟨⟨reserved', afterReserved⟩, hreserved, h⟩ := Option.bind_eq_some_iff.mp h
      obtain ⟨⟨hashName', afterHash⟩, hhash, h⟩ := Option.bind_eq_some_iff.mp h
      obtain ⟨⟨signatureWire, afterSignature⟩, hsignatureWire, h⟩ := Option.bind_eq_some_iff.mp h
      obtain ⟨signature', hsignature, h⟩ := Option.bind_eq_some_iff.mp h
      dsimp only at h
      split at h
      · cases h
      · next hend =>
        cases h
        obtain ⟨rfl, hkeyLength⟩ := (ed25519Value_iff (by decide)).mp hkey
        obtain ⟨rfl, hsignatureLength⟩ := (ed25519Value_iff (by decide)).mp hsignature
        dsimp only at hspace hreserved hhash hsignatureWire
        obtain ⟨hspace, hspaceLength⟩ := string_some hspace
        obtain ⟨hreserved, hreservedLength⟩ := string_some hreserved
        obtain ⟨hhash, hhashLength⟩ := string_some hhash
        refine ⟨?_, hkeyLength, hsignatureLength, hspaceLength, hreservedLength, hhashLength⟩
        rw [(take_some hhead).1, not_not.mp hmagic, (u32_some hversion).1, not_not.mp hone, (string_some hkeyWire).1,
          hspace, hreserved, hhash, (string_some hsignatureWire).1, not_not.mp hend, List.append_nil, sshsig]
  · rintro ⟨rfl, hkey, hsignature, hspace, hreserved, hhash⟩
    have hkeyRead := (ed25519Value_iff (by decide)).mpr ⟨rfl, hkey⟩
    have hsignatureRead := (ed25519Value_iff (by decide)).mpr ⟨rfl, hsignature⟩
    have hwire : ∀ value : List UInt8, value.length ≤ 64 →
        (putString keyType ++ putString value).length < 4294967296 := by
      intro value hvalue
      simp only [putString, be32, List.length_append, List.length_cons, List.length_nil, show keyType.length = 11 from rfl]
      omega
    have hlast := string_putString (hwire signature (by omega)) []
    rw [List.append_nil] at hlast
    rw [readBlob, sshsig]
    refine Option.bind_eq_some_iff.mpr ⟨_, take_append _ _, ?_⟩
    refine Option.bind_eq_some_iff.mpr ⟨_, u32_be32 (by decide) _, ?_⟩
    refine (if_neg (by simp)).trans ?_
    refine Option.bind_eq_some_iff.mpr ⟨_, string_putString (hwire key (by omega)) _, ?_⟩
    refine Option.bind_eq_some_iff.mpr ⟨_, hkeyRead, ?_⟩
    refine Option.bind_eq_some_iff.mpr ⟨_, string_putString hspace _, ?_⟩
    refine Option.bind_eq_some_iff.mpr ⟨_, string_putString hreserved _, ?_⟩
    refine Option.bind_eq_some_iff.mpr ⟨_, string_putString hhash _, ?_⟩
    refine Option.bind_eq_some_iff.mpr ⟨_, hlast, ?_⟩
    refine Option.bind_eq_some_iff.mpr ⟨_, hsignatureRead, ?_⟩
    exact if_neg (by simp)

lemma hashOf_iff {name : List UInt8} {hash : HashAlgorithm} : hashOf name = some hash ↔ name = hash.name := by
  rw [hashOf]
  constructor
  · intro h
    split_ifs at h with h512 h256
    · cases h
      exact h512
    · cases h
      exact h256
  · rintro rfl
    cases hash <;> decide

lemma verifySignedBy_iff {data armored : List UInt8} {line : String} : verifySignedBy p data armored line = .ok () ↔
    ∃ key reserved hash signature, publicKeyFromLine p line = some key ∧
      dearmor p armored = some (sshsig key signingNamespace reserved (HashAlgorithm.name hash) signature) ∧
      key.length = 32 ∧ signature.length = 64 ∧ reserved.length < 4294967296 ∧
      p.verify key (signedMessage p signingNamespace reserved hash data) signature := by
  constructor
  · intro h
    simp only [verifySignedBy] at h
    split at h
    · cases h
    · next trusted htrusted =>
      split at h
      · cases h
      · next key spaceName reserved hashName signature hblob =>
        obtain ⟨blob, hdearmor, hread⟩ := Option.bind_eq_some_iff.mp hblob
        obtain ⟨rfl, hkey, hsignature, -, hreserved, -⟩ := readBlob_iff.mp hread
        split at h
        · cases h
        · next hsame =>
          obtain ⟨hkeys, hspace⟩ := not_or.mp hsame
          split at h
          · cases h
          · next hash hhash =>
            split at h
            · next hverified =>
              rw [not_not] at hkeys hspace
              subst hkeys hspace
              rw [hashOf_iff] at hhash
              subst hhash
              exact ⟨key, reserved, hash, signature, htrusted, hdearmor, hkey, hsignature, hreserved, hverified⟩
            · cases h
  · rintro ⟨key, reserved, hash, signature, hkey, hdearmor, hkeyLength, hsignature, hreserved, hverified⟩
    have hread := readBlob_iff.mpr ⟨rfl, hkeyLength, hsignature, (by decide : signingNamespace.length < 4294967296),
      hreserved, (by cases hash <;> decide : (HashAlgorithm.name hash).length < 4294967296)⟩
    have hhash : hashOf hash.name = some hash := hashOf_iff.mpr rfl
    have hblob : (dearmor p armored).bind readBlob = _ := Option.bind_eq_some_iff.mpr ⟨_, hdearmor, hread⟩
    rw [verifySignedBy, hkey]
    dsimp only
    rw [hblob]
    dsimp only
    rw [if_neg (by simp), hhash]
    exact if_pos hverified

end CiaoHost.Release
