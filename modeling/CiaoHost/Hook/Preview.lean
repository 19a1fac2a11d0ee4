import CiaoHost.Lib.Text

/-! The bounded previews of a hook's tool arguments and results. -/

namespace CiaoHost.Hook

open Lib.Text

def maxPreviewStringBytes : ℕ := 512
def generousPreviewStringBytes : ℕ := 2048

/-- A number is the numeral that is written for it. -/
inductive Json where
  | null
  | bool (b : Bool)
  | number (numeral : String)
  | string (text : String)
  | array (items : List Json)
  | object (fields : List (String × Json))

/-- How values are written as text; what was written is read back. -/
structure Codec where
  text : Json → String
  parse : String → Option Json
  parse_text : ∀ value, parse (text value) = some value

mutual

def capStrings (cap : ℕ) : Json → Bool → Json × Bool
  | .string text, clipped => if cap < byteLen text then (.string (cut text cap), true) else (.string text, clipped)
  | .array items, clipped => let (items, clipped) := capItems cap items clipped; (.array items, clipped)
  | .object fields, clipped => let (fields, clipped) := capFields cap fields clipped; (.object fields, clipped)
  | .null, clipped => (.null, clipped)
  | .bool b, clipped => (.bool b, clipped)
  | .number numeral, clipped => (.number numeral, clipped)

def capItems (cap : ℕ) : List Json → Bool → List Json × Bool
  | [], clipped => ([], clipped)
  | item :: rest, clipped =>
    let (item, clipped) := capStrings cap item clipped
    let (rest, clipped) := capItems cap rest clipped
    (item :: rest, clipped)

def capFields (cap : ℕ) : List (String × Json) → Bool → List (String × Json) × Bool
  | [], clipped => ([], clipped)
  | (key, field) :: rest, clipped =>
    let (field, clipped) := capStrings cap field clipped
    let (rest, clipped) := capFields cap rest clipped
    ((key, field) :: rest, clipped)

end

/-- The passes over the caps still to try. -/
def cappedPreview (codec : Codec) (value : Json) (limit : ℕ) : List ℕ → Option String × Bool
  | [] => (none, true)
  | cap :: caps =>
    let (capped, clipped) := capStrings cap value false
    if byteLen (codec.text capped) ≤ limit then (some (codec.text capped), clipped)
    else cappedPreview codec value limit caps

def boundedPreview (codec : Codec) (value : Option Json) (limit : ℕ) : Option String × Bool :=
  match value with
  | none => (none, false)
  | some value =>
    if byteLen (codec.text value) ≤ limit then (some (codec.text value), false)
    else cappedPreview codec value limit [generousPreviewStringBytes, maxPreviewStringBytes]

mutual

/-- The same value, with some strings replaced by prefixes of themselves. -/
inductive Shortened : Json → Json → Prop
  | same (value : Json) : Shortened value value
  | string (text text' : String) (hstart : text'.toList <+: text.toList) : Shortened (.string text) (.string text')
  | array (items items' : List Json) (hitems : ShortenedItems items items') : Shortened (.array items) (.array items')
  | object (fields fields' : List (String × Json)) (hfields : ShortenedFields fields fields') :
      Shortened (.object fields) (.object fields')

inductive ShortenedItems : List Json → List Json → Prop
  | nil : ShortenedItems [] []
  | cons (item item' : Json) (rest rest' : List Json) (hitem : Shortened item item')
      (hrest : ShortenedItems rest rest') : ShortenedItems (item :: rest) (item' :: rest')

inductive ShortenedFields : List (String × Json) → List (String × Json) → Prop
  | nil : ShortenedFields [] []
  | cons (key : String) (field field' : Json) (rest rest' : List (String × Json)) (hfield : Shortened field field')
      (hrest : ShortenedFields rest rest') : ShortenedFields ((key, field) :: rest) ((key, field') :: rest')

end

-- the flag is raised exactly when the value has changed
mutual

lemma capStrings_spec (cap : ℕ) : ∀ (value : Json) (clipped : Bool), Shortened value (capStrings cap value clipped).1 ∧
    ((capStrings cap value clipped).2 = true ↔ clipped = true ∨ (capStrings cap value clipped).1 ≠ value)
  | .null, _ | .bool _, _ | .number _, _ => ⟨.same _, by simp [capStrings]⟩
  | .string text, clipped => by
    rw [capStrings]
    split
    · next hlong =>
      refine ⟨.string _ _ ?_, ?_⟩
      · rw [cut, String.toList_ofList]
        exact takeWithin_isPrefix _ _
      · have hne : cut text cap ≠ text := fun heq => hlong.not_ge (heq ▸ byteLen_cut text cap)
        simp [hne]
    · exact ⟨.same _, by simp⟩
  | .array items, clipped => by
    obtain ⟨hitems, hflag⟩ := capItems_spec cap items clipped
    exact ⟨.array _ _ hitems, by simpa [capStrings] using hflag⟩
  | .object fields, clipped => by
    obtain ⟨hfields, hflag⟩ := capFields_spec cap fields clipped
    exact ⟨.object _ _ hfields, by simpa [capStrings] using hflag⟩

lemma capItems_spec (cap : ℕ) : ∀ (items : List Json) (clipped : Bool), ShortenedItems items (capItems cap items clipped).1 ∧
    ((capItems cap items clipped).2 = true ↔ clipped = true ∨ (capItems cap items clipped).1 ≠ items)
  | [], _ => ⟨.nil, by simp [capItems]⟩
  | item :: rest, clipped => by
    obtain ⟨hitem, hfirst⟩ := capStrings_spec cap item clipped
    obtain ⟨hrest, hlater⟩ := capItems_spec cap rest (capStrings cap item clipped).2
    refine ⟨.cons _ _ _ _ hitem hrest, ?_⟩
    change (capItems cap rest (capStrings cap item clipped).2).2 = true ↔ clipped = true ∨ _ :: _ ≠ _
    rw [hlater, hfirst, or_assoc, ← not_and_or, ← List.cons_eq_cons]

lemma capFields_spec (cap : ℕ) : ∀ (fields : List (String × Json)) (clipped : Bool),
    ShortenedFields fields (capFields cap fields clipped).1 ∧
      ((capFields cap fields clipped).2 = true ↔ clipped = true ∨ (capFields cap fields clipped).1 ≠ fields)
  | [], _ => ⟨.nil, by simp [capFields]⟩
  | (key, field) :: rest, clipped => by
    obtain ⟨hfield, hfirst⟩ := capStrings_spec cap field clipped
    obtain ⟨hrest, hlater⟩ := capFields_spec cap rest (capStrings cap field clipped).2
    refine ⟨.cons _ _ _ _ _ hfield hrest, ?_⟩
    change (capFields cap rest (capStrings cap field clipped).2).2 = true ↔ clipped = true ∨ (_, _) :: _ ≠ _
    rw [hlater, hfirst, or_assoc, ← not_and_or, Ne, List.cons.injEq, Prod.mk.injEq, eq_self, true_and]

end

variable {codec : Codec} {value : Json} {limit : ℕ}

/-- What the preview of a value says of it: the text fits and parses to a shortening, and the flag is lowered
exactly when that is the value itself. -/
structure Shows (codec : Codec) (value : Json) (limit : ℕ) (text : String) (clipped : Bool) : Prop where
  fits : byteLen text ≤ limit
  shortened : ∃ shown, codec.parse text = some shown ∧ Shortened value shown
  flag : clipped = false ↔ codec.parse text = some value

lemma cappedPreview_cases (caps : List ℕ) :
    (∃ text, (cappedPreview codec value limit caps).1 = some text ∧
        Shows codec value limit text (cappedPreview codec value limit caps).2) ∨
      cappedPreview codec value limit caps = (none, true) ∧
        ∀ cap ∈ caps, limit < byteLen (codec.text (capStrings cap value false).1) := by
  induction caps with
  | nil => exact .inr ⟨rfl, nofun⟩
  | cons cap caps ih =>
    rw [cappedPreview]
    dsimp only
    split
    · next hfits =>
      obtain ⟨hshortened, hflag⟩ := capStrings_spec cap value false
      refine .inl ⟨_, rfl, hfits, ⟨_, codec.parse_text _, hshortened⟩, ?_⟩
      rw [codec.parse_text, Option.some.injEq, ← Bool.not_eq_true, hflag]
      simp
    · next hlong =>
      refine ih.imp_right fun ⟨hnone, hcaps⟩ => ⟨hnone, ?_⟩
      intro cap' hcap'
      rcases List.mem_cons.mp hcap' with rfl | hcap'
      · exact not_le.mp hlong
      · exact hcaps cap' hcap'

end CiaoHost.Hook
