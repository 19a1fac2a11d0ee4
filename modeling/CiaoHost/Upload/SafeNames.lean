import CiaoHost.Upload.Names
import CiaoHost.Lib.ShellWords

/-! What a client's file name is reduced to, and what a shell makes of a quoted path. -/

namespace CiaoHost.Upload

open Lib

lemma keptInFilename_of_alphanum {c : Char} (h : c.isAlphanum = true) : keptInFilename c = true := by
  simp [keptInFilename, h]

lemma kept_of_mem_reduceFilename {pending : Bool} {cs : List Char} {c : Char} (h : c ∈ reduceFilename pending cs) :
    keptInFilename c = true := by
  induction cs generalizing pending with
  | nil => cases h
  | cons d ds ih =>
    rw [reduceFilename] at h
    split at h
    · next hkept =>
      rcases List.mem_cons.mp h with rfl | h
      · exact hkept
      · exact ih h
    · split at h
      · exact ih h
      · rcases List.mem_cons.mp h with rfl | h
        · decide
        · exact ih h

lemma reduceFilename_of_kept {pending : Bool} {cs : List Char} (h : ∀ c ∈ cs, keptInFilename c = true) :
    reduceFilename pending cs = cs := by
  induction cs generalizing pending with
  | nil => rfl
  | cons c cs ih =>
    rw [reduceFilename, if_pos (h c List.mem_cons_self), ih fun d hd => h d (List.mem_cons_of_mem _ hd)]

lemma reduceFilename_append {pending : Bool} {stem kept : List Char} (h : ∀ c ∈ kept, keptInFilename c = true) :
    reduceFilename pending (stem ++ kept) = reduceFilename pending stem ++ kept := by
  induction stem generalizing pending with
  | nil => exact reduceFilename_of_kept h
  | cons c cs ih =>
    rw [List.cons_append, reduceFilename, reduceFilename]
    split
    · rw [ih, List.cons_append]
    · split
      · exact ih
      · rw [ih, List.cons_append]

def reduced (name : String) : List Char := (reduceFilename false name.toList).dropWhile (· = '.')

structure SafeName (cs : List Char) : Prop where
  nonempty : cs ≠ []
  short : cs.length ≤ maxSanitizedFilename
  kept : ∀ c ∈ cs, keptInFilename c = true
  visible : cs.head? ≠ some '.'

lemma reduced_visible (name : String) : (reduced name).head? ≠ some '.' := by
  intro h
  have hhead := List.head?_dropWhile_not (· = '.') (reduceFilename false name.toList)
  rw [← reduced, h] at hhead
  simp at hhead

lemma reduced_kept {name : String} {c : Char} (h : c ∈ reduced name) : keptInFilename c = true :=
  kept_of_mem_reduceFilename ((List.dropWhile_sublist _).subset h)

lemma preservedExtension_some {cs extension : List Char} (h : preservedExtension cs = some extension) :
    extension.length ≤ maxPreservedExtension ∧ ∀ c ∈ extension, c.isAlphanum = true := by
  rw [preservedExtension] at h
  split at h
  · dsimp only at h
    split at h
    · next hfound =>
      cases h
      exact ⟨hfound.2.1, List.all_eq_true.mp hfound.2.2⟩
    · cases h
  · cases h

lemma SafeName.of_cut {cs : List Char} {count : ℕ} (hlong : maxSanitizedFilename < cs.length)
    (hkept : ∀ c ∈ cs, keptInFilename c = true) (hvisible : cs.head? ≠ some '.') {rest : List Char}
    (hcount : 0 < count) (hlength : count + rest.length ≤ maxSanitizedFilename)
    (hrest : ∀ c ∈ rest, keptInFilename c = true) : SafeName (cs.take count ++ rest) := by
  obtain ⟨c, cs, rfl⟩ : ∃ d ds, cs = d :: ds := List.exists_cons_of_ne_nil (by rintro rfl; simp at hlong)
  obtain ⟨count, rfl⟩ : ∃ n, count = n + 1 := ⟨count - 1, by omega⟩
  refine ⟨by simp, ?_, fun d hd => ?_, hvisible⟩
  · rw [List.length_append, List.length_take]
    omega
  · rcases List.mem_append.mp hd with hd | hd
    · exact hkept d (List.mem_of_mem_take hd)
    · exact hrest d hd

lemma sanitizeFilename_safe (name : String) : SafeName (sanitizeFilename name).toList := by
  rw [sanitizeFilename, ← reduced]
  split
  · exact ⟨by decide, by decide, List.all_eq_true.mp (by decide), by decide⟩
  · next hsome =>
    split
    · next hlong =>
      cases hextension : preservedExtension (reduced name) with
      | none =>
        rw [String.toList_ofList, ← List.append_nil (List.take _ _)]
        exact .of_cut hlong (fun _ => reduced_kept) (reduced_visible name) (by decide) (by decide) nofun
      | some extension =>
        obtain ⟨hshort, halphanum⟩ := preservedExtension_some hextension
        have hmax : maxPreservedExtension + 2 ≤ maxSanitizedFilename := by decide
        rw [String.toList_ofList]
        refine .of_cut hlong (fun _ => reduced_kept) (reduced_visible name) (by omega) ?_ fun c hc => ?_
        · rw [List.length_cons]
          omega
        · rcases List.mem_cons.mp hc with rfl | hc
          · decide
          · exact keptInFilename_of_alphanum (halphanum c hc)
    · next hshort =>
      rw [String.toList_ofList]
      exact ⟨hsome, not_lt.mp hshort, fun _ => reduced_kept, reduced_visible name⟩

lemma SafeName.sanitized {name : String} (h : SafeName name.toList) : sanitizeFilename name = name := by
  have hsame : reduced name = name.toList := by
    rw [reduced, reduceFilename_of_kept h.kept]
    cases hcs : name.toList with
    | nil => rfl
    | cons c cs =>
      have hfirst := h.visible
      rw [hcs] at hfirst
      exact List.dropWhile_cons_of_neg (by simpa using hfirst)
  rw [sanitizeFilename, ← reduced, hsame]
  rw [if_neg h.nonempty, if_neg (not_lt.mpr h.short), String.ofList_toList]

/-- The name ends in an extension that is worth keeping. -/
structure HasExtension (name : String) (stem extension : List Char) : Prop where
  whole : name.toList = stem ++ '.' :: extension
  nonempty : extension ≠ []
  short : extension.length ≤ maxPreservedExtension
  alphanum : ∀ c ∈ extension, c.isAlphanum = true

variable {name : String} {stem extension : List Char}

section

variable (h : HasExtension name stem extension)

include h

lemma HasExtension.reduced (hlong : maxSanitizedFilename < (reduced name).length) :
    ∃ front, reduced name = front ++ '.' :: extension := by
  have hkept : ∀ c ∈ '.' :: extension, keptInFilename c = true := by
    intro c hc
    rcases List.mem_cons.mp hc with rfl | hc
    · decide
    · exact keptInFilename_of_alphanum (h.alphanum c hc)
  rw [Upload.reduced, h.whole, reduceFilename_append hkept, List.dropWhile_append] at hlong ⊢
  split at hlong
  · -- a name of nothing but dots before its extension is not long
    have hdropped := (List.dropWhile_sublist (· = '.') (l := '.' :: extension)).length_le
    have hshort := h.short
    have hmax : maxPreservedExtension + 1 ≤ maxSanitizedFilename := by decide
    rw [List.length_cons] at hdropped
    omega
  · next hsome =>
    rw [if_neg hsome]
    exact ⟨_, rfl⟩

lemma HasExtension.preserved (front : List Char) :
    preservedExtension (front ++ '.' :: extension) = some extension := by
  have hlast : ((front ++ '.' :: extension).reverse.takeWhile (· ≠ '.')).reverse = extension := by
    have hno : ∀ c ∈ extension.reverse, decide (c ≠ '.') = true := by
      intro c hc
      have halphanum := h.alphanum c (List.mem_reverse.mp hc)
      rw [decide_eq_true_eq]
      rintro rfl
      exact absurd halphanum (by decide)
    rw [List.reverse_append, List.reverse_cons, List.append_assoc, List.takeWhile_append_of_pos hno]
    simp
  rw [preservedExtension, if_pos (by simp)]
  dsimp only
  rw [hlast, if_pos ⟨h.nonempty, h.short, List.all_eq_true.mpr h.alphanum⟩]

lemma HasExtension.sanitized (hlong : maxSanitizedFilename < (Upload.reduced name).length) :
    '.' :: extension <:+ (sanitizeFilename name).toList := by
  obtain ⟨front, hfront⟩ := h.reduced hlong
  rw [sanitizeFilename, ← Upload.reduced, hfront]
  rw [hfront] at hlong
  rw [if_neg (by simp), if_pos hlong, h.preserved front, String.toList_ofList]
  exact List.suffix_append _ _

end

lemma quoted_steps (words : List (List Char)) (cs read : List Char) :
    (cs.flatMap fun c => if c = '\'' then "'\\''".toList else [c]).foldlM ShellWords.Reader.step
      ⟨.single, some read, words⟩ = some ⟨.single, some (read ++ cs), words⟩ := by
  induction cs generalizing read with
  | nil => simp
  | cons c cs ih =>
    rw [List.flatMap_cons, List.foldlM_append]
    have hone : (if c = '\'' then "'\\''".toList else [c]).foldlM ShellWords.Reader.step ⟨.single, some read, words⟩ =
        some ⟨.single, some (read ++ [c]), words⟩ := by
      split
      · next hquote =>
        subst hquote
        simp [ShellWords.Reader.step, ShellWords.Reader.push]
      · next hother => simp [ShellWords.Reader.step, ShellWords.Reader.push, hother]
    rw [hone]
    exact (ih (read ++ [c])).trans (by rw [List.append_assoc]; rfl)

lemma words_posixSingleQuote (text : String) : ShellWords.words (posixSingleQuote text) = some [text] := by
  have hopened : ShellWords.Reader.step ⟨.plain, none, []⟩ '\'' = some ⟨.single, some [], []⟩ := by
    decide
  have hclosed : ShellWords.Reader.step ⟨.single, some text.toList, []⟩ '\'' = some ⟨.plain, some text.toList, []⟩ := by
    simp [ShellWords.Reader.step]
  rw [ShellWords.words, posixSingleQuote, String.toList_ofList, List.cons_append, List.foldlM_cons, hopened]
  have hinside := quoted_steps [] text.toList []
  rw [List.nil_append] at hinside
  simp only [Option.bind_eq_bind, Option.bind_some, List.foldlM_append, hinside, List.foldlM_cons, hclosed]
  simp

theorem names_and_pasted_paths_safe (name text : String) :
    SafeName (sanitizeFilename name).toList ∧ sanitizeFilename (sanitizeFilename name) = sanitizeFilename name ∧
      (∀ stem extension, HasExtension name stem extension → maxSanitizedFilename < (reduced name).length →
        '.' :: extension <:+ (sanitizeFilename name).toList) ∧
      ShellWords.words (posixSingleQuote text) = some [text] :=
  ⟨sanitizeFilename_safe name, (sanitizeFilename_safe name).sanitized, fun _ _ h hlong => h.sanitized hlong,
    words_posixSingleQuote text⟩

def sampleStem : List Char := List.replicate 70 'a'

theorem names_and_pasted_paths_safe_long :
    ".pdf".toList <:+ (sanitizeFilename (String.ofList (sampleStem ++ ".pdf".toList))).toList :=
  (names_and_pasted_paths_safe (String.ofList (sampleStem ++ ".pdf".toList)) "").2.2.1 sampleStem "pdf".toList
    ⟨by decide +kernel, by decide, by decide, List.all_eq_true.mp (by decide)⟩ (by decide +kernel)

end CiaoHost.Upload
