/-
# Cutting a text, in the library's words

`pieces` is splitting at every separator, and `firstCut` is the longest stretch without the
separator together with what stands behind it.  So the library's facts on `splitOn`, `takeWhile`
and `dropWhile` hold of them.
-/
import Mathlib
import PageCompanion.Text.Pieces

namespace PageCompanion.Text

lemma pieces_eq_splitOn (sep : Char) (cs : List Char) : pieces sep cs = cs.splitOn sep := by
  induction cs with
  | nil => rfl
  | cons c cs ih =>
    rw [List.splitOn_cons_eq_if_modifyHead, pieces]
    by_cases hc : c = sep
    · simp [hc, ih]
    · -- the character belongs to the first piece of the rest
      rw [if_neg hc, if_neg (by simpa using hc), ← ih]
      cases hp : pieces sep cs with
      | nil => exact absurd hp (pieces_ne_nil sep cs)
      | cons p ps => rfl

/-- Cutting a text undoes joining pieces with the separator between them. -/
lemma pieces_intercalate {sep : Char} {ps : List (List Char)} (hps : ps ≠ [])
    (h : ∀ p ∈ ps, sep ∉ p) : pieces sep ([sep].intercalate ps) = ps := by
  rw [pieces_eq_splitOn, List.splitOn_intercalate sep h hps]

lemma firstCut_fst (sep : Char) (cs : List Char) :
    (firstCut sep cs).1 = cs.takeWhile (· != sep) := by
  induction cs with
  | nil => rfl
  | cons c cs ih =>
    by_cases hc : c = sep
    · simp [firstCut, hc]
    · simp [firstCut_cons_of_ne cs hc, hc, ih]

lemma firstCut_snd (sep : Char) (cs : List Char) :
    (firstCut sep cs).2 = if sep ∈ cs then some (cs.dropWhile (· != sep)).tail else none := by
  induction cs with
  | nil => rfl
  | cons c cs ih =>
    by_cases hc : c = sep
    · simp [firstCut, hc]
    · simp [firstCut_cons_of_ne cs hc, hc, ih, Ne.symm hc]

end PageCompanion.Text
