/-
# What is left of a text between its blanks

`strip` undoes every padding: `strip_pad` says that blanks around a text do not matter, and
`strip_eq_self` that a text without a blank at either end is left as it is.  Nothing is left
exactly of a text that has blanks only.
-/
import Mathlib
import PageCompanion.Text.Blank

namespace PageCompanion.Text

/-- A text of blanks only. -/
def Blank (cs : List Char) : Prop := ∀ c ∈ cs, isBlank c = true

/-- A text with no blank at either end. -/
def Trimmed (cs : List Char) : Prop :=
  (∀ c ∈ cs.head?, isBlank c = false) ∧ ∀ c ∈ cs.getLast?, isBlank c = false

@[simp] lemma blank_nil : Blank [] := by
  simp [Blank]

@[simp] lemma trimmed_nil : Trimmed [] := by
  simp [Trimmed]

lemma Blank.not_mem {cs : List Char} (h : Blank cs) {c : Char} (hc : isBlank c = false) :
    c ∉ cs := by
  intro hmem
  rw [h c hmem] at hc
  exact absurd hc (by simp)

/-! ## Cutting at one end -/

lemma stripLeft_eq_nil_iff {cs : List Char} : stripLeft cs = [] ↔ Blank cs := by
  simp [stripLeft, Blank, List.dropWhile_eq_nil_iff]

lemma stripRight_eq_nil_iff {cs : List Char} : stripRight cs = [] ↔ Blank cs := by
  rw [stripRight_eq_reverse, List.reverse_eq_nil_iff, stripLeft_eq_nil_iff]
  simp [Blank]

/-- What is behind the first character that is not blank does not matter at the left end. -/
lemma stripLeft_append {cs : List Char} (h : ¬ Blank cs) (ds : List Char) :
    stripLeft (cs ++ ds) = stripLeft cs ++ ds := by
  have hne : stripLeft cs ≠ [] := fun h' => h (stripLeft_eq_nil_iff.mp h')
  rw [stripLeft, List.dropWhile_append, if_neg (by simpa [stripLeft] using hne)]
  rfl

lemma stripLeft_eq_self {cs : List Char} (h : ∀ c ∈ cs.head?, isBlank c = false) :
    stripLeft cs = cs := by
  cases cs with
  | nil => rfl
  | cons c cs => exact stripLeft_cons_of_not_blank cs (h c (by simp))

lemma stripRight_eq_self {cs : List Char} (h : ∀ c ∈ cs.getLast?, isBlank c = false) :
    stripRight cs = cs := by
  rw [stripRight_eq_reverse, stripLeft_eq_self (by simpa using h), List.reverse_reverse]

/-- What is cut off at the right end is blank. -/
lemma exists_stripRight_append (cs : List Char) : ∃ ws, Blank ws ∧ stripRight cs ++ ws = cs := by
  refine ⟨(cs.reverse.takeWhile isBlank).reverse, ?_, ?_⟩
  · intro c hc
    exact List.mem_takeWhile_imp (List.mem_reverse.mp hc)
  · rw [stripRight, ← List.reverse_append, List.takeWhile_append_dropWhile, List.reverse_reverse]

/-! ## Cutting at both ends -/

lemma strip_eq_nil_iff {cs : List Char} : strip cs = [] ↔ Blank cs := by
  rw [strip, stripRight_eq_nil_iff]
  constructor
  · intro h
    by_contra hcs
    -- the first character of what is left would be blank
    have hne : stripLeft cs ≠ [] := fun h' => hcs (stripLeft_eq_nil_iff.mp h')
    have hidem := stripLeft_stripLeft cs
    rw [stripLeft_eq_nil_iff.mpr h] at hidem
    exact hne hidem.symm
  · intro h
    rw [stripLeft_eq_nil_iff.mpr h]
    exact blank_nil

lemma strip_append_of_blank {ws : List Char} (cs : List Char) (h : Blank ws) :
    strip (cs ++ ws) = strip cs := by
  by_cases hcs : Blank cs
  · -- nothing is left of blanks, with or without more of them
    have hall : Blank (cs ++ ws) := by
      intro c hc
      exact (List.mem_append.mp hc).elim (hcs c) (h c)
    rw [strip_eq_nil_iff.mpr hall, strip_eq_nil_iff.mpr hcs]
  · rw [strip, stripLeft_append hcs, stripRight_append_of_blank _ h, strip]

/-- Blanks around a text do not matter. -/
lemma strip_pad {before after : List Char} (hb : Blank before) (ha : Blank after)
    (cs : List Char) : strip (before ++ cs ++ after) = strip cs := by
  rw [strip_append_of_blank _ ha, strip, stripLeft_append_of_blank _ hb, strip]

/-- A text without a blank at either end is left as it is. -/
lemma strip_eq_self {cs : List Char} (h : Trimmed cs) : strip cs = cs := by
  rw [strip, stripLeft_eq_self h.1, stripRight_eq_self h.2]

/-- What is left of a text stands in it. -/
lemma mem_of_mem_strip {c : Char} {cs : List Char} (h : c ∈ strip cs) : c ∈ cs := by
  rw [strip, stripRight, List.mem_reverse] at h
  have hleft : c ∈ stripLeft cs := List.mem_reverse.mp (List.dropWhile_subset _ h)
  exact List.dropWhile_subset _ hleft

/-- What is left has no blank at either end. -/
lemma trimmed_strip (cs : List Char) : Trimmed (strip cs) := by
  have hfirst : ∀ c ∈ (stripLeft cs).head?, isBlank c = false := by
    intro c hc
    have hdrop := List.head?_dropWhile_not isBlank cs
    rw [stripLeft, Option.mem_def] at hc
    rw [hc] at hdrop
    simpa using hdrop
  constructor
  · intro c hc
    -- the first character is not cut off at the right end unless all are
    obtain ⟨ws, -, hws⟩ := exists_stripRight_append (stripLeft cs)
    refine hfirst c ?_
    rw [strip, Option.mem_def] at hc
    rw [← hws, List.head?_append, hc]
    rfl
  · intro c hc
    have hdrop := List.head?_dropWhile_not isBlank (stripLeft cs).reverse
    rw [strip, stripRight, List.getLast?_reverse, Option.mem_def] at hc
    rw [hc] at hdrop
    simpa using hdrop

end PageCompanion.Text
