/-
# Cutting a text at a separator

A cookie string is cut at every `;`, a segment of it at the first `=`, and a selector list at
every `,`.  `pieces` is the first kind of cut and `firstCut` the second.  A text with `n`
separators has `n + 1` pieces, so there is always at least one, and cutting two texts joined
by the separator gives the pieces of both (`pieces_append_sep`).
-/
namespace PageCompanion.Text

/-- The stretches of a text between the occurrences of `sep`, in order. -/
def pieces (sep : Char) : List Char → List (List Char)
  | [] => [[]]
  | c :: cs =>
    if c = sep then [] :: pieces sep cs
    else
      match pieces sep cs with
      | [] => [[c]]
      | p :: ps => (c :: p) :: ps

/-- The text before the first `sep`, and the text after it when there is one. -/
def firstCut (sep : Char) : List Char → List Char × Option (List Char)
  | [] => ([], none)
  | c :: cs =>
    if c = sep then ([], some cs)
    else
      let (before, after) := firstCut sep cs
      (c :: before, after)

/-! ## The pieces of a text -/

@[simp] theorem pieces_nil (sep : Char) : pieces sep [] = [[]] := rfl

theorem pieces_ne_nil (sep : Char) (cs : List Char) : pieces sep cs ≠ [] := by
  cases cs with
  | nil => simp
  | cons c cs =>
    by_cases h : c = sep
    · simp [pieces, h]
    · rw [pieces, if_neg h]
      split <;> simp

@[simp] theorem pieces_cons_sep (sep : Char) (cs : List Char) :
    pieces sep (sep :: cs) = [] :: pieces sep cs := by
  simp [pieces]

/-- A text without the separator is its own only piece. -/
theorem pieces_of_not_mem {sep : Char} {cs : List Char} (h : sep ∉ cs) :
    pieces sep cs = [cs] := by
  induction cs with
  | nil => rfl
  | cons c cs ih =>
    have hc : c ≠ sep := fun hc => h (by simp [hc])
    rw [pieces, if_neg hc, ih fun hs => h (by simp [hs])]

/-- Cutting two texts that the separator joins gives the pieces of the one and of the other. -/
theorem pieces_append_sep (sep : Char) (a b : List Char) :
    pieces sep (a ++ sep :: b) = pieces sep a ++ pieces sep b := by
  induction a with
  | nil => simp
  | cons c a ih =>
    by_cases hc : c = sep
    · subst hc; simp [ih]
    · rw [List.cons_append, pieces, if_neg hc, ih, pieces, if_neg hc]
      cases hp : pieces sep a with
      | nil => exact absurd hp (pieces_ne_nil sep a)
      | cons p ps => simp

/-- No piece holds the separator. -/
theorem not_mem_of_mem_pieces {sep : Char} {cs p : List Char} (h : p ∈ pieces sep cs) :
    sep ∉ p := by
  induction cs generalizing p with
  | nil => simp_all
  | cons c cs ih =>
    by_cases hc : c = sep
    · subst hc
      rcases List.mem_cons.mp (by simpa using h) with rfl | h
      · simp
      · exact ih h
    · rw [pieces, if_neg hc] at h
      cases hp : pieces sep cs with
      | nil => exact absurd hp (pieces_ne_nil sep cs)
      | cons q qs =>
        rw [hp] at h ih
        rcases List.mem_cons.mp h with rfl | h
        · intro hs
          rcases List.mem_cons.mp hs with rfl | hs
          · exact hc rfl
          · exact ih (by simp) hs
        · exact ih (by simp [h])

/-! ## The first cut -/

@[simp] theorem firstCut_nil (sep : Char) : firstCut sep [] = ([], none) := rfl

theorem firstCut_cons_of_ne {sep c : Char} (cs : List Char) (h : c ≠ sep) :
    firstCut sep (c :: cs) = (c :: (firstCut sep cs).1, (firstCut sep cs).2) := by
  simp [firstCut, h]

/-- A text without the separator is not cut. -/
theorem firstCut_of_not_mem {sep : Char} {cs : List Char} (h : sep ∉ cs) :
    firstCut sep cs = (cs, none) := by
  induction cs with
  | nil => rfl
  | cons c cs ih =>
    have hc : c ≠ sep := fun hc => h (by simp [hc])
    rw [firstCut_cons_of_ne _ hc, ih fun hs => h (by simp [hs])]

/-- The first separator of a text is the one behind a stretch without it. -/
theorem firstCut_append_sep {sep : Char} {a : List Char} (b : List Char) (h : sep ∉ a) :
    firstCut sep (a ++ sep :: b) = (a, some b) := by
  induction a with
  | nil => simp [firstCut]
  | cons c a ih =>
    have hc : c ≠ sep := fun hc => h (by simp [hc])
    rw [List.cons_append, firstCut_cons_of_ne _ hc, ih fun hs => h (by simp [hs])]

end PageCompanion.Text
