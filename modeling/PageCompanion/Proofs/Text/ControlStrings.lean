/-
# Control strings

Some control sequences hold a string: behind the escape character and one of `P`, `X`, `^`, `_` and
`]`, what comes up to the end of the sequence is for the terminal and not shown by it.  Line breaks
are no exception, so a text that breaks off inside a string takes along the line break behind it.
`Reading.isOpen` says that a text breaks off so, `shows_newline_eq` that this is the only way for a
line break to be lost, and `escape_mem_of_isOpen` that it takes an escape character.
-/
import Mathlib
import PageCompanion.Text.Plain

namespace PageCompanion.Text

/-- The sequence has come to the string that it holds, or to the parameters before it. -/
def Stage.holdsString : Stage → Bool
  | device | deviceParameters | deviceDesignation | string | system => true
  | outside | escape | designation | function => false

namespace Reading

/-- How far a text has been read behind a stretch of it. -/
def after (r : Reading) (cs : List Char) : Reading :=
  cs.foldl next r

/-- The next character falls into a string. -/
def isOpen (r : Reading) : Bool :=
  !r.showing && r.stage.holdsString

variable {r : Reading} {cs ds : List Char} {c : Char}

@[simp] lemma after_nil (r : Reading) : r.after [] = r := rfl

@[simp] lemma after_cons (r : Reading) (c : Char) (cs : List Char) :
    r.after (c :: cs) = (r.next c).after cs := rfl

/-- A text is written stretch by stretch. -/
lemma plain_append (r : Reading) (cs ds : List Char) :
    r.plain (cs ++ ds) = r.plain cs ++ (r.after cs).plain ds := by
  induction cs generalizing r with
  | nil => rfl
  | cons c cs ih =>
    rw [List.cons_append, plain, plain, after_cons, ih]
    split <;> rfl

lemma after_append (r : Reading) (cs ds : List Char) :
    r.after (cs ++ ds) = (r.after cs).after ds :=
  List.foldl_append

/-- What is written of a text stands in it. -/
lemma mem_of_mem_plain (h : c ∈ r.plain cs) : c ∈ cs := by
  induction cs generalizing r with
  | nil => exact h
  | cons d cs ih =>
    rw [plain] at h
    split at h
    · rcases List.mem_cons.mp h with rfl | h
      · exact List.mem_cons_self
      · exact List.mem_cons_of_mem _ (ih h)
    · exact List.mem_cons_of_mem _ (ih h)

/-! ## Line breaks -/

/-- A line break is written unless it falls into a string. -/
lemma shows_newline_eq (r : Reading) : r.shows '\n' = !r.isOpen := by
  obtain ⟨stage, showing⟩ := r
  cases showing <;> cases stage <;> rfl

lemma plain_newline (r : Reading) : r.plain ['\n'] = if r.isOpen then [] else ['\n'] := by
  rw [plain, shows_newline_eq]
  cases r.isOpen <;> rfl

/-- What is written of a text and a line break ends in one exactly when no string is open. -/
lemma getLast?_plain_newline (hlast : (r.plain cs).getLast? ≠ some '\n') :
    (r.plain (cs ++ ['\n'])).getLast? = some '\n' ↔ (r.after cs).isOpen = false := by
  rw [plain_append, plain_newline]
  cases hopen : (r.after cs).isOpen <;> simp [hlast]

/-! ## Texts without the escape character -/

/-- Without the escape character no sequence begins. -/
lemma stage_after (hr : r.stage = .outside) (hcs : '\x1b' ∉ cs) :
    (r.after cs).stage = .outside := by
  induction cs generalizing r with
  | nil => exact hr
  | cons c cs ih =>
    obtain ⟨hc, hcs⟩ := List.ne_and_not_mem_of_not_mem_cons hcs
    refine ih ?_ hcs
    rw [next, hr]
    split_ifs with hshows hascii
    · rfl
    · rfl
    · simp [Stage.next, hc.symm]

/-- **Only the escape character opens a string.** -/
theorem escape_mem_of_isOpen (h : (({} : Reading).after cs).isOpen = true) : '\x1b' ∈ cs := by
  by_contra hcs
  rw [isOpen, stage_after rfl hcs] at h
  exact absurd h (by simp [Stage.holdsString])

end Reading

end PageCompanion.Text
