/-
# White space at the ends of a text

Cookie names, cookie values, setting keys and setting values are all read without the white
space around them.  What counts as white space is the Unicode property `White_Space`; the
zero-width characters U+200B and U+FEFF do not have it.  A text is a list of characters here,
with a `String` form of each cut beside it.  The main facts are that a cut leaves a text
alone exactly when nothing blank stands at that end, and that cutting twice is cutting once.
-/
namespace PageCompanion.Text

/-- The characters with the Unicode property `White_Space`. -/
def isBlank (c : Char) : Bool :=
  let n := c.toNat
  (0x9 ≤ n && n ≤ 0xd) || n == 0x20 || n == 0x85 || n == 0xa0 || n == 0x1680
    || (0x2000 ≤ n && n ≤ 0x200a) || n == 0x2028 || n == 0x2029 || n == 0x202f || n == 0x205f
    || n == 0x3000

/-- The text from its first character that is not blank. -/
def stripLeft (cs : List Char) : List Char :=
  cs.dropWhile isBlank

/-- The text up to its last character that is not blank. -/
def stripRight (cs : List Char) : List Char :=
  (cs.reverse.dropWhile isBlank).reverse

/-- The text without the blanks at its two ends. -/
def strip (cs : List Char) : List Char :=
  stripRight (stripLeft cs)

def trim (s : String) : String :=
  String.ofList (strip s.toList)

def trimEnd (s : String) : String :=
  String.ofList (stripRight s.toList)

/-! ## Cutting at the left end -/

@[simp] theorem stripLeft_nil : stripLeft [] = [] := rfl

theorem stripLeft_cons_of_blank {c : Char} (cs : List Char) (h : isBlank c = true) :
    stripLeft (c :: cs) = stripLeft cs := by
  simp [stripLeft, h]

theorem stripLeft_cons_of_not_blank {c : Char} (cs : List Char) (h : isBlank c = false) :
    stripLeft (c :: cs) = c :: cs := by
  simp [stripLeft, h]

/-- Blanks put in front of a text are cut off again. -/
theorem stripLeft_append_of_blank {ws : List Char} (cs : List Char)
    (h : ∀ c ∈ ws, isBlank c = true) : stripLeft (ws ++ cs) = stripLeft cs := by
  induction ws with
  | nil => rfl
  | cons w ws ih =>
    rw [List.cons_append, stripLeft_cons_of_blank _ (h w (by simp))]
    exact ih fun c hc => h c (by simp [hc])

@[simp] theorem stripLeft_stripLeft (cs : List Char) :
    stripLeft (stripLeft cs) = stripLeft cs := by
  induction cs with
  | nil => rfl
  | cons c cs ih =>
    cases h : isBlank c with
    | true => rw [stripLeft_cons_of_blank _ h, ih]
    | false => rw [stripLeft_cons_of_not_blank _ h, stripLeft_cons_of_not_blank _ h]

/-! ## Cutting at the right end -/

theorem stripRight_eq_reverse (cs : List Char) :
    stripRight cs = (stripLeft cs.reverse).reverse := rfl

@[simp] theorem stripRight_nil : stripRight [] = [] := rfl

/-- Blanks put behind a text are cut off again. -/
theorem stripRight_append_of_blank {ws : List Char} (cs : List Char)
    (h : ∀ c ∈ ws, isBlank c = true) : stripRight (cs ++ ws) = stripRight cs := by
  rw [stripRight_eq_reverse, List.reverse_append,
    stripLeft_append_of_blank _ fun c hc => h c (by simpa using hc), ← stripRight_eq_reverse]

@[simp] theorem stripRight_stripRight (cs : List Char) :
    stripRight (stripRight cs) = stripRight cs := by
  simp [stripRight_eq_reverse]

end PageCompanion.Text
