/-
# Variants of a text

A text is read in the same way with blanks around it, and a name of lower-case letters also with
some of its letters in upper case.  `Padded` and `Recased` are these two ways of writing a text;
trimming undoes the one (`trim_of_padded`) and lower case the other (`toLower_of_recased`).
-/
import PageCompanion.Proofs.Text.Trimming

namespace PageCompanion.Text

/-- A text with blanks around it, or with none. -/
def Padded (s t : String) : Prop :=
  ∃ before after, Blank before ∧ Blank after ∧ t.toList = before ++ s.toList ++ after

/-- A name with each of its letters in either case. -/
def Recased (name t : String) : Prop :=
  List.Forall₂ (fun c d => d = c ∨ d = c.toUpper) name.toList t.toList

/-- A text that is not empty and has no blank at either end. -/
def Tidy (s : String) : Prop := s ≠ "" ∧ Trimmed s.toList

/-- A name of lower-case letters only. -/
def IsWord (name : String) : Prop := ∀ c ∈ name.toList, c.isLower = true

/-! ## Blanks -/

lemma Padded.refl (s : String) : Padded s s :=
  ⟨[], [], blank_nil, blank_nil, by simp⟩

lemma trim_of_padded {s t : String} (h : Padded s t) : trim t = trim s := by
  obtain ⟨before, after, hb, ha, ht⟩ := h
  rw [trim, ht, strip_pad hb ha, trim]

lemma trim_eq_self {s : String} (h : Trimmed s.toList) : trim s = s := by
  rw [trim, strip_eq_self h, String.ofList_toList]

lemma trim_trim (s : String) : trim (trim s) = trim s := by
  rw [trim, trim, String.toList_ofList, strip_eq_self (trimmed_strip _)]

/-- A text that is read without the blanks around it is tidy unless nothing is left. -/
lemma tidy_trim {s : String} (h : trim s ≠ "") : Tidy (trim s) := by
  refine ⟨h, ?_⟩
  rw [trim, String.toList_ofList]
  exact trimmed_strip s.toList

lemma Tidy.trim_of_padded {s t : String} (h : Tidy s) (ht : Padded s t) : trim t = s := by
  rw [Text.trim_of_padded ht, trim_eq_self h.2]

/-! ## Case -/

/-- What is needed of a lower-case letter. -/
lemma facts_of_isLower {c : Char} (h : c.isLower = true) :
    c.toLower = c ∧ c.toUpper.toLower = c ∧ isBlank c = false ∧ isBlank c.toUpper = false := by
  have hrange : 97 ≤ c.toNat ∧ c.toNat ≤ 122 := by
    simpa [Char.isLower, UInt32.le_iff_toNat_le] using h
  obtain ⟨n, hn⟩ : ∃ n, n = c.toNat := ⟨_, rfl⟩
  have hc : c = Char.ofNat n := by rw [hn, Char.ofNat_toNat]
  rw [← hn] at hrange
  obtain ⟨hlow, hhigh⟩ := hrange
  subst hc
  clear hn h
  interval_cases n <;> decide

lemma Recased.refl (name : String) : Recased name name := by
  rw [Recased, List.forall₂_same]
  exact fun _ _ => Or.inl rfl

/-- In lower case a name is itself again. -/
lemma toLower_of_recased {name t : String} (hname : IsWord name) (h : Recased name t) :
    t.toLower = name := by
  rw [← String.toList_inj, String.toLower, String.toList_map]
  rw [IsWord] at hname
  rw [Recased] at h
  generalize name.toList = cs at hname h ⊢
  generalize t.toList = ds at h ⊢
  induction h with
  | nil => rfl
  | @cons c d _ _ hd _ ih =>
    obtain ⟨hlower, hupper, -⟩ := facts_of_isLower (hname c List.mem_cons_self)
    rw [List.map_cons, ih fun c hc => hname c (List.mem_cons_of_mem _ hc)]
    rcases hd with rfl | rfl
    · rw [hlower]
    · rw [hupper]

/-- A text is its lower-case form with some letters in upper case. -/
lemma recased_toLower (t : String) : Recased t.toLower t := by
  rw [Recased, String.toLower, String.toList_map, List.forall₂_map_left_iff, List.forall₂_same]
  intro d _
  by_cases hupper : d.isUpper = true
  · right
    rw [Char.toUpper_toLower_eq_toUpper,
      Char.toUpper_eq_of_not_isLower (Char.not_isLower_of_isUpper hupper)]
  · exact Or.inl (Char.toLower_eq_of_not_isUpper hupper).symm

/-- Letters are no blanks. -/
lemma trimmed_of_recased {name t : String} (hname : IsWord name) (h : Recased name t) :
    Trimmed t.toList := by
  have hall : ∀ d ∈ t.toList, isBlank d = false := by
    rw [IsWord] at hname
    rw [Recased] at h
    generalize name.toList = cs at hname h
    generalize t.toList = ds at h ⊢
    induction h with
    | nil => simp
    | @cons c d _ _ hd _ ih =>
      obtain ⟨-, -, hlower, hupper⟩ := facts_of_isLower (hname c List.mem_cons_self)
      intro e he
      rcases List.mem_cons.mp he with rfl | he
      · rcases hd with rfl | rfl
        · exact hlower
        · exact hupper
      · exact ih (fun c hc => hname c (List.mem_cons_of_mem _ hc)) e he
  exact ⟨fun c hc => hall c (List.mem_of_mem_head? hc),
    fun c hc => hall c (List.mem_of_mem_getLast? hc)⟩

/-- The blanks around a name that is written in either case are cut off, and nothing else. -/
lemma trim_of_recased_padded {name text t : String} (hname : IsWord name)
    (htext : Recased name text) (ht : Padded text t) : trim t = text := by
  rw [trim_of_padded ht, trim_eq_self (trimmed_of_recased hname htext)]

end PageCompanion.Text
