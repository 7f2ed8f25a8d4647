/-
# Jars are known by what they answer

Two jars are equal when they agree on every name, both on its value and on whether it is there at
all (`Jar.eq_iff_answers`); the second question is needed, since a cookie without a value and one
that is missing give the same answer to the first.  They are equal as well when they are listed
alike (`Jar.eq_iff_toList`), and when one has as many cookies as the other and all of them are the
other's (`Jar.eq_iff_size_and_mem`).  So of a cookie string nothing but the last segment of each
name counts, and of that segment nothing but what it states (`equal_iff_observed`).
-/
import PageCompanion.Proofs.Cookie.Meaning

namespace PageCompanion.Cookie

namespace Jar

variable {a b : Jar}

/-- The two questions about a name tell its entry. -/
lemma getElem?_eq_ite (jar : Jar) (n : String) :
    jar.entries[n]? = if jar.contains n then some (jar.get? n) else none := by
  rw [contains_eq_isSome, get?]
  cases jar.entries[n]? <;> simp

lemma eq_iff_answers : a = b ↔ ∀ n, a.get? n = b.get? n ∧ a.contains n = b.contains n := by
  constructor
  · rintro rfl n
    exact ⟨rfl, rfl⟩
  · intro h
    ext1 n
    rw [getElem?_eq_ite, getElem?_eq_ite, (h n).1, (h n).2]

lemma eq_iff_toList : a = b ↔ a.toList = b.toList := by
  constructor
  · rintro rfl
    rfl
  · intro h
    ext1 n
    refine Option.ext fun v => ?_
    rw [← mem_toList_iff, ← mem_toList_iff, h]

/-- Of jars of one size, none holds all the cookies of the other and more. -/
lemma eq_iff_size_and_mem : a = b ↔ a.size = b.size ∧ ∀ c ∈ a.toList, c ∈ b.toList := by
  constructor
  · rintro rfl
    exact ⟨rfl, fun _ => id⟩
  · rintro ⟨hsize, hmem⟩
    have hnodup : a.toList.Nodup := (nodup_names a).of_map _
    have hlength : b.toList.length ≤ a.toList.length := by
      rw [length_toList, length_toList, hsize]
    have hperm : a.toList.Perm b.toList :=
      (List.subperm_of_subset hnodup hmem).perm_of_length_le hlength
    ext1 n
    refine Option.ext fun v => ?_
    rw [← mem_toList_iff, ← mem_toList_iff, hperm.mem_iff]

/-- A cookie without a value is not one with the empty value. -/
lemma ne_of_absent_of_empty {n : String} (ha : a.get? n = none) (hb : b.get? n = some "") :
    a ≠ b := by
  rintro rfl
  exact absurd (ha.symm.trans hb) (by simp)

end Jar

/-- **Jars are equal exactly when they cannot be told apart.**  For any two cookie strings it is the
same that their jars are equal; that these are listed alike; that they give every name the same
value and hold the same names; that they have equally many cookies and all of the one are the
other's; and that the last segments of each name state the same.  So jars that differ in whether
one cookie has no value or the empty one are not equal and not listed alike, and equal jars are
listed alike in whichever order and spelling their segments stand. -/
theorem equal_iff_observed (raw raw' : String) :
    [Jar.parse raw = Jar.parse raw',
      (Jar.parse raw).toList = (Jar.parse raw').toList,
      ∀ n, (Jar.parse raw).get? n = (Jar.parse raw').get? n ∧
        (Jar.parse raw).contains n = (Jar.parse raw').contains n,
      (Jar.parse raw).size = (Jar.parse raw').size ∧
        ∀ c ∈ (Jar.parse raw).toList, c ∈ (Jar.parse raw').toList,
      ∀ n, (lastNamed? raw n).map valueOf = (lastNamed? raw' n).map valueOf].TFAE ∧
    ∀ n, (Jar.parse raw).contains n = true → (Jar.parse raw).get? n = none →
      (Jar.parse raw').get? n = some "" →
      Jar.parse raw ≠ Jar.parse raw' ∧ (Jar.parse raw).toList ≠ (Jar.parse raw').toList := by
  constructor
  · tfae_have 1 ↔ 2 := Jar.eq_iff_toList
    tfae_have 1 ↔ 3 := Jar.eq_iff_answers
    tfae_have 1 ↔ 4 := Jar.eq_iff_size_and_mem
    tfae_have 1 ↔ 5 := by
      constructor
      · intro h n
        rw [← getElem?_parse, ← getElem?_parse]
        exact congrArg (fun jar : Jar => jar.entries[n]?) h
      · intro h
        refine Jar.ext fun n => ?_
        rw [getElem?_parse, getElem?_parse, h n]
    tfae_finish
  · intro n _ hbare hempty
    have hne : Jar.parse raw ≠ Jar.parse raw' := Jar.ne_of_absent_of_empty hbare hempty
    exact ⟨hne, fun hlist => hne (Jar.eq_iff_toList.mpr hlist)⟩

/-- `equal_iff_observed` at two strings that state the same in different order and spelling, and at
two that differ in one `=`. -/
theorem equal_iff_observed_of_other_spelling :
    Jar.parse "b=1; a ;%62=%32 " = Jar.parse " a;b=2" ∧
      (Jar.parse "flag; x=1").contains "flag" = true ∧
      (Jar.parse "flag; x=1").get? "flag" = none ∧
      (Jar.parse "x=1; flag=").get? "flag" = some "" ∧
      Jar.parse "flag; x=1" ≠ Jar.parse "x=1; flag=" := by
  have hlist : (Jar.parse "b=1; a ;%62=%32 ").toList = (Jar.parse " a;b=2").toList := by
    decide +kernel
  have hthere : (Jar.parse "flag; x=1").contains "flag" = true := by decide +kernel
  have hbare : (Jar.parse "flag; x=1").get? "flag" = none := by decide +kernel
  have hempty : (Jar.parse "x=1; flag=").get? "flag" = some "" := by decide +kernel
  obtain ⟨hsame, -⟩ := equal_iff_observed "b=1; a ;%62=%32 " " a;b=2"
  obtain ⟨-, hother⟩ := equal_iff_observed "flag; x=1" "x=1; flag="
  exact ⟨(hsame.out 0 1).mpr hlist, hthere, hbare, hempty, (hother _ hthere hbare hempty).1⟩

end PageCompanion.Cookie
