/-
# The entries of a jar

Of several cookies with one name the last counts, so the entries of a jar that was made from a
list are the look-ups in the reversed list (`getElem?_ofSegments`).  The list of a jar's cookies
is in strictly ascending order of their names and holds what the look-ups give, no more.
-/
import PageCompanion.Cookie.Jar
import PageCompanion.Proofs.Text.Cutting

namespace PageCompanion.Cookie

open Text (pieces_append_sep pieces_intercalate)

namespace Jar

/-! ## The last cookie of a name -/

lemma getElem?_foldl_insert (l : List Segment) (jar : Jar) (n : String) :
    (l.foldl insert jar).entries[n]?
      = ((l.reverse.find? (·.name == n)).map (·.value)).or jar.entries[n]? := by
  induction l generalizing jar with
  | nil => rfl
  | cons s l ih =>
    -- the segments behind `s` are put in after it, so `s` counts only if none of them is found
    rw [List.foldl_cons, ih, List.reverse_cons, List.find?_append, getElem?_insert]
    cases l.reverse.find? (·.name == n) with
    | some t => rfl
    | none => by_cases h : s.name = n <;> simp [h]

/-- The entry of a name is the value of the last cookie of that name. -/
lemma getElem?_ofSegments (l : List Segment) (n : String) :
    (ofSegments l).entries[n]? = (l.reverse.find? (·.name == n)).map (·.value) := by
  rw [ofSegments, getElem?_foldl_insert, getElem?_empty, Option.or_none]

/-- A name has an entry exactly when it is the name of one of the cookies. -/
lemma isSome_getElem?_ofSegments {l : List Segment} {n : String} :
    (ofSegments l).entries[n]?.isSome ↔ ∃ s ∈ l, s.name = n := by
  simp [getElem?_ofSegments]

/-- Of two lists put together the second one decides about the names that it states. -/
lemma getElem?_ofSegments_append (l l' : List Segment) (n : String) :
    (ofSegments (l ++ l')).entries[n]?
      = (ofSegments l').entries[n]?.or (ofSegments l).entries[n]? := by
  rw [getElem?_ofSegments, getElem?_ofSegments, getElem?_ofSegments, List.reverse_append,
    List.find?_append]
  cases l'.reverse.find? (·.name == n) <;> rfl

/-! ## The list of a jar -/

lemma mem_toList_iff {jar : Jar} {n : String} {v : Option String} :
    (n, v) ∈ jar.toList ↔ jar.entries[n]? = some v :=
  Std.ExtTreeMap.mem_toList_iff_getElem?_eq_some

/-- The names of a jar are listed in strictly ascending order. -/
lemma pairwise_lt_toList (jar : Jar) : (jar.toList.map Prod.fst).Pairwise (· < ·) := by
  rw [List.pairwise_map]
  exact (Std.ExtTreeMap.ordered_keys_toList (t := jar.entries)).imp compare_lt_iff_lt.mp

lemma length_toList (jar : Jar) : jar.toList.length = jar.size :=
  Std.ExtTreeMap.length_toList

/-- Looking a name up in the list of a jar, from either end, finds its entry. -/
lemma lookup_reverse_toList (jar : Jar) (n : String) :
    jar.toList.reverse.lookup n = jar.entries[n]? := by
  cases h : jar.toList.reverse.lookup n with
  | none =>
    rw [List.lookup_eq_none_iff] at h
    rw [eq_comm, Option.eq_none_iff_forall_ne_some]
    intro v hv
    have hmem := mem_toList_iff.mpr hv
    simpa using h (n, v) (List.mem_reverse.mpr hmem)
  | some v =>
    obtain ⟨before, after, hsplit, -⟩ := List.lookup_eq_some_iff.mp h
    -- a name is listed once, so the pair that is found is the only one
    have hmem : (n, v) ∈ jar.toList := by
      rw [← List.mem_reverse, hsplit]
      simp
    exact (mem_toList_iff.mp hmem).symm

end Jar

/-! ## The cookies of a cookie string -/

/-- Two cookie strings that `;` joins state the cookies of the one and of the other. -/
lemma segments_append_sep (a b : String) :
    segments (a ++ ";" ++ b) = segments a ++ segments b := by
  have hjoined : (a ++ ";" ++ b).toList = a.toList ++ ';' :: b.toList := by simp
  rw [segments, hjoined, pieces_append_sep, List.filterMap_append, segments, segments]

/-- A cookie string that is put together from segments states what they state. -/
lemma segments_intercalate {segs : List (List Char)} (h : ∀ seg ∈ segs, ';' ∉ seg) :
    segments (String.ofList ([';'].intercalate segs)) = segs.filterMap Segment.ofText? := by
  by_cases hnil : segs = []
  · -- without a segment the string is empty, and its only piece names nothing
    subst hnil
    rfl
  · rw [segments, String.toList_ofList, pieces_intercalate hnil h]

lemma name_ne_empty_of_mem_segments {raw : String} {s : Segment} (h : s ∈ segments raw) :
    s.name ≠ "" := by
  obtain ⟨t, -, ht⟩ := List.mem_filterMap.mp h
  rw [Segment.ofText?] at ht
  split at ht
  · exact absurd ht (by simp)
  · obtain rfl := Option.some.inj ht
    assumption

/-- A cookie without a name is never listed. -/
lemma name_ne_empty_of_mem_parse {raw : String} {c : String × Option String}
    (h : c ∈ (Jar.parse raw).toList) : c.1 ≠ "" := by
  have hsome : (Jar.parse raw).entries[c.1]?.isSome := by simp [Jar.mem_toList_iff.mp h]
  obtain ⟨s, hs, hname⟩ := Jar.isSome_getElem?_ofSegments.mp hsome
  exact hname ▸ name_ne_empty_of_mem_segments hs

end PageCompanion.Cookie
