/-
# Rearranging a cookie string

The segments of a cookie string act one after another, each on its own: of two cookie strings that
`;` joins, the second one decides about the names that it states (`segments_act_alone`).  So a
cookie string may be rearranged in many ways without a change to its jar.  `Redraft` lists what
may be done to a few neighbouring segments, and `Rewrite` does it anywhere in a list of segments.
That the rest of the list does not matter is the law for joined strings again
(`Jar.ofSegments_congr`), so each redraft needs to be looked at by itself only.
-/
import PageCompanion.Proofs.Cookie.Meaning
import PageCompanion.Proofs.Cookie.Padding

namespace PageCompanion.Cookie

open Relation (EqvGen)
open Text

/-- The cookie string of a list of segments. -/
def joined (segs : List (List Char)) : String :=
  String.ofList ([';'].intercalate segs)

/-- What may be done to neighbouring segments of a cookie string, or undone. -/
inductive Redraft : List (List Char) → List (List Char) → Prop where
  /-- White space comes at the ends of a segment. -/
  | pad (seg : List Char) {before after : List Char} (hb : Blank before) (ha : Blank after) :
    Redraft [seg] [before ++ seg ++ after]
  /-- White space comes around the first `=` of a segment. -/
  | space {name : List Char} (value : List Char) {before after : List Char} (hname : '=' ∉ name)
    (hb : Blank before) (ha : Blank after) :
    Redraft [name ++ '=' :: value] [name ++ before ++ '=' :: (after ++ value)]
  /-- A segment comes that is blank or has a blank name. -/
  | insert {seg : List Char} (hsep : ';' ∉ seg) (hblank : Blank seg ∨ Blank (nameText seg)) :
    Redraft [] [seg]
  /-- Two segments of different names change places. -/
  | exchange {seg seg' : List Char} (h : nameOf seg ≠ nameOf seg') :
    Redraft [seg, seg'] [seg', seg]
  /-- A segment goes whose name is stated again by a later one that counts. -/
  | supersede {seg later : List Char} (between : List (List Char)) (hsep : ';' ∉ seg)
    (hlater : Counts later) (h : nameOf later = nameOf seg) :
    Redraft (seg :: (between ++ [later])) (between ++ [later])

/-- A list of segments in which a few neighbouring ones are redrafted. -/
inductive Rewrite : List (List Char) → List (List Char) → Prop where
  | within (front back : List (List Char)) {old new : List (List Char)} (h : Redraft old new) :
    Rewrite (front ++ old ++ back) (front ++ new ++ back)

namespace Jar

/-! ## Cookies in a list -/

/-- The cookies around it do not matter when a list is replaced by one of the same jar. -/
lemma ofSegments_congr {l l' : List Segment} (h : ofSegments l = ofSegments l')
    (front back : List Segment) :
    ofSegments (front ++ l ++ back) = ofSegments (front ++ l' ++ back) := by
  ext1 n
  simp only [getElem?_ofSegments_append, h]

/-- A cookie does not count when another one of its name follows. -/
lemma ofSegments_cons_of_mem {s t : Segment} {l : List Segment} (ht : t ∈ l)
    (hname : t.name = s.name) : ofSegments (s :: l) = ofSegments l := by
  ext1 n
  have happend := getElem?_ofSegments_append [s] l n
  rw [List.singleton_append] at happend
  rw [happend]
  by_cases hn : s.name = n
  · -- the later cookie answers for the name
    have hsome : (ofSegments l).entries[n]?.isSome :=
      isSome_getElem?_ofSegments.mpr ⟨t, ht, hname.trans hn⟩
    obtain ⟨v, hv⟩ := Option.isSome_iff_exists.mp hsome
    rw [hv]
    rfl
  · have hnone : (ofSegments [s]).entries[n]? = none := by
      simp [getElem?_ofSegments, hn]
    rw [hnone, Option.or_none]

/-- Two cookies of different names may come in either order. -/
lemma ofSegments_pair_comm {s t : Segment} (h : s.name ≠ t.name) :
    ofSegments [s, t] = ofSegments [t, s] := by
  ext1 n
  simp only [ofSegments, List.foldl_cons, List.foldl_nil, getElem?_insert]
  by_cases hs : s.name = n
  · have ht : ¬ t.name = n := fun ht => h (hs.trans ht.symm)
    rw [if_pos hs, if_neg ht, if_pos hs]
  · rw [if_neg hs, if_neg hs]

end Jar

/-! ## Segments that state the same -/

/-- The cookie of a segment, as a list of one or none. -/
lemma filterMap_ofText?_cons (seg : List Char) (segs : List (List Char)) :
    (seg :: segs).filterMap Segment.ofText?
      = (if Counts seg then [⟨nameOf seg, valueOf seg⟩] else [])
        ++ segs.filterMap Segment.ofText? := by
  rw [List.filterMap_cons, ofText?_eq_ite]
  by_cases h : Counts seg
  · rw [if_pos h, if_pos h]
    rfl
  · rw [if_neg h, if_neg h]
    rfl

lemma not_counts_of_blank {seg : List Char} (h : Blank seg ∨ Blank (nameText seg)) :
    ¬ Counts seg := by
  have hname : Blank (nameText seg) := by
    rcases h with h | h
    · intro c hc
      exact h c ((List.takeWhile_sublist _).subset hc)
    · exact h
  rw [Counts, not_not]
  exact strip_eq_nil_iff.mpr hname

/-- **Redrafted segments state the same jar.** -/
lemma Redraft.ofSegments_eq {old new : List (List Char)} (h : Redraft old new) :
    Jar.ofSegments (old.filterMap Segment.ofText?)
      = Jar.ofSegments (new.filterMap Segment.ofText?) := by
  cases h with
  | pad seg hb ha =>
    simp only [List.filterMap_cons, ofText?_pad seg hb ha]
  | space value hname hb ha =>
    simp only [List.filterMap_cons, ofText?_space value hname hb ha]
  | insert _ hblank =>
    rw [filterMap_ofText?_cons, if_neg (not_counts_of_blank hblank)]
    rfl
  | @exchange seg seg' hne =>
    rw [filterMap_ofText?_cons, filterMap_ofText?_cons, filterMap_ofText?_cons,
      filterMap_ofText?_cons]
    -- only if both segments count is there anything to exchange
    by_cases hseg : Counts seg
    · by_cases hseg' : Counts seg'
      · rw [if_pos hseg, if_pos hseg']
        exact Jar.ofSegments_pair_comm hne
      · rw [if_neg hseg']
        simp
    · rw [if_neg hseg]
      simp
  | @supersede seg later between _ hlater hname =>
    rw [filterMap_ofText?_cons]
    by_cases hseg : Counts seg
    · rw [if_pos hseg, List.singleton_append]
      have hmem : ⟨nameOf later, valueOf later⟩
          ∈ (between ++ [later]).filterMap Segment.ofText? := by
        rw [List.filterMap_append, filterMap_ofText?_cons, if_pos hlater]
        simp
      exact Jar.ofSegments_cons_of_mem hmem hname
    · rw [if_neg hseg, List.nil_append]

/-- Redrafting brings no separator into a segment and takes none out. -/
lemma Redraft.sep_iff {old new : List (List Char)} (h : Redraft old new) :
    (∀ seg ∈ old, ';' ∉ seg) ↔ ∀ seg ∈ new, ';' ∉ seg := by
  cases h with
  | pad seg hb ha =>
    have hbefore := hb.not_mem (show isBlank ';' = false by decide)
    have hafter := ha.not_mem (show isBlank ';' = false by decide)
    simp [hbefore, hafter]
  | space value hname hb ha =>
    have hbefore := hb.not_mem (show isBlank ';' = false by decide)
    have hafter := ha.not_mem (show isBlank ';' = false by decide)
    simp [hbefore, hafter]
  | insert hsep _ => simp [hsep]
  | exchange _ => simp [and_comm]
  | supersede between hsep _ _ => simp [hsep]

/-! ## Rewriting -/

/-- Rewriting keeps the jar of the segments, and what is no segment does not become one. -/
lemma ofSegments_eq_of_rewrites {segs segs' : List (List Char)} (h : EqvGen Rewrite segs segs') :
    Jar.ofSegments (segs.filterMap Segment.ofText?)
        = Jar.ofSegments (segs'.filterMap Segment.ofText?) ∧
      ((∀ seg ∈ segs, ';' ∉ seg) ↔ ∀ seg ∈ segs', ';' ∉ seg) := by
  induction h with
  | rel _ _ hstep =>
    obtain ⟨front, back, hdraft⟩ := hstep
    constructor
    · simp only [List.filterMap_append]
      exact Jar.ofSegments_congr hdraft.ofSegments_eq _ _
    · have hsep := hdraft.sep_iff
      simp only [List.mem_append, or_imp, forall_and, hsep]
  | refl _ => exact ⟨rfl, Iff.rfl⟩
  | symm _ _ _ ih => exact ⟨ih.1.symm, ih.2.symm⟩
  | trans _ _ _ _ _ ih ih' => exact ⟨ih.1.trans ih'.1, ih.2.trans ih'.2⟩

/-- **Segments act alone.**  Of two cookie strings that `;` joins, the second one decides about
every name that it states, with a value or without one, and the first one about all others.  And
whichever of its segments are padded, spaced, put in, taken out, exchanged or superseded, in the
ways of `Redraft` and however often, a cookie string keeps its jar. -/
theorem segments_act_alone :
    (∀ a b n : String, (Jar.parse (a ++ ";" ++ b)).entries[n]?
      = (Jar.parse b).entries[n]?.or (Jar.parse a).entries[n]?) ∧
    ∀ (raw : String) (segs : List (List Char)),
      EqvGen Rewrite (raw.toList.splitOn ';') segs → Jar.parse (joined segs) = Jar.parse raw := by
  constructor
  · intro a b n
    rw [Jar.parse, segments_append_sep, Jar.getElem?_ofSegments_append, Jar.parse, Jar.parse]
  · intro raw segs h
    rw [← pieces_eq_splitOn] at h
    obtain ⟨hjar, hsep⟩ := ofSegments_eq_of_rewrites h
    have hfree : ∀ seg ∈ segs, ';' ∉ seg :=
      hsep.mp fun seg hseg => not_mem_of_mem_pieces hseg
    rw [Jar.parse, joined, segments_intercalate hfree, ← hjar, Jar.parse, segments]

/-- `segments_act_alone` at a name that a later segment takes the value from, and at a cookie string
of which a segment is superseded under another spelling of its name, one is spaced, one is moved
to the front and stripped, and one without a name is put in. -/
theorem segments_act_alone_of_other_spelling :
    (Jar.parse ("%61=1" ++ ";" ++ "b;a")).entries["a"]? = some none ∧
      EqvGen Rewrite ("a=1;%61=2=; b".toList.splitOn ';')
        ["b".toList, " =3".toList, "%61 =\t2=".toList] ∧
      Jar.parse "b; =3;%61 =\t2=" = Jar.parse "a=1;%61=2=; b" := by
  have hsupersede : Rewrite ["a=1".toList, "%61=2=".toList, " b".toList]
      ["%61=2=".toList, " b".toList] :=
    .within [] [" b".toList] (.supersede [] (by decide) (by decide +kernel) (by decide +kernel))
  have hspace : Rewrite ["%61=2=".toList, " b".toList] ["%61 =\t2=".toList, " b".toList] :=
    .within [] [" b".toList] (@Redraft.space "%61".toList "2=".toList [' '] ['\t'] (by decide)
      (by simp [Blank, isBlank]) (by simp [Blank, isBlank]))
  have hexchange : Rewrite ["%61 =\t2=".toList, " b".toList] [" b".toList, "%61 =\t2=".toList] :=
    .within [] [] (.exchange (by decide +kernel))
  have hpad : Rewrite ["b".toList, "%61 =\t2=".toList] [" b".toList, "%61 =\t2=".toList] :=
    .within [] ["%61 =\t2=".toList]
      (@Redraft.pad ['b'] [' '] [] (by simp [Blank, isBlank]) blank_nil)
  have hinsert : Rewrite ["b".toList, "%61 =\t2=".toList]
      ["b".toList, " =3".toList, "%61 =\t2=".toList] :=
    .within ["b".toList] ["%61 =\t2=".toList]
      (.insert (by decide) (Or.inr (by simp [nameText, Blank, isBlank])))
  have hchain : EqvGen Rewrite ("a=1;%61=2=; b".toList.splitOn ';')
      ["b".toList, " =3".toList, "%61 =\t2=".toList] :=
    .trans _ _ _ (.rel _ _ hsupersede) (.trans _ _ _ (.rel _ _ hspace)
      (.trans _ _ _ (.rel _ _ hexchange)
        (.trans _ _ _ (.symm _ _ (.rel _ _ hpad)) (.rel _ _ hinsert))))
  have hjoined : joined ["b".toList, " =3".toList, "%61 =\t2=".toList] = "b; =3;%61 =\t2=" := by
    decide +kernel
  have hjar := segments_act_alone.2 _ _ hchain
  rw [hjoined] at hjar
  refine ⟨?_, hchain, hjar⟩
  rw [segments_act_alone.1 "%61=1" "b;a" "a"]
  decide +kernel

end PageCompanion.Cookie
