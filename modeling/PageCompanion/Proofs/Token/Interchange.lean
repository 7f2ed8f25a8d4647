/-
# Headers of one kind in the place of another

What a stamp does to headers, and what it says about them, does not depend on how they are kept.
`Simulates names R` is that headers of two kinds which are related by `R` stay so when the same
header of one of the names is written to both, and say the same.  One step of a run then keeps the
relation (`Run.Alike.step`), and so do all the steps of a run, which log the same records
(`Run.Alike.steps`).

The tables of the standard library are so related by their look-ups, and a table is to an object of
the page's scripts by the object's properties (`simulates_tables`, `simulates_object`).  An object
has to keep what is written under the names; an ordinary object keeps it under every name but the
one by which a script reaches what the object inherits from (`ordinary_eq_kept_iff`).
-/
import PageCompanion.Proofs.Token.Warnings

namespace PageCompanion.Token

open Cookie (Jar)
open HeaderTable (get? toSortedList)
open Script (Object Value Writing)
open Std (HashMap TreeMap)

/-! ## Related headers -/

section Simulation

variable {H H' : Type} [Headers H] [Headers H']

/-- Writing a header of one of the names to headers of two kinds keeps their relation, and both say
the same of it. -/
structure Simulates (names : Set String) (R : H → H' → Prop) : Prop where
  put {headers : H} {headers' : H'} (h : R headers headers') {name : String} (hname : name ∈ names)
    (value : String) : R (Headers.put headers name value).1 (Headers.put headers' name value).1
  records {headers : H} {headers' : H'} (h : R headers headers') {name : String}
    (hname : name ∈ names) (value : String) :
    (Headers.put headers name value).2 = (Headers.put headers' name value).2

/-- The same step of two runs, up to the headers of a new request. -/
inductive Step.Alike (names : Set String) (R : H → H' → Prop) : Step H → Step H' → Prop where
  | request {headers : H} {headers' : H'} (h : R headers headers') :
    Alike names R (.request headers) (.request headers')
  | put {name : String} (hname : name ∈ names) (value : String) :
    Alike names R (.put name value) (.put name value)
  | stamp : Alike names R .stamp .stamp

/-- Two runs over related headers of one stamp, whose header has one of the names. -/
structure Run.Alike (names : Set String) (R : H → H' → Prop) (r : Run H) (r' : Run H') : Prop where
  stamp_eq : r.stamp = r'.stamp
  header_mem : r.stamp.names.header ∈ names
  headers : R r.headers r'.headers

variable {names : Set String} {R : H → H' → Prop} {r : Run H} {r' : Run H'}

/-- A stamp does the same to related headers. -/
lemma Simulates.apply (hR : Simulates names R) {headers : H} {headers' : H'}
    (h : R headers headers') {s : Stamp} (hs : s.names.header ∈ names) :
    R (s.apply headers).2.1 (s.apply headers').2.1 ∧
      (s.apply headers).2.2 = (s.apply headers').2.2 := by
  rw [Stamp.apply_headers, Stamp.apply_headers, Stamp.apply_records, Stamp.apply_records,
    Stamp.writeAll_writes, Stamp.writeAll_writes, Stamp.complaints, Stamp.complaints]
  cases s.value? with
  | none => exact ⟨h, rfl⟩
  | some value => exact ⟨hR.put h hs value, congrArg (s.report.2 ++ ·) (hR.records h hs value)⟩

/-- **One step keeps runs alike**, and both log the same. -/
theorem Run.Alike.step (h : Run.Alike names R r r') (hR : Simulates names R) {a : Step H}
    {a' : Step H'} (ha : Step.Alike names R a a') :
    Run.Alike names R (r.step a).1 (r'.step a').1 ∧ (r.step a).2 = (r'.step a').2 := by
  cases ha with
  | request hheaders => exact ⟨⟨h.stamp_eq, h.header_mem, hheaders⟩, rfl⟩
  | put hname value =>
    exact ⟨⟨h.stamp_eq, h.header_mem, hR.put h.headers hname value⟩,
      hR.records h.headers hname value⟩
  | stamp =>
    obtain ⟨hheaders, hrecords⟩ := hR.apply h.headers h.header_mem
    rw [Run.step, Run.step, ← h.stamp_eq]
    refine ⟨⟨?_, ?_, hheaders⟩, hrecords⟩
    · simp only [Stamp.apply_fst]
    · simpa only [Stamp.apply_fst, Stamp.report_names] using h.header_mem

/-- **Runs that are alike stay so**, and log the same. -/
theorem Run.Alike.steps (h : Run.Alike names R r r') (hR : Simulates names R) {l : List (Step H)}
    {l' : List (Step H')} (hl : List.Forall₂ (Step.Alike names R) l l') :
    Run.Alike names R (r.steps l).1 (r'.steps l').1 ∧ (r.steps l).2 = (r'.steps l').2 := by
  induction hl generalizing r r' with
  | nil => exact ⟨h, rfl⟩
  | cons ha _ ih =>
    obtain ⟨hnext, hrecords⟩ := h.step hR ha
    obtain ⟨hlast, hlater⟩ := ih hnext
    rw [Run.steps, Run.steps, hrecords, hlater]
    exact ⟨hlast, rfl⟩

end Simulation

/-! ## Tables -/

/-- Two tables, perhaps of different kinds, that hold the same names with the same values. -/
def Agree {H H' : Type} [HeaderTable H] [HeaderTable H'] (headers : H) (headers' : H') : Prop :=
  ∀ n : String, get? headers n = get? headers' n

lemma simulates_tables {H H' : Type} [HeaderTable H] [HeaderTable H'] [LawfulTable H]
    [LawfulTable H'] (hquiet : Quiet H) (hquiet' : Quiet H') (names : Set String) :
    Simulates names (@Agree H H' _ _) where
  put h name _ value n := by rw [LawfulTable.get?_put, LawfulTable.get?_put, h n]
  records _ name _ value := by rw [hquiet, hquiet']

/-- A table that is listed by its look-ups, in strictly ascending order of the names. -/
class ListedTable (H : Type) [HeaderTable H] : Prop where
  mem_toSortedList_iff {headers : H} {n v : String} :
    (n, v) ∈ toSortedList headers ↔ get? headers n = some v
  pairwise_toSortedList (headers : H) : (toSortedList headers).Pairwise fun a b => a.1 < b.1

lemma nodup_toSortedList {H : Type} [HeaderTable H] [ListedTable H] (headers : H) :
    (toSortedList headers).Nodup := by
  refine (ListedTable.pairwise_toSortedList headers).imp ?_
  rintro a b hab rfl
  exact lt_irrefl _ hab

/-- The order in which a hashed table is listed. -/
def inOrder (a b : String × String) : Bool := compare a.1 b.1 != .gt

lemma inOrder_iff {a b : String × String} : inOrder a b = true ↔ a.1 ≤ b.1 := by
  rw [inOrder, bne_iff_ne, Ne, compare_gt_iff_gt, not_lt]

lemma toSortedList_hashMap (m : HashMap String String) :
    toSortedList m = m.toList.mergeSort inOrder := rfl

lemma pairwise_mergeSort_inOrder (l : List (String × String)) :
    (l.mergeSort inOrder).Pairwise fun a b => a.1 ≤ b.1 := by
  have htrans : ∀ a b c, inOrder a b = true → inOrder b c = true → inOrder a c = true := by
    intro a b c hab hbc
    exact inOrder_iff.mpr ((inOrder_iff.mp hab).trans (inOrder_iff.mp hbc))
  have htotal : ∀ a b, (inOrder a b || inOrder b a) = true := by
    intro a b
    rw [Bool.or_eq_true, inOrder_iff, inOrder_iff]
    exact le_total a.1 b.1
  exact (List.pairwise_mergeSort htrans htotal l).imp inOrder_iff.mp

instance : ListedTable (HashMap String String) where
  mem_toSortedList_iff := by
    intro m n v
    rw [toSortedList_hashMap, (List.mergeSort_perm _ _).mem_iff]
    exact HashMap.mem_toList_iff_getElem?_eq_some
  pairwise_toSortedList m := by
    rw [toSortedList_hashMap]
    -- the names are in order, and no two of them are the same
    have hdistinct : (m.toList.mergeSort inOrder).Pairwise fun a b => a.1 ≠ b.1 := by
      rw [(List.mergeSort_perm _ _).pairwise_iff fun hab => hab.symm]
      exact HashMap.distinct_keys_toList.imp fun hab => by simpa using hab
    exact ((pairwise_mergeSort_inOrder m.toList).and hdistinct).imp fun hab =>
      lt_of_le_of_ne hab.1 hab.2

instance : ListedTable (TreeMap String String) where
  mem_toSortedList_iff := TreeMap.mem_toList_iff_getElem?_eq_some
  pairwise_toSortedList m := (TreeMap.ordered_keys_toList (t := m)).imp compare_lt_iff_lt.mp

/-- Tables that hold the same are listed alike. -/
lemma Agree.toSortedList_eq {H H' : Type} [HeaderTable H] [HeaderTable H'] [ListedTable H]
    [ListedTable H'] {headers : H} {headers' : H'} (h : Agree headers headers') :
    toSortedList headers = toSortedList headers' := by
  have hsorted := ListedTable.pairwise_toSortedList headers
  have hsorted' := ListedTable.pairwise_toSortedList headers'
  refine List.Perm.eq_of_pairwise (fun a b _ _ hab hba => absurd hba hab.asymm) hsorted hsorted' ?_
  rw [List.perm_ext_iff_of_nodup (nodup_toSortedList headers) (nodup_toSortedList headers')]
  rintro ⟨n, v⟩
  rw [ListedTable.mem_toSortedList_iff, ListedTable.mem_toSortedList_iff, h n]

/-! ## Objects -/

lemma map_fst_putProperty (name : String) (value : Value) (l : List (String × Value)) :
    (Object.putProperty name value l).map Prod.fst
      = if name ∈ l.map Prod.fst then l.map Prod.fst else l.map Prod.fst ++ [name] := by
  induction l with
  | nil => rfl
  | cons p l ih =>
    rw [Object.putProperty]
    by_cases hp : p.1 = name
    · simp [hp]
    · rw [if_neg hp, List.map_cons, ih, List.map_cons]
      by_cases hname : name ∈ l.map Prod.fst
      · rw [if_pos hname, if_pos (List.mem_cons_of_mem _ hname)]
      · rw [if_neg hname, if_neg (by simpa [Ne.symm hp] using hname), List.cons_append]

/-- A property that is written twice is still one property. -/
lemma nodup_putProperty {l : List (String × Value)} (h : (l.map Prod.fst).Nodup) (name : String)
    (value : Value) : ((Object.putProperty name value l).map Prod.fst).Nodup := by
  rw [map_fst_putProperty]
  split_ifs with hname
  · exact h
  · exact List.nodup_append.mpr ⟨h, List.nodup_singleton name, by
      rintro a ha b hb rfl
      exact hname (List.mem_singleton.mp hb ▸ ha)⟩

/-- What a plain object has under a name is a property. -/
lemma find?_of_plain {o : Object Value} (h : o.kind = .plain) (n : String) :
    o.find? n = (o.properties.find? fun p => p.1 == n).map (·.2) := by
  rw [Object.find?, h]
  rfl

lemma mem_properties_iff {o : Object Value} (hkind : o.kind = .plain)
    (h : (o.properties.map Prod.fst).Nodup) {n : String} {v : Value} :
    (n, v) ∈ o.properties ↔ o.find? n = some v := by
  rw [find?_of_plain hkind]
  generalize o.properties = l at h
  induction l with
  | nil => simp
  | cons p l ih =>
    obtain ⟨hp, hl⟩ := List.nodup_cons.mp h
    rw [List.mem_cons, ih hl, List.find?_cons]
    by_cases hn : p.1 = n
    · -- no other property has this name
      have hnone : (l.find? fun q => q.1 == n) = none := by
        rw [List.find?_eq_none]
        intro q hq hqn
        exact hp (List.mem_map.mpr ⟨q, hq, (eq_of_beq hqn).trans hn.symm⟩)
      subst hn
      simp [hnone, Prod.ext_iff, eq_comm]
    · have hne : (n, v) ≠ p := by
        rintro rfl
        exact hn rfl
      rw [beq_eq_false_iff_ne.mpr hn]
      simp [hne]

/-- An ordinary object keeps what is written, but for what it is to inherit from. -/
lemma ordinary_eq_kept_iff {name : String} :
    (Writing.ordinary name : Writing Value) = .kept ↔ name ≠ Script.heritage := by
  rw [Writing.ordinary]
  split_ifs with h <;> simp [h]

section Mirrors

variable {H : Type} [HeaderTable H] {names : Set String}

/-- A plain object whose properties are the entries of a table: texts under the same names, each
name once, that can be read.  The object keeps what is written to it under some names. -/
structure Mirrors (names : Set String) (headers : H) (o : Object Value) : Prop where
  kind_eq : o.kind = .plain
  getTrap_eq : o.getTrap = none
  writing_eq : ∀ name ∈ names, o.writing name = .kept
  nodup : (o.properties.map Prod.fst).Nodup
  find?_eq (n : String) : o.find? n = (get? headers n).map Value.string

lemma simulates_object [LawfulTable H] (hquiet : Quiet H) :
    Simulates names (@Mirrors H _ names) where
  put {headers o} h name hname value := by
    rw [Script.put_of_kept (h.writing_eq name hname)]
    have hput : o.put name value
        = { o with properties := Object.putProperty name (.string value) o.properties } := by
      rw [Object.put, h.kind_eq]
      rfl
    refine ⟨by rw [hput, h.kind_eq], by rw [Object.getTrap_put, h.getTrap_eq],
      by rw [Object.writing_put]; exact h.writing_eq, ?_, fun n => ?_⟩
    · rw [hput]
      exact nodup_putProperty h.nodup _ _
    · rw [Object.find?_put, LawfulTable.get?_put, h.find?_eq]
      split_ifs <;> rfl
  records {headers o} h name hname value := by
    rw [hquiet, Script.put_of_kept (h.writing_eq name hname)]

/-- The properties of the object are what the table lists, in some order. -/
lemma Mirrors.properties_perm [ListedTable H] {headers : H} {o : Object Value}
    (h : Mirrors names headers o) :
    o.properties.Perm ((toSortedList headers).map fun p => (p.1, .string p.2)) := by
  have hinj : Function.Injective fun p : String × String => (p.1, Value.string p.2) := by
    rintro ⟨n, v⟩ ⟨n', v'⟩ heq
    simpa using heq
  have hlisted : ((toSortedList headers).map fun p => (p.1, Value.string p.2)).Nodup :=
    (nodup_toSortedList headers).map hinj
  rw [List.perm_ext_iff_of_nodup (h.nodup.of_map _) hlisted]
  rintro ⟨n, v⟩
  rw [mem_properties_iff h.kind_eq h.nodup, h.find?_eq, Option.map_eq_some_iff, List.mem_map]
  constructor
  · rintro ⟨value, hvalue, rfl⟩
    exact ⟨(n, value), ListedTable.mem_toSortedList_iff.mpr hvalue, rfl⟩
  · rintro ⟨⟨name, value⟩, hvalue, heq⟩
    obtain ⟨rfl, rfl⟩ := Prod.mk.inj heq
    exact ⟨value, ListedTable.mem_toSortedList_iff.mp hvalue, rfl⟩

end Mirrors

/-! ## Three kinds at once -/

/-- Headers of the three kinds that hold the same names with the same values; the object keeps what
is written to it under some names. -/
structure SameHeaders (names : Set String) (m : HashMap String String) (t : TreeMap String String)
    (o : Object Value) : Prop where
  agree : Agree m t
  mirrors : Mirrors names m o

/-- One step of a run for each of the three kinds, with a header of one of the names if it writes
one; new headers hold the same. -/
inductive SameStep (names : Set String) :
    Step (HashMap String String) × Step (TreeMap String String) × Step (Object Value) → Prop where
  | request {m : HashMap String String} {t : TreeMap String String} {o : Object Value}
    (h : SameHeaders names m t o) : SameStep names (.request m, .request t, .request o)
  | put {name : String} (hname : name ∈ names) (value : String) :
    SameStep names (.put name value, .put name value, .put name value)
  | stamp : SameStep names (.stamp, .stamp, .stamp)

variable {names : Set String}

namespace SameHeaders

variable {m : HashMap String String} {t : TreeMap String String} {o : Object Value}

/-- An ordinary object without properties is as good as an empty table. -/
lemma empty (hnames : Script.heritage ∉ names) : SameHeaders names ∅ ∅ {} where
  agree n := by simp [get?]
  mirrors := by
    refine ⟨rfl, rfl, fun name hname => ?_, List.nodup_nil, fun n => ?_⟩
    · exact ordinary_eq_kept_iff.mpr (ne_of_mem_of_not_mem hname hnames)
    · simp [get?, find?_of_plain]

lemma put (h : SameHeaders names m t o) {name : String} (hname : name ∈ names) (value : String) :
    SameHeaders names (Headers.put m name value).1 (Headers.put t name value).1
      (Headers.put o name value).1 where
  agree := (simulates_tables quiet_maps.1 quiet_maps.2 names).put h.agree hname value
  mirrors := (simulates_object quiet_maps.1).put h.mirrors hname value

end SameHeaders

namespace SameStep

variable {a : Step (HashMap String String) × Step (TreeMap String String) × Step (Object Value)}

lemma alike_tree (h : SameStep names a) : Step.Alike names Agree a.1 a.2.1 := by
  cases h with
  | request hnew => exact .request hnew.agree
  | put hname value => exact .put hname value
  | stamp => exact .stamp

lemma alike_object (h : SameStep names a) : Step.Alike names (Mirrors names) a.1 a.2.2 := by
  cases h with
  | request hnew => exact .request hnew.mirrors
  | put hname value => exact .put hname value
  | stamp => exact .stamp

end SameStep

/-- **The kinds of headers can take each other's place.**  One stamp is run over a hashed table, a
table in order and a plain object of the page's scripts, which hold the same at first, and new
requests come with headers that hold the same.  The objects keep what is written under the names of
the headers that are written, the stamp's own among them; which other names they would keep does not
matter.  After every step the three hold the same names with
the same values: the tables are listed alike, and the object has what they list as its properties
and nothing else.  The three stamps have logged the same records, and are the same. -/
theorem header_kinds_interchangeable (s : Stamp) (hs : s.names.header ∈ names)
    {m : HashMap String String} {t : TreeMap String String} {o : Object Value}
    (h : SameHeaders names m t o)
    {script : List (Step (HashMap String String) × Step (TreeMap String String) ×
      Step (Object Value))} (hscript : ∀ a ∈ script, SameStep names a) :
    ∀ before, before <+: script →
      let rm := Run.steps ⟨s, m⟩ (before.map fun a => a.1)
      let rt := Run.steps ⟨s, t⟩ (before.map fun a => a.2.1)
      let ro := Run.steps ⟨s, o⟩ (before.map fun a => a.2.2)
      SameHeaders names rm.1.headers rt.1.headers ro.1.headers ∧
      toSortedList rm.1.headers = toSortedList rt.1.headers ∧
      ro.1.headers.properties.Perm
        ((toSortedList rt.1.headers).map fun p => (p.1, .string p.2)) ∧
      (rm.2 = rt.2 ∧ rm.2 = ro.2) ∧ rm.1.stamp = rt.1.stamp ∧ rm.1.stamp = ro.1.stamp := by
  intro before hbefore rm rt ro
  have hsame : ∀ a ∈ before, SameStep names a := fun a ha => hscript a (hbefore.subset ha)
  -- the hashed table is run beside each of the other two
  have htree : List.Forall₂ (Step.Alike names Agree) (before.map fun a => a.1)
      (before.map fun a => a.2.1) := by
    rw [List.forall₂_map_left_iff, List.forall₂_map_right_iff, List.forall₂_same]
    exact fun a ha => (hsame a ha).alike_tree
  have hobject : List.Forall₂ (Step.Alike names (Mirrors names)) (before.map fun a => a.1)
      (before.map fun a => a.2.2) := by
    rw [List.forall₂_map_left_iff, List.forall₂_map_right_iff, List.forall₂_same]
    exact fun a ha => (hsame a ha).alike_object
  have hagree : Run.Alike names Agree ⟨s, m⟩ ⟨s, t⟩ := ⟨rfl, hs, h.agree⟩
  have hmirrors : Run.Alike names (Mirrors names) ⟨s, m⟩ ⟨s, o⟩ := ⟨rfl, hs, h.mirrors⟩
  obtain ⟨ht, htlog⟩ := hagree.steps (simulates_tables quiet_maps.1 quiet_maps.2 names) htree
  obtain ⟨ho, holog⟩ := hmirrors.steps (simulates_object quiet_maps.1) hobject
  have hlisted : toSortedList rm.1.headers = toSortedList rt.1.headers :=
    Agree.toSortedList_eq ht.headers
  refine ⟨⟨ht.headers, ho.headers⟩, hlisted, ?_, ⟨htlog, holog⟩, ht.stamp_eq, ho.stamp_eq⟩
  rw [← hlisted]
  exact ho.headers.properties_perm

/-- `header_kinds_interchangeable` where a second request comes with a header of its own, the token
is missing, and a stale header has the stamp's name but for the case of its letters. -/
theorem header_kinds_interchangeable_of_other_case :
    let s := (Stamp.make (Jar.parse "_csrf; a=1") {}).1
    let m := (Headers.put (∅ : HashMap String String) "x-csrf-token" "STALE").1
    let t := (Headers.put (∅ : TreeMap String String) "x-csrf-token" "STALE").1
    let o := (Headers.put ({} : Object Value) "x-csrf-token" "STALE").1
    let script : List (Step (HashMap String String) × Step (TreeMap String String) ×
        Step (Object Value)) :=
      [(.stamp, .stamp, .stamp), (.request m, .request t, .request o), (.stamp, .stamp, .stamp)]
    let rm := Run.steps ⟨s, ∅⟩ (script.map fun a => a.1)
    let rt := Run.steps ⟨s, ∅⟩ (script.map fun a => a.2.1)
    let ro := Run.steps ⟨s, {}⟩ (script.map fun a => a.2.2)
    SameHeaders {name | name ≠ "__proto__"} rm.1.headers rt.1.headers ro.1.headers ∧
      toSortedList rm.1.headers = [("X-CSRF-Token", ""), ("x-csrf-token", "STALE")] ∧
      ro.1.headers.properties.Perm
        [("X-CSRF-Token", .string ""), ("x-csrf-token", .string "STALE")] ∧
      ro.2 = [⟨.warn, "cookie '_csrf' not found; X-CSRF-Token header policy is 'empty'"⟩] := by
  intro s m t o script rm rt ro
  have hempty : SameHeaders {name | name ≠ "__proto__"} ∅ ∅ {} :=
    SameHeaders.empty (by simp [Script.heritage])
  have hscript : ∀ a ∈ script, SameStep {name | name ≠ "__proto__"} a := by
    intro a ha
    simp only [script, List.mem_cons, List.not_mem_nil, or_false] at ha
    rcases ha with rfl | rfl | rfl
    · exact .stamp
    · exact .request (hempty.put (by decide) "STALE")
    · exact .stamp
  have hheader : s.names.header ∈ {name | name ≠ "__proto__"} := by decide +kernel
  obtain ⟨hsame, hlisted, hproperties, ⟨htlog, holog⟩, -⟩ :=
    header_kinds_interchangeable s hheader hempty hscript script (List.prefix_refl script)
  have hlist : toSortedList rt.1.headers = [("X-CSRF-Token", ""), ("x-csrf-token", "STALE")] := by
    decide +kernel
  have hlog : rt.2
      = [⟨.warn, "cookie '_csrf' not found; X-CSRF-Token header policy is 'empty'"⟩] := by
    decide +kernel
  refine ⟨hsame, hlisted.trans hlist, ?_, holog.symm.trans (htlog.trans hlog)⟩
  rw [hlist] at hproperties
  exact hproperties

end PageCompanion.Token
