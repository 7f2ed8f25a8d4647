/-
# What a cookie string means

A cookie string is cut at every `;`, and a segment of it counts when the text in front of its
first `=` is more than blanks.  `Jar.parse` gives a jar that answers by the segments that count:
the last one of a name decides about the name.
-/
import PageCompanion.Proofs.Cookie.Entries
import PageCompanion.Proofs.Text.Cutting
import PageCompanion.Proofs.Text.Decoding
import PageCompanion.Proofs.Text.Encoding
import PageCompanion.Proofs.Text.Trimming

namespace PageCompanion.Cookie

open Text

/-- The text of a segment in front of its first `=`, or all of it. -/
def nameText (seg : List Char) : List Char :=
  seg.takeWhile (· != '=')

/-- The text of a segment behind its first `=`. -/
def valueText? (seg : List Char) : Option (List Char) :=
  if '=' ∈ seg then some (seg.dropWhile (· != '=')).tail else none

/-- A segment counts when its name is more than blanks. -/
def Counts (seg : List Char) : Prop := strip (nameText seg) ≠ []

instance : DecidablePred Counts := fun seg =>
  inferInstanceAs (Decidable (strip (nameText seg) ≠ []))

def nameOf (seg : List Char) : String :=
  Percent.decode (String.ofList (strip (nameText seg)))

def valueOf (seg : List Char) : Option String :=
  (valueText? seg).map fun text => Percent.decode (String.ofList (strip text))

/-- The segments of a cookie string that count, in order. -/
def counting (raw : String) : List (List Char) :=
  (raw.toList.splitOn ';').filter fun seg => Counts seg

/-- The last segment of a name that counts. -/
def lastNamed? (raw : String) (n : String) : Option (List Char) :=
  (counting raw).reverse.find? (nameOf · == n)

/-! ## The segments that count -/

lemma nameOf_ne_empty_iff {seg : List Char} : nameOf seg ≠ "" ↔ Counts seg := by
  rw [nameOf, Ne, decode_eq_empty_iff, Counts, Ne, String.ofList_eq_empty_iff]

lemma ofText?_eq_ite (seg : List Char) :
    Segment.ofText? seg = if Counts seg then some ⟨nameOf seg, valueOf seg⟩ else none := by
  have hname : readPart (firstCut '=' seg).1 = nameOf seg := by
    rw [firstCut_fst, readPart, nameOf, nameText]
  have hvalue : (firstCut '=' seg).2.map readPart = valueOf seg := by
    rw [firstCut_snd, valueOf, valueText?]
    rfl
  rw [Segment.ofText?]
  simp only [hname, hvalue]
  by_cases h : Counts seg
  · rw [if_neg (nameOf_ne_empty_iff.mpr h), if_pos h]
  · rw [if_pos (by simpa using mt nameOf_ne_empty_iff.mp h), if_neg h]

/-- The cookies that are read are those of the segments that count. -/
lemma segments_eq_map_counting (raw : String) :
    segments raw = (counting raw).map fun seg => ⟨nameOf seg, valueOf seg⟩ := by
  rw [segments, pieces_eq_splitOn, counting, ← List.filterMap_eq_map, List.filterMap_filter]
  congr 1
  funext seg
  simp [ofText?_eq_ite]

/-- The entry of a name is what the last segment of that name states. -/
lemma getElem?_parse (raw n : String) :
    (Jar.parse raw).entries[n]? = (lastNamed? raw n).map valueOf := by
  rw [Jar.parse, segments_eq_map_counting, Jar.getElem?_ofSegments, ← List.map_reverse,
    List.find?_map, Option.map_map, lastNamed?]
  rfl

lemma isSome_lastNamed?_iff {raw n : String} :
    (lastNamed? raw n).isSome ↔ ∃ seg ∈ counting raw, nameOf seg = n := by
  simp [lastNamed?, List.find?_isSome]

/-! ## The jar of a cookie string -/

lemma contains_parse_iff {raw n : String} :
    (Jar.parse raw).contains n = true ↔ ∃ seg ∈ counting raw, nameOf seg = n := by
  rw [Jar.contains_eq_isSome, getElem?_parse, Option.isSome_map, isSome_lastNamed?_iff]

lemma get?_parse (raw n : String) :
    (Jar.parse raw).get? n = (lastNamed? raw n).bind valueOf := by
  rw [Jar.get?, getElem?_parse]
  cases lastNamed? raw n <;> rfl

lemma mem_names_parse_iff {raw n : String} :
    n ∈ (Jar.parse raw).toList.map Prod.fst ↔ ∃ seg ∈ counting raw, nameOf seg = n := by
  rw [← isSome_lastNamed?_iff, ← Option.isSome_map (f := valueOf), ← getElem?_parse,
    Option.isSome_iff_exists, List.mem_map]
  constructor
  · rintro ⟨⟨m, v⟩, hmem, rfl⟩
    exact ⟨v, Jar.mem_toList_iff.mp hmem⟩
  · rintro ⟨v, hv⟩
    exact ⟨(n, v), Jar.mem_toList_iff.mpr hv, rfl⟩

lemma nodup_names (jar : Jar) : (jar.toList.map Prod.fst).Nodup :=
  jar.pairwise_lt_toList.imp ne_of_lt

/-- Every name is counted once, however many segments state it. -/
lemma size_parse (raw : String) :
    (Jar.parse raw).size = ((counting raw).map nameOf).toFinset.card := by
  -- the jar lists the names that count, each once
  have hnames : ((counting raw).map nameOf).toFinset
      = ((Jar.parse raw).toList.map Prod.fst).toFinset := by
    ext n
    rw [List.mem_toFinset, List.mem_toFinset, mem_names_parse_iff, List.mem_map]
  rw [hnames, List.toFinset_card_of_nodup (nodup_names _), List.length_map, Jar.length_toList]

lemma isEmpty_parse_iff {raw : String} :
    (Jar.parse raw).isEmpty = true ↔ counting raw = [] := by
  have hsize : (Jar.parse raw).isEmpty = ((Jar.parse raw).size == 0) :=
    Std.ExtTreeMap.isEmpty_eq_size_beq_zero
  rw [hsize, beq_iff_eq, size_parse, Finset.card_eq_zero, List.toFinset_eq_empty_iff,
    List.map_eq_nil_iff]

/-- **A jar answers by the last segment of each name.**  What counts, what a segment states and
which segment is the last of a name is said by `counting`, `nameOf`, `valueOf` and
`lastNamed?`; the list of a jar is in ascending order of the bytes of the names, which is the
order of their code points. -/
theorem parse_meaning (raw : String) :
    (∀ n, (Jar.parse raw).contains n = true ↔ ∃ seg ∈ counting raw, nameOf seg = n) ∧
    (∀ n, (Jar.parse raw).get? n = (lastNamed? raw n).bind valueOf) ∧
    (Jar.parse raw).size = ((counting raw).map nameOf).toFinset.card ∧
    ((Jar.parse raw).isEmpty = true ↔ counting raw = []) ∧
    (∀ n v, (n, v) ∈ (Jar.parse raw).toList ↔ (lastNamed? raw n).map valueOf = some v) ∧
    ((Jar.parse raw).toList.map Prod.fst).Nodup ∧
    ((Jar.parse raw).toList.map Prod.fst).Pairwise (fun a b => bytesOfText a < bytesOfText b) ∧
    ((Jar.parse raw).toList.map Prod.fst).Pairwise (fun a b => a.toList < b.toList) := by
  have hsorted := (Jar.parse raw).pairwise_lt_toList
  refine ⟨fun n => contains_parse_iff, get?_parse raw, size_parse raw, isEmpty_parse_iff, ?_,
    nodup_names _, ?_, ?_⟩
  · intro n v
    rw [Jar.mem_toList_iff, getElem?_parse]
  · exact hsorted.imp fun h => bytesOfText_lt_iff.mpr h
  · exact hsorted.imp fun h => h

end PageCompanion.Cookie
