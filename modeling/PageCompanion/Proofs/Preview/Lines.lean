/-
# The lines that are printed

A run prints items: one for each cookie if the cookies are asked for, and one about the header.
Behind each item stands a line break, but an item may hold breaks of its own, since names and the
token are decoded and then printed as they are; only the values in the list of cookies are quoted.
`linesOf` is the lines that a reader sees.  They are the items exactly when neither a listed name
nor the token holds a line break (`items_are_lines_iff`), and there are as many more of them as
there are line breaks in these.
-/
import PageCompanion.Proofs.Preview.Flags
import PageCompanion.Proofs.Text.Quoting

namespace PageCompanion.Preview

open Cookie (Jar counting nameOf)
open Text (pieces trim)

/-! ## Lines and items -/

/-- The lines of a text; what stands behind its last line break is no line. -/
def linesOf (text : String) : List String :=
  (pieces '\n' text.toList).dropLast.map String.ofList

lemma length_pieces (sep : Char) (cs : List Char) :
    (pieces sep cs).length = cs.count sep + 1 := by
  induction cs with
  | nil => rfl
  | cons c cs ih =>
    by_cases hc : c = sep
    · subst hc
      rw [Text.pieces_cons_sep, List.length_cons, ih, List.count_cons_self]
    · rw [List.count_cons_of_ne hc, ← ih, pieces, if_neg hc]
      cases hp : pieces sep cs with
      | nil => exact absurd hp (Text.pieces_ne_nil sep cs)
      | cons p ps => rfl

/-- Items with a line break behind each of them are cut into what the items are cut into. -/
lemma pieces_flatMap_newline (items : List (List Char)) :
    pieces '\n' (items.flatMap (· ++ ['\n'])) = items.flatMap (pieces '\n') ++ [[]] := by
  induction items with
  | nil => rfl
  | cons item items ih =>
    rw [List.flatMap_cons, List.append_assoc, List.singleton_append, Text.pieces_append_sep, ih,
      List.flatMap_cons, List.append_assoc]

lemma linesOf_stdout (o : Outcome) :
    linesOf o.stdout
      = o.lines.flatMap fun item => (pieces '\n' item.toList).map String.ofList := by
  have hstdout : o.stdout.toList = (o.lines.map String.toList).flatMap (· ++ ['\n']) := by
    rw [Outcome.stdout, String.toList_join, List.flatMap_map, List.flatMap_map]
    congr 1
    funext item
    rw [String.toList_append]
    rfl
  rw [linesOf, hstdout, pieces_flatMap_newline, List.dropLast_concat, List.map_flatMap,
    List.flatMap_map]

/-- What is printed has a line for each item, and one more for each line break in an item. -/
lemma length_linesOf_stdout (o : Outcome) :
    (linesOf o.stdout).length = (o.lines.map fun item => item.toList.count '\n' + 1).sum := by
  simp [linesOf_stdout, List.length_flatMap, length_pieces]

/-- The items are the lines exactly when none of them holds a line break. -/
lemma linesOf_stdout_eq_iff (o : Outcome) :
    linesOf o.stdout = o.lines ↔ ∀ item ∈ o.lines, '\n' ∉ item.toList := by
  rw [linesOf_stdout]
  constructor
  · intro h item hitem
    rw [← h] at hitem
    obtain ⟨other, -, hitem⟩ := List.mem_flatMap.mp hitem
    obtain ⟨piece, hpiece, rfl⟩ := List.mem_map.mp hitem
    rw [String.toList_ofList]
    exact Text.not_mem_of_mem_pieces hpiece
  · intro h
    have hone : ∀ item ∈ o.lines, (pieces '\n' item.toList).map String.ofList = [item] := by
      intro item hitem
      rw [Text.pieces_of_not_mem (h item hitem), List.map_singleton, String.ofList_toList]
    rw [List.flatMap_congr hone, List.flatMap_singleton']

/-! ## Line breaks in an item -/

/-- The list of cookies shows no value with a line break. -/
lemma count_newline_cookieLine (name : String) (value : Option String) :
    (cookieLine (name, value)).toList.count '\n' = name.toList.count '\n' := by
  cases value with
  | none => simp [cookieLine, String.toList_append]
  | some value =>
    have hquoted := List.count_eq_zero.mpr (Text.newline_not_mem_quote Text.isHidden value.toList)
    simp [cookieLine, Text.quoted, String.toList_append, hquoted]

namespace Invocation

variable {i : Invocation} {w : Workspace} {raw : String}

/-- The item about the header: its value, which is the token if there is one, or a note that it is
left out. -/
def headerItem (i : Invocation) (raw : String) : String :=
  match valueIn? raw (trim i.cookieName) with
  | some token => valueLine (trim i.headerName) token
  | none =>
    if i.omitMissing then omissionNote (trim i.headerName) (trim i.cookieName)
    else valueLine (trim i.headerName) ""

lemma headerLine_make (i : Invocation) (raw : String) :
    headerLine (Token.Stamp.make (Jar.parse raw) i.names).1 = i.headerItem raw := by
  have htoken : (Token.Stamp.make (Jar.parse raw) i.names).1.token?
      = valueIn? raw (trim i.cookieName) := Cookie.get?_parse raw _
  rw [headerLine, Token.Stamp.value?, htoken, headerItem]
  cases valueIn? raw (trim i.cookieName) with
  | some token => rfl
  | none =>
    rw [Token.Stamp.make, names]
    cases i.omitMissing <;> rfl

/-- Of names without line breaks and the token, only the token can hold one. -/
lemma count_newline_headerItem (hcookie : '\n' ∉ i.cookieName.toList)
    (hheader : '\n' ∉ i.headerName.toList) (raw : String) :
    (i.headerItem raw).toList.count '\n'
      = ((valueIn? raw (trim i.cookieName)).getD "").toList.count '\n' := by
  have htrim {name : String} (h : '\n' ∉ name.toList) : (trim name).toList.count '\n' = 0 := by
    refine List.count_eq_zero.mpr fun hmem => h (Text.mem_of_mem_strip ?_)
    rwa [trim, String.toList_ofList] at hmem
  rw [headerItem]
  cases valueIn? raw (trim i.cookieName) with
  | some token => simp [valueLine, toString, String.toList_append, htrim hheader]
  | none =>
    cases i.omitMissing with
    | true =>
      simp [omissionNote, toString, String.toList_append, htrim hcookie, htrim hheader]
    | false => simp [valueLine, toString, String.toList_append, htrim hheader]

/-- The items that a run prints when it reads a text with these names of cookies. -/
def items (i : Invocation) (raw : String) (names : List String) : List String :=
  (if i.dump then names.map fun n => cookieLine (n, valueIn? raw n) else []) ++ [i.headerItem raw]

lemma Succeeds.lines_eq (h : i.Succeeds w raw) (hsource : i.cookie = none ∨ i.file = none) :
    (i.run w).lines = i.items raw ((Jar.parse raw).toList.map Prod.fst) := by
  rw [h.run_eq hsource, items, ← headerLine_make, ← map_cookieLine_parse]

lemma newline_not_mem_items_iff (hcookie : '\n' ∉ i.cookieName.toList)
    (hheader : '\n' ∉ i.headerName.toList) (raw : String) (names : List String) :
    (∀ item ∈ i.items raw names, '\n' ∉ item.toList) ↔
      (i.dump = true → ∀ n ∈ names, '\n' ∉ n.toList) ∧
        ∀ token ∈ valueIn? raw (trim i.cookieName), '\n' ∉ token.toList := by
  have hitem : '\n' ∉ (i.headerItem raw).toList ↔
      ∀ token ∈ valueIn? raw (trim i.cookieName), '\n' ∉ token.toList := by
    rw [← List.count_eq_zero, count_newline_headerItem hcookie hheader, List.count_eq_zero]
    cases valueIn? raw (trim i.cookieName) <;> simp
  have hname (n : String) (value : Option String) :
      '\n' ∉ (cookieLine (n, value)).toList ↔ '\n' ∉ n.toList := by
    rw [← List.count_eq_zero, count_newline_cookieLine, List.count_eq_zero]
  rw [items, List.forall_mem_append, List.forall_mem_singleton, hitem]
  cases i.dump <;> simp [hname]

end Invocation

/-- **The lines that are printed are the items exactly when no listed name and no token holds a line
break.**  A run that succeeds prints its items with a line break behind each: if the cookies are
asked for, one for each name of a cookie, in ascending order, and then the one about the header.
The names of the token's cookie and of the header being without line breaks, what is printed is cut
at its line breaks into just these items exactly when the token, and every name that is listed, are
without them too; the values in the list make no difference.  There is a line for each item and one
more for each line break in the token and in the names that are listed. -/
theorem items_are_lines_iff {arguments : List String} {i : Invocation}
    (hparse : Invocation.parse arguments = .ok i) {w : Workspace}
    (hexit : (run arguments w).exit = 0) (hcookie : '\n' ∉ i.cookieName.toList)
    (hheader : '\n' ∉ i.headerName.toList) :
    let stdout := (run arguments w).stdout
    ∃ (raw : String) (names : List String),
      i.source.text (w.contents i.source) = .ok raw ∧
      names.Pairwise (fun a b : String => a.toList < b.toList) ∧
      (∀ n, n ∈ names ↔ ∃ seg ∈ counting raw, nameOf seg = n) ∧
      let token := valueIn? raw (trim i.cookieName)
      stdout = String.join ((i.items raw names).map (· ++ "\n")) ∧
      (linesOf stdout = i.items raw names ↔
        (i.dump = true → ∀ n ∈ names, '\n' ∉ n.toList) ∧ ∀ text ∈ token, '\n' ∉ text.toList) ∧
      (linesOf stdout).length
        = (if i.dump then (names.map fun n => n.toList.count '\n' + 1).sum else 0)
          + ((token.getD "").toList.count '\n' + 1) := by
  intro stdout
  have hrun : run arguments w = i.run w := by rw [run, hparse]
  have hstdout : stdout = (i.run w).stdout := congrArg Outcome.stdout hrun
  rcases i.fails_or_succeeds w with hfails | ⟨raw, hsucceeds⟩
  · rw [hrun, exit_eq_zero_iff] at hexit
    exact absurd hfails hexit
  have hlines := hsucceeds.lines_eq (cookie_or_file_eq_none hparse)
  refine ⟨raw, (Jar.parse raw).toList.map Prod.fst, hsucceeds.text_eq,
    (Jar.parse raw).pairwise_lt_toList, fun n => Cookie.mem_names_parse_iff, ?_, ?_, ?_⟩
  · rw [hstdout, Outcome.stdout, hlines]
  · rw [hstdout, ← hlines, linesOf_stdout_eq_iff, hlines,
      Invocation.newline_not_mem_items_iff hcookie hheader]
  · rw [hstdout, length_linesOf_stdout, hlines, Invocation.items, List.map_append,
      List.sum_append, List.map_singleton, List.sum_singleton,
      Invocation.count_newline_headerItem hcookie hheader]
    cases i.dump with
    | false => simp
    | true => simp [count_newline_cookieLine, Function.comp_def]

/-- `items_are_lines_iff` at values and names with other control characters, and a value of two
lines in the list. -/
theorem items_are_lines_iff_of_quoted_break :
    let arguments := ["--dump", "--header-name= X-T", "q=%0A%0D; a%3B%09; _csrf=x%09y%0B"]
    let o := run arguments {}
    let raw := "q=%0A%0D; a%3B%09; _csrf=x%09y%0B"
    o.exit = 0 ∧ (∃ names : List String,
      (∀ n, n ∈ names ↔ ∃ seg ∈ counting raw, nameOf seg = n) ∧
      linesOf o.stdout
        = (names.map fun n => cookieLine (n, valueIn? raw n)) ++ ["X-T: x\ty\x0b"]) ∧
      linesOf o.stdout
        = ["_csrf = \"x\\ty\\u\x7bb\x7d\"", "a;\t (no value)", "q = \"\\n\\r\"",
          "X-T: x\ty\x0b"] := by
  intro arguments o raw
  have hparse : Invocation.parse arguments
      = .ok { cookie := some raw, headerName := " X-T", dump := true } := by
    decide +kernel
  have hexit : o.exit = 0 := by decide +kernel
  obtain ⟨read, names, hread, -, hnames, -, hlines, -⟩ :=
    items_are_lines_iff hparse hexit (by decide +kernel) (by decide +kernel)
  obtain rfl : raw = read := Except.ok.inj hread
  have hplain : ∀ seg ∈ counting raw, '\n' ∉ (nameOf seg).toList := by decide +kernel
  have htoken : ∀ token ∈ valueIn? raw (trim "_csrf"), '\n' ∉ token.toList := by decide +kernel
  refine ⟨hexit, ⟨names, hnames, (hlines.mpr ⟨fun _ n hn => ?_, htoken⟩).trans ?_⟩, ?_⟩
  · obtain ⟨seg, hseg, rfl⟩ := (hnames n).mp hn
    exact hplain seg hseg
  · have hitem : Invocation.headerItem { headerName := " X-T" } raw = "X-T: x\ty\x0b" := by
      decide +kernel
    exact congrArg _ (congrArg (fun item => [item]) hitem)
  · decide +kernel

/-- The name of one cookie is printed as the lines of two, so that two strings that state different
cookies are listed alike; and a token is printed as a header of its own. -/
theorem decoded_break_forges_line :
    let one := "a%20%3D%20%221%22%0Ab=2"
    let two := "a=1; b=2"
    let sent := run ["_csrf=T%0AX-Admin:%20yes"] {}
    (run ["--dump", one] {}).exit = 0 ∧ distinctNames one = 1 ∧ distinctNames two = 2 ∧
      (run ["--dump", one] {}).stdout = (run ["--dump", two] {}).stdout ∧
      linesOf (run ["--dump", one] {}).stdout = ["a = \"1\"", "b = \"2\"", "X-CSRF-Token: "] ∧
      sent.exit = 0 ∧ linesOf sent.stdout = ["X-CSRF-Token: T", "X-Admin: yes"] := by
  decide +kernel

end PageCompanion.Preview
