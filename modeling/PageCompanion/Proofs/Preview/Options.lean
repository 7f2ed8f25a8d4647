/-
# Command lines that state what is given

`Spells` is the ways to write one option: a flag by its name, a value attached to the name or in
an argument of its own.  A `Phrase` is what stands together on a command line, which is one such
spelling, the short option of a file, with the short flag in front if that is to be given as well,
or a cookie string; and `States` is one phrase after another, with at most a literal cookie string
at the end.

A command line that states different items is read to its end, and what was taken is what it
states (`readAll_of_states`); so it is parsed to the invocation of these items, unless two of them
are sources of the cookie string (`parse_of_states`).  The reader puts an option aside until the
next one comes; `Progress.AmountsTo` is what it has taken as soon as that is settled, and the
induction is on this, since only then does one phrase more add its own items.
-/
import Mathlib
import PageCompanion.Preview.CommandLine

namespace PageCompanion.Preview

/-! ## Spellings -/

/-- The name of an option behind its two dashes. -/
def Item.long : Item → String
  | cookie => ""
  | file => "file"
  | cookieName => "cookie-name"
  | headerName => "header-name"
  | omitMissing => "omit-missing"
  | dump => "dump"
  | verbose => "verbose"
  | help => "help"
  | version => "version"

/-- An argument that is taken for a value or a cookie string wherever it stands. -/
def IsWord (argument : String) : Prop :=
  argument = "-" ∨ argument.toList.head? ≠ some '-'

/-- The arguments that give an option, with its value unless it is a flag. -/
inductive Spells : Given → List String → Prop where
  | flag {item : Item} (h : item.takesValue = false) : Spells ⟨item, none⟩ ["--" ++ item.long]
  | verbose : Spells ⟨.verbose, none⟩ ["-v"]
  | attached {item : Item} (h : item.takesValue = true) (hitem : item ≠ .cookie) (value : String) :
    Spells ⟨item, some value⟩ ["--" ++ item.long ++ "=" ++ value]
  | separate {item : Item} (h : item.takesValue = true) (hitem : item ≠ .cookie) {value : String}
    (hvalue : IsWord value) : Spells ⟨item, some value⟩ ["--" ++ item.long, value]

/-- A command line that gives options, each at most once, in some order. -/
def SpellsAll (given : List Given) (arguments : List String) : Prop :=
  (given.map Given.item).Nodup ∧
    ∃ pieces, List.Forall₂ Spells given pieces ∧ arguments = pieces.flatten

/-- What stands behind the letter of the short option of a file: the rest of its argument, and the
arguments after that. -/
inductive ShortFile (name : String) : String → List String → Prop where
  | apart (h : IsWord name) : ShortFile name "" [name]
  | attached (hname : name ≠ "") (h : name.toList.head? ≠ some '=') : ShortFile name name []
  | assigned : ShortFile name ("=" ++ name) []

/-- A file, behind the flag that may stand in one argument with it. -/
def givenFile (verbose : Bool) (name : String) : List Given :=
  (if verbose then [⟨.verbose, none⟩] else []) ++ [⟨.file, some name⟩]

/-- What stands together on a command line. -/
inductive Phrase : List Given → List String → Prop where
  | option {g : Given} {arguments : List String} (h : Spells g arguments) : Phrase [g] arguments
  | shortFile (verbose : Bool) {name tail : String} {rest : List String}
    (h : ShortFile name tail rest) :
    Phrase (givenFile verbose name) (((if verbose then "-vf" else "-f") ++ tail) :: rest)
  | cookie {text : String} (h : IsWord text) : Phrase [⟨.cookie, some text⟩] [text]

/-- The items that a command line gives, in order.  A cookie string behind `--` is its end. -/
inductive States : List Given → List String → Prop where
  | nil : States [] []
  | cons {given given' : List Given} {phrase rest : List String} (h : Phrase given phrase)
    (hrest : States given' rest) : States (given ++ given') (phrase ++ rest)
  | literal (text : String) : States [⟨.cookie, some text⟩] ["--", text]

/-- An option may stand in front. -/
lemma States.option_cons {given : List Given} {rest : List String} (h : States given rest)
    {g : Given} {arguments : List String} (hg : Spells g arguments) :
    States (g :: given) (arguments ++ rest) :=
  .cons (.option hg) h

/-! ## Items that can be taken -/

/-- An option that a run is about; a request for help or for the version ends the reading, and a
file has a name. -/
def Given.Usable (g : Given) : Prop :=
  g.item ≠ .help ∧ g.item ≠ .version ∧ (g.item = .file → g.value ≠ some "")

/-- Items that can be taken one after another, behind those that were. -/
structure Joins (done given : List Given) : Prop where
  usable : ∀ g ∈ given, g.Usable
  nodup : ((done ++ given).map Given.item).Nodup

namespace Joins

variable {done given given' : List Given}

lemma left (h : Joins done (given ++ given')) : Joins done given where
  usable := fun g hg => h.usable g (List.mem_append_left _ hg)
  nodup := by
    have hnodup := h.nodup
    rw [← List.append_assoc, List.map_append] at hnodup
    exact hnodup.sublist (List.sublist_append_left _ _)

lemma right (h : Joins done (given ++ given')) : Joins (done ++ given) given' where
  usable := fun g hg => h.usable g (List.mem_append_right _ hg)
  nodup := by
    rw [List.append_assoc]
    exact h.nodup

/-- One more item may follow. -/
lemma concat (h : Joins done given) {g : Given} (hg : g.Usable)
    (hnew : g.item ∉ (done ++ given).map Given.item) : Joins done (given ++ [g]) where
  usable := by
    intro g' hg'
    rcases List.mem_append.mp hg' with hg' | hg'
    · exact h.usable g' hg'
    · rwa [List.mem_singleton.mp hg']
  nodup := by
    rw [← List.append_assoc, List.map_append]
    exact List.nodup_append'.mpr
      ⟨h.nodup, by simp, List.disjoint_singleton.mpr hnew⟩

lemma usable_head {g : Given} (h : Joins done [g]) : g.Usable :=
  h.usable g List.mem_cons_self

lemma head_new {g : Given} (h : Joins done [g]) : g.item ∉ done.map Given.item := by
  intro hmem
  have hnodup := h.nodup
  rw [List.map_append] at hnodup
  exact List.disjoint_of_nodup_append hnodup hmem (by simp)

end Joins

/-! ## What a reader has taken -/

namespace Progress

/-- Nothing is put aside, and `--` has not come by. -/
def taken (given : List Given) : Progress :=
  { given, hasCookie := given.any (·.item = .cookie) }

/-- An item is put aside that has its value. -/
def holding (given : List Given) (g : Given) : Progress :=
  { given, aside := some g, hasCookie := (given ++ [g]).any (·.item = .cookie) }

/-- What has been taken once the item put aside is taken, too; that one does not wait for its
value any more. -/
structure AmountsTo (p : Progress) (given : List Given) : Prop where
  settled : p.settle = .ok (taken given)
  complete : ∀ g ∈ p.aside, g.value.isSome

/-- Reading some arguments to their end leaves what amounts to some items. -/
def Reaches (p : Progress) (arguments : List String) (given : List Given) : Prop :=
  ∃ q, p.readAll arguments = .ok q ∧ q.AmountsTo given

lemma amountsTo_taken (given : List Given) : (taken given).AmountsTo given :=
  ⟨rfl, by simp [taken]⟩

/-- Taking the item put aside does not depend on what has come by. -/
lemma settle_with (p : Progress) (literal hasCookie : Bool) :
    { p with literal, hasCookie }.settle
      = p.settle.map fun q => { q with literal, hasCookie } := by
  obtain ⟨given, aside, _, _⟩ := p
  cases aside with
  | none => rfl
  | some g =>
    simp only [settle]
    cases accept given g <;> rfl

lemma AmountsTo.open_eq {p : Progress} {given : List Given} (h : p.AmountsTo given) :
    p.literal = false ∧ p.hasCookie = given.any (·.item = .cookie) := by
  have hsettled := settle_with p p.literal p.hasCookie
  rw [h.settled] at hsettled
  have heq := Except.ok.inj hsettled
  exact ⟨(congrArg Progress.literal heq).symm, (congrArg Progress.hasCookie heq).symm⟩

/-! ## One option -/

/-- An item is taken when it has its value, can be taken, and was not taken before. -/
lemma accept_eq_ok_iff {given given' : List Given} {g : Given} :
    accept given g = .ok given' ↔
      (g.item.takesValue = true → g.value.isSome = true) ∧ g.Usable ∧
        g.item ∉ given.map Given.item ∧ given' = given ++ [g] := by
  constructor
  · intro h
    simp only [accept, fail] at h
    split_ifs at h with hvalue hhelp hversion hrepeated hempty
    refine ⟨fun htakes => ?_, ⟨hhelp, hversion, fun hfile hname => hempty ⟨hfile, hname⟩⟩, ?_,
      (Except.ok.inj h).symm⟩
    · rw [htakes, Bool.true_and] at hvalue
      exact Option.isSome_iff_ne_none.mpr (by simpa using hvalue)
    · simpa using hrepeated
  · rintro ⟨hvalue, ⟨hhelp, hversion, hempty⟩, hnew, rfl⟩
    rw [accept, if_neg, if_neg hhelp, if_neg hversion, if_neg, if_neg]
    · rintro ⟨hfile, hname⟩
      exact hempty hfile hname
    · simpa using hnew
    · rw [Bool.and_eq_true, not_and, Option.isNone_iff_eq_none]
      intro htakes
      exact Option.isSome_iff_ne_none.mp (hvalue htakes)

lemma accept_eq {given : List Given} {g : Given} (hvalue : g.item.takesValue = g.value.isSome)
    (husable : g.Usable) (hnew : g.item ∉ given.map Given.item) :
    accept given g = .ok (given ++ [g]) :=
  accept_eq_ok_iff.mpr ⟨fun htakes => hvalue ▸ htakes, husable, hnew, rfl⟩

lemma AmountsTo.take {p : Progress} {given : List Given} (h : p.AmountsTo given) {g : Given}
    (hvalue : g.item.takesValue = g.value.isSome) (hitem : g.item ≠ .cookie)
    (hjoins : Joins given [g]) : p.take g = .ok (taken (given ++ [g])) := by
  rw [Progress.take, h.settled]
  simp only [bind, Except.bind, taken, accept_eq hvalue hjoins.usable_head hjoins.head_new, pure,
    Except.pure]
  simp [hitem]

lemma AmountsTo.defer {p : Progress} {given : List Given} (h : p.AmountsTo given) (g : Given) :
    p.defer g = .ok { taken given with aside := some g } := by
  rw [Progress.defer, h.settled]
  rfl

/-- An item that is put aside with its value is taken at the end, wherever it came from. -/
lemma settle_holding {given : List Given} {g : Given}
    (hvalue : g.item.takesValue = g.value.isSome) (hjoins : Joins given [g]) :
    (holding given g).settle = .ok (taken (given ++ [g])) := by
  rw [settle, holding]
  simp only [accept_eq hvalue hjoins.usable_head hjoins.head_new]
  rfl

lemma amountsTo_holding {given : List Given} {item : Item} (hitem : item.takesValue = true)
    {value : String} (hjoins : Joins given [⟨item, some value⟩]) :
    (holding given ⟨item, some value⟩).AmountsTo (given ++ [⟨item, some value⟩]) where
  settled := settle_holding (by simpa using hitem) hjoins
  complete := by simp [holding]

lemma ofLong?_long {item : Item} (h : item ≠ .cookie) : Item.ofLong? item.long = some item := by
  cases item with
  | cookie => exact absurd rfl h
  | _ => rfl

lemma not_mem_long (item : Item) : '=' ∉ item.long.toList := by
  cases item <;> simp [Item.long]

lemma read_long {p : Progress} (hp : p.literal = false) {text : List Char} (htext : text ≠ []) :
    p.read (String.ofList ('-' :: '-' :: text)) = p.readLong text := by
  rw [read, hp, if_neg (by simp), String.toList_ofList]
  cases text with
  | nil => exact absurd rfl htext
  | cons c text => rfl

lemma long_ne_nil {item : Item} (h : item ≠ .cookie) : item.long.toList ≠ [] := by
  cases item with
  | cookie => exact absurd rfl h
  | _ => simp [Item.long]

/-- A long option without an attached value. -/
lemma read_name {p : Progress} (hp : p.literal = false) {item : Item} (hitem : item ≠ .cookie) :
    p.read ("--" ++ item.long)
      = if item.takesValue then p.defer ⟨item, none⟩ else p.take ⟨item, none⟩ := by
  have hname : "--" ++ item.long = String.ofList ('-' :: '-' :: item.long.toList) := by
    simp [← String.toList_inj]
  rw [hname, read_long hp (long_ne_nil hitem), readLong,
    Text.firstCut_of_not_mem (not_mem_long item)]
  simp only [String.ofList_toList, ofLong?_long hitem, Option.map_none]
  cases item.takesValue <;> rfl

/-- A long option with its value attached. -/
lemma read_attached {p : Progress} (hp : p.literal = false) {item : Item}
    (h : item.takesValue = true) (hitem : item ≠ .cookie) (value : String) :
    p.read ("--" ++ item.long ++ "=" ++ value) = p.take ⟨item, some value⟩ := by
  have hname : "--" ++ item.long ++ "=" ++ value
      = String.ofList ('-' :: '-' :: (item.long.toList ++ '=' :: value.toList)) := by
    simp [← String.toList_inj]
  rw [hname, read_long hp (by simp), readLong,
    Text.firstCut_append_sep _ (not_mem_long item)]
  simp only [String.ofList_toList, ofLong?_long hitem, Option.map_some, h]

/-- A word is no option. -/
lemma read_word {p : Progress} (hp : p.literal = false) {word : String} (h : IsWord word) :
    p.read word = p.readWord word := by
  rw [read, hp, if_neg (by simp)]
  rcases h with rfl | h
  · rfl
  · split
    · simp_all
    · simp_all
    · simp_all
    · rfl

lemma readAll_cons (p : Progress) (argument : String) (rest : List String) :
    p.readAll (argument :: rest) = (p.read argument).bind fun q => q.readAll rest := by
  rw [readAll]
  cases p.read argument <;> rfl

lemma readAll_append (p : Progress) (a b : List String) :
    p.readAll (a ++ b) = (p.readAll a).bind fun q => q.readAll b := by
  induction a generalizing p with
  | nil => rfl
  | cons argument a ih =>
    rw [List.cons_append, readAll_cons, readAll_cons]
    cases p.read argument with
    | error stop => rfl
    | ok q => exact ih q

/-- An argument that takes an item needs no further one. -/
lemma reaches_singleton {p q : Progress} {argument : String} {given : List Given}
    (hread : p.read argument = .ok q) (hq : q.AmountsTo given) : p.Reaches [argument] given := by
  refine ⟨q, ?_, hq⟩
  rw [readAll_cons, hread]
  rfl

/-- An option that waits for its value takes the word that comes next. -/
lemma reaches_value {given : List Given} {item : Item} (hitem : item.takesValue = true)
    (hcookie : item ≠ .cookie) {value : String} (hword : IsWord value)
    (hjoins : Joins given [⟨item, some value⟩]) :
    ({ taken given with aside := some ⟨item, none⟩ } : Progress).Reaches [value]
      (given ++ [⟨item, some value⟩]) := by
  refine reaches_singleton ?_ (amountsTo_holding hitem hjoins)
  rw [read_word rfl hword]
  simp [readWord, taken, holding, hcookie]

section Reading

variable {p : Progress} {given : List Given} (h : p.AmountsTo given)
include h

/-- Reading the arguments that give an option adds that option. -/
lemma AmountsTo.reaches_option {g : Given} {arguments : List String}
    (hspells : Spells g arguments) (hjoins : Joins given [g]) :
    p.Reaches arguments (given ++ [g]) := by
  have hliteral : p.literal = false := h.open_eq.1
  cases hspells with
  | @flag item hflag =>
    have hitem : item ≠ .cookie := by
      rintro rfl
      exact absurd hflag (by decide)
    refine reaches_singleton ?_ (amountsTo_taken _)
    rw [read_name hliteral hitem, hflag, if_neg (by simp)]
    exact h.take (by simpa using hflag) hitem hjoins
  | verbose =>
    refine reaches_singleton ?_ (amountsTo_taken _)
    have hread : p.read "-v" = p.readShort ['v'] := by
      rw [read, hliteral]
      rfl
    rw [hread, readShort]
    simp only [Item.ofShort?, Item.takesValue, h.take rfl (by decide) hjoins]
    rfl
  | @attached item hvalue hitem value =>
    refine reaches_singleton ?_ (amountsTo_taken _)
    rw [read_attached hliteral hvalue hitem]
    exact h.take (by simpa using hvalue) hitem hjoins
  | @separate item hvalue hitem value hword =>
    obtain ⟨q, hq, hamounts⟩ := reaches_value hvalue hitem hword hjoins
    refine ⟨q, ?_, hamounts⟩
    rw [readAll_cons, read_name hliteral hitem, hvalue, if_pos rfl, h.defer]
    exact hq

/-- Reading the short option of a file, wherever its letter stands. -/
lemma AmountsTo.readShort_file {name tail : String} {rest : List String}
    (hfile : ShortFile name tail rest) (hjoins : Joins given [⟨.file, some name⟩]) :
    ∃ q, p.readShort ('f' :: tail.toList) = .ok q ∧
      q.Reaches rest (given ++ [⟨.file, some name⟩]) := by
  have htake : p.take ⟨.file, some name⟩ = .ok (taken (given ++ [⟨.file, some name⟩])) :=
    h.take rfl (by simp) hjoins
  cases hfile with
  | apart hword => exact ⟨_, h.defer _, reaches_value rfl (by decide) hword hjoins⟩
  | attached hname hhead =>
    refine ⟨taken (given ++ [⟨.file, some name⟩]), ?_, _, rfl, amountsTo_taken _⟩
    obtain ⟨c, cs, hcs⟩ := List.exists_cons_of_ne_nil (mt String.toList_eq_nil_iff.mp hname)
    have hc : c ≠ '=' := by
      rintro rfl
      exact hhead (by rw [hcs]; rfl)
    have hname' : String.ofList (c :: cs) = name := by rw [← hcs, String.ofList_toList]
    rw [← htake, ← hname', String.toList_ofList]
    simp [readShort, Item.ofShort?, Item.takesValue, hc]
  | assigned =>
    refine ⟨taken (given ++ [⟨.file, some name⟩]), ?_, _, rfl, amountsTo_taken _⟩
    rw [← htake, String.toList_append]
    simp [readShort, Item.ofShort?, Item.takesValue]

/-- Reading a cookie string, when there was none, puts it aside. -/
lemma AmountsTo.readWord_cookie (hnew : Item.cookie ∉ given.map Given.item) (literal : Bool)
    (text : String) :
    { p with literal }.readWord text
      = .ok { holding given ⟨.cookie, some text⟩ with literal } := by
  have hcookie : p.hasCookie = false := by
    rw [h.open_eq.2]
    simpa using hnew
  rw [readWord]
  split
  · rename_i item haside
    exact absurd (h.complete _ haside) (by simp)
  · have hsettle := settle_with p literal true
    rw [h.settled] at hsettle
    rw [if_neg (by simpa using hcookie), Progress.defer]
    simp [hsettle, Except.map, taken, holding, bind, Except.bind, pure, Except.pure]

/-- **One phrase more adds its own items.** -/
lemma AmountsTo.reaches_phrase {more : List Given} {arguments : List String}
    (hphrase : Phrase more arguments) (hjoins : Joins given more) :
    p.Reaches arguments (given ++ more) := by
  have hliteral : p.literal = false := h.open_eq.1
  cases hphrase with
  | option hspells => exact h.reaches_option hspells hjoins
  | @shortFile verbose name tail rest hfile =>
    cases verbose with
    | false =>
      obtain ⟨q, hq, r, hr, hamounts⟩ := h.readShort_file hfile hjoins
      refine ⟨r, ?_, hamounts⟩
      have hread : p.read ("-f" ++ tail) = p.readShort ('f' :: tail.toList) := by
        rw [read, hliteral, String.toList_append]
        rfl
      rw [readAll_cons, if_neg (by simp), hread, hq]
      exact hr
    | true =>
      have htake : p.take ⟨.verbose, none⟩ = .ok (taken (given ++ [⟨.verbose, none⟩])) :=
        h.take rfl (by decide) hjoins.left
      obtain ⟨q, hq, r, hr, hamounts⟩ :=
        (amountsTo_taken (given ++ [⟨.verbose, none⟩])).readShort_file hfile hjoins.right
      refine ⟨r, ?_, by simpa [givenFile] using hamounts⟩
      have hread : p.read ("-vf" ++ tail) = p.readShort ('v' :: 'f' :: tail.toList) := by
        rw [read, hliteral, String.toList_append]
        rfl
      rw [readAll_cons, if_pos rfl, hread, readShort]
      simp only [Item.ofShort?, Item.takesValue, htake, Bool.false_eq_true, if_false, hq]
      exact hr
  | @cookie text hword =>
    refine reaches_singleton ?_ (amountsTo_holding rfl hjoins)
    rw [read_word hliteral hword]
    have hopen : { p with literal := false } = p := by rw [← hliteral]
    have hread := h.readWord_cookie hjoins.head_new false text
    rw [hopen] at hread
    exact hread

end Reading

/-! ## A whole command line -/

/-- **What is taken is what is stated.** -/
theorem readAll_of_states {given : List Given} {arguments : List String}
    (hstates : States given arguments) {done : List Given} (hjoins : Joins done given)
    {p : Progress} (hp : p.AmountsTo done) :
    ∃ q final, p.readAll arguments = .ok q ∧ q.settle = .ok final ∧
      final.given = done ++ given := by
  induction hstates generalizing done p with
  | nil => exact ⟨p, _, rfl, hp.settled, by simp [taken]⟩
  | @cons given given' phrase rest hphrase _ ih =>
    obtain ⟨q, hq, hamounts⟩ := hp.reaches_phrase hphrase hjoins.left
    obtain ⟨r, final, hr, hfinal, hgiven⟩ := ih hjoins.right hamounts
    refine ⟨r, final, ?_, hfinal, by rw [hgiven, List.append_assoc]⟩
    rw [readAll_append, hq]
    exact hr
  | literal text =>
    -- everything behind `--` is literal, so that what the text begins with does not matter
    have hmark : p.read "--" = .ok { p with literal := true } := by
      rw [read, hp.open_eq.1]
      rfl
    have hword : ({ p with literal := true } : Progress).read text
        = .ok { holding done ⟨.cookie, some text⟩ with literal := true } := by
      rw [read, if_pos rfl]
      exact hp.readWord_cookie hjoins.head_new true text
    refine ⟨{ holding done ⟨.cookie, some text⟩ with literal := true },
      { taken (done ++ [⟨.cookie, some text⟩]) with literal := true }, ?_, ?_, rfl⟩
    · rw [readAll_cons, hmark, Except.bind, readAll_cons, hword]
      rfl
    · rw [settle_with _ true _, settle_holding rfl hjoins]
      rfl

end Progress

/-! ## The invocation that is stated -/

lemma Spells.item_ne_cookie {g : Given} {arguments : List String} (h : Spells g arguments) :
    g.item ≠ .cookie := by
  cases h with
  | flag hflag =>
    rintro rfl
    exact absurd hflag (by decide)
  | verbose => decide
  | attached _ hitem => exact hitem
  | separate _ hitem => exact hitem

lemma SpellsAll.item_ne_cookie {given : List Given} {arguments : List String}
    (h : SpellsAll given arguments) {g : Given} (hg : g ∈ given) : g.item ≠ .cookie := by
  obtain ⟨-, pieces, hpieces, -⟩ := h
  induction hpieces with
  | nil => exact absurd hg (by simp)
  | cons hfirst _ ih =>
    rcases List.mem_cons.mp hg with rfl | hg
    · exact hfirst.item_ne_cookie
    · exact ih hg

/-- What stands behind options may follow them. -/
lemma SpellsAll.states_append {given given' : List Given} {options rest : List String}
    (h : SpellsAll given options) (hrest : States given' rest) :
    States (given ++ given') (options ++ rest) := by
  obtain ⟨-, pieces, hpieces, rfl⟩ := h
  induction hpieces with
  | nil => exact hrest
  | @cons g piece given pieces hg _ ih =>
    rw [List.flatten_cons, List.append_assoc]
    exact ih.option_cons hg

lemma SpellsAll.states {given : List Given} {options : List String} (h : SpellsAll given options) :
    States given options := by
  simpa using h.states_append .nil

lemma sourcesGiven_eq_nil {given : List Given}
    (h : ∀ g ∈ given, g.item ≠ .cookie ∧ g.item ≠ .file) : sourcesGiven given = [] := by
  rw [sourcesGiven, List.filter_eq_nil_iff]
  intro item hitem
  obtain ⟨g, hg, rfl⟩ := List.mem_map.mp hitem
  simpa using h g hg

lemma sourcesGiven_concat {given : List Given}
    (h : ∀ g ∈ given, g.item ≠ .cookie ∧ g.item ≠ .file) (g : Given) :
    sourcesGiven (given ++ [g]) = sourcesGiven [g] := by
  have hnone := sourcesGiven_eq_nil h
  rw [sourcesGiven] at hnone
  rw [sourcesGiven, List.map_append, List.filter_append, hnone, List.nil_append, sourcesGiven]

/-- **A command line is parsed to the items it states**, of which one can be a source. -/
theorem parse_of_states {given : List Given} {arguments : List String}
    (h : States given arguments) (hjoins : Joins [] given) :
    Invocation.parse arguments =
      match sourcesGiven given with
      | first :: second :: _ => Progress.fail (.conflict first second)
      | _ => .ok (Invocation.ofGiven given) := by
  obtain ⟨q, final, hread, hsettle, hgiven⟩ :=
    Progress.readAll_of_states h hjoins (Progress.amountsTo_taken [])
  have hstart : ({} : Progress) = Progress.taken [] := rfl
  rw [Invocation.parse, hstart, hread]
  simp only [bind, Except.bind, hsettle, hgiven, List.nil_append]
  rfl

lemma ofGiven_concat (given : List Given) (g : Given) :
    Invocation.ofGiven (given ++ [g]) = (Invocation.ofGiven given).add g := by
  rw [Invocation.ofGiven, List.foldl_append, Invocation.ofGiven]
  rfl

/-- Options that say nothing of the source of the cookie string leave it open. -/
lemma source_ofGiven {given : List Given}
    (h : ∀ g ∈ given, g.item ≠ .cookie ∧ g.item ≠ .file) :
    (Invocation.ofGiven given).cookie = none ∧ (Invocation.ofGiven given).file = none := by
  induction given using List.reverseRecOn with
  | nil => exact ⟨rfl, rfl⟩
  | append_singleton given g ih =>
    obtain ⟨hcookie, hfile⟩ := ih fun g' hg' => h g' (List.mem_append_left _ hg')
    obtain ⟨hg, hg'⟩ := h g (by simp)
    rw [ofGiven_concat, Invocation.add]
    cases hitem : g.item with
    | cookie => exact absurd hitem hg
    | file => exact absurd hitem hg'
    | _ => exact ⟨hcookie, hfile⟩

/-- What one item alone decides is decided by whether that item is given. -/
lemma any_ofGiven {f : Invocation → Bool} {item : Item} (hempty : f {} = false)
    (hadd : ∀ i g, f (Invocation.add i g) = (f i || decide (g.item = item))) (given : List Given) :
    f (Invocation.ofGiven given) = given.any (·.item = item) := by
  induction given using List.reverseRecOn with
  | nil => exact hempty
  | append_singleton given g ih =>
    rw [ofGiven_concat, hadd, ih, List.any_append]
    simp

/-- The records are asked for by the option that says so. -/
lemma verbose_ofGiven (given : List Given) :
    (Invocation.ofGiven given).verbose = given.any (·.item = .verbose) := by
  refine any_ofGiven rfl (fun i g => ?_) given
  cases hitem : g.item <;> simp [Invocation.add, hitem]

section Sources

variable {given : List Given} {options : List String}

/-- **Options alone** state an invocation that reads standard input. -/
theorem parse_options (h : SpellsAll given options) (husable : ∀ g ∈ given, g.Usable)
    (hfile : ∀ g ∈ given, g.item ≠ .file) :
    Invocation.parse options = .ok (Invocation.ofGiven given) := by
  rw [parse_of_states h.states ⟨husable, h.1⟩,
    sourcesGiven_eq_nil fun g hg => ⟨h.item_ne_cookie hg, hfile g hg⟩]

/-- Behind options that name no source, one may follow. -/
lemma parse_options_append (h : SpellsAll given options) (husable : ∀ g ∈ given, g.Usable)
    (hfile : ∀ g ∈ given, g.item ≠ .file) {g : Given} (hg : g.Usable)
    (hsource : g.item = .file ∨ g.item = .cookie) {rest : List String} (hrest : States [g] rest) :
    Invocation.parse (options ++ rest) = .ok ((Invocation.ofGiven given).add g) := by
  have hnone : ∀ g' ∈ given, g'.item ≠ .cookie ∧ g'.item ≠ .file :=
    fun g' hg' => ⟨h.item_ne_cookie hg', hfile g' hg'⟩
  have hnew : g.item ∉ given.map Given.item := by
    intro hmem
    obtain ⟨g', hg', hitem⟩ := List.mem_map.mp hmem
    rcases hsource with heq | heq
    · exact (hnone g' hg').2 (hitem.trans heq)
    · exact (hnone g' hg').1 (hitem.trans heq)
  have hjoins : Joins [] given := ⟨husable, h.1⟩
  have hone : sourcesGiven [g] = [g.item] := by
    rcases hsource with heq | heq <;> simp [sourcesGiven, heq]
  rw [parse_of_states (h.states_append hrest) (hjoins.concat hg hnew), sourcesGiven_concat hnone,
    hone, ofGiven_concat]

/-- **A file behind the options** is what is read instead. -/
theorem parse_options_file (h : SpellsAll given options) (husable : ∀ g ∈ given, g.Usable)
    (hfile : ∀ g ∈ given, g.item ≠ .file) {name : String} (hname : name ≠ "") :
    Invocation.parse (options ++ ["--file=" ++ name])
      = .ok { Invocation.ofGiven given with file := some name } := by
  have hspells : Spells ⟨.file, some name⟩ ["--file=" ++ name] :=
    Spells.attached rfl (by decide) name
  have hstates : States [⟨.file, some name⟩] ["--file=" ++ name] := .cons (.option hspells) .nil
  exact parse_options_append h husable hfile ⟨by simp, by simp, fun _ => by simpa using hname⟩
    (Or.inl rfl) hstates

/-- **A cookie string behind `--`** is what is read instead, whatever it begins with. -/
theorem parse_options_cookie (h : SpellsAll given options) (husable : ∀ g ∈ given, g.Usable)
    (hfile : ∀ g ∈ given, g.item ≠ .file) (text : String) :
    Invocation.parse (options ++ ["--", text])
      = .ok { Invocation.ofGiven given with cookie := some text } :=
  parse_options_append h husable hfile ⟨by simp, by simp, by simp⟩ (Or.inr rfl) (.literal text)

end Sources

end PageCompanion.Preview
