/-
# Every spelling of an invocation

What a command line gives for an item is its value there, and an item that is not given has its
default: `Invocation.stated` is the invocation with these fields.  A command line spells an
invocation when the items it states, each of them once, are given as the invocation has them.

Every invocation can be spelled (`exists_spelling`), and all its spellings are parsed to it,
whatever their order and whichever way each item is written; only one that has both a cookie
string and a file is refused, and the first of the two is named first
(`spelling_does_not_matter`).
-/
import PageCompanion.Preview.Report
import PageCompanion.Proofs.Preview.Options

namespace PageCompanion.Preview

/-! ## The invocation that some items state -/

/-- The value that is given for an item. -/
def valueGiven (given : List Given) (item : Item) : Option String :=
  given.findSome? fun g => if g.item = item then g.value else none

/-- What is given is as it is given, and the rest has its default. -/
def Invocation.stated (given : List Given) : Invocation where
  cookie := valueGiven given .cookie
  file := valueGiven given .file
  cookieName := (valueGiven given .cookieName).getD Token.defaultCookie
  headerName := (valueGiven given .headerName).getD Token.defaultHeader
  omitMissing := given.any (·.item = .omitMissing)
  dump := given.any (·.item = .dump)
  verbose := given.any (·.item = .verbose)

/-- A command line that spells an invocation, with the items that stand on it in their order. -/
structure Invocation.SpelledBy (i : Invocation) (given : List Given) (arguments : List String) :
    Prop where
  states : States given arguments
  once : (given.map Given.item).Nodup
  /-- Neither help nor the version is asked for. -/
  runs : ∀ g ∈ given, g.item ≠ .help ∧ g.item ≠ .version
  stated : i = Invocation.stated given

variable {given : List Given} {arguments : List String}

lemma Spells.takesValue_eq {g : Given} (h : Spells g arguments) :
    g.item.takesValue = g.value.isSome := by
  cases h with
  | flag h => exact h
  | verbose => rfl
  | attached h => exact h
  | separate h => exact h

/-- What is stated has a value exactly if it is no flag. -/
lemma States.takesValue_eq (h : States given arguments) {g : Given} (hg : g ∈ given) :
    g.item.takesValue = g.value.isSome := by
  induction h with
  | nil => exact absurd hg (by simp)
  | cons hphrase _ ih =>
    rcases List.mem_append.mp hg with hg | hg
    · cases hphrase with
      | option hspells =>
        rw [List.mem_singleton.mp hg]
        exact hspells.takesValue_eq
      | shortFile verbose _ =>
        rcases List.mem_append.mp hg with hg | hg
        · cases verbose with
          | false => exact absurd hg (by simp)
          | true =>
            rw [List.mem_singleton.mp hg]
            rfl
        · rw [List.mem_singleton.mp hg]
          rfl
      | cookie _ =>
        rw [List.mem_singleton.mp hg]
        rfl
    · exact ih hg
  | literal text =>
    rw [List.mem_singleton.mp hg]
    rfl

lemma valueGiven_concat (given : List Given) (g : Given) (item : Item) :
    valueGiven (given ++ [g]) item
      = (valueGiven given item).or (if g.item = item then g.value else none) := by
  rw [valueGiven, List.findSome?_append, valueGiven]
  simp

/-- An item that is not a flag has no value exactly if it is not given. -/
lemma valueGiven_eq_none_iff (hvalues : ∀ g ∈ given, g.item.takesValue = g.value.isSome)
    {item : Item} (hitem : item.takesValue = true) :
    valueGiven given item = none ↔ item ∉ given.map Given.item := by
  rw [valueGiven, List.findSome?_eq_none_iff, List.mem_map, not_exists]
  refine forall_congr' fun g => ?_
  rw [not_and]
  refine forall_congr' fun hg => ?_
  constructor
  · rintro hnone rfl
    have hvalue := hvalues g hg
    rw [hitem, show g.value = none by simpa using hnone] at hvalue
    exact absurd hvalue (by simp)
  · intro hne
    rw [if_neg hne]

/-- An item that is given has the value that is given with it. -/
lemma valueGiven_of_mem (honce : (given.map Given.item).Nodup) {item : Item} {value : String}
    (hg : ⟨item, some value⟩ ∈ given) : valueGiven given item = some value := by
  obtain ⟨front, back, rfl⟩ := List.append_of_mem hg
  have hfront : ∀ g ∈ front, g.item ≠ item := by
    intro g hmem heq
    rw [List.map_append] at honce
    exact List.disjoint_of_nodup_append honce (List.mem_map_of_mem hmem) (by simp [heq])
  have hnone : front.findSome? (fun g => if g.item = item then g.value else none) = none :=
    List.findSome?_eq_none_iff.mpr fun g hmem => if_neg (hfront g hmem)
  rw [valueGiven, List.findSome?_append, hnone]
  simp

/-- One item more changes its own field. -/
lemma add_stated {g : Given} (hvalues : ∀ g' ∈ given, g'.item.takesValue = g'.value.isSome)
    (hvalue : g.item.takesValue = g.value.isSome) (hnew : g.item ∉ given.map Given.item)
    (hruns : g.item ≠ .help ∧ g.item ≠ .version) :
    (Invocation.stated given).add g = Invocation.stated (given ++ [g]) := by
  cases hitem : g.item with
  | help => exact absurd hitem hruns.1
  | version => exact absurd hitem hruns.2
  | cookie | file | cookieName | headerName =>
    have htakes : g.item.takesValue = true := by rw [hitem]; rfl
    obtain ⟨value, hsome⟩ := Option.isSome_iff_exists.mp (hvalue.symm.trans htakes)
    have hnone := (valueGiven_eq_none_iff hvalues htakes).mpr hnew
    rw [hitem] at hnone
    simp [Invocation.add, Invocation.stated, valueGiven_concat, hitem, hsome, hnone]
  | omitMissing | dump | verbose =>
    simp [Invocation.add, Invocation.stated, valueGiven_concat, hitem]

/-- Adding items one by one gives each its own field. -/
lemma ofGiven_eq_stated (hvalues : ∀ g ∈ given, g.item.takesValue = g.value.isSome)
    (honce : (given.map Given.item).Nodup)
    (hruns : ∀ g ∈ given, g.item ≠ .help ∧ g.item ≠ .version) :
    Invocation.ofGiven given = Invocation.stated given := by
  induction given using List.reverseRecOn with
  | nil => rfl
  | append_singleton given g ih =>
    have hlast : g ∈ given ++ [g] := by simp
    have hfront : ∀ g' ∈ given, g' ∈ given ++ [g] := fun g' hg' => List.mem_append_left [g] hg'
    rw [List.map_append, List.map_singleton, List.nodup_append'] at honce
    rw [ofGiven_concat, ih (fun g' hg' => hvalues g' (hfront g' hg')) honce.1
      fun g' hg' => hruns g' (hfront g' hg')]
    exact add_stated (fun g' hg' => hvalues g' (hfront g' hg')) (hvalues g hlast)
      (by simpa using honce.2.2) (hruns g hlast)

/-! ## At most one source -/

lemma mem_sourcesGiven {item : Item} :
    item ∈ sourcesGiven given ↔ item ∈ given.map Given.item ∧ (item = .cookie ∨ item = .file) := by
  rw [sourcesGiven, List.mem_filter]
  simp

lemma nodup_sourcesGiven (h : (given.map Given.item).Nodup) : (sourcesGiven given).Nodup :=
  h.filter _

/-- When one source is missing there is no second one. -/
lemma sourcesGiven_ne_of_missing (honce : (given.map Given.item).Nodup) {missing other : Item}
    (hpair : ∀ item, item = .cookie ∨ item = .file → item = missing ∨ item = other)
    (hmissing : missing ∉ given.map Given.item) (first second : Item) (rest : List Item) :
    sourcesGiven given ≠ first :: second :: rest := by
  intro heq
  have hsubset : sourcesGiven given ⊆ [other] := by
    intro item hitem
    obtain ⟨hmem, hsource⟩ := mem_sourcesGiven.mp hitem
    rcases hpair item hsource with rfl | rfl
    · exact absurd hmem hmissing
    · exact List.mem_singleton_self item
  have hlength := (List.subperm_of_subset (nodup_sourcesGiven honce) hsubset).length_le
  rw [heq] at hlength
  simp at hlength

/-- When both sources are given they are the sources, in the order in which they stand. -/
lemma exists_sourcesGiven (honce : (given.map Given.item).Nodup)
    (hcookie : Item.cookie ∈ given.map Given.item) (hfile : Item.file ∈ given.map Given.item) :
    ∃ first second, sourcesGiven given = [first, second] ∧
      (first = .cookie ∧ second = .file ∨ first = .file ∧ second = .cookie) ∧
      [first, second].Sublist (given.map Given.item) := by
  have hnodup := nodup_sourcesGiven honce
  have hperm : (sourcesGiven given).Perm [.cookie, .file] := by
    refine (List.perm_ext_iff_of_nodup hnodup (by decide)).mpr fun item => ?_
    rw [mem_sourcesGiven, List.mem_pair]
    constructor
    · exact And.right
    · rintro (rfl | rfl)
      · exact ⟨hcookie, Or.inl rfl⟩
      · exact ⟨hfile, Or.inr rfl⟩
  obtain ⟨first, second, heq⟩ := List.length_eq_two.mp hperm.length_eq
  have hsublist : (sourcesGiven given).Sublist (given.map Given.item) := List.filter_sublist
  rw [heq] at hperm hnodup hsublist
  refine ⟨first, second, heq, ?_, hsublist⟩
  have hfirst := List.mem_pair.mp (hperm.subset (by simp : first ∈ [first, second]))
  have hsecond := List.mem_pair.mp (hperm.subset (by simp : second ∈ [first, second]))
  rcases hfirst with rfl | rfl <;> rcases hsecond with rfl | rfl
  · exact absurd hnodup (by decide)
  · exact Or.inl ⟨rfl, rfl⟩
  · exact Or.inr ⟨rfl, rfl⟩
  · exact absurd hnodup (by decide)

/-! ## Spellings -/

/-- The options that set every field of an invocation but the cookie string. -/
def Invocation.options (i : Invocation) : List Given :=
  (if i.omitMissing then [⟨.omitMissing, none⟩] else []) ++
    (if i.dump then [⟨.dump, none⟩] else []) ++ (if i.verbose then [⟨.verbose, none⟩] else []) ++
    [⟨.cookieName, some i.cookieName⟩, ⟨.headerName, some i.headerName⟩] ++
    (i.file.map fun name => ⟨.file, some name⟩).toList

/-- Options can be written with their values attached, in front of anything. -/
lemma exists_states {given' : List Given} {rest : List String}
    (hoptions : ∀ g ∈ given, g.item ≠ .cookie ∧ g.item.takesValue = g.value.isSome)
    (hrest : States given' rest) : ∃ arguments, States (given ++ given') arguments := by
  induction given with
  | nil => exact ⟨rest, hrest⟩
  | cons g given ih =>
    obtain ⟨arguments, hstates⟩ := ih fun g' hg' => hoptions g' (List.mem_cons_of_mem g hg')
    obtain ⟨item, value⟩ := g
    obtain ⟨hitem, hvalue⟩ := hoptions ⟨item, value⟩ List.mem_cons_self
    cases value with
    | none => exact ⟨_, hstates.option_cons (.flag hvalue)⟩
    | some value => exact ⟨_, hstates.option_cons (.attached hvalue hitem value)⟩

/-- **Every invocation can be spelled**, also one whose cookie string begins with a dash. -/
theorem exists_spelling (i : Invocation) : ∃ given arguments, i.SpelledBy given arguments := by
  have hoptions : ∀ g ∈ i.options, g.item ≠ .cookie ∧ g.item.takesValue = g.value.isSome := by
    simp [Invocation.options, or_imp, forall_and, Item.takesValue]
  obtain ⟨last, rest, hlast, hrest⟩ : ∃ (last : List Given) (rest : List String),
      last = (i.cookie.map fun text => ⟨.cookie, some text⟩).toList ∧ States last rest := by
    cases i.cookie with
    | none => exact ⟨[], [], rfl, .nil⟩
    | some text => exact ⟨_, _, rfl, .literal text⟩
  obtain ⟨arguments, hstates⟩ := exists_states hoptions hrest
  obtain ⟨cookie, file, cookieName, headerName, omitMissing, dump, verbose⟩ := i
  rw [hlast] at hstates
  refine ⟨_, arguments, hstates, ?_, ?_, ?_⟩
  · cases omitMissing <;> cases dump <;> cases verbose <;> cases file <;> cases cookie <;>
      simp [Invocation.options]
  · simp [Invocation.options, or_imp, forall_and]
  · cases omitMissing <;> cases dump <;> cases verbose <;> cases file <;> cases cookie <;>
      simp [Invocation.options, Invocation.stated, valueGiven]

/-- **Every spelling of an invocation is parsed to it**, and so they all run alike; and there are
spellings of every invocation.  When it has a cookie string, empty or not, as well as a file, all
are refused, and the one of the two that comes first is named first. -/
theorem spelling_does_not_matter (i : Invocation) (hname : i.file ≠ some "") (w : Workspace) :
    (∃ given arguments, i.SpelledBy given arguments) ∧
    ∀ (given : List Given) (arguments : List String), i.SpelledBy given arguments →
      (i.cookie = none ∨ i.file = none →
        Invocation.parse arguments = .ok i ∧ run arguments w = i.run w) ∧
      (i.cookie.isSome → i.file.isSome → ∃ first second,
        (first = .cookie ∧ second = .file ∨ first = .file ∧ second = .cookie) ∧
          [first, second].Sublist (given.map Given.item) ∧
          Invocation.parse arguments = .error (.usage (.conflict first second)) ∧
          run arguments w = ⟨2, [], [.usage (.conflict first second)]⟩) := by
  refine ⟨exists_spelling i, fun given arguments h => ?_⟩
  obtain ⟨hstates, honce, hruns, rfl⟩ := h
  have hvalues : ∀ g ∈ given, g.item.takesValue = g.value.isSome :=
    fun g hg => hstates.takesValue_eq hg
  have hjoins : Joins [] given := by
    refine ⟨fun g hg => ⟨(hruns g hg).1, (hruns g hg).2, fun hfile hempty => hname ?_⟩, honce⟩
    refine valueGiven_of_mem honce ?_
    rwa [← hfile, ← hempty]
  have hparse := parse_of_states hstates hjoins
  rw [ofGiven_eq_stated hvalues honce hruns] at hparse
  constructor
  · intro hmissing
    have hone : ∀ first second rest, sourcesGiven given ≠ first :: second :: rest := by
      rcases hmissing with hcookie | hfile
      · exact sourcesGiven_ne_of_missing honce (fun item hitem => hitem)
          ((valueGiven_eq_none_iff hvalues rfl).mp hcookie)
      · exact sourcesGiven_ne_of_missing honce (fun item hitem => hitem.symm)
          ((valueGiven_eq_none_iff hvalues rfl).mp hfile)
    have hstated : Invocation.parse arguments = .ok (Invocation.stated given) := by
      rw [hparse]
      split
      · rename_i heq
        exact absurd heq (hone _ _ _)
      · rfl
    exact ⟨hstated, by rw [run, hstated]⟩
  · intro hcookie hfile
    have hmem : ∀ item : Item, item.takesValue = true → (valueGiven given item).isSome →
        item ∈ given.map Given.item := by
      intro item hitem hsome
      by_contra hnot
      rw [(valueGiven_eq_none_iff hvalues hitem).mpr hnot] at hsome
      exact absurd hsome (by simp)
    obtain ⟨first, second, hsources, hpair, horder⟩ :=
      exists_sourcesGiven honce (hmem _ rfl hcookie) (hmem _ rfl hfile)
    have hconflict : Invocation.parse arguments = .error (.usage (.conflict first second)) := by
      rw [hparse, hsources]
      rfl
    exact ⟨first, second, hpair, horder, hconflict, by rw [run, hconflict]; rfl⟩

/-- `spelling_does_not_matter` at two spellings of one invocation, with a file whose name begins
with a dash and holds a sign, and at a file behind an empty cookie string. -/
theorem spelling_does_not_matter_of_joined_flags :
    let i : Invocation :=
      { file := some "-a=b", headerName := "-", dump := true, verbose := true }
    let joined := ["--dump", "-vf-a=b", "--header-name", "-"]
    let apart := ["--header-name=-", "-v", "--cookie-name", "_csrf", "--file=-a=b", "--dump"]
    let both := ["-v", "", "-f", "jar"]
    (i.SpelledBy [⟨.dump, none⟩, ⟨.verbose, none⟩, ⟨.file, some "-a=b"⟩, ⟨.headerName, some "-"⟩]
        joined ∧ Invocation.parse joined = .ok i) ∧
      (i.SpelledBy [⟨.headerName, some "-"⟩, ⟨.verbose, none⟩, ⟨.cookieName, some "_csrf"⟩,
          ⟨.file, some "-a=b"⟩, ⟨.dump, none⟩] apart ∧ Invocation.parse apart = .ok i) ∧
      ({ cookie := some "", file := some "jar", verbose := true } : Invocation).SpelledBy
          [⟨.verbose, none⟩, ⟨.cookie, some ""⟩, ⟨.file, some "jar"⟩] both ∧
        (run both {}).stderr
          = "error: the argument '[COOKIE]' cannot be used with '--file <FILE>'" := by
  intro i joined apart both
  have hdash : IsWord "-" := Or.inl rfl
  have hword : ∀ word : String, word.toList.head? ≠ some '-' → IsWord word := fun _ => Or.inr
  have hjoined : i.SpelledBy
      [⟨.dump, none⟩, ⟨.verbose, none⟩, ⟨.file, some "-a=b"⟩, ⟨.headerName, some "-"⟩] joined := by
    refine ⟨?_, by decide, by decide, by decide +kernel⟩
    exact .cons (.option (.flag rfl))
      (.cons (.shortFile true (.attached (by decide) (by decide)))
        (.cons (.option (.separate rfl (by decide) hdash)) .nil))
  have hapart : i.SpelledBy
      [⟨.headerName, some "-"⟩, ⟨.verbose, none⟩, ⟨.cookieName, some "_csrf"⟩,
        ⟨.file, some "-a=b"⟩, ⟨.dump, none⟩] apart := by
    refine ⟨?_, by decide, by decide, by decide +kernel⟩
    exact .cons (.option (.attached rfl (by decide) _)) (.cons (.option .verbose)
      (.cons (.option (.separate rfl (by decide) (hword _ (by decide))))
        (.cons (.option (.attached rfl (by decide) _)) (.cons (.option (.flag rfl)) .nil))))
  have hboth : ({ cookie := some "", file := some "jar", verbose := true } : Invocation).SpelledBy
      [⟨.verbose, none⟩, ⟨.cookie, some ""⟩, ⟨.file, some "jar"⟩] both := by
    refine ⟨?_, by decide, by decide, by decide +kernel⟩
    exact .cons (.option .verbose) (.cons (.cookie (hword _ (by decide)))
      (.cons (.shortFile false (.apart (hword _ (by decide)))) .nil))
  have hparse := (spelling_does_not_matter i (by decide) {}).2
  obtain ⟨first, second, hpair, horder, -, hrun⟩ :=
    ((spelling_does_not_matter _ (by decide) {}).2 _ _ hboth).2 rfl rfl
  refine ⟨⟨hjoined, ((hparse _ _ hjoined).1 (Or.inl rfl)).1⟩,
    ⟨hapart, ((hparse _ _ hapart).1 (Or.inl rfl)).1⟩, hboth, ?_⟩
  rcases hpair with ⟨rfl, rfl⟩ | ⟨rfl, rfl⟩
  · rw [hrun]
    decide +kernel
  · exact absurd horder (by decide)

end PageCompanion.Preview
