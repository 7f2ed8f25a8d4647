/-
# A flag in front of a command line

A flag that does not stand on a command line can be put in front of it: what was parsed before is
parsed still, and the flag is set besides (`parse_verbose_cons` and `parse_dump_cons`).  The reader
takes items one after another and looks back at them only to see whether an item is repeated.  So
each of its operations goes on in the same way when an item has been taken before that it does not
come by itself; `Persists` says so, and what operations do one after another persists when they do.
-/
import PageCompanion.Proofs.Preview.Spellings

namespace PageCompanion.Preview

open Text (firstCut)

namespace Progress

/-- The same progress with one more item, which was taken before all others. -/
def carry (p : Progress) (g : Given) : Progress :=
  { p with given := g :: p.given }

/-- The operation only adds to the items taken, and does the same when an item was taken before that
is not among those. -/
def Persists (f : Progress → Except Stop Progress) : Prop :=
  ∀ p q, f p = .ok q → p.given <+: q.given ∧
    ∀ g : Given, g.item ∉ q.given.map Given.item → f (p.carry g) = .ok (q.carry g)

lemma persists_ok : Persists .ok := by
  intro p q h
  rw [← Except.ok.inj h]
  exact ⟨List.prefix_refl _, fun _ _ => rfl⟩

lemma persists_fail (fault : UsageFault) : Persists fun _ => fail fault :=
  fun _ _ h => absurd h (by simp [fail])

lemma Persists.bind {f k : Progress → Except Stop Progress} (h : Persists f) (h' : Persists k) :
    Persists fun p => (f p).bind k := by
  intro p q hq
  cases hm : f p with
  | error stop =>
    simp only [hm, Except.bind] at hq
    exact absurd hq (by simp)
  | ok m =>
    simp only [hm, Except.bind] at hq
    obtain ⟨hgiven, hcarry⟩ := h p m hm
    obtain ⟨hgiven', hcarry'⟩ := h' m q hq
    refine ⟨hgiven.trans hgiven', fun g hg => ?_⟩
    have hg' : g.item ∉ m.given.map Given.item :=
      fun hmem => hg ((hgiven'.map Given.item).subset hmem)
    simp only [hcarry g hg', Except.bind]
    exact hcarry' g hg

/-! ## Taking items -/

/-- Whether an item is taken does not depend on another one. -/
lemma accept_cons {given given' : List Given} {g first : Given} (h : accept given g = .ok given')
    (hfirst : first.item ∉ given'.map Given.item) :
    accept (first :: given) g = .ok (first :: given') := by
  obtain ⟨hvalue, husable, hnew, rfl⟩ := accept_eq_ok_iff.mp h
  refine accept_eq_ok_iff.mpr ⟨hvalue, husable, ?_, rfl⟩
  rw [List.map_cons, List.mem_cons, not_or]
  refine ⟨fun heq => hfirst ?_, hnew⟩
  rw [List.map_append, ← heq]
  simp

lemma prefix_of_accept {given given' : List Given} {g : Given} (h : accept given g = .ok given') :
    given <+: given' := by
  obtain ⟨-, -, -, rfl⟩ := accept_eq_ok_iff.mp h
  exact List.prefix_append _ _

/-- Taking an item at once. -/
lemma persists_accept (g : Given) :
    Persists fun p => (accept p.given g).bind fun given => .ok { p with given } := by
  intro p q h
  cases hgiven : accept p.given g with
  | error stop =>
    simp only [hgiven, Except.bind] at h
    exact absurd h (by simp)
  | ok given =>
    simp only [hgiven, Except.bind] at h
    rw [← Except.ok.inj h]
    refine ⟨?_, fun first hfirst => ?_⟩
    · exact prefix_of_accept hgiven
    · simp only [carry, accept_cons hgiven hfirst, Except.bind]

lemma persists_settle : Persists settle := by
  intro p q h
  obtain ⟨given, aside, literal, hasCookie⟩ := p
  cases aside with
  | none => exact persists_ok _ _ h
  | some g =>
    rw [settle] at h
    cases hgiven : accept given g with
    | error stop =>
      simp only [hgiven] at h
      exact absurd h (by simp)
    | ok given' =>
      simp only [hgiven] at h
      rw [← Except.ok.inj h]
      refine ⟨?_, fun first hfirst => ?_⟩
      · exact prefix_of_accept hgiven
      · simp only [settle, carry, accept_cons hgiven hfirst]

lemma persists_take (g : Given) : Persists (take · g) :=
  persists_settle.bind (persists_accept g)

lemma persists_defer (g : Given) : Persists (defer · g) := by
  refine persists_settle.bind (k := fun p => .ok { p with aside := some g }) ?_
  intro p q h
  rw [← Except.ok.inj h]
  exact ⟨List.prefix_refl _, fun _ _ => rfl⟩

/-! ## Reading arguments -/

lemma persists_readWord (word : String) : Persists (readWord · word) := by
  have hcookie : Persists fun p => if p.hasCookie then fail (.unexpectedArgument word)
      else { p with hasCookie := true }.defer ⟨.cookie, some word⟩ := by
    intro p q h
    obtain ⟨given, aside, literal, hasCookie⟩ := p
    cases hasCookie with
    | true => exact absurd h (by simp [fail])
    | false => exact persists_defer ⟨.cookie, some word⟩ ⟨given, aside, literal, true⟩ q h
  intro p q h
  obtain ⟨given, aside, literal, hasCookie⟩ := p
  cases literal with
  | true => exact hcookie _ q h
  | false =>
    cases aside with
    | none => exact hcookie _ q h
    | some waiting =>
      obtain ⟨item, value⟩ := waiting
      cases value with
      | some value => exact hcookie _ q h
      | none =>
        -- the word is the value that the item waits for
        rw [← Except.ok.inj h]
        exact ⟨List.prefix_refl _, fun _ _ => rfl⟩

lemma persists_readLong (text : List Char) : Persists (readLong · text) := by
  simp only [readLong]
  cases Item.ofLong? (String.ofList (firstCut '=' text).1) with
  | none => exact persists_fail _
  | some item =>
    simp only
    cases item.takesValue with
    | true =>
      cases (firstCut '=' text).2.map String.ofList with
      | none => exact persists_defer _
      | some value => exact persists_take _
    | false =>
      cases (firstCut '=' text).2.map String.ofList with
      | none => exact persists_take _
      | some value => exact persists_fail _

lemma persists_readShort (letters : List Char) : Persists (readShort · letters) := by
  induction letters with
  | nil => exact persists_ok
  | cons c rest ih =>
    simp only [readShort]
    cases Item.ofShort? c with
    | none => exact persists_fail _
    | some item =>
      simp only
      split_ifs
      · split
        · exact persists_defer _
        · exact persists_take _
        · exact persists_take _
      · refine (congrArg Persists (funext fun p => ?_)).mpr ((persists_take ⟨item, none⟩).bind ih)
        cases p.take ⟨item, none⟩ <;> rfl

lemma persists_read (argument : String) : Persists (read · argument) := by
  intro p q h
  obtain ⟨given, aside, literal, hasCookie⟩ := p
  cases literal with
  | true => exact persists_readWord argument _ q h
  | false =>
    simp only [read, carry, Bool.false_eq_true, if_false] at h ⊢
    generalize argument.toList = letters at h ⊢
    revert h
    split
    · intro h
      rw [← Except.ok.inj h]
      exact ⟨List.prefix_refl _, fun _ _ => rfl⟩
    · exact persists_readLong _ _ q
    · exact persists_readShort _ _ q
    · exact persists_readWord argument _ q

lemma persists_readAll (arguments : List String) : Persists (readAll · arguments) := by
  induction arguments with
  | nil => exact persists_ok
  | cons argument rest ih =>
    refine (congrArg Persists (funext fun p => ?_)).mpr ((persists_read argument).bind ih)
    exact readAll_cons p argument rest

end Progress

/-! ## Flags -/

lemma one_source_iff {given : List Given} {i : Invocation} :
    (match sourcesGiven given with
      | first :: second :: _ => Progress.fail (.conflict first second)
      | _ => .ok (Invocation.ofGiven given)) = .ok i ↔
      (sourcesGiven given).length ≤ 1 ∧ i = Invocation.ofGiven given := by
  rcases sourcesGiven given with _ | ⟨first, _ | ⟨second, rest⟩⟩
  · simp [eq_comm]
  · simp [eq_comm]
  · simp [Progress.fail]

/-- What is parsed consists of the items that were taken, of which one at most is a source. -/
lemma parse_eq_ok_iff {arguments : List String} {i : Invocation} :
    Invocation.parse arguments = .ok i ↔
      ∃ final, (({} : Progress).readAll arguments).bind Progress.settle = .ok final ∧
        (sourcesGiven final.given).length ≤ 1 ∧ i = Invocation.ofGiven final.given := by
  rw [Invocation.parse]
  cases ({} : Progress).readAll arguments with
  | error stop => simp [bind, Except.bind]
  | ok all =>
    simp only [bind, Except.bind]
    cases all.settle with
    | error stop => simp
    | ok final =>
      simp only [Except.ok.injEq, exists_eq_left']
      exact one_source_iff

/-- A flag can be added before the other items or behind them. -/
lemma ofGiven_cons {flag : Item} (hflag : flag = .dump ∨ flag = .verbose) (given : List Given) :
    Invocation.ofGiven (⟨flag, none⟩ :: given) = (Invocation.ofGiven given).add ⟨flag, none⟩ := by
  induction given using List.reverseRecOn with
  | nil => rfl
  | append_singleton given g ih =>
    rw [← List.cons_append, ofGiven_concat, ih, ofGiven_concat]
    rcases hflag with rfl | rfl
    · cases hitem : g.item <;> simp [Invocation.add, hitem]
    · cases hitem : g.item <;> simp [Invocation.add, hitem]

/-- A flag that does not stand on a command line can be put in front of it. -/
lemma parse_flag_cons {flag : Item} (hflag : flag = .dump ∨ flag = .verbose) {argument : String}
    (hread : ({} : Progress).read argument = .ok (({} : Progress).carry ⟨flag, none⟩))
    {isSet : Invocation → Bool} (hempty : isSet {} = false)
    (hadd : ∀ i g, isSet (Invocation.add i g) = (isSet i || decide (g.item = flag)))
    {arguments : List String} {i : Invocation} (h : Invocation.parse arguments = .ok i)
    (hunset : isSet i = false) :
    Invocation.parse (argument :: arguments) = .ok (i.add ⟨flag, none⟩) := by
  obtain ⟨final, hfinal, hsources, rfl⟩ := parse_eq_ok_iff.mp h
  have hnew : flag ∉ final.given.map Given.item := by
    rw [any_ofGiven hempty hadd] at hunset
    simpa using hunset
  have hpersists : Progress.Persists fun p => (p.readAll arguments).bind Progress.settle :=
    (Progress.persists_readAll arguments).bind Progress.persists_settle
  refine parse_eq_ok_iff.mpr ⟨final.carry ⟨flag, none⟩, ?_, ?_, (ofGiven_cons hflag _).symm⟩
  · rw [Progress.readAll_cons, hread]
    exact (hpersists _ _ hfinal).2 ⟨flag, none⟩ hnew
  · have hsame : sourcesGiven (final.carry ⟨flag, none⟩).given = sourcesGiven final.given := by
      rcases hflag with rfl | rfl <;> rfl
    rwa [hsame]

/-- **The records can be asked for in front.** -/
theorem parse_verbose_cons {arguments : List String} {i : Invocation}
    (h : Invocation.parse arguments = .ok i) (hverbose : i.verbose = false) :
    Invocation.parse ("-v" :: arguments) = .ok { i with verbose := true } := by
  refine parse_flag_cons (Or.inr rfl) rfl rfl (fun i g => ?_) h hverbose
  cases hitem : g.item <;> simp [Invocation.add, hitem]

/-- **The cookies can be asked for in front.** -/
theorem parse_dump_cons {arguments : List String} {i : Invocation}
    (h : Invocation.parse arguments = .ok i) (hdump : i.dump = false) :
    Invocation.parse ("--dump" :: arguments) = .ok { i with dump := true } := by
  refine parse_flag_cons (Or.inl rfl) rfl rfl (fun i g => ?_) h hdump
  cases hitem : g.item <;> simp [Invocation.add, hitem]

/-- A command line that is parsed names one source at most. -/
lemma cookie_or_file_eq_none {arguments : List String} {i : Invocation}
    (h : Invocation.parse arguments = .ok i) : i.cookie = none ∨ i.file = none := by
  obtain ⟨final, -, hsources, rfl⟩ := parse_eq_ok_iff.mp h
  by_contra hboth
  rw [not_or, ← ne_eq, ← ne_eq, ← Option.isSome_iff_ne_none, ← Option.isSome_iff_ne_none] at hboth
  obtain ⟨hcookie, hfile⟩ := hboth
  have hgiven : Item.cookie ∈ final.given.map Given.item := by
    rw [@any_ofGiven (fun i => i.cookie.isSome) .cookie rfl fun i g => by
      cases hitem : g.item <;> simp [Invocation.add, hitem]] at hcookie
    simpa using hcookie
  have hnamed : Item.file ∈ final.given.map Given.item := by
    rw [@any_ofGiven (fun i => i.file.isSome) .file rfl fun i g => by
      cases hitem : g.item <;> simp [Invocation.add, hitem]] at hfile
    simpa using hfile
  have hsubset : [Item.cookie, Item.file] ⊆ sourcesGiven final.given := by
    rintro item hitem
    rw [mem_sourcesGiven]
    rcases List.mem_pair.mp hitem with rfl | rfl
    · exact ⟨hgiven, Or.inl rfl⟩
    · exact ⟨hnamed, Or.inr rfl⟩
  have hlength := (List.subperm_of_subset (by decide) hsubset).length_le
  exact absurd (hlength.trans hsources) (by simp)

end PageCompanion.Preview
