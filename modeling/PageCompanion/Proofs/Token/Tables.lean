/-
# Header tables

A header table is lawful when writing an entry decides about that entry and about no other.  The
two tables of the standard library are.  What the writes of a stamp do to a lawful table is
then known by its look-ups: of the entries only the stamp's header can change
(`get?_writeAll_of_ne`), and it has the stamp's value if there is one (`get?_writeAll_self`).
-/
import PageCompanion.Proofs.Token.Writes

namespace PageCompanion.Token

open HeaderTable (get?)

/-- A table in which writing an entry leaves the other entries as they are. -/
class LawfulTable (H : Type) [HeaderTable H] : Prop where
  get?_put (headers : H) (name value n : String) :
    get? (Headers.put headers name value).1 n = if name = n then some value else get? headers n

instance : LawfulTable (Std.HashMap String String) where
  get?_put m name value n := by
    rw [put_hashMap]
    simp [HeaderTable.get?, Std.HashMap.getElem?_insert]

instance : LawfulTable (Std.TreeMap String String) where
  get?_put m name value n := by
    rw [put_treeMap]
    simp [HeaderTable.get?, Std.TreeMap.getElem?_insert]

/-- Two tables that hold the same names with the same values. -/
def SameEntries {H : Type} [HeaderTable H] (headers headers' : H) : Prop :=
  ∀ n : String, get? headers n = get? headers' n

namespace Stamp

variable {H : Type} [HeaderTable H] [LawfulTable H]

lemma get?_writeAll_of_ne (s : Stamp) (headers : H) {n : String} (hn : n ≠ s.names.header) :
    get? (writeAll headers s.writes) n = get? headers n := by
  rw [writes_eq]
  cases s.value? with
  | none => rfl
  | some value =>
    exact (LawfulTable.get?_put headers s.names.header value n).trans (if_neg hn.symm)

/-- The header has the value of the stamp, or what it had when there is none. -/
lemma get?_writeAll_self (s : Stamp) (headers : H) :
    get? (writeAll headers s.writes) s.names.header
      = s.value?.or (get? headers s.names.header) := by
  rw [writes_eq]
  cases s.value? with
  | none => rfl
  | some value =>
    exact (LawfulTable.get?_put headers s.names.header value _).trans (if_pos rfl)

/-- Nothing changes exactly when there is nothing to write or it is written already. -/
lemma sameEntries_writeAll_iff (s : Stamp) (headers : H) :
    SameEntries (writeAll headers s.writes) headers ↔
      s.value? = none ∨ get? headers s.names.header = s.value? := by
  constructor
  · intro h
    have hheader := h s.names.header
    rw [get?_writeAll_self] at hheader
    cases hvalue : s.value? with
    | none => exact Or.inl rfl
    | some value =>
      rw [hvalue, Option.some_or] at hheader
      exact Or.inr hheader.symm
  · intro h n
    by_cases hn : n = s.names.header
    · subst hn
      rw [get?_writeAll_self]
      rcases h with h | h
      · rw [h, Option.none_or]
      · rw [h, Option.or_self]
    · exact get?_writeAll_of_ne s headers hn

/-- What is written once need not be written again. -/
lemma sameEntries_writeAll_writeAll (s : Stamp) (headers : H) :
    SameEntries (writeAll (writeAll headers s.writes) s.writes) (writeAll headers s.writes) := by
  rw [sameEntries_writeAll_iff, get?_writeAll_self]
  cases s.value? with
  | none => exact Or.inl rfl
  | some value => exact Or.inr (Option.some_or ..)

end Stamp

end PageCompanion.Token
