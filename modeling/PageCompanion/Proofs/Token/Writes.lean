/-
# What a stamp writes

Putting the token on a request writes one header or none.  `Stamp.writes` is the list of these
writes, as a `Journal` in the place of the headers keeps it; whatever the headers are, the stamp
does these writes and nothing else (`apply_headers`).
-/
import Mathlib
import PageCompanion.Script.Headers
import PageCompanion.Token.Stamp

namespace PageCompanion.Token

open Script (Object Value)

/-- Headers that keep what is written, in order, and refuse nothing. -/
structure Journal where
  writes : List (String × String) := []
deriving DecidableEq, Repr

instance : Headers Journal where
  put journal name value := (⟨journal.writes ++ [(name, value)]⟩, [])

/-- Headers after some writes. -/
def writeAll {H : Type} [Headers H] (headers : H) (writes : List (String × String)) : H :=
  writes.foldl (fun h w => (Headers.put h w.1 w.2).1) headers

namespace Stamp

/-- What a stamp writes on a request. -/
def writes (s : Stamp) : List (String × String) :=
  (s.apply ({} : Journal)).2.1.writes

lemma writes_eq (s : Stamp) :
    s.writes = s.value?.toList.map fun value => (s.names.header, value) := by
  rw [writes, apply]
  cases s.value? <;> rfl

/-- What a stamp writes is written under the name of its header. -/
lemma fst_of_mem_writes {s : Stamp} {w : String × String} (h : w ∈ s.writes) :
    w.1 = s.names.header := by
  rw [writes_eq] at h
  obtain ⟨value, -, rfl⟩ := List.mem_map.mp h
  rfl

/-- A stamp does to all headers what it does to a journal. -/
theorem apply_headers {H : Type} [Headers H] (s : Stamp) (headers : H) :
    (s.apply headers).2.1 = writeAll headers s.writes := by
  rw [writes_eq, apply]
  cases s.value? <;> rfl

/-- What a stamp writes is decided when it is made. -/
lemma writes_congr {s t : Stamp} (hjar : s.jar = t.jar) (hnames : s.names = t.names) :
    s.writes = t.writes := by
  have hvalue : s.value? = t.value? := by
    simp only [value?, token?, hjar, hnames]
  rw [writes_eq, writes_eq, hvalue, hnames]

/-- What a stamp writes is one header or none. -/
lemma writeAll_writes {H : Type} [Headers H] (s : Stamp) (headers : H) :
    writeAll headers s.writes
      = s.value?.elim headers fun value => (Headers.put headers s.names.header value).1 := by
  rw [writes_eq]
  cases s.value? <;> rfl

lemma writes_eq_nil_iff {s : Stamp} : s.writes = [] ↔ s.value? = none := by
  rw [writes_eq, List.map_eq_nil_iff, Option.toList_eq_nil_iff]

lemma writes_eq_singleton_iff {s : Stamp} {value : String} :
    s.writes = [(s.names.header, value)] ↔ s.value? = some value := by
  rw [writes_eq]
  cases s.value? <;> simp

end Stamp

/-! ## Writing to an object -/

/-- Writing to an object that keeps the writes is giving properties their texts. -/
lemma writeAll_of_kept {o : Object Value} {writes : List (String × String)}
    (h : ∀ w ∈ writes, o.writing w.1 = .kept) :
    writeAll o writes = writes.foldl (fun o w => o.put w.1 w.2) o := by
  induction writes generalizing o with
  | nil => rfl
  | cons w writes ih =>
    obtain ⟨hw, hwrites⟩ := List.forall_mem_cons.mp h
    rw [writeAll, List.foldl_cons, Script.put_of_kept hw, List.foldl_cons]
    exact ih fun w' hw' => by rw [Object.writing_put, hwrites w' hw']

/-- An object that keeps none of the writes is left as it is. -/
lemma writeAll_of_not_kept {o : Object Value} {writes : List (String × String)}
    (h : ∀ w ∈ writes, o.writing w.1 ≠ .kept) : writeAll o writes = o := by
  induction writes with
  | nil => rfl
  | cons w writes ih =>
    obtain ⟨hw, hwrites⟩ := List.forall_mem_cons.mp h
    have hput : (Headers.put o w.1 w.2).1 = o := by
      cases hwriting : o.writing w.1 with
      | kept => exact absurd hwriting hw
      | ignored => rw [Script.put_of_ignored hwriting]
      | throws thrown => rw [Script.put_of_throws hwriting]
    rw [writeAll, List.foldl_cons, hput]
    exact ih hwrites

end PageCompanion.Token
