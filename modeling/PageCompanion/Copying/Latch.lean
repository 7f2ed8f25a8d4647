/-
# Latches

A latch holds at most one listener.  It is closed by installing a listener, which happens only
when it holds none, and opened by giving the listener back so that it can be removed.  An input
with a latch therefore never has two listeners of the same owner.
-/
namespace PageCompanion.Copying

/-- Whether an input has its listener. -/
inductive Attachment where
  | unattached
  | active
deriving DecidableEq, Repr, Inhabited

def Attachment.name : Attachment → String
  | unattached => "unattached"
  | active => "active"

/-- A holder of at most one listener. -/
structure Latch (L : Type) where
  /-- The listener, when one is installed. -/
  listener : Option L := none
deriving DecidableEq, Repr, Inhabited

namespace Latch

variable {L σ : Type}

/-- A latch is active while it holds a listener. -/
def state (latch : Latch L) : Attachment :=
  match latch.listener with
  | some _ => .active
  | none => .unattached

/-- Install a listener unless there is one.  The installer acts on some state, and is not run
when the latch is active; the answer says whether it was. -/
def connect (latch : Latch L) (install : σ → L × σ) (s : σ) : Bool × Latch L × σ :=
  match latch.listener with
  | some _ => (false, latch, s)
  | none =>
    let installed := install s
    (true, ⟨some installed.1⟩, installed.2)

/-- Give back the listener, if there is one, for its removal. -/
def disconnect (latch : Latch L) : Option L × Latch L :=
  (latch.listener, ⟨none⟩)

@[simp] theorem state_empty : (⟨none⟩ : Latch L).state = .unattached := rfl

@[simp] theorem state_some (l : L) : (⟨some l⟩ : Latch L).state = .active := rfl

theorem state_eq_active_iff {latch : Latch L} :
    latch.state = .active ↔ latch.listener.isSome = true := by
  rcases latch with ⟨_ | l⟩ <;> simp

/-- The installer runs exactly when no listener is there. -/
theorem connect_fst (latch : Latch L) (install : σ → L × σ) (s : σ) :
    (latch.connect install s).1 = true ↔ latch.state = .unattached := by
  rcases latch with ⟨_ | l⟩ <;> simp [connect]

theorem state_connect (latch : Latch L) (install : σ → L × σ) (s : σ) :
    (latch.connect install s).2.1.state = .active := by
  rcases latch with ⟨_ | l⟩ <;> rfl

@[simp] theorem state_disconnect (latch : Latch L) :
    latch.disconnect.2.state = .unattached := rfl

end Latch

end PageCompanion.Copying
