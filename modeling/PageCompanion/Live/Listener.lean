/-
# Listeners

A listener stands at a place on the page and reacts to one kind of event.  There are three
reactions: stamp the headers of a request, look again for inputs when the page has loaded new
content, and copy an input that was clicked.  Listeners are numbered in the order in which they
were added, and no number is used twice.
-/
import PageCompanion.Dom.Page
import PageCompanion.Live.Request

namespace PageCompanion.Live

open Dom (Place)

/-- The kinds of events that are listened to. -/
inductive EventKind where
  | click
  /-- The page has loaded new content. -/
  | load
  /-- A request is about to be sent. -/
  | request
deriving DecidableEq, Repr

/-- The name of the event after new content. -/
def loadEvent : String := "htmx:load"

/-- What a listener does. -/
inductive Reaction where
  /-- Put the token on a request. -/
  | stamp (stamp : Token.Stamp)
  | rescan (roster : Nat)
  | copy (roster input : Nat)
deriving DecidableEq

def Reaction.kind : Reaction → EventKind
  | stamp _ => .request
  | rescan _ => .load
  | copy .. => .click

/-- A reaction with a number and a place. -/
structure Listener where
  id : Nat
  place : Place
  reaction : Reaction
deriving DecidableEq

structure Listeners where
  next : Nat := 0
  /-- The listeners that live, in the order in which they were added. -/
  live : List Listener := []
deriving DecidableEq

namespace Listeners

def add (ls : Listeners) (place : Place) (reaction : Reaction) : Nat × Listeners :=
  (ls.next, ⟨ls.next + 1, ls.live ++ [⟨ls.next, place, reaction⟩]⟩)

def remove (ls : Listeners) (id : Nat) : Listeners :=
  { ls with live := ls.live.filter (·.id != id) }

def find? (ls : Listeners) (id : Nat) : Option Listener :=
  ls.live.find? (·.id == id)

/-- The listeners with another reaction for one of them. -/
def setReaction (ls : Listeners) (id : Nat) (reaction : Reaction) : Listeners :=
  { ls with live := ls.live.map fun l => if l.id = id then { l with reaction } else l }

/-- The numbers of the listeners at a place that react to a kind of event. -/
def idsAt (ls : Listeners) (kind : EventKind) (place : Place) : List Nat :=
  (ls.live.filter fun l => l.place = place && l.reaction.kind = kind).map (·.id)

/-- The numbers of the listeners that an event comes by, in order. -/
def along (ls : Listeners) (kind : EventKind) (path : List Place) : List Nat :=
  path.flatMap (ls.idsAt kind)

@[simp] theorem next_add (ls : Listeners) (place : Place) (reaction : Reaction) :
    (ls.add place reaction).2.next = ls.next + 1 := rfl

@[simp] theorem live_add (ls : Listeners) (place : Place) (reaction : Reaction) :
    (ls.add place reaction).2.live = ls.live ++ [⟨ls.next, place, reaction⟩] := rfl

@[simp] theorem next_remove (ls : Listeners) (id : Nat) : (ls.remove id).next = ls.next := rfl

theorem mem_live_remove {ls : Listeners} {id : Nat} {l : Listener} :
    l ∈ (ls.remove id).live ↔ l ∈ ls.live ∧ l.id ≠ id := by
  simp [remove]

theorem mem_live_add {ls : Listeners} {place : Place} {reaction : Reaction} {l : Listener} :
    l ∈ (ls.add place reaction).2.live ↔ l ∈ ls.live ∨ l = ⟨ls.next, place, reaction⟩ := by
  simp

/-- A listener is as it was, or it is the one whose reaction was changed. -/
theorem mem_live_setReaction {ls : Listeners} {id : Nat} {reaction : Reaction} {l : Listener} :
    l ∈ (ls.setReaction id reaction).live ↔
      (l ∈ ls.live ∧ l.id ≠ id) ∨ ∃ l₀ ∈ ls.live, l₀.id = id ∧ l = { l₀ with reaction } := by
  rw [setReaction, List.mem_map]
  constructor
  · rintro ⟨l₀, hl₀, rfl⟩
    by_cases hid : l₀.id = id
    · exact Or.inr ⟨l₀, hl₀, hid, if_pos hid⟩
    · rw [if_neg hid]
      exact Or.inl ⟨hl₀, hid⟩
  · rintro (⟨hl, hid⟩ | ⟨l₀, hl₀, hid, rfl⟩)
    · exact ⟨l, hl, if_neg hid⟩
    · exact ⟨l₀, hl₀, if_pos hid⟩

theorem mem_idsAt {ls : Listeners} {kind : EventKind} {place : Place} {id : Nat} :
    id ∈ ls.idsAt kind place ↔
      ∃ l ∈ ls.live, (l.place = place ∧ l.reaction.kind = kind) ∧ l.id = id := by
  simp [idsAt, and_assoc]

end Listeners

end PageCompanion.Live
