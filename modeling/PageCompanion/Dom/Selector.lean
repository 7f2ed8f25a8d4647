/-
# Selectors

A selector is a list of members with commas between them, and an element matches it when it
matches one of them.  A member names a tag, or `*` for any, and conditions on the attributes:
`#x` on `id`, `.x` on the words of `class`, `[x]` on the presence of an attribute and `[x=y]`
or `[x="y"]` on its value.  `Selector.ofText?` reads a selector and gives nothing for any other
text.

These are the selectors that the companion's own settings use, and a little more.  A browser reads
others: with combinators such as `a > b`, with pseudo-classes such as `:enabled`, with the other
comparisons of attributes such as `[x^=y]`, with escapes, and with single quotes.  All of them are
refused here like a text that is no selector.  Tags are told apart by the case of their letters.
-/
import PageCompanion.Dom.Element
import PageCompanion.Text.Pieces

namespace PageCompanion.Dom

open Text (pieces)

/-- A condition on the attributes of an element. -/
inductive Condition where
  | id (value : String)
  /-- The attribute `class` has this among its words. -/
  | word (value : String)
  | has (name : String)
  | equals (name value : String)
deriving DecidableEq, Repr

def Condition.holds (e : Element) : Condition → Bool
  | .id value => e.attribute? "id" == some value
  | .word value =>
    match e.attribute? "class" with
    | some words => (pieces ' ' words.toList).contains value.toList
    | none => false
  | .has name => (e.attribute? name).isSome
  | .equals name value => e.attribute? name == some value

/-- One member of a selector. -/
structure Member where
  /-- The tag, when only one will do. -/
  tag : Option String
  conditions : List Condition
deriving DecidableEq, Repr

def Member.holds (e : Element) (m : Member) : Bool :=
  (match m.tag with
    | some tag => e.tag == tag
    | none => true)
    && m.conditions.all (Condition.holds e)

/-- A selector, as the list of its members. -/
structure Selector where
  /-- The members, of which an element has to match one. -/
  members : List Member
deriving DecidableEq, Repr

namespace Selector

def holds (s : Selector) (e : Element) : Bool :=
  s.members.any (Member.holds e)

/-! ## Reading a selector -/

def isWordChar (c : Char) : Bool :=
  c.isAlphanum || c == '_' || c == '-'

/-- The name at the start of a text, which must not be empty, and what follows it. -/
def readWord? (cs : List Char) : Option (String × List Char) :=
  match cs.takeWhile isWordChar with
  | [] => none
  | word => some (String.ofList word, cs.dropWhile isWordChar)

/-- The value in an attribute condition, behind `=`, and what follows the closing bracket. -/
def readValue? (cs : List Char) : Option (String × List Char) :=
  match cs with
  | '"' :: rest =>
    match rest.dropWhile (· != '"') with
    | '"' :: ']' :: after => some (String.ofList (rest.takeWhile (· != '"')), after)
    | _ => none
  | _ =>
    match readWord? cs with
    | some (word, ']' :: after) => some (word, after)
    | _ => none

/-- The condition at the start of a text, and what follows it. -/
def readCondition? (cs : List Char) : Option (Condition × List Char) :=
  match cs with
  | '#' :: rest => (readWord? rest).map fun r => (.id r.1, r.2)
  | '.' :: rest => (readWord? rest).map fun r => (.word r.1, r.2)
  | '[' :: rest =>
    match readWord? rest with
    | some (name, ']' :: after) => some (.has name, after)
    | some (name, '=' :: after) => (readValue? after).map fun r => (.equals name r.1, r.2)
    | _ => none
  | _ => none

/-- The conditions that a text consists of.  A condition is never empty, so the guard holds. -/
def readConditions? (cs : List Char) : Option (List Condition) :=
  if cs = [] then some []
  else
    match readCondition? cs with
    | none => none
    | some (condition, rest) =>
      if rest.length < cs.length then (readConditions? rest).map (condition :: ·) else none
termination_by cs.length

/-- The tag at the start of a member, and what follows it. -/
def readTag (cs : List Char) : Option String × List Char :=
  match readWord? cs with
  | some (word, rest) => (some word, rest)
  | none =>
    match cs with
    | '*' :: rest => (none, rest)
    | _ => (none, cs)

/-- A text without the spaces at its ends. -/
def trimSpaces (cs : List Char) : List Char :=
  ((cs.dropWhile (· == ' ')).reverse.dropWhile (· == ' ')).reverse

/-- The member that a text states; it must not be empty. -/
def readMember? (cs : List Char) : Option Member :=
  if trimSpaces cs = [] then none
  else
    let tag := readTag (trimSpaces cs)
    (readConditions? tag.2).map fun conditions => ⟨tag.1, conditions⟩

/-- The selector that a text states. -/
def ofText? (s : String) : Option Selector :=
  ((pieces ',' s.toList).mapM readMember?).map Selector.mk

end Selector

end PageCompanion.Dom
