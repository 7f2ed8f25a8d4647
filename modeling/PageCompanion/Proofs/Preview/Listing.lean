/-
# A listed jar is recovered from its lines

When the cookies are asked for, each of them is listed on a line of its own in front of the line
about the header.  Names are printed as they are, so a name may look like the rest of a line; the
line is still that of one cookie only, since the value stands at its end and is quoted
(`entryLine_injective`).  So no two jars are listed alike (`listing_determines_jar`), whichever
characters the quotation spells by their code points.
-/
import PageCompanion.Preview.Report
import PageCompanion.Proofs.Text.Quoting

namespace PageCompanion.Preview

open Cookie (Jar)
open Text (quote)

variable {hidden : Char → Bool}

/-- A cookie as it is listed when some characters are hidden. -/
def entryLine (hidden : Char → Bool) (entry : String × Option String) : String :=
  match entry.2 with
  | some value => entry.1 ++ " = " ++ String.ofList (quote hidden value.toList)
  | none => entry.1 ++ " (no value)"

/-- The lines for a jar when some characters are hidden. -/
def renderHiding (hidden : Char → Bool) (jar : Jar) (settings : Settings) (dump : Bool) :
    List String :=
  (if dump then jar.toList.map (entryLine hidden) else [])
    ++ [headerLine (Token.Stamp.make jar settings.token).1]

lemma render_eq_renderHiding (jar : Jar) (settings : Settings) (dump : Bool) :
    render jar settings dump = renderHiding Text.isHidden jar settings dump := rfl

/-! ## One cookie -/

lemma toList_entryLine_some (name value : String) :
    (entryLine hidden (name, some value)).toList
      = (name.toList ++ [' ', '=']) ++ ' ' :: quote hidden value.toList := by
  simp [entryLine, String.toList_append]

lemma toList_entryLine_none (name : String) :
    (entryLine hidden (name, none)).toList = name.toList ++ " (no value)".toList := by
  simp [entryLine, String.toList_append]

/-- The last character of a line tells whether the cookie has a value. -/
lemma entryLine_some_ne_none (name value other : String) :
    entryLine hidden (name, some value) ≠ entryLine hidden (other, none) := by
  intro h
  have hlast := congrArg (fun line => line.toList.getLast?) h
  simp [toList_entryLine_some, toList_entryLine_none, List.getLast?_cons,
    Text.getLast?_quote] at hlast

/-- **No two cookies are listed alike.** -/
theorem entryLine_injective (hidden : Char → Bool) : Function.Injective (entryLine hidden) := by
  rintro ⟨name, value⟩ ⟨name', value'⟩ h
  cases value with
  | none =>
    cases value' with
    | none =>
      have hname := congrArg String.toList h
      rw [toList_entryLine_none, toList_entryLine_none, List.append_cancel_right_eq] at hname
      rw [String.toList_inj.mp hname]
    | some value' => exact absurd h.symm (entryLine_some_ne_none name' value' name)
  | some value =>
    cases value' with
    | none => exact absurd h (entryLine_some_ne_none name value name')
    | some value' =>
      have hboth := congrArg String.toList h
      rw [toList_entryLine_some, toList_entryLine_some, Text.append_quote_inj,
        List.append_cancel_right_eq] at hboth
      rw [String.toList_inj.mp hboth.1, String.toList_inj.mp hboth.2]

/-! ## The whole list -/

lemma dropLast_renderHiding (jar : Jar) (settings : Settings) :
    (renderHiding hidden jar settings true).dropLast = jar.toList.map (entryLine hidden) := by
  rw [renderHiding, if_pos rfl, List.dropLast_concat]

/-- **A jar is determined by its listed cookies.**  Two jars with equal lines but for the last are
equal, whatever characters their names and values have and whatever the settings are; and this is
so whichever characters a quoted value hides. -/
theorem listing_determines_jar :
    (∀ (jar jar' : Jar) (settings settings' : Settings),
      (render jar settings true).dropLast = (render jar' settings' true).dropLast ↔ jar = jar') ∧
    ∀ (hidden : Char → Bool) (jar jar' : Jar) (settings settings' : Settings),
      (renderHiding hidden jar settings true).dropLast
        = (renderHiding hidden jar' settings' true).dropLast ↔ jar = jar' := by
  have hall : ∀ (hidden : Char → Bool) (jar jar' : Jar) (settings settings' : Settings),
      (renderHiding hidden jar settings true).dropLast
        = (renderHiding hidden jar' settings' true).dropLast ↔ jar = jar' := by
    intro hidden jar jar' settings settings'
    rw [dropLast_renderHiding, dropLast_renderHiding]
    constructor
    · intro h
      have hlist : jar.toList = jar'.toList :=
        List.map_injective_iff.mpr (entryLine_injective hidden) h
      cases jar
      cases jar'
      exact congrArg Jar.mk (Std.ExtTreeMap.toList_inj.mp hlist)
    · rintro rfl
      rfl
  refine ⟨fun jar jar' settings settings' => ?_, hall⟩
  rw [render_eq_renderHiding, render_eq_renderHiding]
  exact hall Text.isHidden jar jar' settings settings'

end PageCompanion.Preview
