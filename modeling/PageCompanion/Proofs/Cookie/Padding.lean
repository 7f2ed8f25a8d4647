/-
# Blanks in a cookie string

White space at the ends of a segment and around its first `=` does not matter.  White space at the
end of a cookie string belongs to its last segment, so a text and the text without the blanks at
its end state the same cookies.
-/
import PageCompanion.Proofs.Text.Cutting
import PageCompanion.Proofs.Text.Trimming
import PageCompanion.Cookie.Jar

namespace PageCompanion.Cookie

open Text

/-- A text without the separator behind another one belongs to the last piece of it. -/
lemma exists_pieces_append {sep : Char} {ws : List Char} (h : sep ∉ ws) (cs : List Char) :
    ∃ front last, pieces sep cs = front ++ [last] ∧
      pieces sep (cs ++ ws) = front ++ [last ++ ws] := by
  induction cs with
  | nil => exact ⟨[], [], rfl, pieces_of_not_mem h⟩
  | cons c cs ih =>
    obtain ⟨front, last, hcs, hws⟩ := ih
    by_cases hc : c = sep
    · subst hc
      refine ⟨[] :: front, last, ?_, ?_⟩
      · rw [pieces_cons_sep, hcs, List.cons_append]
      · rw [List.cons_append, pieces_cons_sep, hws, List.cons_append]
    · rw [List.cons_append, pieces, if_neg hc, pieces, if_neg hc, hcs, hws]
      -- the character belongs to the first piece, which may be the last one
      cases front with
      | nil => exact ⟨[], c :: last, rfl, rfl⟩
      | cons p front => exact ⟨(c :: p) :: front, last, rfl, rfl⟩

/-! ## Blanks in a segment -/

lemma readPart_append_of_blank {ws : List Char} (cs : List Char) (h : Blank ws) :
    readPart (cs ++ ws) = readPart cs := by
  rw [readPart, strip_append_of_blank cs h, readPart]

lemma readPart_blank_append {ws : List Char} (cs : List Char) (h : Blank ws) :
    readPart (ws ++ cs) = readPart cs := by
  rw [readPart, strip, stripLeft_append_of_blank cs h, readPart, strip]

/-- A segment with a value. -/
lemma ofText?_of_sign {name : List Char} (value : List Char) (h : '=' ∉ name) :
    Segment.ofText? (name ++ '=' :: value)
      = if readPart name = "" then none else some ⟨readPart name, some (readPart value)⟩ := by
  simp only [Segment.ofText?, firstCut_append_sep value h, Option.map_some]

/-- A segment without a value. -/
lemma ofText?_of_no_sign {seg : List Char} (h : '=' ∉ seg) :
    Segment.ofText? seg = if readPart seg = "" then none else some ⟨readPart seg, none⟩ := by
  simp only [Segment.ofText?, firstCut_of_not_mem h, Option.map_none]

/-- Blanks at the ends of a segment do not matter. -/
lemma ofText?_pad {before after : List Char} (seg : List Char) (hb : Blank before)
    (ha : Blank after) : Segment.ofText? (before ++ seg ++ after) = Segment.ofText? seg := by
  have hbefore : '=' ∉ before := hb.not_mem (by decide)
  have hafter : '=' ∉ after := ha.not_mem (by decide)
  -- the blanks behind belong to the value if there is one, and to the name if not
  by_cases hseg : '=' ∈ seg
  · obtain ⟨name, value, rfl, hname⟩ := List.eq_append_cons_of_mem hseg
    have hsplit : before ++ (name ++ '=' :: value) ++ after
        = (before ++ name) ++ '=' :: (value ++ after) := by simp
    rw [hsplit, ofText?_of_sign _ (by simp [hbefore, hname]), ofText?_of_sign _ hname,
      readPart_blank_append name hb, readPart_append_of_blank value ha]
  · rw [ofText?_of_no_sign (by simp [hbefore, hseg, hafter]), ofText?_of_no_sign hseg,
      readPart_append_of_blank _ ha, readPart_blank_append seg hb]

/-- Blanks around the first `=` of a segment do not matter. -/
lemma ofText?_space {name before after : List Char} (value : List Char) (hname : '=' ∉ name)
    (hb : Blank before) (ha : Blank after) :
    Segment.ofText? (name ++ before ++ '=' :: (after ++ value))
      = Segment.ofText? (name ++ '=' :: value) := by
  have hbefore : '=' ∉ before := hb.not_mem (by decide)
  rw [ofText?_of_sign _ (by simp [hname, hbefore]), ofText?_of_sign _ hname,
    readPart_append_of_blank name hb, readPart_blank_append value ha]

/-! ## Blanks at the end of the text -/

lemma segments_trimEnd (raw : String) : segments (trimEnd raw) = segments raw := by
  obtain ⟨ws, hws, hraw⟩ := exists_stripRight_append raw.toList
  obtain ⟨front, last, hfront, hlast⟩ :=
    exists_pieces_append (hws.not_mem (by decide) : ';' ∉ ws) (stripRight raw.toList)
  rw [hraw] at hlast
  rw [segments, segments, trimEnd, String.toList_ofList, hfront, hlast, List.filterMap_append,
    List.filterMap_append]
  have hread : Segment.ofText? (last ++ ws) = Segment.ofText? last := by
    simpa using ofText?_pad last blank_nil hws
  simp only [List.filterMap_cons, hread]

/-- **A cookie string states the same cookies without the blanks at its end.** -/
theorem parse_trimEnd (raw : String) : Jar.parse (trimEnd raw) = Jar.parse raw := by
  rw [Jar.parse, segments_trimEnd, Jar.parse]

end PageCompanion.Cookie
