/-
# Texts and their bytes

A text travels as the bytes of its UTF-8 form.  Reading bytes as a text fails unless they are
exactly the bytes of some text, and `textOfBytes?_eq_some_iff` says that it gives that text.
-/
namespace PageCompanion.Text

/-- The text that a sequence of bytes is the UTF-8 form of. -/
def textOfBytes? (bytes : List UInt8) : Option String :=
  String.fromUTF8? ⟨bytes.toArray⟩

/-- The bytes of the UTF-8 form of a text. -/
def bytesOfText (s : String) : List UInt8 :=
  s.toByteArray.data.toList

@[simp] theorem textOfBytes?_bytesOfText (s : String) : textOfBytes? (bytesOfText s) = some s := by
  have h : (⟨s.toByteArray.data.toList.toArray⟩ : ByteArray) = s.toByteArray := by
    cases s.toByteArray; simp
  rw [textOfBytes?, bytesOfText, h, String.fromUTF8?, dif_pos s.isValidUTF8]
  rfl

/-- Bytes are read as a text exactly when they are that text's bytes. -/
theorem textOfBytes?_eq_some_iff {bytes : List UInt8} {s : String} :
    textOfBytes? bytes = some s ↔ bytesOfText s = bytes := by
  constructor
  · intro h
    rw [textOfBytes?, String.fromUTF8?] at h
    split at h
    · obtain rfl := Option.some.inj h
      rfl
    · exact absurd h (by simp)
  · rintro rfl
    exact textOfBytes?_bytesOfText s

end PageCompanion.Text
