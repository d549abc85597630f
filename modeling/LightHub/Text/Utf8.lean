/-
  Texts as bytes.

  * `bytes`: the UTF-8 form of a text.
  * `ofBytes?`: the text of bytes in UTF-8.
  * `ofBytes?_eq_some_iff`: the two are inverse to each other, so that no two
    byte sequences read as one text.
-/
namespace LightHub.Text

/-- The UTF-8 form of a text. -/
def bytes (s : String) : List UInt8 :=
  s.toByteArray.data.toList

/-- The text that the bytes are the UTF-8 form of, if there is one. -/
def ofBytes? (bs : List UInt8) : Option String :=
  String.fromUTF8? ⟨bs.toArray⟩

theorem ofBytes?_bytes (s : String) : ofBytes? (bytes s) = some s := by
  have h : (⟨(bytes s).toArray⟩ : ByteArray) = s.toByteArray := by simp [bytes]
  rw [ofBytes?, h, String.fromUTF8?, dif_pos s.isValidUTF8]
  rfl

/-- Bytes read as a text exactly if they are its UTF-8 form. -/
theorem ofBytes?_eq_some_iff {bs : List UInt8} {s : String} :
    ofBytes? bs = some s ↔ bs = bytes s := by
  constructor
  · intro h
    rw [ofBytes?, String.fromUTF8?] at h
    split at h
    · obtain rfl := Option.some.inj h
      simp [bytes, String.fromUTF8]
    · cases h
  · rintro rfl
    exact ofBytes?_bytes s

theorem bytes_append (s t : String) : bytes (s ++ t) = bytes s ++ bytes t := by
  simp [bytes]

end LightHub.Text
