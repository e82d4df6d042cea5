/-! # Texts in bytes

What lies in files, in variables and on servers is bytes, which may or may not be a text. -/

namespace Entitlement

abbrev Bytes := List UInt8

namespace Text

def bytes (text : String) : Bytes :=
  text.toUTF8.data.toList

def ofBytes? (content : Bytes) : Option String :=
  String.fromUTF8? ⟨content.toArray⟩

theorem ofBytes?_eq_some_iff (content : Bytes) (text : String) :
    ofBytes? content = some text ↔ content = bytes text := by
  rw [ofBytes?, bytes, String.fromUTF8?, String.toUTF8_eq_toByteArray]
  constructor
  · intro accepted
    split at accepted
    · cases accepted
      rfl
    · cases accepted
  · rintro rfl
    exact dif_pos text.isValidUTF8

@[simp] theorem ofBytes?_bytes (text : String) : ofBytes? (bytes text) = some text :=
  (ofBytes?_eq_some_iff _ _).mpr rfl

theorem bytes_inj {first second : String} : bytes first = bytes second ↔ first = second := by
  rw [← ofBytes?_eq_some_iff, ofBytes?_bytes, Option.some.injEq]

theorem bytes_append (first second : String) :
    bytes (first ++ second) = bytes first ++ bytes second := by
  simp [bytes]

end Text
end Entitlement
