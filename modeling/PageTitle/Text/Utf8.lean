import PageTitle.Text.Basic

/-!
# Texts as bytes

The UTF-8 form of a text. `decode?` reads it back (`decode?_encode`) and refuses all other bytes.
-/

namespace PageTitle.Utf8

/-- The bytes of a text. -/
def encode (t : Text) : ByteArray := (t.flatMap String.utf8EncodeChar).toByteArray

/-- The text that has the given bytes. -/
def decode? (b : ByteArray) : Option Text := b.utf8Decode?.map Array.toList

theorem decode?_encode (t : Text) : decode? (encode t) = some t := by
  have h : (encode t).utf8Decode? = some t.toArray := List.utf8Decode?_utf8Encode
  simp [decode?, h]

end PageTitle.Utf8
