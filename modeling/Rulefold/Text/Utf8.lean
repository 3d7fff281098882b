/-!
# Text as bytes

The encoding of text in UTF-8 and its partial inverse. Decoding what was encoded gives the text
back: `decode?_encode`.
-/

namespace Rulefold.Text

/-- The bytes of a text. -/
def encode (text : String) : List UInt8 := text.toByteArray.data.toList

/-- The text that bytes encode; bytes that are no valid encoding have none. -/
def decode? (bytes : List UInt8) : Option String := String.fromUTF8? ⟨bytes.toArray⟩

theorem decode?_encode (text : String) : decode? (encode text) = some text := by
  simp [decode?, encode, String.fromUTF8?, text.isValidUTF8, String.fromUTF8]

theorem encode_append (first second : String) :
    encode (first ++ second) = encode first ++ encode second := by
  simp [encode]

end Rulefold.Text
