/-!
Text as bytes: every text has one encoding in UTF-8, and a list of bytes is text only if it is the
encoding of one.
-/

set_option autoImplicit false
set_option relaxedAutoImplicit false

namespace GameOfLife.Text

def bytes (text : String) : List UInt8 :=
  text.toByteArray.data.toList

def decode? (encoded : List UInt8) : Option String :=
  String.fromUTF8? ⟨encoded.toArray⟩

theorem decode?_bytes (text : String) : decode? (bytes text) = some text := by
  simp only [decode?, bytes, Array.toArray_toList, String.fromUTF8?]
  exact dif_pos text.isValidUTF8

theorem eq_bytes_of_decode? {encoded : List UInt8} {text : String}
    (h : decode? encoded = some text) : encoded = bytes text := by
  simp only [decode?, String.fromUTF8?] at h
  split at h
  · simp only [Option.some.injEq] at h
    subst h
    simp [bytes, String.fromUTF8]
  · simp at h

theorem bytes_append (a b : String) : bytes (a ++ b) = bytes a ++ bytes b := by
  simp [bytes, String.toByteArray_append]

end GameOfLife.Text
