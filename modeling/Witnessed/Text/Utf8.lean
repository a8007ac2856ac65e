/-!
Text as bytes: the bytes of a text in UTF-8, and the text that bytes stand for, if they stand
for one.
-/

namespace Witnessed

/-- The UTF-8 bytes of a text. -/
def utf8 (cs : List Char) : List UInt8 :=
  cs.flatMap String.utf8EncodeChar

/-- The text whose UTF-8 bytes are given, if there is one: overlong forms, surrogates and
truncated sequences stand for nothing. -/
def ofUtf8? (bytes : List UInt8) : Option (List Char) :=
  (ByteArray.mk bytes.toArray).utf8Decode?.map Array.toList

/-- The UTF-8 bytes of a string. -/
def bytesOf (s : String) : List UInt8 :=
  utf8 s.toList

end Witnessed
