/-!
Text as bytes, in UTF-8.
-/
namespace Concordance

abbrev Bytes := List UInt8

namespace Text

def utf8Of (text : List Char) : Bytes :=
  text.flatMap String.utf8EncodeChar

def utf8 (text : String) : Bytes :=
  utf8Of text.toList

/-- The text some bytes stand for; nothing when they are not well formed. -/
def ofUtf8? (bytes : Bytes) : Option String :=
  String.fromUTF8? ⟨bytes.toArray⟩

end Text

end Concordance
