/-!
# Bytes and text

Contents of entries are lists of bytes. They are text when they are the UTF-8 form of one.
-/

namespace ServiceRegistry

/-- The content of an entry or file. -/
abbrev Bytes := List UInt8

/-- The UTF-8 form of a text. -/
def Bytes.ofText (text : String) : Bytes := text.toUTF8.toList

/-- The text that bytes are the UTF-8 form of. -/
def Bytes.text? (bytes : Bytes) : Option String := String.fromUTF8? ⟨bytes.toArray⟩

end ServiceRegistry
