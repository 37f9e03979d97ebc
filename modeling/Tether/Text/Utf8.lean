/-!
Octets as text.
-/

namespace Tether.Text

/-- The text that octets encode, if they are well-formed UTF-8. -/
def decode (octets : List UInt8) : Option String := String.fromUTF8? octets.toByteArray

/-- The octets that encode a text. -/
def encode (s : String) : List UInt8 := s.toUTF8.toList

end Tether.Text
