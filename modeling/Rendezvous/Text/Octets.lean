/-
# Text as octets

Frames travel as UTF-8, and the places at which a frame is found faulty are
counted in octets. Everything that is carried through the relay unread is
therefore kept as a list of octets and turned back into text only to be shown.
-/

namespace Rendezvous

/-- The octets of a text or of a part of one. -/
abbrev Octets := List UInt8

namespace Octets

/-- The UTF-8 form of a text. -/
def ofText (text : String) : Octets :=
  text.toUTF8.data.toList

/-- The text whose UTF-8 form the octets are. Octets that are no UTF-8 show as a
single replacement character; no part of a frame cut at its punctuation is. -/
def toText (octets : Octets) : String :=
  (String.fromUTF8? ⟨octets.toArray⟩).getD "\uFFFD"

/-- The UTF-8 form of one character. -/
def ofChar (char : Char) : Octets :=
  ofText (String.singleton char)

theorem ofText_injective {left right : String} (same : ofText left = ofText right) :
    left = right := by
  apply String.toByteArray_inj.mp
  have data : left.toByteArray.data = right.toByteArray.data := by
    simpa [ofText] using same
  exact ByteArray.ext data

end Octets

end Rendezvous
