import VCard.Text.Case
/-! Warnings: what reading or writing noticed but went past.

A warning has a message, the property it concerns (none for the card or the
document as a whole), and the line it was read from (only when reading vCard
text). Warnings of an embedded card are reported by the card that holds it,
with the holding property's name before the message. -/
namespace VCard

/-- Something reading or writing noticed. -/
structure Warning where
  message : String
  property : Option String := none
  line : Option Nat := none
  deriving DecidableEq, Repr

namespace Warning

/-- The warning with text before its message. -/
def prefixed (w : Warning) (pre : String) : Warning := { w with message := pre ++ w.message }

end Warning

end VCard
