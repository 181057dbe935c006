import VCard.Pattern
/-! Numbering plans: how the telephone numbers of a region look.

A plan gives a region's country calling code, the prefix dialled before an
international number and the national prefix (both as patterns), the shape of
its national numbers (a pattern and the possible lengths, some of them only for
local dialling), the patterns of the kinds of numbers in use (fixed lines,
mobiles, toll-free numbers and so on), and the layouts for writing numbers out.

Where regions share a calling code, the leading digits of a region tell its
numbers apart from the others'. A national prefix may also stand for digits of
the number (a local number dialled without its area code, say): the plan then
says what replaces it, in terms of the prefix pattern's groups.

A layout's pattern splits a whole number into groups of digits, which go into a
template (`$1 $2`); it applies to numbers whose front matches its leading
digits. Some layouts are written differently, or not at all, in international
form.

Counts in patterns are written in angle brackets (see `Pattern`). -/
namespace VCard

namespace Phone

/-- How a layout is written in international form. -/
inductive AbroadLayout where
  /-- As in national form. -/
  | asAtHome
  /-- Not used for international form. -/
  | hidden
  /-- With a template of its own. -/
  | written (template : String)
  deriving DecidableEq, Repr

/-- A way of writing numbers out. The plans give one as
`⟨pattern, leading, template, international⟩`. -/
structure Layout where
  /-- The pattern a whole number must match; its groups are the parts. -/
  pattern : String
  /-- The pattern the front of a number must match; empty for any number. -/
  leading : String := ""
  /-- The text of the groups: `$1` is the first group. -/
  template : String
  international : AbroadLayout := .asAtHome
  deriving Repr

/-- The numbering plan of a region. -/
structure Plan where
  region : String
  code : Nat
  internationalPrefix : String
  /-- The national prefix as a pattern; empty when there is none. -/
  nationalPrefix : String := ""
  /-- What replaces the national prefix, when it stands for digits; empty when
  it is only dropped. -/
  transform : String := ""
  /-- The pattern the front of the region's numbers matches, when it shares its
  calling code with other regions and is not the main one. -/
  leadingDigits : String := ""
  general : String
  lengths : List Nat
  localLengths : List Nat := []
  /-- Patterns of the kinds of numbers in use. -/
  kinds : List String
  layouts : List Layout := []
  /-- The text between a number and its extension. -/
  extensionPrefix : String := " ext. "
  deriving Repr

end Phone

end VCard

