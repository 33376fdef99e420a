/-!
# Sets of characters given by ranges of code points

A property of characters is stored as the list of its ranges, in ascending order.
-/

namespace Workflow
namespace Text

/-- A set of characters, as inclusive ranges of code points. -/
abbrev Ranges :=
  List (Nat × Nat)

/-- Whether a character lies in one of the ranges. -/
def Ranges.holds (ranges : Ranges) (c : Char) : Bool :=
  ranges.any fun range => range.1 ≤ c.toNat && c.toNat ≤ range.2

end Text
end Workflow
