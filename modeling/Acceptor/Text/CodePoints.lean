/-! Sets of characters, given as closed ranges of code points. -/
namespace Acceptor.Text

abbrev CodePoints := List (Nat × Nat)

def CodePoints.has (ranges : CodePoints) (c : Char) : Bool :=
  ranges.any fun r => r.1 ≤ c.toNat && c.toNat ≤ r.2

end Acceptor.Text
