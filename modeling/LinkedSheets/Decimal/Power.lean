/-!
# Powers

The powers that number formats are made of.
-/

namespace LinkedSheets.Decimal

def twoTo (n : Nat) : Nat :=
  Nat.pow 2 n

def tenTo (n : Nat) : Nat :=
  Nat.pow 10 n

end LinkedSheets.Decimal
