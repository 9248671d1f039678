/-!
# Double-precision numbers

A double is a sign and a magnitude, or not a number. The magnitudes are ranked in increasing order,
from zero through the subnormal and the normal ones to infinity, so that neighbours differ by one
and the rank of a magnitude is its bit pattern.
-/

namespace FaultTreeExchange

/-- A double-precision binary number. -/
inductive Binary64 where
  | nan
  | number (negative : Bool) (rank : Fin (0x7FF0000000000000 + 1))
  deriving DecidableEq, Repr

namespace Binary64

def fractionBits : Nat := 52

/-- The rank of infinity, the largest of all. -/
def infinityRank : Nat := 0x7FF0000000000000

def oneRank : Nat := 0x3FF0000000000000

/-- Magnitudes are whole multiples of two to the power of minus this number. -/
def unitExponent : Nat := 1074

/-- The count of the magnitudes from one power of two up to the next. -/
def fractionCount : Nat := Nat.pow 2 fractionBits

/-- The magnitude of a rank in units of the least subnormal. -/
def units (rank : Nat) : Nat :=
  if rank < fractionCount then rank
  else (fractionCount + rank % fractionCount) * Nat.pow 2 (rank / fractionCount - 1)

/-- Double of a sign and a rank; a rank above that of infinity counts as infinity. -/
def ofRank (negative : Bool) (rank : Nat) : Binary64 :=
  .number negative ⟨min rank infinityRank, Nat.lt_succ_of_le (Nat.min_le_right _ _)⟩

/-- Whether the number lies between zero and one, both included. -/
def isProbability : Binary64 → Bool
  | .nan => false
  | .number negative rank => rank.val = 0 || (!negative && rank.val ≤ oneRank)

end Binary64
end FaultTreeExchange
