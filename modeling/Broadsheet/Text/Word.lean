/-!
# Broadsheet.Text.Word

The integers that formats take: those that fit into a word of some number of
bits, be it one with a sign or one without.
-/

namespace Broadsheet

/-- Whether an integer fits into a word of that many bits, with or without a sign. -/
def fitsWord (bits : Nat) (n : Int) : Bool :=
  -((1 <<< (bits - 1) : Nat) : Int) ≤ n && n < ((1 <<< bits : Nat) : Int)

end Broadsheet
