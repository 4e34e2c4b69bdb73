/-! # Ranges of characters
Large properties of characters are given as tables: closed ranges of code points, in increasing
order and with gaps between them. -/

namespace Restyle.Text

/-- Closed ranges of code points. -/
abbrev CharRanges := List (Nat × Nat)

namespace CharRanges

/-- Whether a character lies in one of the ranges. -/
def contains (rs : CharRanges) (c : Char) : Bool := rs.any fun r => r.1 ≤ c.toNat && c.toNat ≤ r.2

/-- Whether the ranges are in increasing order, with gaps between them. -/
def isOrdered : CharRanges → Bool
  | [] => true
  | [r] => r.1 ≤ r.2
  | r :: s :: rs => r.1 ≤ r.2 && r.2 + 1 < s.1 && isOrdered (s :: rs)

/-- No character lies in an empty list of ranges. -/
@[simp] theorem contains_nil (c : Char) : contains [] c = false := rfl

/-- A character lies in the first range, or in one of the others. -/
@[simp] theorem contains_cons (r : Nat × Nat) (rs : CharRanges) (c : Char) :
    contains (r :: rs) c = ((r.1 ≤ c.toNat && c.toNat ≤ r.2) || contains rs c) := rfl

end CharRanges

end Restyle.Text
