/-!
Contract: membership in a union of code point ranges.

Owns: inclusive ranges in ascending order and the search in them.

Does not own: the ranges of any particular property.
-/

namespace Wayland.Text

/-- Inclusive code point ranges in ascending order. -/
abbrev Ranges := Array (Nat × Nat)

namespace Ranges

/-- Searches the ranges with indexes from `low` to `high`, with one step of `fuel` per halving. -/
def searchFrom
    (ranges : Ranges)
    (code : Nat) :
    (fuel low high : Nat) → Bool
  | 0, _, _ => false
  | fuel + 1, low, high =>
      if low ≥ high then false
      else
        let middle := (low + high) / 2
        match ranges[middle]? with
        | none => false
        | some (first, last) =>
            if code < first then searchFrom ranges code fuel low middle
            else if last < code then searchFrom ranges code fuel (middle + 1) high
            else true

def contains
    (ranges : Ranges)
    (code : Nat) :
    Bool :=
  searchFrom ranges code (ranges.size + 1) 0 ranges.size

end Ranges

end Wayland.Text
