/-!
# Code point ranges

Character properties are tables of inclusive code point ranges, ascending and disjoint. A
character has the property when its code point lies in one of the ranges.
-/

namespace Handclap.Text

/-- Inclusive code point ranges, ascending and disjoint. -/
abbrev CodeRanges := List (Nat × Nat)

def CodeRanges.contains (rs : CodeRanges) (c : Nat) : Bool :=
  rs.any fun r => decide (r.1 ≤ c ∧ c ≤ r.2)

theorem CodeRanges.contains_iff (rs : CodeRanges) (c : Nat) :
    rs.contains c = true ↔ ∃ r ∈ rs, r.1 ≤ c ∧ c ≤ r.2 := by
  simp [CodeRanges.contains]

/-- Every range is nonempty and ends before the next one starts. -/
def CodeRanges.Ascending : CodeRanges → Prop
  | [] => True
  | [r] => r.1 ≤ r.2
  | r :: s :: rs => r.1 ≤ r.2 ∧ r.2 < s.1 ∧ CodeRanges.Ascending (s :: rs)

def CodeRanges.ascending : CodeRanges → Bool
  | [] => true
  | [r] => decide (r.1 ≤ r.2)
  | r :: s :: rs => decide (r.1 ≤ r.2) && decide (r.2 < s.1) && CodeRanges.ascending (s :: rs)

theorem CodeRanges.ascending_iff (rs : CodeRanges) : rs.ascending = true ↔ rs.Ascending := by
  induction rs with
  | nil => simp [ascending, Ascending]
  | cons r rs ih =>
    cases rs with
    | nil => simp [ascending, Ascending]
    | cons s rs => simp [ascending, Ascending, ih, and_assoc]

end Handclap.Text
