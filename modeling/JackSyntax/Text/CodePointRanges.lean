/-
**Sets of characters as ranges of code points.**

A property of characters that a standard publishes as a table is kept as the list of its maximal
ranges.  The list is ascending, so a look-up stops at the first range that begins above the
character it looks for.

Main definitions:

* `CodePointRanges` — closed ranges of code points, ascending and apart;
* `CodePointRanges.contains` — membership;
* `CodePointRanges.isAscending` — the ranges are in order and do not touch.

Main results:

* `CodePointRanges.contains_eq_any` — in an ascending list, the early stop loses nothing.
-/

set_option relaxedAutoImplicit false
set_option autoImplicit false

namespace JackSyntax

/-- Closed ranges of code points, given by their first and last element. -/
abbrev CodePointRanges := List (Nat × Nat)

namespace CodePointRanges

/-- Whether the code point `n` lies in one of the ranges, which are read in ascending order. -/
def contains : CodePointRanges → Nat → Bool
  | [], _ => false
  | (lo, hi) :: ranges, n => if n < lo then false else if n ≤ hi then true else contains ranges n

/-- Each range is nonempty and ends at least two code points before the next one begins. -/
def isAscending : CodePointRanges → Bool
  | [] => true
  | [r] => r.1 ≤ r.2
  | r :: s :: ranges => r.1 ≤ r.2 && r.2 + 1 < s.1 && isAscending (s :: ranges)

/-- A code point below the first range of an ascending list is in none of its ranges. -/
theorem any_eq_false_of_lt (n : Nat) (r : Nat × Nat) (ranges : CodePointRanges)
    (ascending : isAscending (r :: ranges) = true) (below : n < r.1) :
    (r :: ranges).any (fun s => s.1 ≤ n && n ≤ s.2) = false := by
  induction ranges generalizing r with
  | nil => simp; omega
  | cons s ranges ih =>
      simp only [isAscending, Bool.and_eq_true, decide_eq_true_eq] at ascending
      rw [List.any_cons, ih s ascending.2 (by omega)]
      simp; omega

/-- In an ascending list, looking up to the first range above `n` finds what all ranges hold. -/
theorem contains_eq_any (ranges : CodePointRanges) (n : Nat)
    (ascending : isAscending ranges = true) :
    contains ranges n = ranges.any fun s => s.1 ≤ n && n ≤ s.2 := by
  induction ranges with
  | nil => rfl
  | cons r ranges ih =>
      by_cases below : n < r.1
      · rw [any_eq_false_of_lt n r ranges ascending below]
        simp [contains, below]
      · by_cases inside : n ≤ r.2
        · simp [contains, below, inside, Nat.le_of_not_lt below]
        · have rest : isAscending ranges = true := by
            cases ranges with
            | nil => rfl
            | cons s ranges =>
                simp only [isAscending, Bool.and_eq_true] at ascending
                exact ascending.2
          simp [contains, below, inside, ih rest]

end CodePointRanges

end JackSyntax
