/-!
# Tables of characters

A class of characters is given by the ascending list of the ranges of its code points.
-/

namespace FaultTreeExchange.Text

/-- Disjoint ranges of code points in ascending order, both ends included. -/
abbrev RangeTable := List (Nat × Nat)

/-- Whether a range of the table holds the code point. The search stops at the first range that
starts above it. -/
def RangeTable.covers : RangeTable → Nat → Bool
  | [], _ => false
  | (first, last) :: rest, code =>
    if code < first then false else code ≤ last || RangeTable.covers rest code

theorem RangeTable.exists_of_covers {table : RangeTable} {code : Nat}
    (h : table.covers code = true) : ∃ range ∈ table, range.1 ≤ code ∧ code ≤ range.2 := by
  induction table with
  | nil => cases h
  | cons range rest ih =>
    unfold RangeTable.covers at h
    split at h
    · cases h
    · rename_i hlow
      rcases Bool.or_eq_true_iff.mp h with hhigh | hrest
      · exact ⟨range, List.mem_cons_self, Nat.le_of_not_lt hlow, of_decide_eq_true hhigh⟩
      · obtain ⟨found, hfound, hbounds⟩ := ih hrest
        exact ⟨found, List.mem_cons_of_mem _ hfound, hbounds⟩

end FaultTreeExchange.Text
