namespace Railroad

/-- Whether one of the ranges from `lo` to before `lo + size` has the number in it.  The ranges are
in ascending order, so half of them drop out at each step. -/
def inRanges (ranges : Array (Nat × Nat)) (n lo size : Nat) : Bool :=
  if _h : size = 0 then false
  else
    let middle := lo + size / 2
    match ranges[middle]? with
    | none => false
    | some (first, last) =>
      if n < first then inRanges ranges n lo (size / 2)
      else if last < n then inRanges ranges n (middle + 1) (size - size / 2 - 1)
      else true
termination_by size
decreasing_by all_goals omega

end Railroad
