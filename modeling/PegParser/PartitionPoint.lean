namespace PegParser

variable {α : Type} (p : α → Bool) (xs : Array α)

-- The first index from `lo` on whose entry fails `p`, or the size if there is none. It halves the
-- range that is left, so it is right where no entry that satisfies `p` follows one that fails it.
def partitionPoint (lo : Nat) : Nat :=
  search (xs.size - lo) lo xs.size
where
  search : Nat → Nat → Nat → Nat
    | 0, lo, _ => lo
    | steps + 1, lo, hi =>
      if lo < hi then
        let middle := (lo + hi) / 2
        if xs[middle]?.any p then search steps (middle + 1) hi else search steps lo middle
      else
        lo

end PegParser
