namespace PegParser.Unicode

def lastCode : Nat := 0x10FFFF

structure RangeSet where
  -- First and last member of each range.
  ranges : List (Nat × Nat)
deriving DecidableEq, Inhabited

namespace RangeSet

def empty : RangeSet := ⟨[]⟩

def all : RangeSet := ⟨[(0, lastCode)]⟩

def containsIn (n : Nat) : List (Nat × Nat) → Bool
  | [] => false
  | (lo, hi) :: ranges => if n < lo then false else n ≤ hi || containsIn n ranges

def contains (s : RangeSet) (n : Nat) : Bool :=
  containsIn n s.ranges

def isEmpty (s : RangeSet) : Bool :=
  s.ranges.isEmpty

def insert (lo hi : Nat) : List (Nat × Nat) → List (Nat × Nat)
  | [] => [(lo, hi)]
  | (lo', hi') :: ranges =>
    if hi + 1 < lo' then (lo, hi) :: (lo', hi') :: ranges
    else if hi' + 1 < lo then (lo', hi') :: insert lo hi ranges
    else insert (min lo lo') (max hi hi') ranges

def insertAll (ranges : List (Nat × Nat)) (s : RangeSet) : RangeSet :=
  ⟨ranges.foldr (fun (lo, hi) ranges => insert lo hi ranges) s.ranges⟩

def ofRanges (ranges : List (Nat × Nat)) : RangeSet :=
  insertAll ranges empty

def singleton (n : Nat) : RangeSet := ⟨[(n, n)]⟩

def union (s t : RangeSet) : RangeSet :=
  insertAll s.ranges t

def gaps (lo : Nat) : List (Nat × Nat) → List (Nat × Nat)
  | [] => if lo ≤ lastCode then [(lo, lastCode)] else []
  | (lo', hi') :: ranges =>
    if lo < lo' then (lo, lo' - 1) :: gaps (hi' + 1) ranges else gaps (hi' + 1) ranges

def complement (s : RangeSet) : RangeSet :=
  ⟨gaps 0 s.ranges⟩

def inter (s t : RangeSet) : RangeSet :=
  (s.complement.union t.complement).complement

def diff (s t : RangeSet) : RangeSet :=
  s.inter t.complement

def symmDiff (s t : RangeSet) : RangeSet :=
  (s.diff t).union (t.diff s)

def unions (sets : List RangeSet) : RangeSet :=
  sets.foldr union empty

end RangeSet

def tableDigit (c : Char) : Nat :=
  if c.isDigit then c.toNat - '0'.toNat else c.toNat - 'A'.toNat + 10

-- An entry of a table under way: its numbers so far, and the one that is being read. The numbers of
-- an entry are set apart by `-`, `/` and `>`.
structure TableEntry where
  first : Nat := 0
  last : Option Nat := none
  step : Option Nat := none
  image : Option Nat := none
deriving Inhabited

namespace TableEntry

def push (e : TableEntry) (c : Char) : TableEntry :=
  if c = '-' then { e with last := some 0 }
  else if c = '/' then { e with step := some 0 }
  else if c = '>' then { e with image := some 0 }
  else
    let d := tableDigit c
    match e with
    | { image := some n, .. } => { e with image := some (16 * n + d) }
    | { step := some n, .. } => { e with step := some (16 * n + d) }
    | { last := some n, .. } => { e with last := some (16 * n + d) }
    | { first := n, .. } => { e with first := 16 * n + d }

def members (e : TableEntry) : List Nat :=
  let step := e.step.getD 1
  (List.range ((e.last.getD e.first - e.first) / step + 1)).map (e.first + step * ·)

def ranges (e : TableEntry) : List (Nat × Nat) :=
  match e.step with
  | none => [(e.first, e.last.getD e.first)]
  | some _ => e.members.map fun n => (n, n)

end TableEntry

def lineEntries (entry : Option TableEntry) : List Char → List TableEntry
  | [] => entry.toList
  | ' ' :: cs => entry.toList ++ lineEntries none cs
  | c :: cs => lineEntries ((entry.getD {}).push c) cs

def tableEntries (lines : List String) : List TableEntry :=
  lines.flatMap (lineEntries none ·.toList)

def RangeSet.ofTable (lines : List String) : RangeSet :=
  ofRanges ((tableEntries lines).flatMap TableEntry.ranges)

end PegParser.Unicode
