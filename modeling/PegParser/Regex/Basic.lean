import PegParser.Unicode.RangeSet

namespace PegParser

namespace Regex

inductive Look
  | textStart
  | textEnd
  -- The start of the text, or after a line end: `\n`, and `\r` too if both end lines.
  | lineStart (crlf : Bool)
  | lineEnd (crlf : Bool)
  -- What the characters before and after are, as members of a set of word characters or not.
  | word (members : Unicode.RangeSet) (test : Bool → Bool → Bool)

namespace Look

def isMember (members : Unicode.RangeSet) (c : Option Char) : Bool :=
  c.any fun c => members.contains c.toNat

def holds (before after : Option Char) : Look → Bool
  | textStart => before.isNone
  | textEnd => after.isNone
  | lineStart false => before.all (· == '\n')
  | lineEnd false => after.all (· == '\n')
  | lineStart true =>
    before.all (· == '\n') || (before == some '\r' && after != some '\n')
  | lineEnd true =>
    after.all (· == '\r') || (after == some '\n' && before != some '\r')
  | word members test => test (isMember members before) (isMember members after)

end Look
end Regex

inductive Regex
  | empty
  | oneOf (members : Unicode.RangeSet)
  | look (l : Regex.Look)
  | seq (r s : Regex)
  | alt (r s : Regex)
  -- At least `min` and at most `max` times.
  | repeated (min : Nat) (max : Option Nat) (greedy : Bool) (r : Regex)

namespace Regex

def canBeEmpty : Regex → Bool
  | empty => true
  | oneOf _ => false
  | look _ => true
  | seq r s => r.canBeEmpty && s.canBeEmpty
  | alt r s => r.canBeEmpty || s.canBeEmpty
  | repeated min _ _ r => min == 0 || r.canBeEmpty

-- Whether nothing but the empty text can match, by the form alone.
def isEmptyOnly : Regex → Bool
  | empty => true
  | oneOf _ => false
  | look _ => true
  | seq r s => r.isEmptyOnly && s.isEmptyOnly
  | alt r s => r.isEmptyOnly && s.isEmptyOnly
  | repeated _ max _ r => max == some 0 || r.isEmptyOnly

-- A repetition in its simplest form: what matches only the empty text is tried once at most.
def repetition (min : Nat) (max : Option Nat) (greedy : Bool) (r : Regex) : Regex :=
  let (min, max) := if r.isEmptyOnly then (min.min 1, some ((max.getD 1).min 1)) else (min, max)
  if min == 0 && max == some 0 then
    empty
  else if min == 1 && max == some 1 then
    r
  else
    repeated min max greedy r

def setWeight (members : Unicode.RangeSet) : Nat :=
  members.ranges.foldl (fun n (_, last) => n + (if last < 128 then 8 else 64)) 32

-- The bytes that the compiled program takes up, about.
def weight : Regex → Nat
  | empty => 32
  | oneOf members => setWeight members
  | look _ => 32
  | seq r s => r.weight + s.weight
  | alt r s => 32 + r.weight + s.weight
  | repeated min none _ r => 32 + max min 1 * r.weight
  | repeated min (some most) _ r => 32 + min * r.weight + (most - min) * (r.weight + 32)

def weightLimit : Nat := 10 * 1024 * 1024

end Regex
end PegParser
