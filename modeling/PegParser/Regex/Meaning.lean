import PegParser.Regex.Basic
import PegParser.Regex.Pattern
import PegParser.Unicode.Property

namespace PegParser.Regex

open Unicode (RangeSet)

structure Flags where
  caseInsensitive : Bool := false
  multiLine : Bool := false
  dotMatchesNewline : Bool := false
  swapGreed : Bool := false
  unicode : Bool := true
  crlf : Bool := false

namespace Flags

def change (f : Flags) : Flag × Bool → Flags
  | (.caseInsensitive, on) => { f with caseInsensitive := on }
  | (.multiLine, on) => { f with multiLine := on }
  | (.dotMatchesNewline, on) => { f with dotMatchesNewline := on }
  | (.swapGreed, on) => { f with swapGreed := on }
  | (.unicode, on) => { f with unicode := on }
  | (.crlf, on) => { f with crlf := on }
  | (.ignoreBlanks, _) => f

def changeAll (f : Flags) (changes : FlagChanges) : Flags :=
  changes.foldl change f

end Flags

variable (f : Flags)

def fold (s : RangeSet) : RangeSet :=
  if f.caseInsensitive then (if f.unicode then s.foldCase else s.foldAsciiCase) else s

-- The complement, which would hold parts of characters if only ASCII counts.
def negate? (negated : Bool) (s : RangeSet) : Option RangeSet :=
  if !negated then some s else if f.unicode then some s.complement else none

def asciiDigit : RangeSet := ⟨[(0x30, 0x39)]⟩

def asciiSpace : RangeSet := ⟨[(0x09, 0x0D), (0x20, 0x20)]⟩

def asciiWord : RangeSet := ⟨[(0x30, 0x39), (0x41, 0x5A), (0x5F, 0x5F), (0x61, 0x7A)]⟩

def ShortClass.members (c : ShortClass) : RangeSet :=
  match c, f.unicode with
  | digit, true => Unicode.decimalNumber
  | space, true => Unicode.whiteSpace
  | word, true => Unicode.word
  | digit, false => asciiDigit
  | space, false => asciiSpace
  | word, false => asciiWord

def PropertyName.members? : PropertyName → Option RangeSet
  | named name => Unicode.property? name
  | valued name value => Unicode.valuedProperty? name value

def propertyMembers? (name : PropertyName) (negated : Bool) : Option RangeSet :=
  if f.unicode then name.members?.bind fun s => negate? f negated (fold f s) else none

def memberCode? (l : Literal) : Option Nat :=
  if f.unicode || l.char.toNat < 128 then some l.char.toNat else none

def SetOperation.apply : SetOperation → RangeSet → RangeSet → RangeSet
  | intersection => RangeSet.inter
  | difference => RangeSet.diff
  | symmetricDifference => RangeSet.symmDiff

mutual

-- The characters of a class. Case is made up for at each closing bracket and each operation.
def ClassItem.members? : ClassItem → Option RangeSet
  | .literal l => (memberCode? f l).map .singleton
  | .range first last => do return ⟨[(← memberCode? f first, ← memberCode? f last)]⟩
  | .named members negated => negate? f negated (fold f ⟨members⟩)
  | .short c negated => negate? f negated (c.members f)
  | .property name negated => propertyMembers? f name negated
  | .bracketed negated inner => do negate? f negated (fold f (← inner.members?))
  | .union items => itemsMembers? items
  | .operation op left right => do
    return op.apply (fold f (← left.members?)) (fold f (← right.members?))

def itemsMembers? : List ClassItem → Option RangeSet
  | [] => some .empty
  | item :: items => do return (← item.members?).union (← itemsMembers? items)

end

-- A character by itself. A byte that starts no character of its own is refused.
def Literal.regex? (l : Literal) : Option Regex :=
  if !f.unicode && l.isByte && 128 ≤ l.char.toNat then
    none
  else if !f.unicode && 128 ≤ l.char.toNat then
    some (.oneOf (.singleton l.char.toNat))
  else
    some (.oneOf (fold f (.singleton l.char.toNat)))

def dot? : Option Regex :=
  if !f.unicode then none
  else if f.dotMatchesNewline then some (.oneOf .all)
  else if f.crlf then some (.oneOf (RangeSet.complement ⟨[(0x0A, 0x0A), (0x0D, 0x0D)]⟩))
  else some (.oneOf (RangeSet.complement ⟨[(0x0A, 0x0A)]⟩))

def WordPlace.test : WordPlace → Bool → Bool → Bool
  | boundary => fun before after => before != after
  | noBoundary => fun before after => before == after
  | start => fun before after => !before && after
  | stop => fun before after => before && !after
  | startHalf => fun before _ => !before
  | stopHalf => fun _ after => !after

def Assertion.look : Assertion → Look
  | lineStart => if f.multiLine then .lineStart f.crlf else .textStart
  | lineEnd => if f.multiLine then .lineEnd f.crlf else .textEnd
  | textStart => .textStart
  | textEnd => .textEnd
  | word place => .word (ShortClass.word.members f) place.test

mutual

def Pattern.regex? (f : Flags) : Pattern → Option (Regex × Flags)
  | .empty => some (.empty, f)
  | .flags changes => some (.empty, f.changeAll changes)
  | .literal l => (l.regex? f).map (·, f)
  | .dot => (dot? f).map (·, f)
  | .assertion a => some (.look (a.look f), f)
  | .charClass item => (item.members? f).map (.oneOf ·, f)
  | .repetition min max greedy inner => do
    let (r, f') ← inner.regex? f
    return (r.repetition min max (greedy != f.swapGreed), f')
  | .group changes inner => do
    let (r, _) ← inner.regex? (f.changeAll changes)
    return (r, f)
  | .alternation branches => branchesRegex? f branches
  | .concatenation parts => partsRegex? f parts

def branchesRegex? (f : Flags) : List Pattern → Option (Regex × Flags)
  | [] => none
  | [branch] => branch.regex? f
  | branch :: branches => do
    let (r, f) ← branch.regex? f
    let (s, f) ← branchesRegex? f branches
    return (.alt r s, f)

def partsRegex? (f : Flags) : List Pattern → Option (Regex × Flags)
  | [] => some (.empty, f)
  | part :: parts => do
    let (r, f) ← part.regex? f
    let (s, f) ← partsRegex? f parts
    return (.seq r s, f)

end

end PegParser.Regex
