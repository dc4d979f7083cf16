import PegParser.Regex.Pattern
import PegParser.Text.Blank
import PegParser.Unicode.Property

namespace PegParser.Regex

structure Place where
  rest : List Char
  -- Whether blanks and comments are skipped.
  ignoreBlanks : Bool := false
  names : List String := []

abbrev Reader := StateT Place Option

namespace Reader

def afterBlanks (inComment : Bool) : List Char → List Char
  | [] => []
  | c :: cs =>
    if inComment then afterBlanks (c != '\n') cs
    else if Text.isBlank c then afterBlanks false cs
    else if c == '#' then afterBlanks true cs
    else c :: cs

def skipBlanks : Reader Unit :=
  modify fun p => if p.ignoreBlanks then { p with rest := afterBlanks false p.rest } else p

def peek : Reader (Option Char) := do
  return (← get).rest.head?

def peekSecond : Reader (Option Char) := do
  return (← get).rest.tail.head?

def peekSecondVisible : Reader (Option Char) := do
  let p ← get
  let rest := p.rest.tail
  return (if p.ignoreBlanks then afterBlanks false rest else rest).head?

def next : Reader Char := do
  match (← get).rest with
  | c :: _ => return c
  | [] => failure

def drop (n : Nat) : Reader Unit :=
  modify fun p => { p with rest := p.rest.drop n }

def advance : Reader Unit := do
  drop 1
  skipBlanks

def take? (cs : List Char) : Reader Bool := do
  if cs.isPrefixOf (← get).rest then
    drop cs.length
    return true
  else
    return false

def steps : Reader Nat := do
  return (← get).rest.length + 1

def hexDigit? (c : Char) : Option Nat :=
  if c.isDigit then some (c.toNat - '0'.toNat)
  else if 'a' ≤ c ∧ c ≤ 'f' then some (c.toNat - 'a'.toNat + 10)
  else if 'A' ≤ c ∧ c ≤ 'F' then some (c.toNat - 'A'.toNat + 10)
  else none

def hexValue? (cs : List Char) : Option Nat :=
  cs.foldlM (fun n c => (16 * n + ·) <$> hexDigit? c) 0

def charOf? (n : Nat) : Option Char :=
  if h : n.isValidChar then some (Char.ofNatAux n h) else none

def braced : (steps : Nat) → (done : List Char) → Reader (List Char)
  | 0, _ => failure
  | steps + 1, done => do
    advance
    let c ← next
    if c == '\x7d' then return done.reverse else braced steps (c :: done)

def hexDigits : Nat → (done : List Char) → Reader (List Char)
  | 0, done => return done.reverse
  | n + 1, done => do
    let c ← next
    advance
    hexDigits n (c :: done)

def hexLiteral (digits : Nat) : Reader Literal := do
  advance
  if (← next) == '\x7b' then
    let cs ← braced (← steps) []
    advance
    if cs.isEmpty then failure
    return ⟨← charOf? (← hexValue? cs), false⟩
  else
    let cs ← hexDigits digits []
    return ⟨← charOf? (← hexValue? cs), digits == 2⟩

def splitAt? (mark : List Char) : List Char → Option (List Char × List Char)
  | [] => none
  | c :: cs =>
    if mark.isPrefixOf (c :: cs) then
      some ([], (c :: cs).drop mark.length)
    else
      (splitAt? mark cs).map fun (before, after) => (c :: before, after)

def propertyName (cs : List Char) : PropertyName :=
  let split := (splitAt? ['!', '='] cs).orElse fun _ =>
    (splitAt? [':'] cs).orElse fun _ => splitAt? ['='] cs
  match split with
  | some (name, value) => .valued (String.ofList name) (String.ofList value)
  | none => .named (String.ofList cs)

def property : Reader PropertyName := do
  advance
  let c ← next
  if c == '\x7b' then
    let cs ← braced (← steps) []
    drop 1
    return propertyName cs
  else if c == '\\' then
    failure
  else
    drop 1
    return .named c.toString

def isPlaceLetter (c : Char) : Bool :=
  c.isAlpha || c == '-'

def placeLetters : (steps : Nat) → (done : List Char) → Reader (List Char)
  | 0, _ => failure
  | steps + 1, done => do
    match ← peek with
    | some c =>
      if isPlaceLetter c then
        advance
        placeLetters steps (c :: done)
      else
        return done.reverse
    | none => return done.reverse

def wordPlace : Reader WordPlace := do
  if (← peek) != some '\x7b' then return .boundary
  let start ← get
  advance
  if !isPlaceLetter (← next) then
    set start
    return .boundary
  let cs ← placeLetters (← steps) []
  if (← next) != '\x7d' then failure
  drop 1
  match String.ofList cs with
  | "start" => return .start
  | "end" => return .stop
  | "start-half" => return .startHalf
  | "end-half" => return .stopHalf
  | _ => failure

inductive Atom
  | literal (l : Literal)
  | assertion (a : Assertion)
  | short (c : ShortClass) (negated : Bool)
  | property (name : PropertyName) (negated : Bool)

def isPunctuation (c : Char) : Bool :=
  c.toNat < 128 && !c.isAlphanum && c != '<' && c != '>'

def escape : Reader Atom := do
  drop 1
  let c ← next
  match c with
  | 'x' => return .literal (← hexLiteral 2)
  | 'u' => return .literal (← hexLiteral 4)
  | 'U' => return .literal (← hexLiteral 8)
  | 'p' => return .property (← property) false
  | 'P' => return .property (← property) true
  | _ =>
    drop 1
    if isPunctuation c then return .literal ⟨c, false⟩
    match c with
    | 'd' => return .short .digit false
    | 'D' => return .short .digit true
    | 's' => return .short .space false
    | 'S' => return .short .space true
    | 'w' => return .short .word false
    | 'W' => return .short .word true
    | 'a' => return .literal ⟨'\x07', false⟩
    | 'f' => return .literal ⟨'\x0c', false⟩
    | 't' => return .literal ⟨'\t', false⟩
    | 'n' => return .literal ⟨'\n', false⟩
    | 'r' => return .literal ⟨'\r', false⟩
    | 'v' => return .literal ⟨'\x0b', false⟩
    | 'A' => return .assertion .textStart
    | 'z' => return .assertion .textEnd
    | 'b' => return .assertion (.word (← wordPlace))
    | 'B' => return .assertion (.word .noBoundary)
    | '<' => return .assertion (.word .start)
    | '>' => return .assertion (.word .stop)
    | _ => failure

def namedClass? (name : String) : Option (List (Nat × Nat)) :=
  match name with
  | "alnum" => some [(0x30, 0x39), (0x41, 0x5A), (0x61, 0x7A)]
  | "alpha" => some [(0x41, 0x5A), (0x61, 0x7A)]
  | "ascii" => some [(0x00, 0x7F)]
  | "blank" => some [(0x09, 0x09), (0x20, 0x20)]
  | "cntrl" => some [(0x00, 0x1F), (0x7F, 0x7F)]
  | "digit" => some [(0x30, 0x39)]
  | "graph" => some [(0x21, 0x7E)]
  | "lower" => some [(0x61, 0x7A)]
  | "print" => some [(0x20, 0x7E)]
  | "punct" => some [(0x21, 0x2F), (0x3A, 0x40), (0x5B, 0x60), (0x7B, 0x7E)]
  | "space" => some [(0x09, 0x0D), (0x20, 0x20)]
  | "upper" => some [(0x41, 0x5A)]
  | "word" => some [(0x30, 0x39), (0x41, 0x5A), (0x5F, 0x5F), (0x61, 0x7A)]
  | "xdigit" => some [(0x30, 0x39), (0x41, 0x46), (0x61, 0x66)]
  | _ => none

def namedClass : Reader (Option ClassItem) := do
  match (← get).rest with
  | '[' :: ':' :: cs =>
    let negated := cs.head? == some '^'
    let cs := if negated then cs.tail else cs
    let name := cs.takeWhile (· != ':')
    match namedClass? (String.ofList name), cs.drop name.length with
    | some members, ':' :: ']' :: rest =>
      modify ({ · with rest })
      return some (.named members negated)
    | _, _ => return none
  | _ => return none

def classAtom : Reader Atom := do
  let c ← next
  if c == '\\' then
    escape
  else
    drop 1
    return .literal ⟨c, false⟩

def Atom.toItem? : Atom → Option ClassItem
  | .literal l => some (.literal l)
  | .short c negated => some (.short c negated)
  | .property name negated => some (.property name negated)
  | .assertion _ => none

def classRange : Reader ClassItem := do
  let first ← classAtom
  skipBlanks
  let c ← next
  let second ← peekSecondVisible
  if c != '-' || second == some ']' || second == some '-' then
    first.toItem?
  else
    advance
    match first, ← classAtom with
    | .literal first, .literal last =>
      if first.char ≤ last.char then return .range first last else failure
    | _, _ => failure

def leadingHyphens : (steps : Nat) → (done : List ClassItem) → Reader (List ClassItem)
  | 0, done => return done
  | steps + 1, done => do
    if (← next) == '-' then
      advance
      leadingHyphens steps (.literal ⟨'-', false⟩ :: done)
    else
      return done

-- The start of a class: whether it is negated, and the members that stand for themselves only here,
-- which are hyphens or a closing bracket.
def classStart : Reader (Bool × List ClassItem) := do
  advance
  let negated := (← next) == '^'
  if negated then advance
  let hyphens ← leadingHyphens (← steps) []
  if hyphens.isEmpty && (← next) == ']' then
    advance
    return (negated, [.literal ⟨']', false⟩])
  else
    return (negated, hyphens)

def setOperation? : Char → Option SetOperation
  | '&' => some .intersection
  | '-' => some .difference
  | '~' => some .symmetricDifference
  | _ => none

def operand (left : Option (SetOperation × ClassItem)) (items : List ClassItem) : ClassItem :=
  let right := ClassItem.join items.reverse
  match left with
  | some (op, left) => .operation op left right
  | none => right

mutual

def bracketed : (steps : Nat) → Reader ClassItem
  | 0 => failure
  | steps + 1 => do
    let (negated, items) ← classStart
    return .bracketed negated (← classBody steps none items)

def classBody :
    (steps : Nat) → Option (SetOperation × ClassItem) → List ClassItem → Reader ClassItem
  | 0, _, _ => failure
  | steps + 1, left, items => do
    skipBlanks
    let c ← next
    if c == '[' then
      match ← namedClass with
      | some item => classBody steps left (item :: items)
      | none =>
        let item ← bracketed steps
        classBody steps left (item :: items)
    else if c == ']' then
      drop 1
      return operand left items
    else
      match setOperation? c, (← peekSecond) == some c with
      | some op, true =>
        drop 2
        classBody steps (some (op, operand left items)) []
      | _, _ =>
        let item ← classRange
        classBody steps left (item :: items)

end

def flag? : Char → Option Flag
  | 'i' => some .caseInsensitive
  | 'm' => some .multiLine
  | 's' => some .dotMatchesNewline
  | 'U' => some .swapGreed
  | 'u' => some .unicode
  | 'R' => some .crlf
  | 'x' => some .ignoreBlanks
  | _ => none

def flags : (steps : Nat) → (on : Bool) → (done : FlagChanges) → Reader FlagChanges
  | 0, _, _ => failure
  | steps + 1, on, done => do
    let c ← next
    if c == ':' || c == ')' then
      return done.reverse
    else if c == '-' then
      drop 1
      let d ← next
      if !on || d == ':' || d == ')' then failure
      flags steps false done
    else
      let flag ← flag? c
      if done.any (·.1 == flag) then failure
      drop 1
      flags steps on ((flag, on) :: done)

def isNameChar (first : Bool) (c : Char) : Bool :=
  c == '_' || Unicode.alphabetic.contains c.toNat ||
    (!first && (c == '.' || c == '[' || c == ']' || Unicode.number.contains c.toNat))

def groupName : Reader Unit := do
  let p ← get
  let name := p.rest.takeWhile (· != '>')
  match name, p.rest.drop name.length with
  | c :: cs, _ :: rest =>
    let text := String.ofList name
    if !isNameChar true c || !cs.all (isNameChar false) || p.names.contains text then failure
    set { p with rest, names := text :: p.names }
  | _, _ => failure

inductive Opening
  | group (changes : FlagChanges)
  | flags (changes : FlagChanges)

def opening : Reader Opening := do
  skipBlanks
  if (← take? ['?', '=']) || (← take? ['?', '!']) then failure
  if (← take? ['?', '<', '=']) || (← take? ['?', '<', '!']) then failure
  if ← take? ['?', 'P', '<'] then
    groupName
    return .group []
  if ← take? ['?', '<'] then
    groupName
    return .group []
  if ← take? ['?'] then
    let changes ← flags (← steps) true []
    let c ← next
    drop 1
    if c == ':' then return .group changes
    if changes.isEmpty then failure
    return .flags changes
  return .group []

def ignoresBlanks (changes : FlagChanges) (before : Bool) : Bool :=
  (changes.lookup .ignoreBlanks).getD before

def isLazy : Reader Bool :=
  take? ['?']

def digits : (steps : Nat) → (done : List Char) → Reader (List Char)
  | 0, _ => failure
  | steps + 1, done => do
    match ← peek with
    | some c =>
      if c.isDigit then
        advance
        digits steps (c :: done)
      else
        return done.reverse
    | none => return done.reverse

def dropBlanks : Reader Unit :=
  modify fun p => { p with rest := p.rest.dropWhile Text.isBlank }

def count : Reader Nat := do
  dropBlanks
  let cs ← digits (← steps) []
  dropBlanks
  skipBlanks
  if cs.isEmpty then failure
  let n := cs.foldl (fun n c => 10 * n + (c.toNat - '0'.toNat)) 0
  if n < UInt32.size then return n else failure

def counts : Reader (Nat × Option Nat) := do
  let min ← count
  if (← next) == ',' then
    advance
    if (← next) == '\x7d' then
      return (min, none)
    else
      let max ← count
      if min ≤ max then return (min, some max) else failure
  else
    return (min, some min)

def repeatLast (min : Nat) (max : Option Nat) (greedy : Bool) :
    List Pattern → Reader (List Pattern)
  | [] => failure
  | .empty :: _ => failure
  | .flags _ :: _ => failure
  | part :: parts => return .repetition min max greedy part :: parts

def Atom.toPattern : Atom → Pattern
  | .literal l => .literal l
  | .assertion a => .assertion a
  | .short c negated => .charClass (.short c negated)
  | .property name negated => .charClass (.property name negated)

def primitive : Reader Pattern := do
  let c ← next
  if c == '\\' then
    return (← escape).toPattern
  else
    drop 1
    match c with
    | '.' => return .dot
    | '^' => return .assertion .lineStart
    | '$' => return .assertion .lineEnd
    | _ => return .literal ⟨c, false⟩

def branches : (steps : Nat) → (done parts : List Pattern) → Reader Pattern
  | 0, _, _ => failure
  | steps + 1, done, parts => do
    skipBlanks
    let branch := Pattern.concat parts.reverse
    match ← peek with
    | none | some ')' => return Pattern.choose (branch :: done).reverse
    | some '|' =>
      drop 1
      branches steps (branch :: done) []
    | some '(' =>
      drop 1
      let before := (← get).ignoreBlanks
      match ← opening with
      | .flags changes =>
        modify ({ · with ignoreBlanks := ignoresBlanks changes before })
        branches steps done (.flags changes :: parts)
      | .group changes =>
        modify ({ · with ignoreBlanks := ignoresBlanks changes before })
        let inner ← branches steps [] []
        if (← next) != ')' then failure
        drop 1
        modify ({ · with ignoreBlanks := before })
        branches steps done (.group changes inner :: parts)
    | some '[' =>
      let item ← bracketed (2 * (← Reader.steps))
      branches steps done (.charClass item :: parts)
    | some '?' =>
      drop 1
      branches steps done (← repeatLast 0 (some 1) (!(← isLazy)) parts)
    | some '*' =>
      drop 1
      branches steps done (← repeatLast 0 none (!(← isLazy)) parts)
    | some '+' =>
      drop 1
      branches steps done (← repeatLast 1 none (!(← isLazy)) parts)
    | some '\x7b' =>
      advance
      let (min, max) ← counts
      if (← next) != '\x7d' then failure
      advance
      branches steps done (← repeatLast min max (!(← isLazy)) parts)
    | some _ =>
      let part ← primitive
      branches steps done (part :: parts)

end Reader

def heightLimit : Nat := 250

def Pattern.ofText? (text : String) : Option Pattern := do
  let cs := text.toList
  let (pattern, place) ← (Reader.branches (2 * cs.length + 2) [] []).run { rest := cs }
  if place.rest.isEmpty && pattern.height ≤ heightLimit then some pattern else none

end PegParser.Regex
