namespace PegParser.Yaml

inductive Token
  | versionDirective (major minor : Nat)
  | tagDirective (handle replacement : String)
  | documentStart
  | documentEnd
  | blockSequenceStart
  | blockMappingStart
  | blockEnd
  | flowSequenceStart
  | flowSequenceEnd
  | flowMappingStart
  | flowMappingEnd
  | blockEntry
  | flowEntry
  | key
  | value
  | alias (name : String)
  | anchor (name : String)
  | tag (handle suffix : String)
  | scalar (text : String) (plain : Bool)
deriving DecidableEq, Inhabited, Repr

-- A place that turns out to start a key if a `:` follows on the same line.
structure KeyPlace where
  -- The number of tokens before it.
  token : Nat
  index : Nat
  line : Nat
  column : Nat
  -- Whether nothing else than a key may stand there.
  required : Bool

structure Scanner where
  -- The number of characters of the whole text.
  length : Nat
  rest : List Char
  index : Nat := 0
  line : Nat := 0
  column : Nat := 0
  tokens : Array Token := #[]
  -- The column of the current block, and those of the blocks around it.
  indent : Int := -1
  outerIndents : List Int := []
  -- For each flow collection around, and the block outside of these, where a key may start.
  keyPlaces : List (Option KeyPlace) := [none]
  -- Whether a key may start here.
  keyAllowed : Bool := true

abbrev Scan := StateT Scanner Option

namespace Scan

def isBlank (c : Char) : Bool :=
  c == ' ' || c == '\t'

def isBreak (c : Char) : Bool :=
  c == '\n' || c == '\r' || c == '\x85' || c == '\u2028' || c == '\u2029'

def isGap (c : Option Char) : Bool :=
  c.all fun c => isBlank c || isBreak c

def isWordChar (c : Char) : Bool :=
  c.isAlphanum || c == '_' || c == '-'

def peekAt (n : Nat) : Scan (Option Char) := do
  return (← get).rest[n]?

def peek : Scan (Option Char) := do
  return (← get).rest.head?

def nextIs (c : Char) : Scan Bool := do
  return (← peek) == some c

def gapAt (n : Nat) : Scan Bool := do
  return isGap (← peekAt n)

def skip : Scan Unit :=
  modify fun s => { s with rest := s.rest.tail, index := s.index + 1, column := s.column + 1 }

def skipMany (n : Nat) : Scan Unit :=
  modify fun s => { s with rest := s.rest.drop n, index := s.index + n, column := s.column + n }

def lineBreak : Scan (List Char) := do
  let s ← get
  let after (n : Nat) (text : List Char) : Scan (List Char) := do
    set { s with rest := s.rest.drop n, index := s.index + n, line := s.line + 1, column := 0 }
    return text
  match s.rest with
  | '\r' :: '\n' :: _ => after 2 ['\n']
  | '\r' :: _ | '\n' :: _ | '\x85' :: _ => after 1 ['\n']
  | '\u2028' :: _ => after 1 ['\u2028']
  | '\u2029' :: _ => after 1 ['\u2029']
  | _ => return []

def takeWhile (p : Char → Bool) : Scan (List Char) := do
  let cs := (← get).rest.takeWhile p
  skipMany cs.length
  return cs

def steps : Scan Nat := do
  let s ← get
  return s.length + 1 - s.index

def inFlow : Scan Bool := do
  return 1 < (← get).keyPlaces.length

def emit (t : Token) : Scan Unit :=
  modify fun s => { s with tokens := s.tokens.push t }

def insertAt (place : Nat) (t : Token) : Scan Unit :=
  modify fun s => { s with tokens := s.tokens.insertIdxIfInBounds place t }

def allowKey (allowed : Bool) : Scan Unit :=
  modify ({ · with keyAllowed := allowed })

def dropKeyPlace : Scan Unit := do
  match (← get).keyPlaces with
  | some place :: _ => if place.required then failure
  | _ => pure ()
  modify fun s => { s with keyPlaces := none :: s.keyPlaces.tail }

def saveKeyPlace : Scan Unit := do
  let s ← get
  if s.keyAllowed then
    dropKeyPlace
    let place : KeyPlace := {
      token := s.tokens.size
      index := s.index
      line := s.line
      column := s.column
      required := s.keyPlaces.length ≤ 1 && s.indent == s.column
    }
    modify fun s => { s with keyPlaces := some place :: s.keyPlaces.tail }

-- A key stands on one line and has at most 1024 characters.
def KeyPlace.isPast (s : Scanner) (place : KeyPlace) : Bool :=
  place.line < s.line || place.index + 1024 < s.index

def dropPastKeyPlaces : Scan Unit := do
  let s ← get
  let isPast : Option KeyPlace → Bool := Option.any (KeyPlace.isPast s)
  if s.keyPlaces.any fun p => isPast p && p.any (·.required) then failure
  set { s with keyPlaces := s.keyPlaces.map fun p => if isPast p then none else p }

def openBlock (column : Nat) (place : Option Nat) (t : Token) : Scan Unit := do
  if !(← inFlow) && (← get).indent < column then
    modify fun s => { s with indent := column, outerIndents := s.indent :: s.outerIndents }
    match place with
    | some place => insertAt place t
    | none => emit t

def closeBlocks (column : Int) : Scan Unit := do
  if !(← inFlow) then
    let s ← get
    let indents := s.indent :: s.outerIndents
    let closed := indents.takeWhile (column < ·)
    match indents.drop closed.length with
    | indent :: outerIndents =>
      set { s with
        indent, outerIndents
        tokens := s.tokens ++ Array.replicate closed.length Token.blockEnd }
    | [] => failure

def version : Scan Nat := do
  let cs ← takeWhile Char.isDigit
  if cs.isEmpty || 9 < cs.length then failure
  return cs.foldl (fun n c => 10 * n + (c.toNat - '0'.toNat)) 0

def hexDigit? (c : Char) : Option Nat :=
  if c.isDigit then some (c.toNat - '0'.toNat)
  else if 'a' ≤ c ∧ c ≤ 'f' then some (c.toNat - 'a'.toNat + 10)
  else if 'A' ≤ c ∧ c ≤ 'F' then some (c.toNat - 'A'.toNat + 10)
  else none

def hexNumber (digits : Nat) : Scan Nat := do
  let cs := (← get).rest.take digits
  if cs.length < digits then failure
  skipMany digits
  cs.foldlM (fun n c => (16 * n + ·) <$> hexDigit? c) 0

def uriByte : Scan Nat := do
  if !(← nextIs '%') then failure
  skip
  hexNumber 2

def uriBytes : Nat → (code : Nat) → Scan Nat
  | 0, code => return code
  | n + 1, code => do
    let b ← uriByte
    if b / 64 != 2 then failure
    uriBytes n (64 * code + b % 64)

def uriChar : Scan Char := do
  let b ← uriByte
  if b < 0x80 then return Char.ofNat b
  else if b / 32 == 6 then return Char.ofNat (← uriBytes 1 (b % 32))
  else if b / 16 == 14 then return Char.ofNat (← uriBytes 2 (b % 16))
  else if b / 8 == 30 then return Char.ofNat (← uriBytes 3 (b % 8))
  else failure

def isUriChar (inBrackets : Bool) (c : Char) : Bool :=
  isWordChar c || ";/?:@&=+$.%!~*'()".toList.contains c ||
    (inBrackets && (c == ',' || c == '[' || c == ']'))

def uri (inBrackets : Bool) : (steps : Nat) → (done : List Char) → Scan (List Char)
  | 0, _ => failure
  | steps + 1, done => do
    match ← peek with
    | some c =>
      if c == '%' then
        uri inBrackets steps ((← uriChar) :: done)
      else if isUriChar inBrackets c then
        skip
        uri inBrackets steps (c :: done)
      else
        return done.reverse
    | none => return done.reverse

def tagHandle (inDirective : Bool) : Scan (List Char) := do
  if !(← nextIs '!') then failure
  skip
  let word ← takeWhile isWordChar
  if ← nextIs '!' then
    skip
    return '!' :: word ++ ['!']
  else if inDirective && !word.isEmpty then
    failure
  else
    return '!' :: word

def tag : Scan Token := do
  let t ←
    if (← peekAt 1) == some '<' then do
      skipMany 2
      let suffix ← uri true (← steps) []
      if suffix.isEmpty || !(← nextIs '>') then failure
      skip
      pure (Token.tag "" (String.ofList suffix))
    else do
      let handle ← tagHandle false
      let suffix ← uri false (← steps) []
      if 1 < handle.length && handle.getLast? == some '!' then do
        if suffix.isEmpty then failure
        pure (Token.tag (String.ofList handle) (String.ofList suffix))
      else
        let suffix := handle.tail ++ suffix
        pure (if suffix.isEmpty then .tag "" "!" else .tag "!" (String.ofList suffix))
  let flowEntry := (← inFlow) && (← nextIs ',')
  if !(← gapAt 0) && !flowEntry then failure
  return t

def anchorName : Scan String := do
  skip
  let cs ← takeWhile isWordChar
  let ends := (← peek).all fun c => "?:,]\x7d%@`".toList.contains c
  if cs.isEmpty || !((← gapAt 0) || ends) then failure
  return String.ofList cs

def directive : Scan Token := do
  skip
  let name ← takeWhile isWordChar
  if name.isEmpty || !(← gapAt 0) then failure
  let _ ← takeWhile isBlank
  let t ←
    if name = "YAML".toList then do
      let major ← version
      if !(← nextIs '.') then failure
      skip
      pure (Token.versionDirective major (← version))
    else if name = "TAG".toList then do
      let handle ← tagHandle true
      if !(← peek).any isBlank then failure
      let _ ← takeWhile isBlank
      let replacement ← uri true (← steps) []
      if replacement.isEmpty || !(← gapAt 0) then failure
      pure (Token.tagDirective (String.ofList handle) (String.ofList replacement))
    else
      failure
  let _ ← takeWhile isBlank
  if ← nextIs '#' then
    let _ ← takeWhile (!isBreak ·)
  if !(← peek).all isBreak then failure
  let _ ← lineBreak
  return t

def atDocumentMark (c : Char) : Scan Bool := do
  let s ← get
  return s.column == 0 && s.rest.take 3 == [c, c, c] && isGap s.rest[3]?

structure Space where
  blanks : List Char := []
  -- The first line break, if there is one.
  first : Option (List Char) := none
  -- The other line breaks.
  others : List Char := []

def Space.folded (s : Space) : List Char :=
  match s.first with
  | none => s.blanks
  | some ['\n'] => if s.others.isEmpty then [' '] else s.others
  | some first => first ++ s.others

def space (tabsFrom : Int) : (steps : Nat) → Space → Scan Space
  | 0, _ => failure
  | steps + 1, s => do
    match ← peek with
    | some c =>
      if isBlank c then
        if s.first.isSome && c == '\t' && (← get).column < tabsFrom then failure
        skip
        space tabsFrom steps (if s.first.isSome then s else { s with blanks := s.blanks ++ [c] })
      else if isBreak c then
        let text ← lineBreak
        space tabsFrom steps
          (if s.first.isSome then { s with others := s.others ++ text }
            else { s with blanks := [], first := some text })
      else
        return s
    | none => return s

def shortEscape? : Char → Option Char
  | '0' => some '\x00'
  | 'a' => some '\x07'
  | 'b' => some '\x08'
  | 't' | '\t' => some '\t'
  | 'n' => some '\n'
  | 'v' => some '\x0b'
  | 'f' => some '\x0c'
  | 'r' => some '\r'
  | 'e' => some '\x1b'
  | ' ' => some ' '
  | '"' => some '"'
  | '/' => some '/'
  | '\\' => some '\\'
  | 'N' => some '\x85'
  | '_' => some '\xa0'
  | 'L' => some '\u2028'
  | 'P' => some '\u2029'
  | _ => none

def escapeDigits? : Char → Option Nat
  | 'x' => some 2
  | 'u' => some 4
  | 'U' => some 8
  | _ => none

def escape : Scan Char := do
  match ← peek with
  | none => failure
  | some c =>
    skip
    match escapeDigits? c with
    | some digits =>
      let n ← hexNumber digits
      if n.isValidChar then return Char.ofNat n else failure
    | none => shortEscape? c

def quotedPart (single : Bool) : (steps : Nat) → (done : List Char) → Scan (List Char × Bool)
  | 0, _ => failure
  | steps + 1, done => do
    if ← gapAt 0 then return (done, false)
    match ← peek, ← peekAt 1 with
    | some '\'', some '\'' =>
      if single then
        skipMany 2
        quotedPart single steps ('\'' :: done)
      else
        skip
        quotedPart single steps ('\'' :: done)
    | some '\\', some d =>
      if single then
        skip
        quotedPart single steps ('\\' :: done)
      else if isBreak d then
        skip
        let _ ← lineBreak
        return (done, true)
      else
        skip
        quotedPart single steps ((← escape) :: done)
    | some c, _ =>
      if c == (if single then '\'' else '"') then
        return (done, false)
      else if c == '\\' && !single then
        failure
      else
        skip
        quotedPart single steps (c :: done)
    | none, _ => return (done, false)

def quoted (single : Bool) : (steps : Nat) → (done : List Char) → Scan String
  | 0, _ => failure
  | steps + 1, done => do
    if (← atDocumentMark '-') || (← atDocumentMark '.') then failure
    if (← peek).isNone then failure
    let (done, escaped) ← quotedPart single (← Scan.steps) done
    if ← nextIs (if single then '\'' else '"') then
      skip
      return String.ofList done.reverse
    else
      let before : Space := { first := if escaped then some [] else none }
      let s ← space 0 (← Scan.steps) before
      quoted single steps (s.folded.reverse ++ done)

def isFlowIndicator (c : Char) : Bool :=
  c == ',' || c == '[' || c == ']' || c == '\x7b' || c == '\x7d'

def plainPart : (steps : Nat) → (done : List Char) → Scan (List Char)
  | 0, _ => failure
  | steps + 1, done => do
    match ← peek with
    | none => return done
    | some c =>
      if isGap c then return done
      let flow ← inFlow
      let d ← peekAt 1
      if flow && c == ':' && d.any fun d => isFlowIndicator d || d == '?' then failure
      if (c == ':' && isGap d) || (flow && isFlowIndicator c) then return done
      skip
      plainPart steps (c :: done)

-- A plain scalar, of which `done` holds the characters so far, last first. The space `before`
-- counts only if something follows. A scalar that ends after a line break leaves room for a key.
def plain (indent : Int) : (steps : Nat) → (done : List Char) → (before : Space) → Scan String
  | 0, _, _ => failure
  | steps + 1, done, before => do
    let finish : Scan String := do
      if before.first.isSome then allowKey true
      return String.ofList done.reverse
    if (← atDocumentMark '-') || (← atDocumentMark '.') || (← nextIs '#') then
      finish
    else
      let part ← plainPart (← Scan.steps) []
      let done' := if part.isEmpty then done else part ++ (before.folded.reverse ++ done)
      let before := if part.isEmpty then before else {}
      if (← peek).any fun c => isBlank c || isBreak c then
        let s ← space indent (← Scan.steps) before
        if !(← inFlow) && (← get).column < indent then
          if s.first.isSome then allowKey true
          return String.ofList done'.reverse
        else
          plain indent steps done' s
      else
        if before.first.isSome then allowKey true
        return String.ofList done'.reverse

-- The empty lines of a block scalar, and the columns of the next line that are blank. Without an
-- `indent` all blanks count; a tab must not stand among them.
def blockBreaks (indent : Option Int) : (steps : Nat) → (widest : Nat) → (done : List Char) →
    Scan (Nat × List Char)
  | 0, _, _ => failure
  | steps + 1, widest, done => do
    let s ← get
    let blanks := (s.rest.takeWhile (· == ' ')).length
    skipMany (match indent with
      | some indent => min blanks (indent - s.column).toNat
      | none => blanks)
    let column := (← get).column
    let widest := max widest column
    if (← nextIs '\t') && indent.all fun n => (column : Int) < n then failure
    if (← peek).any isBreak then
      blockBreaks indent steps widest (done ++ (← lineBreak))
    else
      return (widest, done)

-- The lines of a block scalar at their column. `lead` is the line break before, `breaks` the empty
-- lines after it.
def blockLines (literal : Bool) (indent : Int) : (steps : Nat) → (done lead breaks : List Char) →
    (blankBefore : Bool) → Scan (List Char × List Char × List Char)
  | 0, _, _, _, _ => failure
  | steps + 1, done, lead, breaks, blankBefore => do
    if (← get).column == indent && (← peek).isSome then
      let blank := (← peek).any isBlank
      let joint :=
        if !literal && lead == ['\n'] && !blankBefore && !blank then
          if breaks.isEmpty then [' '] else breaks
        else
          lead ++ breaks
      let text ← takeWhile (!isBreak ·)
      let lead ← lineBreak
      let (_, breaks) ← blockBreaks (some indent) (← Scan.steps) 0 []
      blockLines literal indent steps (text.reverse ++ (joint.reverse ++ done)) lead breaks blank
    else
      return (done, lead, breaks)

def increment : Scan (Option Nat) := do
  match ← peek with
  | some c =>
    if c == '0' then failure
    else if c.isDigit then
      skip
      return some (c.toNat - '0'.toNat)
    else
      return none
  | none => return none

def chomping : Scan (Option Bool) := do
  if ← nextIs '+' then
    skip
    return some true
  else if ← nextIs '-' then
    skip
    return some false
  else
    return none

def block (literal : Bool) : Scan String := do
  skip
  let first ← chomping
  let width ← increment
  let keep ← if first.isNone && width.isSome then chomping else pure first
  let _ ← takeWhile isBlank
  if ← nextIs '#' then
    let _ ← takeWhile (!isBreak ·)
  if !(← peek).all isBreak then failure
  let _ ← lineBreak
  let outer := (← get).indent
  let given := width.map fun n => max outer 0 + n
  let (widest, breaks) ← blockBreaks given (← steps) 0 []
  let indent := given.getD (max (max widest (outer + 1)) 1)
  let (done, lead, breaks) ← blockLines literal indent (← steps) [] [] breaks false
  let tail :=
    match keep with
    | some false => []
    | none => lead
    | some true => lead ++ breaks
  return String.ofList (done.reverse ++ tail)

def skipSpace : (steps : Nat) → Scan Unit
  | 0 => failure
  | steps + 1 => do
    if (← get).index == 0 && (← nextIs '\ufeff') then skip
    let tabs := (← inFlow) || !(← get).keyAllowed
    let _ ← takeWhile fun c => c == ' ' || (tabs && c == '\t')
    if ← nextIs '#' then
      let _ ← takeWhile (!isBreak ·)
    if (← peek).any isBreak then
      let _ ← lineBreak
      if !(← inFlow) then allowKey true
      skipSpace steps

def atTopLevel (token : Scan Token) : Scan Unit := do
  closeBlocks (-1)
  dropKeyPlace
  allowKey false
  emit (← token)

def finish : Scan Unit := do
  closeBlocks (-1)
  dropKeyPlace

def flowStart (t : Token) : Scan Unit := do
  saveKeyPlace
  modify fun s => { s with keyPlaces := none :: s.keyPlaces }
  allowKey true
  skip
  emit t

def flowEnd (t : Token) : Scan Unit := do
  dropKeyPlace
  modify fun s => { s with
    keyPlaces := if 1 < s.keyPlaces.length then s.keyPlaces.tail else s.keyPlaces }
  allowKey false
  skip
  emit t

def flowEntry : Scan Unit := do
  dropKeyPlace
  allowKey true
  skip
  emit .flowEntry

def blockEntry : Scan Unit := do
  if !(← inFlow) then
    let s ← get
    if !s.keyAllowed then failure
    openBlock s.column none .blockSequenceStart
  dropKeyPlace
  allowKey true
  skip
  emit .blockEntry

def key : Scan Unit := do
  let flow ← inFlow
  if !flow then
    let s ← get
    if !s.keyAllowed then failure
    openBlock s.column none .blockMappingStart
  dropKeyPlace
  allowKey (!flow)
  skip
  emit .key

def value : Scan Unit := do
  let s ← get
  match s.keyPlaces with
  | some place :: _ =>
    insertAt place.token .key
    openBlock place.column (some place.token) .blockMappingStart
    modify fun s => { s with keyPlaces := none :: s.keyPlaces.tail }
    allowKey false
  | _ =>
    let flow ← inFlow
    if !flow then
      if !s.keyAllowed then failure
      openBlock s.column none .blockMappingStart
    allowKey (!flow)
  skip
  emit .value

def keyStart (token : Scan Token) : Scan Unit := do
  saveKeyPlace
  allowKey false
  emit (← token)

def isIndicator (c : Char) : Bool :=
  "-?:,[]\x7b\x7d#&*!|>'\"%@`".toList.contains c

def next : Scan Bool := do
  skipSpace (← steps)
  dropPastKeyPlaces
  let s ← get
  closeBlocks s.column
  match s.rest with
  | [] =>
    finish
    return false
  | c :: _ =>
    let flow ← inFlow
    let gap ← gapAt 1
    if s.column == 0 && c == '%' then
      atTopLevel directive
    else if ← atDocumentMark '-' then
      atTopLevel (do skipMany 3; return .documentStart)
    else if ← atDocumentMark '.' then
      atTopLevel (do skipMany 3; return .documentEnd)
    else if c == '[' then flowStart .flowSequenceStart
    else if c == '\x7b' then flowStart .flowMappingStart
    else if c == ']' then flowEnd .flowSequenceEnd
    else if c == '\x7d' then flowEnd .flowMappingEnd
    else if c == ',' then flowEntry
    else if c == '-' && gap then blockEntry
    else if c == '?' && (flow || gap) then key
    else if c == ':' && (flow || gap) then value
    else if c == '*' then keyStart (.alias <$> anchorName)
    else if c == '&' then keyStart (.anchor <$> anchorName)
    else if c == '!' then keyStart tag
    else if (c == '|' || c == '>') && !flow then do
      dropKeyPlace
      allowKey true
      emit (.scalar (← block (c == '|')) false)
    else if c == '\'' || c == '"' then
      keyStart (do
        skip
        return .scalar (← quoted (c == '\'') (← steps) []) false)
    else if !(isGap (some c) || isIndicator c) || (c == '-' && !(← peekAt 1).any isBlank) ||
        (!flow && (c == '?' || c == ':') && !gap) then
      keyStart (do return .scalar (← plain (s.indent + 1) (← steps) [] {}) true)
    else
      failure
    return true

def all : (steps : Nat) → Scan Unit
  | 0 => failure
  | steps + 1 => do if ← next then all steps

end Scan

def isTextChar (c : Char) : Bool :=
  let n := c.toNat
  n == 0x09 || n == 0x0A || n == 0x0D || (0x20 ≤ n && n ≤ 0x7E) || n == 0x85 ||
    (0xA0 ≤ n && n ≤ 0xD7FF) || (0xE000 ≤ n && n ≤ 0xFFFD) || 0x10000 ≤ n

def tokens? (text : String) : Option (List Token) := do
  let cs := text.toList
  if cs.all isTextChar then
    let (_, s) ← (Scan.all (cs.length + 2)).run { length := cs.length, rest := cs }
    return s.tokens.toList
  else
    none

end PegParser.Yaml
