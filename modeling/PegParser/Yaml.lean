import PegParser.Double
import PegParser.Json.Reader
import PegParser.Yaml.Event

namespace PegParser.Yaml

def schemaTag (name : String) : String :=
  "tag:yaml.org,2002:" ++ name

def isNullText (text : String) : Bool :=
  ["null", "Null", "NULL", "~"].contains text

def boolOfText? (text : String) : Option Bool :=
  if ["true", "True", "TRUE"].contains text then some true
  else if ["false", "False", "FALSE"].contains text then some false
  else none

def digitsValue? (base : Nat) (cs : List Char) : Option Nat :=
  if cs.isEmpty then
    none
  else
    cs.foldlM (fun n c => (Json.hexDigit? c).bind fun d =>
      if d < base then some (base * n + d) else none) 0

def basePart? : List Char → Option (Nat × List Char)
  | '0' :: 'x' :: cs => some (16, cs)
  | '0' :: 'o' :: cs => some (8, cs)
  | '0' :: 'b' :: cs => some (2, cs)
  | _ => none

def isZeroPadded (cs : List Char) : Bool :=
  1 < cs.length && cs.head? == some '0' && cs.all Char.isDigit

def wholeOfChars? (cs : List Char) : Option Nat :=
  match basePart? cs with
  | some (base, digits) => digitsValue? base digits
  | none => if isZeroPadded cs then none else digitsValue? 10 cs

def intOfChars? : List Char → Option Int
  | '-' :: cs => (wholeOfChars? cs).map fun n => -(n : Int)
  | '+' :: cs => (wholeOfChars? cs).map Int.ofNat
  | cs => (wholeOfChars? cs).map Int.ofNat

def exponentOfChars? : List Char → Option Int
  | [] => some 0
  | c :: cs =>
    if c == 'e' || c == 'E' then
      match cs with
      | '-' :: cs => (digitsValue? 10 cs).map fun n => -(n : Int)
      | '+' :: cs => (digitsValue? 10 cs).map Int.ofNat
      | cs => (digitsValue? 10 cs).map Int.ofNat
    else
      none

def decimalOfChars? (negative : Bool) (cs : List Char) : Option Json := do
  let (whole, rest) := cs.span Char.isDigit
  let (fraction, rest) :=
    match rest with
    | '.' :: rest => rest.span Char.isDigit
    | rest => ([], rest)
  if whole.isEmpty && fraction.isEmpty then none
  let exponent ← exponentOfChars? rest
  let mantissa := Json.digitsValue 0 (whole ++ fraction)
  let exponent := exponent - fraction.length
  if Double.isFinite mantissa exponent then
    return .decimal (if negative then -mantissa else mantissa) exponent
  else
    none

-- A number that is not whole. What is infinite or no number at all reads as null.
def floatOfText? (text : String) : Option Json :=
  if [".inf", ".Inf", ".INF", "+.inf", "+.Inf", "+.INF", "-.inf", "-.Inf", "-.INF", ".nan", ".NaN",
      ".NAN"].contains text then
    some .null
  else
    match text.toList with
    | '-' :: cs => decimalOfChars? true cs
    | '+' :: cs => decimalOfChars? false cs
    | cs => decimalOfChars? false cs

-- Whole numbers that 128 bits hold but 64 bits do not are refused.
def jsonOfInt? (n : Int) : Option Json :=
  if Json.FitsWord n then some (.integer n) else none

def FitsDoubleWord (n : Int) : Prop :=
  -0x80000000000000000000000000000000 ≤ n ∧ n < 0x100000000000000000000000000000000

instance : Decidable (FitsDoubleWord n) :=
  inferInstanceAs (Decidable (_ ∧ _))

def intOfText? (text : String) : Option Int :=
  (intOfChars? text.toList).filter fun n => FitsDoubleWord n

def plainValue? (text : String) : Option Json :=
  if text.isEmpty || isNullText text then
    some .null
  else
    match boolOfText? text with
    | some b => some (.bool b)
    | none =>
      match intOfText? text with
      | some n => jsonOfInt? n
      | none =>
        let unsigned :=
          match text.toList with
          | '-' :: cs => cs
          | '+' :: cs => cs
          | cs => cs
        if isZeroPadded unsigned then some (.string text)
        else some ((floatOfText? text).getD (.string text))

-- Whether a tag is one of those that have a meaning only to the reader of the document.
def isLocalTag (tag : String) : Bool :=
  tag.startsWith "!"

def scalarValue? (props : Properties) (text : String) (plain : Bool) : Option Json :=
  match props.tag with
  | none => if plain then plainValue? text else some (.string text)
  | some tag =>
    if isLocalTag tag then none
    else if tag == schemaTag "bool" then (boolOfText? text).map .bool
    else if tag == schemaTag "int" then (intOfText? text).bind jsonOfInt?
    else if tag == schemaTag "float" then floatOfText? text
    else if tag == schemaTag "null" then if isNullText text then some .null else none
    else some (.string text)

def Event.anchor? : Event → Option String
  | .scalar props _ _ => props.anchor
  | .sequenceStart props => props.anchor
  | .mappingStart props => props.anchor
  | _ => none

-- What the aliases of a document stand for. An anchor gets the number of the names before it, also
-- if its own name is one of these; an alias stands for the last node with the number that its name
-- has at its place.
structure Anchors where
  numbers : List (String × Nat) := []
  -- The places of the nodes by their numbers, the latest first.
  places : List (Nat × Nat) := []
  -- The numbers of the aliases by their places.
  aliases : List (Nat × Nat) := []

namespace Anchors

def add? (a : Anchors) (e : Event) (place : Nat) : Option Anchors :=
  match e with
  | .alias name => do
    return { a with aliases := (place, ← a.numbers.lookup name) :: a.aliases }
  | e =>
    match e.anchor? with
    | none => some a
    | some name =>
      let number := a.numbers.length
      let others := a.numbers.filter (·.1 != name)
      some { a with
        numbers := (name, number) :: others
        places := (number, place) :: a.places }

def ofEvents? (events : Array Event) : Option Anchors :=
  events.toList.zipIdx.foldlM (fun a (e, place) => a.add? e place) {}

def target? (a : Anchors) (place : Nat) : Option Nat := do
  a.places.lookup (← a.aliases.lookup place)

end Anchors

def depthLimit : Nat := 128

section Build

variable (events : Array Event) (anchors : Anchors)

def keyAt? (place : Nat) : Option String := do
  match ← events[place]? with
  | .scalar _ text _ => some text
  | .alias _ =>
    match ← events[← anchors.target? place]? with
    | .scalar _ text _ => some text
    | _ => none
  | _ => none

-- How many aliases have been followed. There are at most a hundred for each event, so that a small
-- text does not become a huge value.
def follow? (followed : Nat) : Option Nat :=
  if followed < events.size * 100 then some (followed + 1) else none

mutual

def valueAt? : (steps depth followed place : Nat) → Option (Json × Nat × Nat)
  | 0, _, _, _ => none
  | steps + 1, depth, followed, place => do
    match ← events[place]?, depth with
    | .scalar props text plain, _ => return (← scalarValue? props text plain, place + 1, followed)
    | .alias _, depth =>
      let followed ← follow? events followed
      let (value, _, followed) ← valueAt? steps depth followed (← anchors.target? place)
      return (value, place + 1, followed)
    | .sequenceStart props, depth + 1 =>
      if props.tag.any isLocalTag then none
      itemsAt? steps depth followed (place + 1) []
    | .mappingStart props, depth + 1 =>
      if props.tag.any isLocalTag then none
      fieldsAt? steps depth followed (place + 1) []
    | _, _ => none

def itemsAt? : (steps depth followed place : Nat) → List Json → Option (Json × Nat × Nat)
  | 0, _, _, _, _ => none
  | steps + 1, depth, followed, place, done => do
    match ← events[place]? with
    | .sequenceEnd => return (.array done.reverse, place + 1, followed)
    | _ =>
      let (item, place, followed) ← valueAt? steps depth followed place
      itemsAt? steps depth followed place (item :: done)

def fieldsAt? :
    (steps depth followed place : Nat) → List (String × Json) → Option (Json × Nat × Nat)
  | 0, _, _, _, _ => none
  | steps + 1, depth, followed, place, done => do
    match ← events[place]? with
    | .mappingEnd => return (.object done.reverse, place + 1, followed)
    | e =>
      let name ← keyAt? events anchors place
      let followed ← if e matches .alias _ then follow? events followed else some followed
      let (value, place, followed) ← valueAt? steps depth followed (place + 1)
      fieldsAt? steps depth followed place ((name, value) :: done)

end

end Build

def ofText? (text : String) : Option Json := do
  let events ← events? text
  let anchors ← Anchors.ofEvents? events
  let steps := 2 * (depthLimit + 2) * (events.size + 2)
  let (value, _, _) ← valueAt? events anchors steps depthLimit 0 0
  return value

end PegParser.Yaml
