import PegParser.Double
import PegParser.Json

namespace PegParser.Json

def isBlank (c : Char) : Bool :=
  c == ' ' || c == '\t' || c == '\n' || c == '\r'

def skipBlank (cs : List Char) : List Char :=
  cs.dropWhile isBlank

def hexDigit? (c : Char) : Option Nat :=
  if '0' ≤ c ∧ c ≤ '9' then some (c.toNat - '0'.toNat)
  else if 'a' ≤ c ∧ c ≤ 'f' then some (c.toNat - 'a'.toNat + 10)
  else if 'A' ≤ c ∧ c ≤ 'F' then some (c.toNat - 'A'.toNat + 10)
  else none

def hexUnit? (a b c d : Char) : Option Nat := do
  return (((← hexDigit? a) * 16 + (← hexDigit? b)) * 16 + (← hexDigit? c)) * 16 + (← hexDigit? d)

def isHighSurrogate (n : Nat) : Bool :=
  0xD800 ≤ n && n < 0xDC00

def isLowSurrogate (n : Nat) : Bool :=
  0xDC00 ≤ n && n < 0xE000

def shortEscape? : Char → Option Char
  | '"' => some '"'
  | '\\' => some '\\'
  | '/' => some '/'
  | 'b' => some '\x08'
  | 'f' => some '\x0c'
  | 'n' => some '\n'
  | 'r' => some '\r'
  | 't' => some '\t'
  | _ => none

-- The rest of a string after its opening quote, and what follows the closing one; `done` holds the
-- characters read so far, last first. A control character stands only escaped, and a surrogate only
-- in a pair.
def readString (done : List Char) : List Char → Option (String × List Char)
  | '"' :: rest => some (String.ofList done.reverse, rest)
  | '\\' :: 'u' :: a :: b :: c :: d :: '\\' :: 'u' :: e :: f :: g :: h :: rest => do
    let first ← hexUnit? a b c d
    if isHighSurrogate first then
      let second ← hexUnit? e f g h
      if isLowSurrogate second then
        readString (Char.ofNat (0x10000 + (first - 0xD800) * 0x400 + (second - 0xDC00)) :: done) rest
      else
        none
    else if isLowSurrogate first then
      none
    else
      readString (Char.ofNat first :: done) ('\\' :: 'u' :: e :: f :: g :: h :: rest)
  | '\\' :: 'u' :: a :: b :: c :: d :: rest => do
    let unit ← hexUnit? a b c d
    if isHighSurrogate unit || isLowSurrogate unit then
      none
    else
      readString (Char.ofNat unit :: done) rest
  | '\\' :: c :: rest => do readString ((← shortEscape? c) :: done) rest
  | c :: rest => if c.toNat < 0x20 || c == '\\' then none else readString (c :: done) rest
  | [] => none

def digitValue (c : Char) : Nat :=
  c.toNat - '0'.toNat

def digitsValue (n : Nat) (digits : List Char) : Nat :=
  digits.foldl (fun n c => 10 * n + digitValue c) n

-- Puts digits behind a number as long as a word holds the result. The other result counts them.
def appendDigits (n count : Nat) : List Char → Nat × Nat
  | [] => (n, count)
  | c :: cs =>
    let next := 10 * n + digitValue c
    if next < UInt64.size then appendDigits next (count + 1) cs else (n, count)

def isFinite (whole fraction : List Char) (exponent : Int) : Bool :=
  let (n, before) := appendDigits 0 0 whole
  let (n, after) := appendDigits n 0 fraction
  Double.isFiniteProduct n (exponent + (whole.length - before : Nat) - after)

-- A number that is written with a fraction or an exponent, or that no word holds.
def decimal? (negative : Bool) (whole fraction : List Char) (exponent : Int) : Option Json :=
  if isFinite whole fraction exponent then
    let mantissa : Int := digitsValue 0 (whole ++ fraction)
    some (decimal (if negative then -mantissa else mantissa) (exponent - fraction.length))
  else
    none

def readExponent : List Char → Option (Option Int × List Char)
  | c :: rest =>
    if c == 'e' || c == 'E' then
      let (negative, rest) :=
        match rest with
        | '+' :: rest => (false, rest)
        | '-' :: rest => (true, rest)
        | rest => (false, rest)
      match rest.span Char.isDigit with
      | ([], _) => none
      | (digits, rest) =>
        let n : Nat := digitsValue 0 digits
        some (some (if negative then -n else n), rest)
    else
      some (none, c :: rest)
  | [] => some (none, [])

def readFraction (negative : Bool) (whole cs : List Char) : Option (Json × List Char) := do
  let (fraction, rest) ←
    match cs with
    | '.' :: rest =>
      match rest.span Char.isDigit with
      | ([], _) => none
      | (digits, rest) => some (some digits, rest)
    | rest => some (none, rest)
  let (exponent, rest) ← readExponent rest
  match fraction, exponent with
  | none, none =>
    let size := digitsValue 0 whole
    let value : Int := if negative then -size else size
    if FitsWord value && !(negative && size == 0) then
      return (integer value, rest)
    else
      return (← decimal? negative whole [] 0, rest)
  | _, _ => return (← decimal? negative whole (fraction.getD []) (exponent.getD 0), rest)

def readNumber (negative : Bool) : List Char → Option (Json × List Char)
  | '0' :: rest =>
    if rest.head?.any Char.isDigit then none else readFraction negative ['0'] rest
  | c :: rest =>
    if c.isDigit then
      let (digits, rest) := rest.span Char.isDigit
      readFraction negative (c :: digits) rest
    else
      none
  | [] => none

def readScalar : List Char → Option (Json × List Char)
  | '"' :: rest => do
    let (text, rest) ← readString [] rest
    return (string text, rest)
  | 'n' :: 'u' :: 'l' :: 'l' :: rest => some (null, rest)
  | 't' :: 'r' :: 'u' :: 'e' :: rest => some (bool true, rest)
  | 'f' :: 'a' :: 'l' :: 's' :: 'e' :: rest => some (bool false, rest)
  | '-' :: rest => readNumber true rest
  | rest => readNumber false rest

mutual

def readValue : (steps depth : Nat) → List Char → Option (Json × List Char)
  | 0, _, _ => none
  | steps + 1, depth, cs =>
    match skipBlank cs, depth with
    | '[' :: _, 0 => none
    | '[' :: rest, depth + 1 =>
      match skipBlank rest with
      | ']' :: rest => some (array [], rest)
      | rest => readItems steps depth [] rest
    | '\x7b' :: _, 0 => none
    | '\x7b' :: rest, depth + 1 =>
      match skipBlank rest with
      | '\x7d' :: rest => some (object [], rest)
      | rest => readFields steps depth [] rest
    | rest, _ => readScalar rest

def readItems : (steps depth : Nat) → List Json → List Char → Option (Json × List Char)
  | 0, _, _, _ => none
  | steps + 1, depth, done, cs => do
    let (item, rest) ← readValue steps depth cs
    match skipBlank rest with
    | ',' :: rest => readItems steps depth (item :: done) rest
    | ']' :: rest => return (array (item :: done).reverse, rest)
    | _ => none

def readFields :
    (steps depth : Nat) → List (String × Json) → List Char → Option (Json × List Char)
  | 0, _, _, _ => none
  | steps + 1, depth, done, cs =>
    match skipBlank cs with
    | '"' :: rest => do
      let (name, rest) ← readString [] rest
      match skipBlank rest with
      | ':' :: rest =>
        let (value, rest) ← readValue steps depth rest
        match skipBlank rest with
        | ',' :: rest => readFields steps depth ((name, value) :: done) rest
        | '\x7d' :: rest => return (object ((name, value) :: done).reverse, rest)
        | _ => none
      | _ => none
    | _ => none

end

def depthLimit : Nat := 127

def ofTextWithin? (depth : Nat) (text : String) : Option Json :=
  match readValue (2 * text.length + 2) depth text.toList with
  | some (value, rest) => if (skipBlank rest).isEmpty then some value else none
  | none => none

def ofText? (text : String) : Option Json :=
  ofTextWithin? depthLimit text

end PegParser.Json
