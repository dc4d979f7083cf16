namespace PegParser

inductive Json
  | null
  | bool (value : Bool)
  -- A whole number that 64 bits hold, signed or unsigned.
  | integer (value : Int)
  -- Every other number: `mantissa * 10 ^ exponent`.
  | decimal (mantissa exponent : Int)
  | string (text : String)
  | array (items : List Json)
  | object (fields : List (String × Json))
deriving Inhabited

namespace Json

-- The last value given for `name`.
def lookup? (name : String) (fields : List (String × Json)) : Option Json :=
  ((fields.filter (·.1 == name)).getLast?).map (·.2)

def field? : Json → String → Option Json
  | object fields, name => lookup? name fields
  | _, _ => none

def asString? : Json → Option String
  | string text => some text
  | _ => none

def asArray? : Json → Option (List Json)
  | array items => some items
  | _ => none

def asObject? : Json → Option (List (String × Json))
  | object fields => some fields
  | _ => none

-- Whether 64 bits hold `n`, signed or unsigned.
def FitsWord (n : Int) : Prop :=
  -0x8000000000000000 ≤ n ∧ n < 0x10000000000000000

instance : Decidable (FitsWord n) :=
  inferInstanceAs (Decidable (_ ∧ _))

def asWord? : Json → Option Nat
  | integer (.ofNat n) => if n < 0x10000000000000000 then some n else none
  | _ => none

end Json
end PegParser
