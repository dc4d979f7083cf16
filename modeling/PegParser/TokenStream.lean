import PegParser.Token

namespace PegParser

structure TokenStream where
  tokens : Array Token
  lines : LineIndex

namespace TokenStream

def ofTokens (input : String) (tokens : List Token) : TokenStream where
  tokens := tokens.toArray
  lines := LineIndex.ofText input

def size (s : TokenStream) : Nat :=
  s.tokens.size

def isExhausted (s : TokenStream) (cursor : Nat) : Bool :=
  s.tokens.size ≤ cursor

-- The tokens from a cursor on that start where the first of them does.
def group (s : TokenStream) (cursor : Nat) : List Token :=
  match s.tokens[cursor]? with
  | none => []
  | some first =>
    (s.tokens.extract cursor (partitionPoint (·.index == first.index) s.tokens cursor)).toList

-- The first cursor from the given one on whose token does not start before `stop`.
def skipTo (s : TokenStream) (cursor stop : Nat) : Nat :=
  partitionPoint (·.index < stop) s.tokens (min cursor s.tokens.size)

def position (s : TokenStream) (cursor : Nat) : Position :=
  match s.tokens[cursor]? with
  | some token => token.position
  | none => s.lines.last

end TokenStream
end PegParser
