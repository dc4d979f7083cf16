import PegParser.Position
import PegParser.Span
import PegParser.Terminal

namespace PegParser

structure Token where
  terminal : String
  -- The place of the terminal in its table.
  rank : Nat
  position : Position
  -- The offset after the token.
  stop : Nat
  value : String
deriving DecidableEq, Inhabited, Repr

namespace Token

def index (t : Token) : Nat :=
  t.position.index

def span (t : Token) : Span where
  start := t.index
  stop := t.stop

variable [RegexEngine]

def ofMatch (lines : LineIndex) (terminal : Terminal) (rank : Nat) (m : Regex.Match) : Token where
  terminal := terminal.name
  rank
  position := lines.position m.start
  stop := m.stop
  value := String.ofList m.text

def ofTerminal (lines : LineIndex) (input : List Char) (terminal : Terminal) (rank : Nat) :
    List Token :=
  ((RegexEngine.findAll terminal.regex input).filter (!·.text.isEmpty)).map
    (ofMatch lines terminal rank)

-- Puts the tokens of two lists after those of `done`, which holds them last first. Of tokens that
-- start together those of the first list come first.
def merge (done : List Token) : List Token → List Token → List Token
  | s :: ss, t :: ts =>
    if s.index ≤ t.index then merge (s :: done) ss (t :: ts) else merge (t :: done) (s :: ss) ts
  | ss, ts => done.reverse ++ (ss ++ ts)
termination_by ss ts => ss.length + ts.length

def tokenize (terminals : List Terminal) (input : String) : List Token :=
  let lines := LineIndex.ofText input
  let cs := input.toList
  (terminals.zipIdx.map fun (terminal, rank) => ofTerminal lines cs terminal rank).foldr
    (merge []) []

end Token
end PegParser
