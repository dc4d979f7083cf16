import PegParser.PartitionPoint
import PegParser.Text.Offset

namespace PegParser

structure Position where
  index : Nat
  line : Nat
  column : Nat
deriving DecidableEq, Inhabited, Repr

structure LineIndex where
  newlines : Array Nat
  length : Nat

def newlinesFrom (offset : Nat) : List Char → List Nat
  | [] => []
  | c :: cs =>
    if c = '\n' then
      offset :: newlinesFrom (offset + c.utf8Size) cs
    else
      newlinesFrom (offset + c.utf8Size) cs

namespace LineIndex

def ofText (text : String) : LineIndex where
  newlines := (newlinesFrom 0 text.toList).toArray
  length := text.utf8ByteSize

-- The position of an offset; one past the end counts as the end. On the first line the column is
-- the offset itself, and on every other line it is at least one.
def position (lines : LineIndex) (offset : Nat) : Position :=
  let index := min offset lines.length
  let line := partitionPoint (· < index) lines.newlines 0
  let column :=
    match line with
    | 0 => index
    | before + 1 => index - lines.newlines.getD before 0
  { index, line, column }

def last (lines : LineIndex) : Position :=
  lines.position lines.length

end LineIndex
end PegParser
