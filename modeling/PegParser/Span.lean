namespace PegParser

structure Span where
  start : Nat
  stop : Nat
deriving DecidableEq, Inhabited, Repr

namespace Span

def point (index : Nat) : Span where
  start := index
  stop := index

def length (s : Span) : Nat :=
  s.stop - s.start

def isEmpty (s : Span) : Bool :=
  s.length == 0

def join (s t : Span) : Span where
  start := min s.start t.start
  stop := max s.stop t.stop

end Span
end PegParser
