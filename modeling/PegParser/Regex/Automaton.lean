import PegParser.Regex.Basic

namespace PegParser.Regex

inductive Instruction
  -- Takes a character of a set.
  | take (members : Unicode.RangeSet) (next : Nat)
  -- Goes on if a test holds.
  | look (l : Look) (next : Nat)
  -- Goes on in two ways.
  | fork (preferred other : Nat)
  | accept

structure Automaton where
  program : Array Instruction
  entry : Nat

namespace Automaton

abbrev Code := Array Instruction × Nat

def emit (i : Instruction) (program : Array Instruction) : Code :=
  (program.push i, program.size)

def branch (greedy : Bool) (first second : Nat) : Instruction :=
  if greedy then .fork first second else .fork second first

-- A loop: what `body` adds in front of a fork, which goes back to it or on with `next`. It goes on
-- with the body, so that this is taken at least once.
def loop (greedy : Bool) (body : Code → Code) : Code → Code
  | (program, next) =>
    let fork := program.size
    let (program, start) := body (program.push .accept, fork)
    (program.set! fork (branch greedy start next), start)

-- A loop that may be left out. Where the body takes no characters, the fork of the loop alone would
-- prefer to leave it too early.
def optionalLoop (greedy canBeEmpty : Bool) (body : Code → Code) : Code → Code
  | (program, next) =>
    let fork := program.size
    let (program, start) := loop greedy body (program, next)
    if canBeEmpty then emit (branch greedy start next) program else (program, fork)

def optionals (greedy : Bool) (body : Code → Code) (times : Nat) : Code → Code
  | (program, next) =>
    Nat.repeat
      (fun code =>
        let (program, start) := body code
        emit (branch greedy start next) program)
      times (program, next)

def compile : Regex → Code → Code
  | .empty, code => code
  | .oneOf members, (program, next) => emit (.take members next) program
  | .look l, (program, next) => emit (.look l next) program
  | .seq r s, code => compile r (compile s code)
  | .alt r s, (program, next) =>
    let (program, first) := compile r (program, next)
    let (program, second) := compile s (program, next)
    emit (.fork first second) program
  | .repeated 0 none greedy r, code => optionalLoop greedy r.canBeEmpty (compile r) code
  | .repeated (min + 1) none greedy r, code =>
    Nat.repeat (compile r) min (loop greedy (compile r) code)
  | .repeated min (some max) greedy r, code =>
    Nat.repeat (compile r) min (optionals greedy (compile r) (max - min) code)

def ofRegex (r : Regex) : Automaton :=
  let (program, entry) := compile r (#[.accept], 0)
  { program, entry }

end Automaton
end PegParser.Regex
