import PegParser.Regex.Automaton
import PegParser.RegexEngine

namespace PegParser.Regex

namespace Automaton

structure Thread where
  instruction : Nat
  start : Nat

-- The threads of a place, with the instructions that one of them has come by; `stamp` marks those
-- of the current place.
structure Threads where
  marks : Array Nat
  stamp : Nat
  found : Array Thread := #[]

variable (a : Automaton) (before after : Option Char)

-- Follows the instructions of `work` that take no character, the preferred ones first. No
-- instruction is followed twice at the same place.
def follow (start : Nat) : (steps : Nat) → (work : List Nat) → Threads → Threads
  | 0, _, ts => ts
  | _, [], ts => ts
  | steps + 1, i :: work, ts =>
    if ts.marks[i]? == some ts.stamp then
      follow start steps work ts
    else
      let ts := { ts with marks := ts.marks.set! i ts.stamp }
      match a.program[i]? with
      | some (.fork first second) => follow start steps (first :: second :: work) ts
      | some (.look l next) =>
        follow start steps (if l.holds before after then next :: work else work) ts
      | some _ => follow start steps work { ts with found := ts.found.push ⟨i, start⟩ }
      | none => follow start steps work ts

def followAll (threads : Array Thread) (ts : Threads) : Threads :=
  threads.foldl
    (fun ts t => a.follow before after t.start (2 * a.program.size + 2) [t.instruction] ts) ts

def takeNext (taken : Array Thread) : List Thread → Array Thread × Option Nat
  | [] => (taken, none)
  | t :: threads =>
    match a.program[t.instruction]? with
    | some (.take members next) =>
      if after.any (members.contains ·.toNat) then
        takeNext (taken.push ⟨next, t.start⟩) threads
      else
        takeNext taken threads
    | some .accept => (taken, some t.start)
    | _ => takeNext taken threads

-- The first match from a place on, as the number of characters before it and the number of its own.
-- `best` is the match found so far, by its start and end, and `threads` are the ways to a better
-- one.
def scan : (before : Option Char) → (place : Nat) → (threads : Array Thread) → (marks : Array Nat) →
    (best : Option (Nat × Nat)) → List Char → Option (Nat × Nat)
  | before, place, threads, marks, best, rest =>
    let after := rest.head?
    let entries := if best.isNone then threads.push ⟨a.entry, place⟩ else threads
    let ts := a.followAll before after entries { marks, stamp := place + 1 }
    let (threads, accepted) := a.takeNext after #[] ts.found.toList
    let best := (accepted.map (·, place)).orElse fun _ => best
    match rest with
    | [] => best
    | c :: rest =>
      if best.isSome && threads.isEmpty then best
      else scan (some c) (place + 1) threads ts.marks best rest

def search (rest : List Char) : Option (Nat × Nat) :=
  a.scan before 0 #[] (Array.replicate a.program.size 0) none rest

end Automaton

-- The matches in `rest`, which starts at `offset`. If the latest match ends right there, which
-- `touching` tells, an empty match is looked for one character further on.
def Automaton.findFrom (a : Automaton) : (steps : Nat) → (before : Option Char) →
    (offset : Nat) → (touching : Bool) → (rest : List Char) → List Match
  | 0, _, _, _, _ => []
  | steps + 1, before, offset, touching, rest =>
    match a.search before rest with
    | none => []
    | some (start, stop) =>
      if stop = 0 ∧ touching then
        match rest with
        | [] => []
        | c :: rest => a.findFrom steps (some c) (offset + c.utf8Size) false rest
      else
        let skipped := rest.take start
        let text := (rest.drop start).take (stop - start)
        let found : Match := ⟨offset + Text.byteLength skipped, text⟩
        let before := ((skipped ++ text).getLast?).orElse fun _ => before
        found :: a.findFrom steps before found.stop true ((rest.drop start).drop (stop - start))

def Automaton.findAll (a : Automaton) (text : List Char) : List Match :=
  a.findFrom (2 * text.length + 2) none 0 false text

end PegParser.Regex
