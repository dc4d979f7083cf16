import PegParser.Proofs.Regex.Search
import PegParser.Regex.Meaning
import PegParser.Regex.Reader

namespace PegParser.Regex

-- The regular expression that a text writes, unless it is too large.
def ofText? (text : String) : Option Regex := do
  let pattern ← Pattern.ofText? text
  let (r, _) ← pattern.regex? {}
  if r.weight ≤ weightLimit then some r else none

theorem isSome_ofText?_builtIn :
    ∀ builtIn ∈ Terminal.builtInPatterns, (ofText? builtIn.2).isSome := by
  decide +kernel

-- The library that the program runs with.
instance : RegexEngine where
  Compiled := Regex
  compile text :=
    match ofText? text with
    | some r => .ok r
    | none => .error "no regular expression"
  findAll r := (Automaton.ofRegex r).findAll
  findAll_standsIn := Automaton.findFrom_standsIn
  findAll_pairwise := Automaton.findFrom_pairwise
  compile_builtIn h := by
    obtain ⟨r, hr⟩ := Option.isSome_iff_exists.mp (isSome_ofText?_builtIn _ h)
    exact ⟨r, by rw [hr]⟩

end PegParser.Regex
