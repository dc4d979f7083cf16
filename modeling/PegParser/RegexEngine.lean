import PegParser.Text.Offset

namespace PegParser

-- The names and patterns of the terminals that every grammar starts with.
def Terminal.builtInPatterns : List (String × String) := [
  ("integer", "[-+]?\\d+"),
  ("identifier", "[_a-zA-Z][_a-zA-Z0-9]*"),
  ("real", "[-+]?\\d+(\\.\\d+)?")]

namespace Regex

-- A piece of a searched text, by its offset.
structure Match where
  start : Nat
  text : List Char
deriving DecidableEq, Repr

namespace Match

def stop (m : Match) : Nat :=
  m.start + Text.byteLength m.text

-- The match is a piece of a text that starts at `offset`.
def StandsIn (m : Match) (offset : Nat) (text : List Char) : Prop :=
  ∃ before after, text = before ++ m.text ++ after ∧ m.start = offset + Text.byteLength before

variable {m : Match} {offset : Nat} {text : List Char}

theorem StandsIn.append {cs : List Char} (h : m.StandsIn (offset + Text.byteLength cs) text) :
    m.StandsIn offset (cs ++ text) := by
  have ⟨before, after, ht, hs⟩ := h
  exact ⟨cs ++ before, after, by simp [ht], by simp [hs, Nat.add_assoc]⟩

theorem StandsIn.le_start (h : m.StandsIn offset text) : offset ≤ m.start := by
  have ⟨_, _, _, hs⟩ := h
  omega

theorem StandsIn.stop_le (h : m.StandsIn offset text) :
    m.stop ≤ offset + Text.byteLength text := by
  have ⟨_, _, ht, hs⟩ := h
  simp [stop, ht, hs]
  omega

end Match
end Regex

-- A library for regular expressions: which texts write one, or else what is wrong with them, and
-- where one matches in a text. Its matches are pieces of the text that do not overlap, from left to
-- right, and the patterns of the terminals that every grammar has are regular expressions.
class RegexEngine where
  Compiled : Type
  compile : String → Except String Compiled
  findAll : Compiled → List Char → List Regex.Match
  findAll_standsIn {regex text m} : m ∈ findAll regex text → m.StandsIn 0 text
  findAll_pairwise {regex text} : (findAll regex text).Pairwise (·.stop ≤ ·.start)
  compile_builtIn {name pattern} :
    (name, pattern) ∈ Terminal.builtInPatterns → ∃ regex, compile pattern = .ok regex

end PegParser
