import PegParser.Grammar.Error
import PegParser.RegexEngine

namespace PegParser

variable [RegexEngine]

structure Terminal where
  name : String
  pattern : String
  regex : RegexEngine.Compiled
  -- The regular expression is the one that the pattern writes.
  regex_eq : RegexEngine.compile pattern = .ok regex

namespace Terminal

def ofPattern (name pattern : String) : Except GrammarError Terminal :=
  match h : RegexEngine.compile pattern with
  | .ok regex => .ok ⟨name, pattern, regex, h⟩
  | .error reason => .error (.invalidPattern name pattern reason)

@[ext]
theorem ext {s t : Terminal} (name : s.name = t.name) (pattern : s.pattern = t.pattern) :
    s = t := by
  obtain ⟨_, _, _, hs⟩ := s
  obtain ⟨_, _, _, ht⟩ := t
  simp only at name pattern
  subst name pattern
  simpa using hs.symm.trans ht

instance : DecidableEq Terminal := fun s t =>
  decidable_of_iff (s.name = t.name ∧ s.pattern = t.pattern)
    ⟨fun h => ext h.1 h.2, fun h => h ▸ ⟨rfl, rfl⟩⟩

def ofPatterns (patterns : List (String × String)) : Except GrammarError (List Terminal) :=
  patterns.mapM fun (name, pattern) => ofPattern name pattern

def builtIns : Except GrammarError (List Terminal) :=
  ofPatterns builtInPatterns

def isBuiltIn (t : Terminal) : Bool :=
  builtInPatterns.contains (t.name, t.pattern)

end Terminal
end PegParser
