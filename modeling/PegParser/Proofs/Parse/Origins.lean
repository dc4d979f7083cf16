import PegParser.Proofs.Parse.Calls

namespace PegParser.Parse

open Relation

theorem append_singleton_eq_append_cons {as bs cs : List α} {a b : α}
    (h : as ++ [a] = bs ++ b :: cs) :
    (as = bs ∧ a = b ∧ cs = []) ∨ ∃ rest, as = bs ++ b :: rest := by
  cases List.append_eq_append_iff.mp h
  case inl h =>
    have ⟨rest, _, ha⟩ := h
    cases rest <;> simp_all
  case inr h =>
    have ⟨rest, _, ha⟩ := h
    cases rest <;> simp_all

theorem terminalError_position {s : TokenStream} {name : String} {c : Nat} (hs : s.Lawful) :
    (terminalError s name c).position = s.position c := by
  have hh := hs.head?_group c
  unfold terminalError
  split
  case h_1 => rfl
  case h_2 found _ hg =>
    have ht : s.tokens[c]? = some found := by rw [← hh, hg, List.head?_cons]
    simp [TokenStream.position, ht]

section Origin

variable [RegexEngine] (g : Grammar) (s : TokenStream)

-- A failure of a phrase at a cursor, after those of what has been tried for it.
inductive Origin : Phrase → (cursor : Nat) → List SyntaxError → SyntaxError → Prop
  | terminal {name c} :
    (s.group c).find? (·.terminal == name) = none →
    Origin (.element (.terminal name)) c [] (terminalError s name c)
  | choice {alternatives c ds} :
    Runs g s (.firstOf alternatives) c none ds →
    Origin (.element (.choice alternatives)) c ds (exhaustedError s (choiceMessage alternatives) c)
  | rule {index r c ds} :
    g.rule? index = some r → Runs g s (.firstOf r.expressions) c none ds →
    Origin (.rule index) c ds (exhaustedError s (ruleMessage r) c)

-- Each failure comes from something that has been tried, and those right before it from what has
-- been tried for that.
def Traces (x : Phrase × Nat) (ds : List SyntaxError) : Prop :=
  ∀ before e after, ds = before ++ e :: after →
    ∃ p c earlier own, ReflTransGen (Calls g s) x (p, c) ∧ before = earlier ++ own ∧
      Origin g s p c own e

end Origin

section Step

variable [RegexEngine] {g : Grammar} {s : TokenStream} {p : Phrase} {c : Nat} {x y : Phrase × Nat}
variable {m : Option (List Tree × Nat)} {ds ds' own : List SyntaxError} {e : SyntaxError}

namespace Origin

theorem runs (h : Origin g s p c own e) : Runs g s p c none (own ++ [e]) :=
  match h with
  | .terminal hf => .missing hf
  | .choice h    => .unchosen h
  | .rule hr h   => .unruled hr h

theorem ne_firstOf (h : Origin g s p c own e) (alternatives : List (List Element)) :
    p ≠ .firstOf alternatives := by
  cases h <;> nofun

theorem position_eq (hs : s.Lawful) (h : Origin g s p c own e) : e.position = s.position c :=
  match h with
  | .terminal _ => terminalError_position hs
  | .choice _   => rfl
  | .rule _ _   => rfl

end Origin

namespace Traces

theorem nil : Traces g s x [] := by
  simp [Traces]

theorem append (h : Traces g s x ds) (h' : Traces g s x ds') : Traces g s x (ds ++ ds') := by
  intro before e after he
  cases List.append_eq_append_iff.mp he
  case inl he =>
    have ⟨_, hb, ha⟩ := he
    have ⟨p, c, earlier, own, hc, ho, h⟩ := h' _ e after ha
    exact ⟨p, c, ds ++ earlier, own, hc, by rw [hb, ho, List.append_assoc], h⟩
  case inr he =>
    have ⟨rest, hb, ha⟩ := he
    cases rest
    case nil =>
      have ⟨p, c, earlier, own, hc, ho, h⟩ := h' [] e after ha.symm
      have ⟨hn, hn'⟩ := List.append_eq_nil_iff.mp ho.symm
      exact ⟨p, c, before, [], hc, by simp, hn' ▸ h⟩
    case cons =>
      cases ha
      exact h before e _ hb

theorem concat (h : Traces g s (p, c) ds) (ho : Origin g s p c ds e) :
    Traces g s (p, c) (ds ++ [e]) := by
  intro before e' after he
  cases append_singleton_eq_append_cons he
  case inl he =>
    have ⟨hb, he, _⟩ := he
    exact ⟨p, c, [], ds, .refl, hb.symm, he ▸ ho⟩
  case inr he =>
    have ⟨rest, hb⟩ := he
    exact h before e' rest hb

theorem of_calls (hcall : Calls g s x y) (h : Traces g s y ds) : Traces g s x ds :=
  fun before e after he =>
    have ⟨p, c, earlier, own, hc, ho⟩ := h before e after he
    ⟨p, c, earlier, own, .head hcall hc, ho⟩

end Traces

theorem Runs.traces (h : Runs g s p c m ds) : Traces g s (p, c) ds := by
  induction h
  case taken | nil | exhausted => exact .nil
  case missing hf            => exact .concat .nil (.terminal hf)
  case call hi               => exact .of_calls .call hi
  case chosen hi             => exact .of_calls .choice hi
  case unchosen h hi         => exact .concat (.of_calls .choice hi) (.choice h)
  case present hi            => exact .of_calls .zeroOrOne hi
  case absent hi             => exact .of_calls .zeroOrOne hi
  case many hi               => exact .of_calls .zeroOrMore hi
  case noOne hi              => exact .of_calls .one hi
  case oneStill hi           => exact .of_calls .one hi
  case oneMore h hlt _ hi hi' => exact .append (.of_calls .one hi) (.of_calls (.orMore h hlt) hi')
  case ended hi              => exact .of_calls .again hi
  case still hi              => exact .of_calls .again hi
  case again h hlt _ hi hi'  => exact .append (.of_calls .again hi) (.of_calls (.andAgain h hlt) hi')
  case headFailed hi         => exact .of_calls .head hi
  case tailFailed h _ hi hi' => exact .append (.of_calls .head hi) (.of_calls (.tail h) hi')
  case cons h _ hi hi'       => exact .append (.of_calls .head hi) (.of_calls (.tail h) hi')
  case first hi              => exact .of_calls .first hi
  case later h _ hi hi'      => exact .append (.of_calls .first hi) (.of_calls (.later h) hi')
  case ruled hr _ hi         => exact .of_calls (.rule hr) hi
  case unruled hr h hi       => exact .concat (.of_calls (.rule hr) hi) (.rule hr h)

end Step

end PegParser.Parse
