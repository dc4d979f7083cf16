import PegParser.Parse.Descent
import PegParser.Proofs.Grammar.LeftRecursion
import PegParser.Proofs.TokenStream

namespace PegParser

namespace Grammar

variable [RegexEngine]

def stream (g : Grammar) (input : String) : TokenStream :=
  .ofTokens input (g.tokenize input)

variable {g : Grammar} {input : String} {t : Token}

theorem lawful_stream : (g.stream input).Lawful :=
  TokenStream.lawful_ofTokens

theorem mem_stream_iff : t ∈ (g.stream input).tokens ↔ t ∈ g.tokenize input := by
  simp [stream, TokenStream.ofTokens]

theorem setOf_mem_stream :
    {t | t ∈ (g.stream input).tokens} = {t | t ∈ g.tokenize input} :=
  Set.ext fun _ => mem_stream_iff

theorem stream_length : (g.stream input).lines.length = input.utf8ByteSize := rfl

end Grammar

namespace Parse

variable [RegexEngine]

-- What is looked for at a cursor.
inductive Phrase
  | element (e : Element)
  | sequence (es : List Element)
  | firstOf (alternatives : List (List Element))
  -- As many of an element as there are.
  | repetition (e : Element)
  | rule (index : Nat)

def Phrase.Nullable (g : Grammar) : Phrase → Prop
  | element e => g.Nullable e
  | sequence es => ∀ e ∈ es, g.Nullable e
  | firstOf alternatives => ∃ es ∈ alternatives, ∀ e ∈ es, g.Nullable e
  | repetition _ => True
  | rule index => ∃ r es, g.rule? index = some r ∧ es ∈ r.expressions ∧ ∀ e ∈ es, g.Nullable e

def Phrase.Resolved (g : Grammar) : Phrase → Prop
  | element e            => g.unresolved? e = none
  | sequence es          => g.unresolvedInSequence? es = none
  | firstOf alternatives => g.unresolvedInAlternatives? alternatives = none
  | repetition e         => g.unresolved? e = none
  | rule _               => True

section

variable (g : Grammar) (s : TokenStream)

def terminalError (name : String) (cursor : Nat) : SyntaxError :=
  match s.group cursor with
  | [] => ⟨.expectedToken, "expected `" ++ name ++ "`, found end of input", s.position cursor⟩
  | found :: _ =>
    ⟨.unexpectedToken,
      "expected `" ++ name ++ "`, found `" ++ found.terminal ++ "` " ++ Text.quote found.value,
      found.position⟩

def choiceMessage (alternatives : List (List Element)) : String :=
  "no alternative of `" ++ (Element.choice alternatives).text ++ "` matched"

def ruleMessage (r : Rule) : String :=
  "no alternative of rule `" ++ r.name ++ "` matched"

def exhaustedError (message : String) (cursor : Nat) : SyntaxError :=
  ⟨.expectedToken, message, s.position cursor⟩

def ruleNode (r : Rule) (nodes : List Tree) (cursor : Nat) : Tree :=
  Tree.node r.name nodes (.point (s.position cursor).index)

-- A run of a phrase at a cursor: how it ends, and the failures that it pushes. The failure of a
-- choice or a rule stands after those of all its alternatives, so it is not part of their run.
inductive Runs : Phrase → (cursor : Nat) → Option (List Tree × Nat) → List SyntaxError → Prop
  | taken {name c token} :
    (s.group c).find? (·.terminal == name) = some token →
    Runs (.element (.terminal name)) c (some ([.leaf token], s.skipTo c token.stop)) []
  | missing {name c} :
    (s.group c).find? (·.terminal == name) = none →
    Runs (.element (.terminal name)) c none [terminalError s name c]
  | call {name index c m ds} :
    Runs (.rule index) c m ds → Runs (.element (.rule name index)) c m ds
  | chosen {alternatives c m ds} :
    Runs (.firstOf alternatives) c (some m) ds →
    Runs (.element (.choice alternatives)) c (some m) ds
  | unchosen {alternatives c ds} :
    Runs (.firstOf alternatives) c none ds →
    Runs (.element (.choice alternatives)) c none
      (ds ++ [exhaustedError s (choiceMessage alternatives) c])
  | present {e c m ds} :
    Runs (.element e) c (some m) ds → Runs (.element (.zeroOrOne e)) c (some m) ds
  | absent {e c ds} :
    Runs (.element e) c none ds → Runs (.element (.zeroOrOne e)) c (some ([], c)) ds
  | many {e c m ds} :
    Runs (.repetition e) c m ds → Runs (.element (.zeroOrMore e)) c m ds
  | noOne {e c ds} :
    Runs (.element e) c none ds → Runs (.element (.oneOrMore e)) c none ds
  | oneStill {e c nodes next ds} :
    Runs (.element e) c (some (nodes, next)) ds → ¬c < next →
    Runs (.element (.oneOrMore e)) c (some (nodes, next)) ds
  | oneMore {e c nodes next ds nodes' last ds'} :
    Runs (.element e) c (some (nodes, next)) ds → c < next →
    Runs (.repetition e) next (some (nodes', last)) ds' →
    Runs (.element (.oneOrMore e)) c (some (nodes ++ nodes', last)) (ds ++ ds')
  | ended {e c ds} :
    Runs (.element e) c none ds → Runs (.repetition e) c (some ([], c)) ds
  | still {e c nodes next ds} :
    Runs (.element e) c (some (nodes, next)) ds → ¬c < next →
    Runs (.repetition e) c (some (nodes, next)) ds
  | again {e c nodes next ds nodes' last ds'} :
    Runs (.element e) c (some (nodes, next)) ds → c < next →
    Runs (.repetition e) next (some (nodes', last)) ds' →
    Runs (.repetition e) c (some (nodes ++ nodes', last)) (ds ++ ds')
  | nil {c} : Runs (.sequence []) c (some ([], c)) []
  | headFailed {e es c ds} :
    Runs (.element e) c none ds → Runs (.sequence (e :: es)) c none ds
  | tailFailed {e es c nodes next ds ds'} :
    Runs (.element e) c (some (nodes, next)) ds → Runs (.sequence es) next none ds' →
    Runs (.sequence (e :: es)) c none (ds ++ ds')
  | cons {e es c nodes next ds nodes' last ds'} :
    Runs (.element e) c (some (nodes, next)) ds →
    Runs (.sequence es) next (some (nodes', last)) ds' →
    Runs (.sequence (e :: es)) c (some (nodes ++ nodes', last)) (ds ++ ds')
  | exhausted {c} : Runs (.firstOf []) c none []
  | first {es rest c m ds} :
    Runs (.sequence es) c (some m) ds → Runs (.firstOf (es :: rest)) c (some m) ds
  | later {es rest c ds m ds'} :
    Runs (.sequence es) c none ds → Runs (.firstOf rest) c m ds' →
    Runs (.firstOf (es :: rest)) c m (ds ++ ds')
  | ruled {index r c nodes next ds} :
    g.rule? index = some r → Runs (.firstOf r.expressions) c (some (nodes, next)) ds →
    Runs (.rule index) c (some ([ruleNode s r nodes c], next)) ds
  | unruled {index r c ds} :
    g.rule? index = some r → Runs (.firstOf r.expressions) c none ds →
    Runs (.rule index) c none (ds ++ [exhaustedError s (ruleMessage r) c])

end

namespace Runs

variable {g : Grammar} {s : TokenStream} {p : Phrase} {c : Nat}
variable {m m' : Option (List Tree × Nat)} {ds ds' : List SyntaxError}

-- The second run takes the same rule, since the runs below it end in the same way.
theorem deterministic (h : Runs g s p c m ds) (h' : Runs g s p c m' ds') : m = m' ∧ ds = ds' := by
  induction h generalizing m' ds' <;> cases h'
  all_goals grind

theorem pushed_ne_nil (h : Runs g s p c none ds) (hp : ∀ alternatives, p ≠ .firstOf alternatives) :
    ds ≠ [] := by
  generalize hm : none = m at h
  induction h <;> simp_all

def Advances (g : Grammar) (s : TokenStream) (p : Phrase) (c : Nat)
    (m : Option (List Tree × Nat)) : Prop :=
  ∀ nodes next, m = some (nodes, next) → c ≤ next ∧ next ≤ s.size ∧ (next = c → p.Nullable g)

namespace Advances

variable {q : Phrase} {nodes nodes' : List Tree} {next : Nat}

theorem none : Advances g s p c none :=
  fun _ _ h => nomatch h

theorem of_lt (h : c < next) (hn : next ≤ s.size) : Advances g s p c (some (nodes, next)) := by
  intro _ _ hm
  cases hm
  exact ⟨h.le, hn, by omega⟩

theorem of_nullable (h : p.Nullable g) (hc : c ≤ s.size) : Advances g s p c (some (nodes, c)) := by
  intro _ _ hm
  cases hm
  exact ⟨le_rfl, hc, fun _ => h⟩

theorem imp (h : Advances g s p c m) (hpq : p.Nullable g → q.Nullable g) : Advances g s q c m :=
  fun nodes next hm => have ⟨hc, hn, he⟩ := h nodes next hm; ⟨hc, hn, hpq ∘ he⟩

theorem of_nodes (h : Advances g s p c (some (nodes, next))) :
    Advances g s p c (some (nodes', next)) := by
  intro _ _ hm
  cases hm
  exact h _ _ rfl

end Advances

theorem advances (hs : s.Lawful) (h : Runs g s p c m ds) (hc : c ≤ s.size) : Advances g s p c m := by
  induction h
  case taken ht =>
    exact .of_lt (hs.lt_skipTo (List.mem_of_find?_eq_some ht)) (TokenStream.skipTo_le hc)
  case call hi     => exact (hi hc).imp fun ⟨_, _, hr, hes, h⟩ => .rule hr hes h
  case chosen hi   => exact (hi hc).imp fun ⟨_, hes, h⟩ => .choice hes h
  case present hi  => exact (hi hc).imp fun _ => .zeroOrOne
  case absent      => exact .of_nullable .zeroOrOne hc
  case many hi     => exact (hi hc).imp fun _ => .zeroOrMore
  case oneStill hi => exact (hi hc).imp .oneOrMore
  case ended       => exact .of_nullable trivial hc
  case still hi    => exact (hi hc).imp fun _ => trivial
  case oneMore hlt _ hi hi' | again hlt _ hi hi' =>
    have ⟨_, hn, _⟩ := hi hc _ _ rfl
    have ⟨hc', hn', _⟩ := hi' hn _ _ rfl
    exact .of_lt (by omega) hn'
  case nil         => exact .of_nullable nofun hc
  case cons hi hi' =>
    have ⟨_, hn, h⟩ := hi hc _ _ rfl
    have ⟨_, hn', h'⟩ := hi' hn _ _ rfl
    intro _ _ hm
    cases hm
    exact ⟨by omega, hn', fun _ => List.forall_mem_cons.mpr ⟨h (by omega), h' (by omega)⟩⟩
  case first hi    => exact (hi hc).imp fun h => ⟨_, by simp, h⟩
  case later hi    => exact (hi hc).imp fun ⟨_, hes, h⟩ => ⟨_, by simp [hes], h⟩
  case ruled hr _ hi =>
    exact .of_nodes <| (hi hc).imp fun ⟨_, hes, h⟩ => ⟨_, _, hr, hes, h⟩
  all_goals exact .none

theorem next_le {nodes : List Tree} {next : Nat} (hs : s.Lawful)
    (h : Runs g s p c (some (nodes, next)) ds) (hc : c ≤ s.size) : next ≤ s.size :=
  (h.advances hs hc _ _ rfl).2.1

end Runs
end Parse
end PegParser
