import PegParser.Proofs.Parse.Meaning
import PegParser.Proofs.Tree

namespace PegParser

-- Tokens one after the other, from an offset to the end of the last one.
inductive Path (tokens : Set Token) : (offset : Nat) → List Token → (stop : Nat) → Prop
  | nil {o} : Path tokens o [] o
  | cons {o t ts stop} :
    t ∈ tokens → o ≤ t.index → (∀ u ∈ tokens, o ≤ u.index → t.index ≤ u.index) →
    Path tokens t.stop ts stop → Path tokens o (t :: ts) stop

namespace Path

variable {tokens : Set Token} {o mid stop : Nat} {ts ts' : List Token} {t u : Token}

theorem append (h : Path tokens o ts mid) (h' : Path tokens mid ts' stop) :
    Path tokens o (ts ++ ts') stop := by
  induction h
  case nil                 => exact h'
  case cons ht ho hl _ hi => exact .cons ht ho hl (hi h')

theorem mem (h : Path tokens o ts stop) (ht : t ∈ ts) : t ∈ tokens := by
  induction h
  case nil => contradiction
  case cons hmem _ _ _ hi =>
    cases List.mem_cons.mp ht
    case inl he => exact he ▸ hmem
    case inr ht => exact hi ht

theorem le_index_of_head? (h : Path tokens o ts stop) (ht : ts.head? = some t) (hu : u ∈ tokens)
    (ho : o ≤ u.index) : t.index ≤ u.index := by
  cases h
  case nil => contradiction
  case cons hl _ =>
    cases ht
    exact hl u hu ho

theorem stop_eq_of_getLast? (h : Path tokens o ts stop) (ht : ts.getLast? = some t) :
    stop = t.stop := by
  induction h
  case nil => contradiction
  case cons h hi =>
    cases h
    case nil  => cases ht; rfl
    case cons => exact hi (by simpa using ht)

theorem isChain (h : Path tokens o ts stop) :
    ts.IsChain fun t u =>
      t.stop ≤ u.index ∧ ∀ v ∈ tokens, ¬(t.stop ≤ v.index ∧ v.index < u.index) := by
  induction h
  case nil => exact .nil
  case cons h hi =>
    cases h
    case nil => exact .singleton _
    case cons ho hl _ =>
      refine .cons_cons ⟨ho, fun v hv ⟨hlo, hlt⟩ => ?_⟩ hi
      have := hl v hv hlo
      omega

theorem exists_of_lt (h : Path tokens o ts stop) (hu : u ∈ tokens) (ho : o ≤ u.index)
    (hs : u.index < stop) : ∃ t ∈ ts, t.index ≤ u.index ∧ u.index < t.stop := by
  induction h
  case nil => omega
  case cons t _ _ ht _ hl _ hi =>
    by_cases hlt : u.index < t.stop
    case pos => exact ⟨t, by simp, hl u hu ho, hlt⟩
    case neg =>
      have ⟨t', ht', h⟩ := hi (by omega) hs
      exact ⟨t', by simp [ht'], h⟩

theorem le (h : Path tokens o ts stop) (ht : ∀ t ∈ tokens, t.index < t.stop) : o ≤ stop := by
  induction h
  case nil => exact le_rfl
  case cons hmem ho _ _ hi =>
    have := ht _ hmem
    omega

theorem stop_le (h : Path tokens o ts stop) (hp : ∀ t ∈ tokens, t.index < t.stop) (ht : t ∈ ts) :
    t.stop ≤ stop := by
  induction h
  case nil => contradiction
  case cons h hi =>
    cases ht
    case head    => exact h.le hp
    case tail ht => exact hi ht

theorem stop_eq_iff (h : Path tokens o ts stop) (ht : ∀ t ∈ tokens, t.index < t.stop) :
    stop = o ↔ ts = [] := by
  cases h
  case nil => simp
  case cons hmem ho _ h =>
    have := ht _ hmem
    have := h.le ht
    simp only [reduceCtorEq, iff_false]
    omega

end Path

namespace Parse

variable {s : TokenStream} {tokens : Set Token} {o mid stop : Nat}
variable {nodes nodes' : List Tree}

-- The leaves of the nodes are the tokens of a path.
def Spell (tokens : Set Token) (o : Nat) (nodes : List Tree) (stop : Nat) : Prop :=
  ∃ ts, Tree.leavesOf nodes = ts.map .leaf ∧ Path tokens o ts stop

namespace Spell

theorem nil : Spell tokens o [] o :=
  ⟨[], Tree.leavesOf_nil, .nil⟩

theorem append (h : Spell tokens o nodes mid) (h' : Spell tokens mid nodes' stop) :
    Spell tokens o (nodes ++ nodes') stop := by
  have ⟨ts, hl, hp⟩ := h
  have ⟨ts', hl', hp'⟩ := h'
  exact ⟨ts ++ ts', by simp [hl, hl'], hp.append hp'⟩

theorem node {label : String} {fallback : Span} (h : Spell tokens o nodes stop) :
    Spell tokens o [.node label nodes fallback] stop := by
  have ⟨ts, hl, hp⟩ := h
  exact ⟨ts, by simp [hl], hp⟩

theorem leaf {name : String} {start : Nat} {t : Token} (hs : s.Lawful)
    (hn : NextStart {t | t ∈ s.tokens} s.lines.length o start)
    (ht : TokenAt {t | t ∈ s.tokens} name start t) :
    Spell {t | t ∈ s.tokens} o [.leaf t] t.stop := by
  refine ⟨[t], by simp, ?_⟩
  cases hn
  case token hl =>
    have hi := ht.index
    refine .cons ht.mem (hi ▸ hl.1.1) (fun u hu ho => ?_) .nil
    exact hi ▸ hl.2 ⟨ho, u, hu, rfl⟩
  case none => exact absurd ht.index (hs.index_lt_length ht.mem).ne

end Spell

variable [RegexEngine] {g : Grammar} {p : Phrase}

theorem Means.spell (hs : s.Lawful) (h : Means g s p o (some (nodes, stop))) :
    Spell {t | t ∈ s.tokens} o nodes stop := by
  generalize hm : some (nodes, stop) = m at h
  induction h generalizing nodes stop <;> cases hm
  case taken hn ht => exact .leaf hs hn ht
  case absent | ended | nil => exact .nil
  case oneMore hi hi' | again hi hi' | cons hi hi' => exact .append (hi rfl) (hi' rfl)
  case ruled hi => exact .node (hi rfl)
  case call hi | choice hi | present hi | many hi | oneStill hi | still hi | first hi | later hi =>
    exact hi rfl

theorem Means.spell_tokens {input : String}
    (h : Means g (g.stream input) p o (some (nodes, stop))) :
    Spell {t | t ∈ g.tokenize input} o nodes stop :=
  Grammar.setOf_mem_stream ▸ h.spell g.lawful_stream

theorem Means.stop_eq_iff (hs : s.Lawful) (h : Means g s p o (some (nodes, stop))) :
    stop = o ↔ Tree.leavesOf nodes = [] := by
  have ⟨ts, hl, hp⟩ := h.spell hs
  rw [hl, List.map_eq_nil_iff]
  exact hp.stop_eq_iff hs.index_lt_stop

theorem Means.le (hs : s.Lawful) (h : Means g s p o (some (nodes, stop))) : o ≤ stop :=
  have ⟨_, _, hp⟩ := h.spell hs
  hp.le hs.index_lt_stop

end Parse
end PegParser
