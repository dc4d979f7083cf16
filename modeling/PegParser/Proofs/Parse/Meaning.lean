import PegParser.Proofs.Parse.Run

namespace PegParser

-- The first start of a token from an offset on, or the end of the input.
inductive NextStart (tokens : Set Token) (length offset : Nat) : Nat → Prop
  | token {start} : IsLeast {i | offset ≤ i ∧ ∃ t ∈ tokens, t.index = i} start →
    NextStart tokens length offset start
  | none : (∀ t ∈ tokens, t.index < offset) → NextStart tokens length offset length

-- The token of a terminal that starts at an offset, by the first place in the table if there are
-- several terminals of that name.
structure TokenAt (tokens : Set Token) (name : String) (start : Nat) (t : Token) : Prop where
  mem : t ∈ tokens
  terminal : t.terminal = name
  index : t.index = start
  rank_le : ∀ u ∈ tokens, u.terminal = name → u.index = start → t.rank ≤ u.rank

namespace NextStart

variable {tokens : Set Token} {length offset start start' : Nat}

theorem unique (h : NextStart tokens length offset start)
    (h' : NextStart tokens length offset start') : start = start' := by
  cases h <;> cases h'
  case token.token h h' => exact h.unique h'
  case none.none => rfl
  case token.none h h' =>
    have ⟨ho, t, ht, he⟩ := h.1
    have := h' t ht
    omega
  case none.token h h' =>
    have ⟨ho, t, ht, he⟩ := h'.1
    have := h t ht
    omega

end NextStart

namespace TokenAt

variable {tokens : Set Token} {name : String} {start : Nat} {t u : Token}

theorem unique (ht : TokenAt tokens name start t) (hu : TokenAt tokens name start u)
    (h : ∀ t ∈ tokens, ∀ u ∈ tokens, t.index = u.index → t.rank = u.rank → t = u) : t = u :=
  h t ht.mem u hu.mem (ht.index.trans hu.index.symm) <|
    le_antisymm (ht.rank_le u hu.mem hu.terminal hu.index)
      (hu.rank_le t ht.mem ht.terminal ht.index)

end TokenAt

namespace Parse

variable [RegexEngine]

section

variable (g : Grammar) (tokens : Set Token) (length : Nat)

-- What a phrase matches at an offset: the nodes and the offset after them, or nothing.
inductive Derives : Phrase → (offset : Nat) → Option (List Tree × Nat) → Prop
  | taken {name o start t} :
    NextStart tokens length o start → TokenAt tokens name start t →
    Derives (.element (.terminal name)) o (some ([.leaf t], t.stop))
  | missing {name o start} :
    NextStart tokens length o start → (∀ t ∈ tokens, t.terminal = name → t.index ≠ start) →
    Derives (.element (.terminal name)) o none
  | call {name index o m} :
    Derives (.rule index) o m → Derives (.element (.rule name index)) o m
  | choice {alternatives o m} :
    Derives (.firstOf alternatives) o m → Derives (.element (.choice alternatives)) o m
  | present {e o m} :
    Derives (.element e) o (some m) → Derives (.element (.zeroOrOne e)) o (some m)
  | absent {e o} :
    Derives (.element e) o none → Derives (.element (.zeroOrOne e)) o (some ([], o))
  | many {e o m} : Derives (.repetition e) o m → Derives (.element (.zeroOrMore e)) o m
  | noOne {e o} : Derives (.element e) o none → Derives (.element (.oneOrMore e)) o none
  | oneStill {e o nodes} :
    Derives (.element e) o (some (nodes, o)) →
    Derives (.element (.oneOrMore e)) o (some (nodes, o))
  | oneMore {e o nodes stop nodes' last} :
    Derives (.element e) o (some (nodes, stop)) → o < stop →
    Derives (.repetition e) stop (some (nodes', last)) →
    Derives (.element (.oneOrMore e)) o (some (nodes ++ nodes', last))
  | ended {e o} : Derives (.element e) o none → Derives (.repetition e) o (some ([], o))
  | still {e o nodes} :
    Derives (.element e) o (some (nodes, o)) → Derives (.repetition e) o (some (nodes, o))
  | again {e o nodes stop nodes' last} :
    Derives (.element e) o (some (nodes, stop)) → o < stop →
    Derives (.repetition e) stop (some (nodes', last)) →
    Derives (.repetition e) o (some (nodes ++ nodes', last))
  | nil {o} : Derives (.sequence []) o (some ([], o))
  | headFailed {e es o} : Derives (.element e) o none → Derives (.sequence (e :: es)) o none
  | tailFailed {e es o nodes stop} :
    Derives (.element e) o (some (nodes, stop)) → Derives (.sequence es) stop none →
    Derives (.sequence (e :: es)) o none
  | cons {e es o nodes stop nodes' last} :
    Derives (.element e) o (some (nodes, stop)) →
    Derives (.sequence es) stop (some (nodes', last)) →
    Derives (.sequence (e :: es)) o (some (nodes ++ nodes', last))
  | exhausted {o} : Derives (.firstOf []) o none
  | first {es rest o m} :
    Derives (.sequence es) o (some m) → Derives (.firstOf (es :: rest)) o (some m)
  | later {es rest o m} :
    Derives (.sequence es) o none → Derives (.firstOf rest) o m →
    Derives (.firstOf (es :: rest)) o m
  | ruled {index r o start nodes stop} :
    g.rule? index = some r → NextStart tokens length o start →
    Derives (.firstOf r.expressions) o (some (nodes, stop)) →
    Derives (.rule index) o (some ([.node r.name nodes (.point start)], stop))
  | unruled {index r o} :
    g.rule? index = some r → Derives (.firstOf r.expressions) o none →
    Derives (.rule index) o none

end

theorem Derives.deterministic {g : Grammar} {tokens : Set Token} {length o : Nat} {p : Phrase}
    {m m' : Option (List Tree × Nat)}
    (ht : ∀ t ∈ tokens, ∀ u ∈ tokens, t.index = u.index → t.rank = u.rank → t = u)
    (h : Derives g tokens length p o m) (h' : Derives g tokens length p o m') : m = m' := by
  induction h generalizing m' <;> cases h'
  case taken.taken hn hu _ _ hu' hn' =>
    cases hn.unique hn'
    cases hu.unique hu' ht
    rfl
  case taken.missing hn hu _ hne hn' =>
    cases hn.unique hn'
    exact absurd hu.index (hne _ hu.mem hu.terminal)
  case missing.taken hn hne _ _ hu' hn' =>
    cases hn.unique hn'
    exact absurd hu'.index (hne _ hu'.mem hu'.terminal)
  case ruled.ruled hr hn _ hi _ _ _ _ hr' hn' h' =>
    cases hr.symm.trans hr'
    cases hn.unique hn'
    cases hi h'
    rfl
  all_goals grind

abbrev Means (g : Grammar) (s : TokenStream) : Phrase → Nat → Option (List Tree × Nat) → Prop :=
  Derives g {t | t ∈ s.tokens} s.lines.length

section

variable {g : Grammar} {s : TokenStream} {p : Phrase} {o : Nat} {m m' : Option (List Tree × Nat)}

theorem Means.deterministic (hs : s.Lawful)
    (h : Means g s p o m) (h' : Means g s p o m') : m = m' :=
  Derives.deterministic (fun _ ht _ hu => hs.eq_of_index_rank ht hu) h h'

theorem means_stream {input : String} :
    Means g (g.stream input) = Derives g {t | t ∈ g.tokenize input} input.utf8ByteSize := by
  rw [Means, Grammar.setOf_mem_stream, Grammar.stream_length]

end
end Parse
end PegParser
