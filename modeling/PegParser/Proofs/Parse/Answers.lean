import PegParser.Proofs.Parse.Stack

namespace PegParser.Parse

section Level

def farthest (ds : List SyntaxError) : Nat :=
  (ds.map (·.position.index)).foldr max 0

-- The failures get equally far, if they get beyond the cursor at all.
def Level (s : TokenStream) (k : Nat) (ds ds' : List SyntaxError) : Prop :=
  max (s.position k).index (farthest ds) = max (s.position k).index (farthest ds')

variable {s : TokenStream} {k c : Nat} {d : SyntaxError} {ds ds' ds'' es es' : List SyntaxError}

@[simp]
theorem farthest_nil : farthest [] = 0 := rfl

@[simp]
theorem farthest_cons : farthest (d :: ds) = max d.position.index (farthest ds) := rfl

@[simp]
theorem farthest_append : farthest (ds ++ ds') = max (farthest ds) (farthest ds') := by
  induction ds <;> simp_all [max_assoc]

theorem le_farthest (h : d ∈ ds) : d.position.index ≤ farthest ds := by
  induction h <;> simp_all

theorem farthest_le {n : Nat} (h : ∀ d ∈ ds, d.position.index ≤ n) : farthest ds ≤ n := by
  induction ds <;> simp_all

theorem farthest_eq (h : d.IsFurthest ds) : farthest ds = d.position.index :=
  le_antisymm (farthest_le fun _ => h.le) (le_farthest h.mem)

namespace Level

theorem symm (h : Level s k ds ds') : Level s k ds' ds :=
  Eq.symm h

theorem trans (h : Level s k ds ds') (h' : Level s k ds' ds'') : Level s k ds ds'' :=
  Eq.trans h h'

theorem append (h : Level s k ds ds') (h' : Level s k es es') :
    Level s k (ds ++ es) (ds' ++ es') := by
  simp only [Level, farthest_append] at *
  omega

theorem of_le (hs : s.Lawful) (h : Level s k ds ds') (hle : k ≤ c) : Level s c ds ds' := by
  have := hs.position_index_le hle
  simp only [Level] at *
  omega

theorem twice : Level s k (ds ++ ds) ds := by
  simp [Level]

theorem prefix_twice : Level s k (ds ++ es ++ (ds ++ es')) (ds ++ (es ++ es')) := by
  simp only [Level, farthest_append]
  omega

theorem concat_exhausted {message : String} : Level s k (ds ++ [exhaustedError s message k]) ds := by
  simp only [Level, exhaustedError, farthest_append, farthest_cons, farthest_nil]
  omega

theorem farthest_eq (h : Level s k ds ds') (hd : (s.position k).index ≤ farthest ds)
    (hd' : (s.position k).index ≤ farthest ds') : farthest ds = farthest ds' := by
  simp only [Level] at h
  omega

theorem farthest_concat (h : Level s k ds ds') (hd : d.position = s.position k) :
    farthest (ds ++ [d]) = farthest (ds' ++ [d]) := by
  simp only [Level, ← hd] at h
  simp only [farthest_append, farthest_cons, farthest_nil]
  omega

end Level
end Level

def after (c : Nat) (m : Option (List Tree × Nat)) : Nat :=
  m.elim c (·.2)

variable [RegexEngine]

-- There is a run that ends in the given way, with failures that get as far as the given ones.
def Answers (g : Grammar) (s : TokenStream) (p : Phrase) (c : Nat) (m : Option (List Tree × Nat))
    (ds : List SyntaxError) : Prop :=
  ∃ ds', Runs g s p c m ds' ∧ Level s (after c m) ds ds'

variable {g : Grammar} {s : TokenStream} {p q p' : Phrase} {c next : Nat}
variable {m m' : Option (List Tree × Nat)} {ds ds' : List SyntaxError} {nodes : List Tree}

theorem Runs.le_after (hs : s.Lawful) (h : Runs g s p c m ds) : c ≤ after c m := by
  cases m
  case none => exact le_rfl
  case some => exact h.le hs

theorem Runs.le_farthest (hs : s.Lawful) (h : Runs g s p c none ds)
    (hp : ∀ alternatives, p ≠ .firstOf alternatives) : (s.position c).index ≤ farthest ds := by
  have ⟨d, hd⟩ := List.exists_mem_of_ne_nil ds (h.pushed_ne_nil hp)
  exact (h.index_le hs d hd).trans (Parse.le_farthest hd)

namespace Answers

theorem of_runs (h : Runs g s p c m ds) : Answers g s p c m ds :=
  ⟨ds, h, rfl⟩

theorem imp (h : Answers g s p c m ds) (hm : after c m' = after c m)
    (hr : ∀ {ds}, Runs g s p c m ds → Runs g s q c m' ds) : Answers g s q c m' ds :=
  have ⟨ds', h, hl⟩ := h
  ⟨ds', hr h, hm ▸ hl⟩

theorem exhausted {message message' : String} (h : Answers g s p c none ds)
    (hr : ∀ {ds}, Runs g s p c none ds →
      Runs g s q c none (ds ++ [exhaustedError s message' c])) :
    Answers g s q c none (ds ++ [exhaustedError s message c]) :=
  have ⟨_, h, hl⟩ := h
  ⟨_, hr h, Level.concat_exhausted.trans (hl.trans Level.concat_exhausted.symm)⟩

theorem append (hs : s.Lawful) (h : Answers g s p c m ds) (h' : Answers g s q (after c m) m' ds')
    {m''} (hm : after c m'' = after (after c m) m')
    (hr : ∀ {ds ds'}, Runs g s p c m ds → Runs g s q (after c m) m' ds' →
      Runs g s p' c m'' (ds ++ ds')) :
    Answers g s p' c m'' (ds ++ ds') :=
  have ⟨_, h, hl⟩ := h
  have ⟨_, h', hl'⟩ := h'
  have hl := hl.of_le hs (h'.le_after hs)
  ⟨_, hr h h', hm ▸ hl.append hl'⟩

theorem tailFailed (hs : s.Lawful) (h : Answers g s p c (some (nodes, next)) ds)
    (h' : Answers g s q next none ds') (hq : ∀ alternatives, q ≠ .firstOf alternatives)
    (hle : (s.position next).index ≤ farthest ds')
    (hr : ∀ {ds ds'}, Runs g s p c (some (nodes, next)) ds → Runs g s q next none ds' →
      Runs g s p' c none (ds ++ ds')) :
    Answers g s p' c none (ds ++ ds') := by
  have ⟨es, h, hl⟩ := h
  have ⟨es', h', hl'⟩ := h'
  have hle' := h'.le_farthest hs hq
  have he : farthest (ds ++ ds') = farthest (es ++ es') := by
    refine (hl.append hl').farthest_eq ?_ ?_ <;> simp [after, hle, hle']
  exact ⟨_, hr h h', congrArg (max _) he⟩

end Answers

end PegParser.Parse
