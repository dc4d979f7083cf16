import PegParser.Proofs.Parse.Run

namespace PegParser.Parse

open Relation

theorem not_rel_of_acc {r : α → α → Prop} {a : α} (h : Acc r a) : ¬r a a := by
  induction h
  case intro a _ hi => exact fun ha => hi a ha ha

section

variable [RegexEngine] (g : Grammar) (s : TokenStream)

-- To try a phrase at a cursor takes to try another one. What a sequence or a repetition has before
-- it matches, what an alternative has before it fails.
inductive Calls : Phrase × Nat → Phrase × Nat → Prop
  | call {name index c} : Calls (.element (.rule name index), c) (.rule index, c)
  | choice {alternatives c} :
    Calls (.element (.choice alternatives), c) (.firstOf alternatives, c)
  | zeroOrOne {e c} : Calls (.element (.zeroOrOne e), c) (.element e, c)
  | zeroOrMore {e c} : Calls (.element (.zeroOrMore e), c) (.repetition e, c)
  | one {e c} : Calls (.element (.oneOrMore e), c) (.element e, c)
  | orMore {e c nodes next ds} :
    Runs g s (.element e) c (some (nodes, next)) ds → c < next →
    Calls (.element (.oneOrMore e), c) (.repetition e, next)
  | again {e c} : Calls (.repetition e, c) (.element e, c)
  | andAgain {e c nodes next ds} :
    Runs g s (.element e) c (some (nodes, next)) ds → c < next →
    Calls (.repetition e, c) (.repetition e, next)
  | head {e es c} : Calls (.sequence (e :: es), c) (.element e, c)
  | tail {e es c nodes next ds} :
    Runs g s (.element e) c (some (nodes, next)) ds →
    Calls (.sequence (e :: es), c) (.sequence es, next)
  | first {es rest c} : Calls (.firstOf (es :: rest), c) (.sequence es, c)
  | later {es rest c ds} :
    Runs g s (.sequence es) c none ds → Calls (.firstOf (es :: rest), c) (.firstOf rest, c)
  | rule {index r c} : g.rule? index = some r → Calls (.rule index, c) (.firstOf r.expressions, c)

end

variable [RegexEngine] {g : Grammar} {s : TokenStream} {p : Phrase} {c : Nat} {x y : Phrase × Nat}
variable {m : Option (List Tree × Nat)} {ds : List SyntaxError}

theorem Runs.acc (h : Runs g s p c m ds) : Acc (fun y x => Calls g s x y) (p, c) := by
  induction h <;> refine .intro _ fun y hy => ?_ <;> cases hy
  -- What is called after something else follows the one run of that.
  case noOne.orMore h _ _ _ _ _ h' | ended.andAgain h _ _ _ _ _ h' => cases (h.deterministic h').1
  case headFailed.tail h _ _ _ _ h' => cases (h.deterministic h').1
  case first.later h _ _ h' => cases (h.deterministic h').1
  case oneStill.orMore h hle _ _ _ _ hlt h' | still.andAgain h hle _ _ _ _ hlt h' =>
    cases (h.deterministic h').1
    contradiction
  case oneMore.orMore h _ _ _ hi _ _ _ _ h' | again.andAgain h _ _ _ hi _ _ _ _ h' =>
    cases (h.deterministic h').1
    exact hi
  case tailFailed.tail h _ _ hi _ _ _ h' | cons.tail h _ _ hi _ _ _ h' =>
    cases (h.deterministic h').1
    exact hi
  case ruled.rule hr _ hi _ hr' | unruled.rule hr _ hi _ hr' =>
    cases hr.symm.trans hr'
    exact hi
  all_goals assumption

theorem Runs.not_transGen (h : Runs g s p c m ds) : ¬TransGen (Calls g s) (p, c) (p, c) :=
  fun ht => not_rel_of_acc h.acc.transGen (transGen_swap.mpr ht)

-- How many rules can stand inside one another from a phrase on: those that it can come to, each at
-- each of its cursors.
noncomputable def nesting (g : Grammar) (s : TokenStream) (x : Phrase × Nat) : Nat :=
  open Classical in
  ((Finset.range g.rules.size ×ˢ Finset.range (s.size + 1)).filter
    fun i => ReflTransGen (Calls g s) x (.rule i.1, i.2)).card

theorem nesting_le_depthLimit : nesting g s x ≤ depthLimit g s := by
  classical
  refine (Finset.card_filter_le _ _).trans ?_
  rw [Finset.card_product, Finset.card_range, Finset.card_range, depthLimit]

theorem Calls.nesting_le (h : Calls g s x y) : nesting g s y ≤ nesting g s x := by
  classical
  exact Finset.card_le_card (Finset.monotone_filter_right _ fun _ _ hi => .head h hi)

theorem Runs.exists_rule {index : Nat} {r : Rule} (hr : g.rule? index = some r)
    (h : Runs g s (.firstOf r.expressions) c m ds) : ∃ m' ds', Runs g s (.rule index) c m' ds' :=
  match m with
  | some _ => ⟨_, _, .ruled hr h⟩
  | none   => ⟨_, _, .unruled hr h⟩

theorem Runs.nesting_lt {index : Nat} {r : Rule} (hr : g.rule? index = some r)
    (h : Runs g s (.firstOf r.expressions) c m ds) (hc : c ≤ s.size) :
    nesting g s (.firstOf r.expressions, c) < nesting g s (.rule index, c) := by
  have ⟨_, _, hrule⟩ := h.exists_rule hr
  have hcall : Calls g s (.rule index, c) (.firstOf r.expressions, c) := .rule hr
  refine Finset.card_lt_card (Finset.ssubset_iff.mpr ⟨(index, c), ?_, ?_⟩)
  · simp only [Finset.mem_filter, not_and]
    exact fun _ ht => hrule.not_transGen (.head' hcall ht)
  · intro i hi
    simp only [Finset.mem_insert, Finset.mem_filter, Finset.mem_product, Finset.mem_range] at hi ⊢
    have hsize : index < g.rules.size := Grammar.lt_size (by simp [hr])
    cases hi
    case inl he => exact he ▸ ⟨⟨hsize, Nat.lt_add_one_of_le hc⟩, .refl⟩
    case inr hi => exact ⟨hi.1, .head hcall hi.2⟩

end PegParser.Parse
