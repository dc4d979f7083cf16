import PegParser.Proofs.Parse.Depth

namespace PegParser.Parse

def treeOf? : Outcome → Option Tree
  | .parsed tree => some tree
  | _ => none

theorem eq_parsed_of_treeOf? {outcome : Outcome} {tree : Tree} (h : treeOf? outcome = some tree) :
    outcome = .parsed tree := by
  cases outcome <;> simp_all [treeOf?]

def furthestOf? : Outcome → Option SyntaxError
  | .rejected e => e.furthest
  | _ => none

theorem exists_of_furthestOf? {outcome : Outcome} {f : SyntaxError}
    (h : furthestOf? outcome = some f) : ∃ e, outcome = .rejected e ∧ e.furthest = some f := by
  cases outcome <;> simp_all [furthestOf?]

variable [RegexEngine]

def trailingError (g : Grammar) (found : Token) : SyntaxError :=
  ⟨.unexpectedToken,
    "unexpected `" ++ found.terminal ++ "` " ++ Text.quote found.value ++ " after the end of `" ++
      g.startName ++ "`",
    found.position⟩

def rejection (input : String) (ds : List SyntaxError) : Outcome × ErrorStack :=
  (.rejected (.ofInput (ds.getLast?.getD default) (ErrorStack.empty.pushAll ds).furthest? input),
    .pushAll .empty ds)

-- What a parse gives, and how it comes to that.
inductive Parses (g : Grammar) (input : String) (complete : Bool) : Outcome × ErrorStack → Prop
  | parsed {tree next ds} :
    Runs g (g.stream input) (.rule 0) 0 (some ([tree], next)) ds →
    (complete → (g.stream input).size ≤ next) →
    Parses g input complete (.parsed tree, .pushAll .empty ds)
  | failed {ds} :
    Runs g (g.stream input) (.rule 0) 0 none ds → Parses g input complete (rejection input ds)
  | trailing {tree next ds found} :
    Runs g (g.stream input) (.rule 0) 0 (some ([tree], next)) ds → complete →
    (g.stream input).tokens[next]? = some found →
    Parses g input complete (rejection input (ds ++ [trailingError g found]))
  | stuck :
    (∀ m ds, ¬Runs g (g.stream input) (.rule 0) 0 m ds) → Parses g input complete (.stuck, .empty)

variable {g : Grammar} {s : TokenStream} {input : String} {complete : Bool} {errors : ErrorStack}
variable {ds : List SyntaxError}

theorem Parses.unique {r r' : Outcome × ErrorStack} (h : Parses g input complete r)
    (h' : Parses g input complete r') : r = r' := by
  cases h <;> cases h'
  all_goals grind [Runs.deterministic, TokenStream.size_le_iff]

theorem name_eq_startName {r : Rule} (h : g.rule? 0 = some r) : r.name = g.startName := by
  rw [Grammar.rule?] at h
  rw [Grammar.startName, h, Option.map_some, Option.getD_some]

theorem start_cases (hs : s.Lawful) :
    (∃ tree next ds, Runs g s (.rule 0) 0 (some ([tree], next)) ds ∧
      ∀ errors, start g s errors = .matched tree next (errors.pushAll ds)) ∨
    (∃ ds, Runs g s (.rule 0) 0 none ds ∧
      ∀ errors, start g s errors = .failed (ds.getLast?.getD default) (errors.pushAll ds)) ∨
    (∀ m ds, ¬Runs g s (.rule 0) 0 m ds) ∧ ∀ errors, start g s errors = .stuck := by
  cases rule_cases hs 0 (Nat.zero_le _) le_rfl
  case inr h => exact .inr (.inr h)
  case inl h =>
    have ⟨m, ds, h, he⟩ := h
    cases h
    case ruled hr h =>
      exact .inl ⟨_, _, ds, .ruled hr h, fun errors => Step.map_singleton_inj.mp (he errors)⟩
    case unruled hr h =>
      exact .inr (.inl ⟨_, .unruled hr h, fun errors => Step.map_singleton_inj.mp (he errors)⟩)

omit [RegexEngine] in
theorem conclude_failed :
    conclude input (.failed (ds.getLast?.getD default) (.pushAll .empty ds)) =
      rejection input ds := by
  simp only [conclude, rejection, ErrorStack.last_pushAll_empty]
  cases ds.getLast? <;> rfl

theorem trailing_eq {tree : Tree} {next : Nat} {found : Token} (hs : s.Lawful)
    (h : s.tokens[next]? = some found) :
    trailing g s tree next errors =
      .failed (trailingError g found) (errors.push (trailingError g found)) := by
  have ⟨others, hg⟩ := List.head?_eq_some_iff.mp ((hs.head?_group next).trans h)
  rw [trailing, hg]
  rfl

theorem analyze_parses (g : Grammar) (input : String) (complete : Bool) (errors : ErrorStack) :
    Parses g input complete (g.analyze input complete errors) := by
  have ha : g.analyze input complete errors =
    conclude input (whole g (g.stream input) complete .empty) := rfl
  rw [ha, whole]
  rcases start_cases (g := g) (s := g.stream input) g.lawful_stream
    with ⟨tree, next, ds, h, he⟩ | ⟨ds, h, he⟩ | ⟨h, he⟩
  case inr.inl => simpa [he, conclude_failed] using .failed h
  case inr.inr => simpa [he] using .stuck h
  case inl =>
    simp only [he]
    have hi : (complete && !(g.stream input).isExhausted next) = true ↔
        complete ∧ next < (g.stream input).size := by
      simp [TokenStream.isExhausted, TokenStream.size]
    by_cases hc : complete ∧ next < (g.stream input).size
    case pos =>
      have ht := Array.getElem?_eq_getElem hc.2
      have := Parses.trailing h hc.1 ht
      rw [← conclude_failed] at this
      rw [if_pos (hi.mpr hc), trailing_eq g.lawful_stream ht]
      simpa using this
    case neg =>
      rw [if_neg (mt hi.mp hc)]
      exact .parsed h fun hc' => by simpa [hc'] using hc

theorem exists_runs {terminals : List Terminal} {rules : List Rule}
    (hg : Grammar.ofTables terminals rules = .ok g) (hl : ¬g.LeftRecursive) (hs : s.Lawful) :
    ∃ m ds, Runs g s (.rule 0) 0 m ds := by
  have hg := Grammar.resolved_of_ofTables hg
  have hi : (g.rule? 0).isSome := by simp [Grammar.rule?, hg.size_pos]
  have hne := rule_ends_of_depthLimit_le hs hg hl hi (Nat.zero_le _) le_rfl .empty
  cases rule_cases (g := g) hs 0 (Nat.zero_le _) le_rfl
  case inl h =>
    obtain ⟨m, ds, h, _⟩ := h
    exact ⟨m, ds, h⟩
  case inr h => exact absurd (h.2 .empty) hne

theorem analyze_ne_stuck {terminals : List Terminal} {rules : List Rule}
    (hg : Grammar.ofTables terminals rules = .ok g) (hl : ¬g.LeftRecursive) :
    (g.analyze input complete errors).1 ≠ .stuck := by
  have hs : (g.stream input).Lawful := g.lawful_stream
  have ⟨m, ds, h⟩ := exists_runs hg hl hs
  have hp := analyze_parses g input complete errors
  generalize g.analyze input complete errors = r at hp
  cases hp
  case stuck hn => exact absurd h (hn m ds)
  all_goals nofun

end PegParser.Parse
