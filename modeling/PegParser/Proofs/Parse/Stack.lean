import PegParser.Proofs.Parse.Furthest

namespace PegParser.Parse

open Relation

section

variable {s : TokenStream} {p : Phrase} {c next depth : Nat} {x y : Phrase × Nat}
variable {m : Option (List Tree × Nat)} {ds : List SyntaxError} {nodes : List Tree}

-- At the cursor, the attempt pushes these failures onto any stack, and ends in the same way.
inductive Pushes (attempt : Attempt α) (c : Nat) (ds : List SyntaxError) : Prop
  | matched {value next} :
    (∀ errors, attempt c errors = .matched value next (errors.pushAll ds)) → Pushes attempt c ds
  | failed {error} :
    ds.getLast? = some error →
    (∀ errors, attempt c errors = .failed error (errors.pushAll ds)) → Pushes attempt c ds

theorem Pushes.of_ofRun {attempt : Attempt α} {m : Option (α × Nat)} (hd : m = none → ds ≠ [])
    (h : ∀ errors, attempt c errors = .ofRun errors ds m) : Pushes attempt c ds := by
  cases m
  case some => exact .matched h
  case none =>
    have hl := List.getLast?_eq_some_getLast (hd rfl)
    refine .failed hl fun errors => ?_
    rw [h, Step.ofRun, hl, Option.getD_some]

variable [RegexEngine] {g : Grammar}

theorem Runs.le (hs : s.Lawful) (h : Runs g s p c (some (nodes, next)) ds) : c ≤ next := by
  generalize hm : some (nodes, next) = m at h
  induction h generalizing nodes next <;> cases hm
  case taken ht => exact (hs.lt_skipTo (List.mem_of_find?_eq_some ht)).le
  case absent | ended | nil => exact le_rfl
  case oneMore hi hi' | again hi hi' | cons hi hi' => exact (hi rfl).trans (hi' rfl)
  case call hi | chosen hi | present hi | many hi | oneStill hi | still hi | first hi | later hi |
      ruled hi =>
    exact hi rfl

theorem Calls.le (hs : s.Lawful) (h : Calls g s x y) : x.2 ≤ y.2 := by
  cases h.matched
  case inl he => exact he.ge
  case inr hm =>
    have ⟨_, _, _, _, hr⟩ := hm
    exact hr.le hs

theorem le_of_calls (hs : s.Lawful) (h : ReflTransGen (Calls g s) x y) : x.2 ≤ y.2 := by
  induction h
  case refl            => exact le_rfl
  case tail hcall hi => exact hi.trans (hcall.le hs)

theorem Runs.index_le (hs : s.Lawful) (h : Runs g s p c m ds) :
    ∀ d ∈ ds, (s.position c).index ≤ d.position.index := by
  intro d hd
  have ⟨y, hy, he⟩ := h.places hs d hd
  exact he ▸ hs.position_index_le (le_of_calls hs hy)

theorem Phrase.follows (hp : ∀ alternatives, p ≠ .firstOf alternatives) :
    Follows g s (p.attempt g s depth) p c := by
  have hf := rule_follows (g := g) (s := s) depth
  cases p
  case element e   => exact element_follows hf e c
  case sequence es => exact sequence_follows hf es c
  case rule index  => exact hf index c
  case firstOf     => exact absurd rfl (hp _)
  case repetition e =>
    cases Follows.zeroOrMore (element_follows hf e) (triesFrom s c) (c := c)
    case stuck h   => exact .stuck h
    case run hr he => exact .run hr he

theorem Phrase.pushes (hs : s.Lawful) {errors : ErrorStack}
    (hne : p.attempt g s depth c errors ≠ .stuck) :
    ∃ ds, Pushes (p.attempt g s depth) c ds ∧
      ∀ d ∈ ds, (s.position c).index ≤ d.position.index := by
  by_cases hp : ∃ alternatives, p = .firstOf alternatives
  case neg =>
    have hp := not_exists.mp hp
    have hf : Follows g s (p.attempt g s depth) p c := Phrase.follows hp
    cases hf
    case stuck h => exact absurd (h errors) hne
    case run m ds hr he =>
      refine ⟨ds, .of_ofRun (fun hm => ?_) he, hr.index_le hs⟩
      subst hm
      exact hr.pushed_ne_nil hp
  case pos =>
    obtain ⟨alternatives, rfl⟩ := hp
    cases firstOf_follows (rule_follows depth) (fun _ => choiceMessage alternatives) alternatives c
    case stuck h           => exact absurd (h errors) hne
    case matched ds hr he  => exact ⟨ds, .of_ofRun (by simp) he, hr.index_le hs⟩
    case exhausted ds hr he =>
      refine ⟨_, .of_ofRun (fun _ => by simp) he, ?_⟩
      exact List.forall_mem_append.mpr ⟨hr.index_le hs, List.forall_mem_singleton.mpr le_rfl⟩

theorem Runs.attempt_ne_stuck (hs : s.Lawful) (h : Runs g s p c m ds) (hc : c ≤ s.size)
    (errors : ErrorStack) : p.attempt g s (depthLimit g s) c errors ≠ .stuck := by
  have he := h.ends hs hc nesting_le_depthLimit
  cases p
  case element    => exact he errors
  case sequence   => exact he errors
  case firstOf    => exact he _ errors
  case repetition => exact he _ le_rfl errors
  case rule       => exact Ends.map he errors

theorem Runs.attempt_eq (hs : s.Lawful) (h : Runs g s p c m ds) (hc : c ≤ s.size)
    (hp : ∀ alternatives, p ≠ .firstOf alternatives) (errors : ErrorStack) :
    p.attempt g s (depthLimit g s) c errors = .ofRun errors ds m :=
  (Phrase.follows hp).eq_ofRun (h.attempt_ne_stuck hs hc) h errors

end

section

variable {input : String} {complete : Bool} {errors errors' : ErrorStack}
variable {e : ParseError} {error : SyntaxError} {ds : List SyntaxError}

theorem last_pushAll (h : ds.getLast? = some error) :
    (ErrorStack.empty.pushAll ds).last = .ok error := by
  have hl : (ErrorStack.empty.pushAll ds).last.toOption = ds.getLast? :=
    ErrorStack.last_pushAll_empty
  rw [h] at hl
  cases hs : (ErrorStack.empty.pushAll ds).last
  case error  => simp [hs, Except.toOption] at hl
  case ok     => simpa [hs, Except.toOption] using hl

theorem last_rejection (hd : ds ≠ []) (h : rejection input ds = (.rejected e, errors)) :
    errors.last = .ok e.error := by
  have hl := List.getLast?_eq_some_getLast hd
  cases h
  rw [last_pushAll hl]
  simp [ParseError.ofInput, hl]

variable [RegexEngine] {g : Grammar}

theorem Parses.exists_subset {r : Outcome × ErrorStack} (h : Parses g input complete r)
    (hne : r.1 ≠ .stuck) :
    ∃ m ds, Runs g (g.stream input) (.rule 0) 0 m ds ∧ ds ⊆ r.2.toList := by
  cases h
  case parsed h _     => exact ⟨_, _, h, by simp⟩
  case failed h       => exact ⟨_, _, h, by simp [rejection]⟩
  case trailing h _ _ => exact ⟨_, _, h, by simp [rejection]⟩
  case stuck          => exact absurd rfl hne

theorem Parses.exists_runs {r : Outcome × ErrorStack} (h : Parses g input complete r)
    (hne : r.1 ≠ .stuck) : ∃ m ds, Runs g (g.stream input) (.rule 0) 0 m ds :=
  have ⟨m, ds, h, _⟩ := h.exists_subset hne
  ⟨m, ds, h⟩

theorem Parses.last_eq (h : Parses g input complete (.rejected e, errors)) :
    errors.last = .ok e.error := by
  generalize ho : (Outcome.rejected e, errors) = o at h
  cases h
  case parsed | stuck => cases ho
  case failed h       => exact last_rejection (h.pushed_ne_nil nofun) ho.symm
  case trailing       => exact last_rejection (by simp) ho.symm

theorem Runs.exists_getLast? {index c : Nat} {s : TokenStream}
    (h : Runs g s (.rule index) c none ds) :
    ∃ r, g.rule? index = some r ∧ ds.getLast? = some (exhaustedError s (ruleMessage r) c) := by
  cases h
  case unruled hr _ => exact ⟨_, hr, List.getLast?_concat⟩

def firstPosition (g : Grammar) (input : String) : Position :=
  ((g.tokenize input).head?.map (·.position)).getD (LineIndex.ofText input).last

theorem position_zero : (g.stream input).position 0 = firstPosition g input := by
  cases ht : g.tokenize input <;>
    simp [firstPosition, TokenStream.position, Grammar.stream, TokenStream.ofTokens, ht]

theorem eq_of_start_failed (h : start g (g.stream input) .empty = .failed error errors) :
    error = ⟨.expectedToken, "no alternative of rule `" ++ g.startName ++ "` matched",
      firstPosition g input⟩ ∧ errors.last = .ok error := by
  rcases start_cases (g := g) (s := g.stream input) g.lawful_stream
    with ⟨_, _, _, _, he⟩ | ⟨ds, hr, he⟩ | ⟨_, he⟩
  case inl     => cases (he _).symm.trans h
  case inr.inr => cases (he _).symm.trans h
  case inr.inl =>
    have ⟨r, hr, hl⟩ := hr.exists_getLast?
    rw [he, hl, Option.getD_some] at h
    obtain ⟨rfl, rfl⟩ := Step.failed.inj h
    refine ⟨?_, last_pushAll hl⟩
    unfold exhaustedError ruleMessage
    rw [position_zero, name_eq_startName hr]

-- A step pushes the same failures onto any stack and comes to the same end; if it fails, it does so
-- with the last of them, and none stands before its cursor. Where a parse has an end, so has all
-- that it tries. If the parse fails, it does so with the last failure on its stack, and that is
-- the one of the start rule if it is that rule which fails.
theorem steps_only_push (g : Grammar) (input : String) :
    let s := g.stream input
    (∀ (p : Phrase) depth c errors, p.attempt g s depth c errors ≠ .stuck →
      ∃ ds, Pushes (p.attempt g s depth) c ds ∧
        ∀ d ∈ ds, (s.position c).index ≤ d.position.index) ∧
    (∀ complete errors, (g.analyze input complete errors).1 ≠ .stuck →
      ∀ (p : Phrase) c errors', Visits g s p c →
        p.attempt g s (depthLimit g s) c errors' ≠ .stuck) ∧
    (∀ complete errors e errors', g.analyze input complete errors = (.rejected e, errors') →
      errors'.last = .ok e.error) ∧
    ∀ error errors', start g s .empty = .failed error errors' →
      error = ⟨.expectedToken, "no alternative of rule `" ++ g.startName ++ "` matched",
        firstPosition g input⟩ ∧
      ∀ complete errors, ∃ e, g.analyze input complete errors = (.rejected e, errors') ∧
        e.error = error := by
  intro s
  have hs : s.Lawful := g.lawful_stream
  refine ⟨?steps, ?ends, ?last, ?start⟩
  case steps =>
    intro p depth c errors hne
    exact p.pushes hs hne
  case ends =>
    intro complete errors hne p c errors' hv
    have ⟨_, _, hr⟩ := (analyze_parses g input complete errors).exists_runs hne
    have ⟨hc, _, _, hr', _⟩ := hr.within hs (x := (.rule 0, 0)) (Nat.zero_le _) hv
    exact hr'.attempt_ne_stuck hs hc errors'
  case last =>
    intro complete errors e errors' h
    exact (h ▸ analyze_parses g input complete errors).last_eq
  case start =>
    intro error errors' h
    have ⟨he, hl⟩ := eq_of_start_failed h
    refine ⟨he, fun complete errors => ⟨.ofInput error errors'.furthest? input, ?_, rfl⟩⟩
    have ha : g.analyze input complete errors =
      conclude input (whole g s complete .empty) := rfl
    rw [ha, whole, h, conclude, hl]
    rfl

end

def Step.error? : Step α → Option SyntaxError
  | failed error _ => some error
  | _ => none

theorem Step.exists_of_error? {step : Step α} {error : SyntaxError}
    (h : step.error? = some error) : ∃ errors, step = .failed error errors := by
  cases step <;> simp_all [error?]

open Grammar in
theorem steps_only_push_lists :
    let s := lists.stream " )"
    ∃ error errors e, start lists s .empty = .failed error errors ∧
      lists.analyze " )" true .empty = (.rejected e, errors) ∧ errors.last = .ok e.error ∧
      e.error = ⟨.expectedToken, "no alternative of rule `list` matched", ⟨1, 0, 1⟩⟩ ∧
      ∃ ds, Pushes ((Phrase.rule 0).attempt lists s (depthLimit lists s)) 0 ds ∧
        ∀ d ∈ ds, (s.position 0).index ≤ d.position.index := by
  intro s
  have ⟨hsteps, hends, hlast, hstart⟩ := steps_only_push lists " )"
  have he : (start lists s .empty).error?.isSome := by decide +kernel
  have ⟨error, he⟩ := Option.isSome_iff_exists.mp he
  have ⟨errors, hf⟩ := Step.exists_of_error? he
  have ⟨hm, ha⟩ := hstart error errors hf
  have ⟨e, ha, hee⟩ := ha true .empty
  have hp : firstPosition lists " )" = ⟨1, 0, 1⟩ := by decide +kernel
  have hne := hends true .empty (by simp [ha]) (.rule 0) 0 .empty .refl
  refine ⟨error, errors, e, hf, ha, hlast _ _ _ _ ha, ?_, hsteps _ _ _ _ hne⟩
  rw [hee, hm, hp]
  rfl

end PegParser.Parse
