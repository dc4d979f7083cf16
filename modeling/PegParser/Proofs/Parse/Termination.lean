import PegParser.Proofs.Parse.Descent

namespace PegParser.Parse

section

variable {s : TokenStream} {call : Nat → Attempt Tree} {c : Nat}

theorem Step.map_singleton_inj {step step' : Step α} :
    step.map ([·]) = step'.map ([·]) ↔ step = step' := by
  cases step <;> cases step' <;> simp [Step.map]

def Ends (attempt : Attempt α) (c : Nat) : Prop :=
  ∀ errors, attempt c errors ≠ .stuck

namespace Ends

theorem map {attempt : Attempt α} {f : α → β} (h : Ends attempt c) :
    Ends (fun c errors => (attempt c errors).map f) c := by
  intro errors
  have := h errors
  cases he : attempt c errors <;> simp_all [Step.map]

theorem terminal {name : String} : Ends (terminal s name) c := by
  intro errors
  simp only [Parse.terminal]
  split
  case h_1 => simp [Step.fail]
  case h_2 => split <;> simp [Step.fail]

variable {attempt : Attempt (List Tree)}

theorem zeroOrOne (h : Ends attempt c) : Ends (zeroOrOne attempt) c := by
  intro errors
  have := h errors
  simp only [Parse.zeroOrOne]
  split <;> simp_all

end Ends

variable [RegexEngine] {g : Grammar}

theorem Follows.advances {attempt : Attempt (List Tree)} {p : Phrase} {errors errors' : ErrorStack}
    {nodes : List Tree} {next : Nat} (hs : s.Lawful) (h : Follows g s attempt p c)
    (hc : c ≤ s.size) (hm : attempt c errors = .matched nodes next errors') :
    c ≤ next ∧ next ≤ s.size ∧ (next = c → p.Nullable g) := by
  have ⟨_, hr, _⟩ := h.runs_of_matched hm
  exact hr.advances hs hc _ _ rfl

-- The rules that lead an attempt have an end at the cursor, and all rules have one further on.
structure Ready (g : Grammar) (s : TokenStream) (call : Nat → Attempt Tree) (c : Nat)
    (leads : Nat → Prop) : Prop where
  now {index} : leads index → (g.rule? index).isSome → Ends (call index) c
  later {index c'} : c < c' → c' ≤ s.size → (g.rule? index).isSome → Ends (call index) c'

namespace Ready

variable {leads leads' : Nat → Prop}

theorem imp (h : Ready g s call c leads) (hl : ∀ index, leads' index → leads index) :
    Ready g s call c leads' where
  now hi := h.now (hl _ hi)
  later := h.later

theorem further {c' : Nat} (h : Ready g s call c leads) (hc : c < c') (hc' : c' ≤ s.size) :
    Ready g s call c' leads' where
  now _ := h.later hc hc'
  later hlt := h.later (hc.trans hlt)

end Ready

namespace Ends

variable {attempt : Attempt (List Tree)} {e : Element}

theorem zeroOrMore (hs : s.Lawful) (hf : ∀ c, Follows g s attempt (.element e) c) {tries : Nat}
    (hc : c ≤ s.size) (h : ∀ c', c ≤ c' → c' ≤ s.size → Ends attempt c')
    (ht : triesFrom s c ≤ tries) : Ends (zeroOrMore attempt tries) c := by
  induction tries generalizing c
  case zero => simp [triesFrom] at ht
  case succ tries hi =>
    intro errors
    have hne := h c le_rfl hc errors
    simp only [Parse.zeroOrMore]
    split
    case h_1 nodes next errors' hm =>
      obtain ⟨_, hn, _⟩ := (hf c).advances hs hc hm
      split
      case isTrue hlt =>
        refine Ends.map (hi hn (fun c' hc' => h c' (by omega)) ?_) errors'
        simp only [triesFrom] at ht ⊢
        omega
      case isFalse => simp
    case h_2 => simp
    case h_3 hm => exact absurd hm hne

theorem oneOrMore (hs : s.Lawful) (hf : ∀ c, Follows g s attempt (.element e) c)
    (hc : c ≤ s.size) (h : ∀ c', c ≤ c' → c' ≤ s.size → Ends attempt c') :
    Ends (oneOrMore s attempt) c := by
  intro errors
  have hne := h c le_rfl hc errors
  simp only [Parse.oneOrMore]
  split
  case h_1 nodes next errors' hm =>
    obtain ⟨_, hn, _⟩ := (hf c).advances hs hc hm
    split
    case isTrue hlt =>
      exact Ends.map (zeroOrMore hs hf hn (fun c' hc' => h c' (by omega)) le_rfl) errors'
    case isFalse => simp
  case h_2 => exact hne

end Ends
section Descent

theorem leadsIn_head {index : Nat} {e : Element} {es : List Element} (h : g.Leads index e) :
    g.LeadsIn index (e :: es) :=
  ⟨[], e, es, rfl, nofun, h⟩

theorem leadsIn_tail {index : Nat} {e : Element} {es : List Element} (he : g.Nullable e)
    (h : g.LeadsIn index es) : g.LeadsIn index (e :: es) :=
  have ⟨before, e', after, hes, hb, h⟩ := h
  ⟨e :: before, e', after, by rw [hes, List.cons_append], List.forall_mem_cons.mpr ⟨he, hb⟩, h⟩

mutual

theorem element_ends (hs : s.Lawful) (hf : CallsFollow g s call) :
    (e : Element) → (c : Nat) → c ≤ s.size → g.unresolved? e = none →
    Ready g s call c (g.Leads · e) → Ends (element s call e) c
  | .terminal _, _, _, _, _ => by
    rw [element]
    exact .terminal
  | .rule name index, _, _, he, h => by
    rw [element]
    exact (h.now .rule (Grammar.isSome_rule?_of_unresolved? he)).map
  | .choice alternatives, c, hc, he, h => by
    rw [element]
    refine firstOf_ends hs hf _ alternatives c hc he (h.imp fun index hl => ?_)
    have ⟨es, hes, before, e, after, heq, hb, hl⟩ := hl
    exact .choice (heq ▸ hes) hb hl
  | .zeroOrOne inner, c, hc, he, h => by
    rw [element]
    exact .zeroOrOne (element_ends hs hf inner c hc he (h.imp fun _ => .zeroOrOne))
  | .zeroOrMore inner, c, hc, he, h => by
    rw [element]
    refine Ends.zeroOrMore hs (element_follows hf inner) hc (fun c' hcc hc' => ?_) le_rfl
    by_cases heq : c' = c
    case pos => exact heq ▸ element_ends hs hf inner c hc he (h.imp fun _ => .zeroOrMore)
    case neg => exact element_ends hs hf inner c' hc' he (h.further (by omega) hc')
  | .oneOrMore inner, c, hc, he, h => by
    rw [element]
    refine Ends.oneOrMore hs (element_follows hf inner) hc (fun c' hcc hc' => ?_)
    by_cases heq : c' = c
    case pos => exact heq ▸ element_ends hs hf inner c hc he (h.imp fun _ => .oneOrMore)
    case neg => exact element_ends hs hf inner c' hc' he (h.further (by omega) hc')

theorem sequence_ends (hs : s.Lawful) (hf : CallsFollow g s call) :
    (es : List Element) → (c : Nat) → c ≤ s.size → g.unresolvedInSequence? es = none →
    Ready g s call c (g.LeadsIn · es) → Ends (sequence s call es) c
  | [], _, _, _, _ => by
    intro _
    simp [sequence]
  | e :: es, c, hc, hes, h => by
    intro errors
    have ⟨he, hes⟩ := List.forall_mem_cons.mp (Grammar.unresolvedInSequence?_eq_none_iff.mp hes)
    have hes := Grammar.unresolvedInSequence?_eq_none_iff.mpr hes
    have hne := element_ends hs hf e c hc he (h.imp fun _ => leadsIn_head) errors
    simp only [sequence]
    split
    case h_1 nodes next errors' hm =>
      have ⟨hcn, hn, hnull⟩ := (element_follows hf e c).advances hs hc hm
      refine Ends.map (sequence_ends hs hf es next hn hes ?_) errors'
      by_cases heq : next = c
      case pos => exact heq ▸ h.imp fun _ => leadsIn_tail (hnull heq)
      case neg => exact h.further (by omega) hn
    case h_2 => exact hne

theorem firstOf_ends (hs : s.Lawful) (hf : CallsFollow g s call) (message : Unit → String) :
    (alternatives : List (List Element)) → (c : Nat) → c ≤ s.size →
    g.unresolvedInAlternatives? alternatives = none →
    Ready g s call c (fun index => ∃ es ∈ alternatives, g.LeadsIn index es) →
    Ends (firstOf s call message alternatives) c
  | [], _, _, _, _ => by
    intro _
    simp [firstOf, Step.fail]
  | es :: rest, c, hc, ha, h => by
    intro errors
    have ⟨hes, hr⟩ :=
      List.forall_mem_cons.mp (Grammar.unresolvedInAlternatives?_eq_none_iff.mp ha)
    have hr := Grammar.unresolvedInAlternatives?_eq_none_iff.mpr hr
    have hne := sequence_ends hs hf es c hc hes (h.imp fun _ hl => ⟨es, by simp, hl⟩) errors
    simp only [firstOf]
    split
    case h_1 errors' _ =>
      refine firstOf_ends hs hf message rest c hc hr (h.imp fun _ hl => ?_) errors'
      have ⟨es', hes', hl⟩ := hl
      exact ⟨es', by simp [hes'], hl⟩
    case h_2 => exact hne

end

theorem rule_ends (hs : s.Lawful) (hg : g.Resolved) (hl : ¬g.LeftRecursive) {depth index c : Nat}
    (hi : (g.rule? index).isSome) (hc : c ≤ s.size)
    (hd : g.rules.size * (s.size - c) + g.leftHeight index < depth) :
    Ends (rule g s depth index) c := by
  induction depth generalizing index c
  case zero => contradiction
  case succ depth ih =>
    have ⟨r, hr⟩ := Option.isSome_iff_exists.mp hi
    intro errors
    rw [rule_eq hr]
    refine Ends.map (firstOf_ends hs (rule_follows depth) _ r.expressions c hc ?_ ?_) errors
    · exact Grammar.unresolvedInAlternatives?_eq_none_iff.mpr fun _ => hg.unresolved?_eq_none hr
    · constructor
      case now =>
        intro index' ⟨es, hes, hle⟩ hi'
        have := Grammar.leftHeight_lt hl ⟨r, es, hr, hes, hle⟩ (Grammar.lt_size hi')
        exact ih hi' hc (by omega)
      case later =>
        intro index' c' hlt hc' hi'
        have := Grammar.leftHeight_lt_size hl (Grammar.lt_size hi')
        have : g.rules.size * (s.size - c' + 1) ≤ g.rules.size * (s.size - c) :=
          Nat.mul_le_mul_left _ (by omega)
        exact ih hi' hc' (by rw [Nat.mul_add_one] at this; omega)

theorem rule_ends_of_depthLimit_le (hs : s.Lawful) (hg : g.Resolved) (hl : ¬g.LeftRecursive)
    {depth index c : Nat} (hi : (g.rule? index).isSome) (hc : c ≤ s.size)
    (hd : depthLimit g s ≤ depth) : Ends (rule g s depth index) c := by
  refine rule_ends hs hg hl hi hc (lt_of_lt_of_le ?_ hd)
  have := Grammar.leftHeight_lt_size hl (Grammar.lt_size hi)
  have : g.rules.size * (s.size - c + 1) ≤ depthLimit g s := Nat.mul_le_mul_left _ (by omega)
  rw [Nat.mul_add_one] at this
  omega

end Descent
theorem rule_eq_of_ends {depth depth' index c : Nat} (h : Ends (rule g s depth index) c)
    (h' : Ends (rule g s depth' index) c) (errors : ErrorStack) :
    rule g s depth index c errors = rule g s depth' index c errors := by
  cases rule_follows depth index c
  case stuck hs => exact absurd (hs errors) (h.map errors)
  case run hr he =>
    cases rule_follows depth' index c
    case stuck hs => exact absurd (hs errors) (h'.map errors)
    case run hr' he' =>
      have ⟨hm, hd⟩ := hr.deterministic hr'
      exact Step.map_singleton_inj.mp ((he errors).trans (hm ▸ hd ▸ (he' errors).symm))

-- A parse has an end, however deep rules may stand inside one another. A step that matches stays
-- within the tokens, and takes one unless what it looks for is nullable.
theorem start_ends_and_attempts_advance {terminals : List Terminal} {rules : List Rule}
    (hg : Grammar.ofTables terminals rules = .ok g) (hl : ¬g.LeftRecursive) (input : String) :
    let s := g.stream input
    (∀ depth errors, depthLimit g s ≤ depth →
      rule g s depth 0 0 errors ≠ .stuck ∧ rule g s depth 0 0 errors = start g s errors) ∧
    ∀ (p : Phrase) depth c errors nodes next errors', c ≤ s.size →
      p.attempt g s depth c errors = .matched nodes next errors' →
      c ≤ next ∧ next ≤ s.size ∧ (¬p.Nullable g → c < next) := by
  intro s
  have hs : s.Lawful := g.lawful_stream
  have hg := Grammar.resolved_of_ofTables hg
  have ends {depth} (hd : depthLimit g s ≤ depth) : Ends (rule g s depth 0) 0 :=
    rule_ends_of_depthLimit_le hs hg hl (by simp [Grammar.rule?, hg.size_pos]) (Nat.zero_le _) hd
  constructor
  case left =>
    intro depth errors hd
    exact ⟨ends hd errors, rule_eq_of_ends (ends hd) (ends le_rfl) errors⟩
  case right =>
    intro p depth c errors nodes next errors' hc hm
    obtain ⟨_, hr, _⟩ := Phrase.runs_of_matched hm
    obtain ⟨hcn, hn, hnull⟩ := hr.advances hs hc _ _ rfl
    exact ⟨hcn, hn, fun h => lt_of_le_of_ne hcn fun he => h (hnull he.symm)⟩

end

def Step.next? : Step α → Option Nat
  | matched _ next _ => some next
  | _ => none

theorem Step.next?_eq_some_iff {step : Step α} {next : Nat} :
    step.next? = some next ↔ ∃ value errors, step = .matched value next errors := by
  cases step <;> simp [next?]

open Grammar in
theorem start_ends_and_attempts_advance_lists :
    let s := lists.stream "3.5,(7)"
    ofTables listTerminals listRules = .ok lists ∧ ¬lists.LeftRecursive ∧
      depthLimit lists s ≤ 27 ∧ rule lists s 27 0 0 .empty ≠ .stuck ∧
      ∃ nodes errors, (Phrase.rule 1).attempt lists s 27 4 .empty = .matched nodes 8 errors ∧
        ¬(Phrase.rule 1).Nullable lists ∧ 4 < 8 ∧ 8 ≤ s.size := by
  intro s
  have h := start_ends_and_attempts_advance lists_ofTables not_leftRecursive_lists "3.5,(7)"
  have hd : depthLimit lists s ≤ 27 := by decide +kernel
  have hn : ((Phrase.rule 1).attempt lists s 27 4 .empty).next? = some 8 := by decide +kernel
  have ⟨nodes, errors, hm⟩ := Step.next?_eq_some_iff.mp hn
  have hnull : ¬(Phrase.rule 1).Nullable lists := fun ⟨_, _, hr, hes, h⟩ =>
    have : lists.Nullable (.rule "item" 1) := .rule hr hes h
    nomatch maybeNullable_of_isRanked isRanked_lists this
  have ⟨_, hle, hlt⟩ := h.2 (.rule 1) 27 4 .empty nodes 8 errors (by decide +kernel) hm
  exact ⟨lists_ofTables, not_leftRecursive_lists, hd, (h.1 27 .empty hd).1, nodes, errors, hm,
    hnull, hlt hnull, hle⟩

end PegParser.Parse
