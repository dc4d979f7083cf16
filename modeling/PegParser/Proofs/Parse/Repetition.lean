import PegParser.Proofs.Parse.Stack

namespace PegParser.Parse

variable {s : TokenStream} {e : Element} {c next depth : Nat}
variable {errors errors' : ErrorStack} {nodes : List Tree}

section Past

theorem group_of_size_le (h : s.size ≤ c) : s.group c = [] := by
  simp [TokenStream.group, TokenStream.size_le_iff.mp h]

theorem position_of_size_le (h : s.size ≤ c) : s.position c = s.lines.last := by
  simp [TokenStream.position, TokenStream.size_le_iff.mp h]

def Step.standing (c : Nat) : Step α → Step α
  | matched value _ errors => matched value c errors
  | failed error errors => failed error errors
  | stuck => stuck

@[simp]
theorem Step.standing_matched {value : α} :
    (matched value next errors).standing c = matched value c errors := rfl

@[simp]
theorem Step.standing_failed {error : SyntaxError} :
    (failed error errors : Step α).standing c = failed error errors := rfl

@[simp]
theorem Step.standing_stuck : (stuck : Step α).standing c = stuck := rfl

@[simp]
theorem Step.standing_map {f : α → β} {step : Step α} :
    (step.map f).standing c = (step.standing c).map f := by
  cases step <;> rfl

theorem Step.exists_of_map_eq_matched {f : α → β} {step : Step α} {value : β}
    (h : step.map f = .matched value next errors) :
    ∃ a, step = .matched a next errors ∧ f a = value := by
  cases step <;> cases h
  exact ⟨_, rfl, rfl⟩

-- At every cursor where no token is left the attempt ends in the same way, and there.
def Stays (s : TokenStream) (attempt : Attempt α) : Prop :=
  ∀ errors, ∃ step : Step α, ∀ c, s.size ≤ c → attempt c errors = step.standing c

namespace Stays

variable {attempt : Attempt (List Tree)}

theorem map {attempt : Attempt α} {f : α → β} (h : Stays s attempt) :
    Stays s (fun c errors => (attempt c errors).map f) := by
  intro errors
  have ⟨step, h⟩ := h errors
  exact ⟨step.map f, fun c hc => by simp [h c hc]⟩

theorem fail (kind : SyntaxErrorKind) (message : String) :
    Stays s (fun c errors => (Step.fail kind message (s.position c) errors : Step α)) := by
  intro errors
  refine ⟨.fail kind message s.lines.last errors, fun c hc => ?_⟩
  simp only [position_of_size_le hc]
  rfl

theorem terminal {name : String} : Stays s (terminal s name) := by
  intro errors
  have ⟨step, h⟩ := fail (s := s) (α := List Tree) .expectedToken
    ("expected `" ++ name ++ "`, found end of input") errors
  refine ⟨step, fun c hc => ?_⟩
  rw [Parse.terminal, group_of_size_le hc]
  exact h c hc

theorem zeroOrOne (h : Stays s attempt) : Stays s (zeroOrOne attempt) := by
  intro errors
  have ⟨step, h⟩ := h errors
  cases step
  case matched nodes n errors' =>
    exact ⟨.matched nodes n errors', fun c hc => by simp [Parse.zeroOrOne, h c hc]⟩
  case failed error errors' =>
    exact ⟨.matched [] 0 errors', fun c hc => by simp [Parse.zeroOrOne, h c hc]⟩
  case stuck => exact ⟨.stuck, fun c hc => by simp [Parse.zeroOrOne, h c hc]⟩

theorem zeroOrMore (h : Stays s attempt) (tries : Nat) :
    Stays s (zeroOrMore attempt (tries + 1)) := by
  intro errors
  have ⟨step, h⟩ := h errors
  cases step
  case matched nodes n errors' =>
    exact ⟨.matched nodes n errors', fun c hc => by simp [Parse.zeroOrMore, h c hc]⟩
  case failed error errors' =>
    exact ⟨.matched [] 0 errors', fun c hc => by simp [Parse.zeroOrMore, h c hc]⟩
  case stuck => exact ⟨.stuck, fun c hc => by simp [Parse.zeroOrMore, h c hc]⟩

theorem oneOrMore (h : Stays s attempt) : Stays s (oneOrMore s attempt) := by
  intro errors
  have ⟨step, h⟩ := h errors
  refine ⟨step, fun c hc => ?_⟩
  cases step <;> simp [Parse.oneOrMore, h c hc]

theorem next_eq {value : α} {attempt : Attempt α} (h : Stays s attempt) (hc : s.size ≤ c)
    (hm : attempt c errors = .matched value next errors') : next = c := by
  have ⟨step, h⟩ := h errors
  rw [h c hc] at hm
  cases step <;> cases hm
  rfl

theorem ends {attempt : Attempt α} (h : Stays s attempt) (he : Ends attempt s.size)
    (hc : s.size ≤ c) : Ends attempt c := by
  intro errors
  have hne := he errors
  have ⟨step, h⟩ := h errors
  rw [h _ le_rfl] at hne
  rw [h c hc]
  cases step <;> simp_all

end Stays

variable {call : Nat → Attempt Tree}

mutual

theorem element_stays (h : ∀ index, Stays s (call index)) :
    (e : Element) → Stays s (element s call e)
  | .terminal _ => by
    rw [element]
    exact .terminal
  | .rule _ index => (h index).map
  | .choice alternatives => firstOf_stays h _ alternatives
  | .zeroOrOne inner => by
    rw [element]
    exact .zeroOrOne (element_stays h inner)
  | .zeroOrMore inner => by
    intro errors
    have ⟨step, h⟩ := Stays.zeroOrMore (element_stays h inner) 0 errors
    refine ⟨step, fun c hc => ?_⟩
    have ht : triesFrom s c = 0 + 1 := by
      rw [triesFrom]
      omega
    simp only [element, ht, h c hc]
  | .oneOrMore inner => by
    rw [element]
    exact .oneOrMore (element_stays h inner)

theorem sequence_stays (h : ∀ index, Stays s (call index)) :
    (es : List Element) → Stays s (sequence s call es)
  | [] => fun errors => ⟨.matched [] 0 errors, fun _ _ => rfl⟩
  | e :: es => by
    intro errors
    have ⟨step, he⟩ := element_stays h e errors
    cases step
    case matched nodes n errors' =>
      have ⟨step, hes⟩ := sequence_stays h es errors'
      refine ⟨step.map (nodes ++ ·), fun c hc => ?_⟩
      simp [sequence, he c hc, hes c hc]
    case failed error errors' =>
      exact ⟨.failed error errors', fun c hc => by simp [sequence, he c hc]⟩
    case stuck => exact ⟨.stuck, fun c hc => by simp [sequence, he c hc]⟩

theorem firstOf_stays (h : ∀ index, Stays s (call index)) (message : Unit → String) :
    (alternatives : List (List Element)) → Stays s (firstOf s call message alternatives)
  | [] => .fail _ _
  | es :: rest => by
    intro errors
    have ⟨step, hes⟩ := sequence_stays h es errors
    cases step
    case matched nodes n errors' =>
      refine ⟨.matched nodes n errors', fun c hc => ?_⟩
      simp [firstOf, hes c hc]
    case failed error errors' =>
      have ⟨step, hr⟩ := firstOf_stays h message rest errors'
      exact ⟨step, fun c hc => by simp [firstOf, hes c hc, hr c hc]⟩
    case stuck => exact ⟨.stuck, fun c hc => by simp [firstOf, hes c hc]⟩

end

variable [RegexEngine] {g : Grammar}

theorem rule_stays (depth : Nat) : ∀ index, Stays s (rule g s depth index) := by
  induction depth
  case zero => exact fun _ _ => ⟨.stuck, fun _ _ => rfl⟩
  case succ depth hi =>
    intro index errors
    cases hr : g.rule? index
    case none => exact ⟨.stuck, fun c _ => by simp [rule, hr]⟩
    case some r =>
      obtain ⟨step, h⟩ := firstOf_stays hi (fun _ => ruleMessage r) r.expressions errors
      refine ⟨step.map fun nodes => Tree.node r.name nodes (.point s.lines.last.index), ?_⟩
      intro c hc
      rw [rule_eq hr, h c hc, Step.standing_map]
      unfold ruleNode
      rw [position_of_size_le hc]

theorem element_ends_of_depthLimit_le (hs : s.Lawful) (hg : g.Resolved) (hl : ¬g.LeftRecursive)
    (he : g.unresolved? e = none) (hd : depthLimit g s ≤ depth) (c : Nat) :
    Ends (element s (rule g s depth) e) c := by
  have within {c : Nat} (hc : c ≤ s.size) : Ends (element s (rule g s depth) e) c := by
    refine element_ends hs (rule_follows depth) e c hc he ⟨fun _ hi => ?_, fun _ hc' hi => ?_⟩
    · exact rule_ends_of_depthLimit_le hs hg hl hi hc hd
    · exact rule_ends_of_depthLimit_le hs hg hl hi hc' hd
  by_cases hc : c ≤ s.size
  case pos => exact within hc
  case neg => exact (element_stays (rule_stays depth) e).ends (within le_rfl) (by omega)

end Past

section Tries

structure Try where
  cursor : Nat
  nodes : List Tree
  next : Nat
  pushed : List SyntaxError

-- What the attempt does at the cursor is this try, whatever is on the stack.
def Try.Of (attempt : Attempt (List Tree)) (t : Try) : Prop :=
  ∀ errors, attempt t.cursor errors = .matched t.nodes t.next (errors.pushAll t.pushed)

def Successive : (first : Nat) → List Try → (last : Nat) → Prop
  | first, [], last => first = last
  | first, t :: ts, last => t.cursor = first ∧ Successive t.next ts last

-- The tries of a repetition. At the cursor where they end, another one fails or takes no token; in
-- the second case it is the last of them.
structure Exhausts (attempt : Attempt (List Tree)) (first : Nat) (ts : List Try) (last : Nat)
    (pushed : List SyntaxError) : Prop where
  of : ∀ t ∈ ts, t.Of attempt
  successive : Successive first ts last
  cursor_lt_next : ∀ t ∈ ts.dropLast, t.cursor < t.next
  ended :
    (∃ error, ∀ errors, attempt last errors = .failed error (errors.pushAll pushed)) ∨
    pushed = [] ∧ ∃ t ∈ ts.getLast?, t.cursor = last ∧ t.next = last

variable {attempt : Attempt (List Tree)} {t : Try} {ts : List Try} {first last : Nat}
variable {ds : List SyntaxError}

namespace Exhausts

theorem failed {error : SyntaxError}
    (h : ∀ errors, attempt c errors = .failed error (errors.pushAll ds)) :
    Exhausts attempt c [] c ds :=
  ⟨nofun, rfl, nofun, .inl ⟨error, h⟩⟩

theorem still (h : t.Of attempt) (ht : t.next = t.cursor) :
    Exhausts attempt t.cursor [t] t.cursor [] :=
  ⟨by simpa using h, ⟨rfl, ht⟩, nofun, .inr ⟨rfl, t, rfl, rfl, ht⟩⟩

theorem cons (h : t.Of attempt) (ht : t.cursor < t.next)
    (hts : Exhausts attempt t.next ts last ds) : Exhausts attempt t.cursor (t :: ts) last ds := by
  refine ⟨List.forall_mem_cons.mpr ⟨h, hts.of⟩, ⟨rfl, hts.successive⟩, ?advances, ?ended⟩
  case advances =>
    cases ts
    case nil  => simp
    case cons => exact List.forall_mem_cons.mpr ⟨ht, hts.cursor_lt_next⟩
  case ended =>
    refine hts.ended.imp_right fun ⟨hd, t', ht', he⟩ => ⟨hd, t', ?_, he⟩
    rw [Option.mem_def] at ht' ⊢
    rw [List.getLast?_cons, ht', Option.getD_some]

end Exhausts

variable [RegexEngine] {g : Grammar}

theorem Follows.cases (h : Follows g s attempt (.element e) c) :
    (∀ errors, attempt c errors = .stuck) ∨
    (∃ error ds, ∀ errors, attempt c errors = .failed error (errors.pushAll ds)) ∨
    ∃ t : Try, t.cursor = c ∧ t.Of attempt := by
  cases h
  case stuck h => exact .inl h
  case run m ds _ h =>
    rcases m with _ | ⟨nodes, next⟩
    case none => exact .inr (.inl ⟨_, ds, h⟩)
    case some => exact .inr (.inr ⟨⟨c, nodes, next, ds⟩, rfl, h⟩)

variable (hf : ∀ c, Follows g s attempt (.element e) c)
include hf

theorem cursor_le_next (hs : s.Lawful) (h : t.Of attempt) : t.cursor ≤ t.next := by
  have ⟨_, hr, _⟩ := (hf t.cursor).runs_of_matched (h .empty)
  exact hr.le hs

theorem exists_tries (hs : s.Lawful) {tries : Nat}
    (h : zeroOrMore attempt tries c errors = .matched nodes last errors') :
    ∃ ts ds, Exhausts attempt c ts last ds ∧ nodes = ts.flatMap Try.nodes ∧
      errors' = errors.pushAll (ts.flatMap Try.pushed ++ ds) := by
  induction tries generalizing c nodes errors
  case zero => contradiction
  case succ tries hi =>
    rcases (hf c).cases with ha | ⟨error, ds, ha⟩ | ⟨t, rfl, ha⟩
    case inl => simp [zeroOrMore, ha] at h
    case inr.inl =>
      simp only [zeroOrMore, ha, Step.matched.injEq] at h
      obtain ⟨rfl, rfl, rfl⟩ := h
      exact ⟨[], ds, .failed ha, rfl, rfl⟩
    case inr.inr =>
      simp only [zeroOrMore, ha errors] at h
      split at h
      case isTrue hlt =>
        obtain ⟨_, hz, rfl⟩ := Step.exists_of_map_eq_matched h
        obtain ⟨ts, ds, hts, rfl, rfl⟩ := hi hz
        exact ⟨t :: ts, ds, .cons ha hlt hts, by simp, by simp⟩
      case isFalse hlt =>
        have ht : t.next = t.cursor := by
          have := cursor_le_next hf hs ha
          omega
        simp only [Step.matched.injEq, ht] at h
        obtain ⟨rfl, rfl, rfl⟩ := h
        exact ⟨[t], [], .still ha ht, by simp, by simp⟩

variable (hp : Stays s attempt)
include hp

theorem next_le_size (hs : s.Lawful) (h : attempt c errors = .matched nodes next errors')
    (hlt : c < next) : next ≤ s.size := by
  by_cases hc : c ≤ s.size
  case pos =>
    have ⟨_, hr, _⟩ := (hf c).runs_of_matched h
    exact hr.next_le hs hc
  case neg =>
    have := hp.next_eq (by omega) h
    omega

theorem zeroOrMore_congr (hs : s.Lawful) {n m : Nat} (hn : triesFrom s c ≤ n)
    (hm : triesFrom s c ≤ m) : zeroOrMore attempt n c errors = zeroOrMore attempt m c errors := by
  induction n generalizing m c errors
  case zero => simp [triesFrom] at hn
  case succ n hi =>
    have ⟨m, he, hm⟩ := exists_of_triesFrom_le hm
    subst he
    simp only [zeroOrMore]
    cases ha : attempt c errors <;> simp only
    case matched nodes next errors' =>
      by_cases hlt : c < next
      case neg => simp [hlt]
      case pos =>
        have := next_le_size hf hp hs ha hlt
        rw [if_pos hlt, if_pos hlt, hi (m := m) (by simp only [triesFrom] at hn ⊢; omega)]
        rw [triesFrom]
        omega

theorem oneOrMore_eq (hs : s.Lawful) (h : attempt c errors = .matched nodes next errors') :
    oneOrMore s attempt c errors = zeroOrMore attempt (triesFrom s c) c errors := by
  rw [triesFrom]
  simp only [oneOrMore, zeroOrMore, h]
  by_cases hlt : c < next
  case neg => simp [hlt]
  case pos =>
    have := next_le_size hf hp hs h hlt
    rw [if_pos hlt, if_pos hlt, zeroOrMore_congr hf hp hs (m := s.size - c) le_rfl]
    rw [triesFrom]
    omega

end Tries

-- One or more of an element fails as the element does, and where the element matches it is the same
-- as zero or more. That matches everywhere, with the nodes of its tries, and ends where the element
-- fails or takes no token.
theorem repetitions_exhaust [RegexEngine] {g : Grammar} {terminals : List Terminal}
    {rules : List Rule} (hg : Grammar.ofTables terminals rules = .ok g) (hl : ¬g.LeftRecursive)
    (input : String) :
    let s := g.stream input
    ∀ depth (x : Element) c errors,
      let attempt (e : Element) := (Phrase.element e).attempt g s depth
      (∀ error errors', attempt x c errors = .failed error errors' →
        attempt x.oneOrMore c errors = .failed error errors') ∧
      (∀ nodes next errors', attempt x c errors = .matched nodes next errors' →
        attempt x.oneOrMore c errors = attempt x.zeroOrMore c errors) ∧
      (∀ nodes last errors', attempt x.zeroOrMore c errors = .matched nodes last errors' →
        ∃ ts ds, Exhausts (attempt x) c ts last ds ∧ nodes = ts.flatMap Try.nodes ∧
          errors' = errors.pushAll (ts.flatMap Try.pushed ++ ds)) ∧
      (g.unresolved? x = none → depthLimit g s ≤ depth →
        attempt x c errors ≠ .stuck ∧
        ∃ nodes last errors', attempt x.zeroOrMore c errors = .matched nodes last errors') := by
  intro s depth x c errors attempt
  have hs : s.Lawful := g.lawful_stream
  have hg := Grammar.resolved_of_ofTables hg
  have hf c : Follows g s (attempt x) (.element x) c := element_follows (rule_follows depth) x c
  have hp : Stays s (attempt x) := element_stays (rule_stays depth) x
  have hone : attempt x.oneOrMore = oneOrMore s (attempt x) := by
    simp only [attempt, Phrase.attempt, element]
  have hmany : attempt x.zeroOrMore c errors =
      zeroOrMore (attempt x) (triesFrom s c) c errors := by
    simp only [attempt, Phrase.attempt, element]
  refine ⟨fun error errors' h => ?fails, fun nodes next errors' h => ?same,
    fun nodes last errors' h => ?tries, fun hx hd => ⟨?ends, ?many⟩⟩
  case fails => simp only [hone, oneOrMore, h]
  case same  => rw [hone, hmany, oneOrMore_eq hf hp hs h]
  case tries => exact exists_tries hf hs (hmany ▸ h)
  case ends  => exact element_ends_of_depthLimit_le hs hg hl hx hd c errors
  case many =>
    have hne := element_ends_of_depthLimit_le hs hg hl (e := x.zeroOrMore) hx hd c errors
    cases element_follows (g := g) (s := s) (rule_follows depth) x.zeroOrMore c
    case stuck h => exact absurd (h errors) hne
    case run m ds hr h =>
      rcases m with _ | ⟨nodes, last⟩
      case none =>
        cases hr
        case many hr => cases hr
      case some => exact ⟨nodes, last, _, h errors⟩

def Step.value? : Step α → Option α
  | matched value _ _ => some value
  | _ => none

open Grammar in
theorem repetitions_exhaust_lists :
    let s := lists.stream ",,3"
    let attempt (e : Element) := (Phrase.element e).attempt lists s (depthLimit lists s)
    let rest : Element := .rule "rest" 2
    lists.unresolved? rest = none ∧ attempt rest 0 .empty ≠ .stuck ∧
    ∃ nodes errors ts ds, nodes.length = 3 ∧
      attempt rest.zeroOrMore 0 .empty = .matched nodes 2 errors ∧
      attempt rest.oneOrMore 0 .empty = .matched nodes 2 errors ∧
      Exhausts (attempt rest) 0 ts 2 ds ∧ nodes = ts.flatMap Try.nodes := by
  intro s attempt rest
  have ⟨_, hsame, htries, hends⟩ :=
    repetitions_exhaust lists_ofTables not_leftRecursive_lists ",,3" (depthLimit lists s) rest 0
      .empty
  have hr : lists.unresolved? rest = none := by decide +kernel
  have hn : (attempt rest 0 .empty).next? = some 1 := by decide +kernel
  have hl : (attempt rest.zeroOrMore 0 .empty).next? = some 2 := by decide +kernel
  have hc : (attempt rest.zeroOrMore 0 .empty).value?.map List.length = some 3 := by decide +kernel
  have ⟨_, _, hx⟩ := Step.next?_eq_some_iff.mp hn
  have ⟨nodes, errors, hm⟩ := Step.next?_eq_some_iff.mp hl
  rw [hm] at hc
  have ⟨ts, ds, hts, hts', _⟩ := htries nodes 2 errors hm
  refine ⟨hr, (hends hr le_rfl).1, nodes, errors, ts, ds, Option.some.inj hc, hm, ?_, hts, hts'⟩
  exact (hsame _ _ _ hx).trans hm

end PegParser.Parse
