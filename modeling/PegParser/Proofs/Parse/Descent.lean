import PegParser.Proofs.Parse.Run
import PegParser.Proofs.SyntaxError

namespace PegParser.Parse

def Step.ofRun (errors : ErrorStack) (ds : List SyntaxError) : Option (α × Nat) → Step α
  | some (value, next) => .matched value next (errors.pushAll ds)
  | none => .failed (ds.getLast?.getD default) (errors.pushAll ds)

-- At the cursor, an attempt does what a run of the phrase does, or it has no end.
variable [RegexEngine]

inductive Follows (g : Grammar) (s : TokenStream) (attempt : Attempt (List Tree)) (p : Phrase)
    (c : Nat) : Prop
  | stuck (h : ∀ errors, attempt c errors = .stuck)
  | run {m ds} (h : Runs g s p c m ds) (he : ∀ errors, attempt c errors = .ofRun errors ds m)

namespace Follows

variable {g : Grammar} {s : TokenStream} {attempt : Attempt (List Tree)} {e : Element} {c : Nat}

theorem runs_of_matched {p : Phrase} {errors errors' : ErrorStack} {nodes : List Tree} {next : Nat}
    (h : Follows g s attempt p c) (hm : attempt c errors = .matched nodes next errors') :
    ∃ ds, Runs g s p c (some (nodes, next)) ds ∧ errors' = errors.pushAll ds := by
  cases h
  case stuck h => simp [h] at hm
  case run m ds hr he =>
    cases m <;> simp only [he, Step.ofRun] at hm <;> cases hm
    exact ⟨ds, hr, rfl⟩

theorem terminal {name : String} : Follows g s (terminal s name) (.element (.terminal name)) c := by
  cases hf : (s.group c).find? (·.terminal == name)
  case some token =>
    refine .run (.taken hf) fun errors => ?_
    cases hg : s.group c
    case nil => simp [hg] at hf
    case cons => rw [hg] at hf; simp [Parse.terminal, hg, hf, Step.ofRun]
  case none =>
    refine .run (.missing hf) fun errors => ?_
    cases hg : s.group c
    case nil => simp [Parse.terminal, hg, Step.ofRun, Step.fail, terminalError]
    case cons => rw [hg] at hf; simp [Parse.terminal, hg, hf, Step.ofRun, Step.fail, terminalError]

theorem zeroOrOne (h : Follows g s attempt (.element e) c) :
    Follows g s (zeroOrOne attempt) (.element (.zeroOrOne e)) c := by
  cases h
  case stuck h => exact .stuck fun _ => by simp [Parse.zeroOrOne, h]
  case run m ds h he =>
    cases m
    case none => exact .run (.absent h) fun _ => by simp [Parse.zeroOrOne, he, Step.ofRun]
    case some => exact .run (.present h) fun _ => by simp [Parse.zeroOrOne, he, Step.ofRun]

theorem zeroOrMore (h : ∀ c, Follows g s attempt (.element e) c) (tries : Nat) :
    Follows g s (zeroOrMore attempt tries) (.repetition e) c := by
  induction tries generalizing c
  case zero => exact .stuck fun _ => rfl
  case succ tries hi =>
    cases h c
    case stuck h => exact .stuck fun _ => by simp [Parse.zeroOrMore, h]
    case run m ds h he =>
      rcases m with _ | ⟨nodes, next⟩
      case none => exact .run (.ended h) fun _ => by simp [Parse.zeroOrMore, he, Step.ofRun]
      case some =>
        by_cases hlt : c < next
        case neg =>
          exact .run (.still h hlt) fun _ => by simp [Parse.zeroOrMore, he, Step.ofRun, hlt]
        case pos =>
          rcases hi (c := next) with h' | @⟨m', ds', h', he'⟩
          case stuck =>
            exact .stuck fun _ => by simp [Parse.zeroOrMore, he, Step.ofRun, hlt, h', Step.map]
          case run =>
            rcases m' with _ | ⟨nodes', last⟩
            case none => cases h'
            case some =>
              refine .run (.again h hlt h') fun _ => ?_
              simp [Parse.zeroOrMore, he, he', Step.ofRun, hlt, Step.map]

theorem oneOrMore (h : ∀ c, Follows g s attempt (.element e) c) :
    Follows g s (oneOrMore s attempt) (.element (.oneOrMore e)) c := by
  cases h c
  case stuck h => exact .stuck fun _ => by simp [Parse.oneOrMore, h]
  case run m ds hr he =>
    rcases m with _ | ⟨nodes, next⟩
    case none => exact .run (.noOne hr) fun _ => by simp [Parse.oneOrMore, he, Step.ofRun]
    case some =>
      by_cases hlt : c < next
      case neg =>
        exact .run (.oneStill hr hlt) fun _ => by simp [Parse.oneOrMore, he, Step.ofRun, hlt]
      case pos =>
        rcases zeroOrMore h (triesFrom s next) (c := next) with h' | @⟨m', ds', h', he'⟩
        case stuck =>
          exact .stuck fun _ => by simp [Parse.oneOrMore, he, Step.ofRun, hlt, h', Step.map]
        case run =>
          rcases m' with _ | ⟨nodes', last⟩
          case none => cases h'
          case some =>
            refine .run (.oneMore hr hlt h') fun _ => ?_
            simp [Parse.oneOrMore, he, he', Step.ofRun, hlt, Step.map]

variable {call : Nat → Attempt Tree}

theorem nil : Follows g s (sequence s call []) (.sequence []) c :=
  .run .nil fun _ => rfl

theorem cons {es : List Element} (h : ∀ c, Follows g s (element s call e) (.element e) c)
    (h' : ∀ c, Follows g s (sequence s call es) (.sequence es) c) :
    Follows g s (sequence s call (e :: es)) (.sequence (e :: es)) c := by
  cases h c
  case stuck h => exact .stuck fun _ => by simp [sequence, h]
  case run m ds hr he =>
    rcases m with _ | ⟨nodes, next⟩
    case none => exact .run (.headFailed hr) fun _ => by simp [sequence, he, Step.ofRun]
    case some =>
      rcases h' next with h' | @⟨m', ds', h', he'⟩
      case stuck => exact .stuck fun _ => by simp [sequence, he, Step.ofRun, h', Step.map]
      case run =>
        rcases m' with _ | ⟨nodes', last⟩
        case some =>
          refine .run (.cons hr h') fun _ => ?_
          simp [sequence, he, he', Step.ofRun, Step.map]
        case none =>
          have hd := h'.pushed_ne_nil nofun
          refine .run (.tailFailed hr h') fun _ => ?_
          simp [sequence, he, he', Step.ofRun, Step.map, List.getLast?_append_of_ne_nil _ hd]

end Follows

inductive FollowsFirst (g : Grammar) (s : TokenStream) (call : Nat → Attempt Tree)
    (message : Unit → String) (alternatives : List (List Element)) (c : Nat) : Prop
  | stuck (h : ∀ errors, firstOf s call message alternatives c errors = .stuck)
  | matched {m ds} (h : Runs g s (.firstOf alternatives) c (some m) ds)
    (he : ∀ errors, firstOf s call message alternatives c errors = .ofRun errors ds (some m))
  | exhausted {ds} (h : Runs g s (.firstOf alternatives) c none ds)
    (he : ∀ errors, firstOf s call message alternatives c errors =
      .ofRun errors (ds ++ [exhaustedError s (message ()) c]) none)

section Descent

variable {g : Grammar} {s : TokenStream} {call : Nat → Attempt Tree} {c : Nat}

namespace FollowsFirst

variable {message : Unit → String} {es : List Element} {rest : List (List Element)}

theorem nil : FollowsFirst g s call message [] c :=
  .exhausted .exhausted fun _ => rfl

theorem cons (h : Follows g s (sequence s call es) (.sequence es) c)
    (h' : FollowsFirst g s call message rest c) :
    FollowsFirst g s call message (es :: rest) c := by
  cases h
  case stuck h => exact .stuck fun _ => by simp [firstOf, h]
  case run m ds h he =>
    rcases m with _ | m
    case some => exact .matched (.first h) fun _ => by simp [firstOf, he, Step.ofRun]
    case none =>
      cases h'
      case stuck h' => exact .stuck fun _ => by simp [firstOf, he, Step.ofRun, h']
      case matched h' he' =>
        exact .matched (.later h h') fun _ => by simp [firstOf, he, he', Step.ofRun]
      case exhausted h' he' =>
        refine .exhausted (.later h h') fun _ => ?_
        simp [firstOf, he, he', Step.ofRun]

theorem choice {alternatives : List (List Element)}
    (h : FollowsFirst g s call (fun _ => choiceMessage alternatives) alternatives c) :
    Follows g s (element s call (.choice alternatives)) (.element (.choice alternatives)) c := by
  cases h
  case stuck h => exact .stuck h
  case matched h he => exact .run (.chosen h) he
  case exhausted h he => exact .run (.unchosen h) he

end FollowsFirst

-- Calls do what the runs of the rules say.
def CallsFollow (g : Grammar) (s : TokenStream) (call : Nat → Attempt Tree) : Prop :=
  ∀ index c, Follows g s (fun c errors => (call index c errors).map ([·])) (.rule index) c

mutual

theorem element_follows (hcall : CallsFollow g s call) :
    (e : Element) → (c : Nat) → Follows g s (element s call e) (.element e) c
  | .terminal name, c => by
    rw [element]
    exact .terminal
  | .rule _ index, c => by
    cases hcall index c
    case stuck h => exact .stuck fun _ => by simp [element, h]
    case run h he => exact .run (.call h) fun _ => by simp [element, he]
  | .choice alternatives, c => (firstOf_follows hcall _ alternatives c).choice
  | .zeroOrOne inner, c => by
    rw [element]
    exact .zeroOrOne (element_follows hcall inner c)
  | .zeroOrMore inner, c => by
    cases Follows.zeroOrMore (element_follows hcall inner) (triesFrom s c) (c := c)
    case stuck h => exact .stuck fun _ => by simp [element, h]
    case run h he => exact .run (.many h) fun _ => by simp [element, he]
  | .oneOrMore inner, c => by
    rw [element]
    exact .oneOrMore (element_follows hcall inner)

theorem sequence_follows (hcall : CallsFollow g s call) :
    (es : List Element) → (c : Nat) → Follows g s (sequence s call es) (.sequence es) c
  | [], _ => .nil
  | e :: es, _ => .cons (element_follows hcall e) (sequence_follows hcall es)

theorem firstOf_follows (hcall : CallsFollow g s call) (message : Unit → String) :
    (alternatives : List (List Element)) → (c : Nat) →
    FollowsFirst g s call message alternatives c
  | [], _ => .nil
  | es :: rest, c => .cons (sequence_follows hcall es c) (firstOf_follows hcall message rest c)

end

theorem rule_eq {r : Rule} {depth index : Nat} {errors : ErrorStack} (h : g.rule? index = some r) :
    rule g s (depth + 1) index c errors =
      (firstOf s (rule g s depth) (fun _ => ruleMessage r) r.expressions c errors).map
        (ruleNode s r · c) := by
  rw [rule]
  simp only [h]
  unfold ruleMessage ruleNode
  with_reducible rfl

theorem rule_follows (depth : Nat) : CallsFollow g s (rule g s depth) := by
  induction depth
  case zero => exact fun _ _ => .stuck fun _ => rfl
  case succ depth hi =>
    intro index c
    cases hr : g.rule? index
    case none => exact .stuck fun _ => by simp [rule, hr, Step.map]
    case some r =>
      cases firstOf_follows hi (fun _ => ruleMessage r) r.expressions c
      case stuck h => exact .stuck fun _ => by simp [rule_eq hr, h, Step.map]
      case matched m _ h he =>
        exact .run (.ruled hr h) fun _ => by simp [rule_eq hr, he, Step.ofRun, Step.map]
      case exhausted h he =>
        exact .run (.unruled hr h) fun _ => by simp [rule_eq hr, he, Step.ofRun, Step.map]

def Phrase.attempt (g : Grammar) (s : TokenStream) (depth : Nat) : Phrase → Attempt (List Tree)
  | element e => Parse.element s (Parse.rule g s depth) e
  | sequence es => Parse.sequence s (Parse.rule g s depth) es
  | firstOf alternatives =>
    Parse.firstOf s (Parse.rule g s depth) (fun _ => choiceMessage alternatives) alternatives
  | repetition e => fun c errors =>
    zeroOrMore (Parse.element s (Parse.rule g s depth) e) (triesFrom s c) c errors
  | rule index => fun c errors => (Parse.rule g s depth index c errors).map ([·])

theorem Phrase.runs_of_matched {p : Phrase} {depth next : Nat} {errors errors' : ErrorStack}
    {nodes : List Tree} (h : p.attempt g s depth c errors = .matched nodes next errors') :
    ∃ ds, Runs g s p c (some (nodes, next)) ds ∧ errors' = errors.pushAll ds := by
  have hf := rule_follows (g := g) (s := s) depth
  cases p
  case element e     => exact (element_follows hf e c).runs_of_matched h
  case sequence es   => exact (sequence_follows hf es c).runs_of_matched h
  case repetition e  => exact (Follows.zeroOrMore (element_follows hf e) _).runs_of_matched h
  case rule index    => exact (hf index c).runs_of_matched h
  case firstOf alternatives =>
    simp only [attempt] at h
    cases firstOf_follows hf (fun _ => choiceMessage alternatives) alternatives c
    case stuck he => simp [he] at h
    case exhausted he => simp [he, Step.ofRun] at h
    case matched m ds hr he =>
      simp only [he, Step.ofRun] at h
      cases h
      exact ⟨ds, hr, rfl⟩

end Descent
end PegParser.Parse
