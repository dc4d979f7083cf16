import PegParser.Proofs.Parse.Run

namespace PegParser.Parse

section

variable [RegexEngine] (g : Grammar) (s : TokenStream) (p q : Phrase) (c : Nat)

-- A run of one phrase, and of another one from where it ends.
inductive Then : Option (List Tree × Nat) → List SyntaxError → Prop
  | failed {ds} : Runs g s p c none ds → Then none ds
  | tailFailed {nodes next ds ds'} :
    Runs g s p c (some (nodes, next)) ds → Runs g s q next none ds' → Then none (ds ++ ds')
  | both {nodes next ds nodes' last ds'} :
    Runs g s p c (some (nodes, next)) ds → Runs g s q next (some (nodes', last)) ds' →
    Then (some (nodes ++ nodes', last)) (ds ++ ds')

inductive OrElse : Option (List Tree × Nat) → List SyntaxError → Prop
  | first {m ds} : Runs g s p c (some m) ds → OrElse (some m) ds
  | later {ds m ds'} : Runs g s p c none ds → Runs g s q c m ds' → OrElse m (ds ++ ds')

end

variable [RegexEngine] {g : Grammar} {s : TokenStream} {c : Nat} {m : Option (List Tree × Nat)}
variable {ds : List SyntaxError} {e : Element} {es es' : List Element}
variable {alternatives alternatives' : List (List Element)}

theorem sequence_singleton_iff :
    Runs g s (.sequence [e]) c m ds ↔ Runs g s (.element e) c m ds := by
  constructor
  case mp =>
    intro h
    cases h with
    | headFailed h    => exact h
    | tailFailed h h' => cases h'
    | cons h h'       => cases h'; simpa using h
  case mpr =>
    intro h
    match m with
    | none   => exact .headFailed h
    | some _ => simpa using Runs.cons h .nil

theorem sequence_append_iff :
    Runs g s (.sequence (es ++ es')) c m ds ↔ Then g s (.sequence es) (.sequence es') c m ds := by
  induction es generalizing c m ds
  case nil =>
    rw [List.nil_append]
    constructor
    case mp =>
      intro h
      match m with
      | none   => exact .tailFailed .nil h
      | some _ => exact .both .nil h
    case mpr =>
      intro h
      cases h with
      | failed h        => cases h
      | tailFailed h h' => cases h; exact h'
      | both h h'       => cases h; exact h'
  case cons e es hi =>
    rw [List.cons_append]
    constructor
    case mp =>
      intro h
      cases h with
      | headFailed h => exact .failed (.headFailed h)
      | tailFailed h h' =>
        cases hi.mp h' with
        | failed h'       => exact .failed (.tailFailed h h')
        | tailFailed h₁ h₂ => exact List.append_assoc .. ▸ .tailFailed (.cons h h₁) h₂
      | cons h h' =>
        cases hi.mp h' with
        | both h₁ h₂ =>
          rw [← List.append_assoc, ← List.append_assoc]
          exact .both (.cons h h₁) h₂
    case mpr =>
      intro h
      cases h with
      | failed h =>
        cases h with
        | headFailed h    => exact .headFailed h
        | tailFailed h h' => exact .tailFailed h (hi.mpr (.failed h'))
      | tailFailed h h' =>
        cases h with
        | cons h h₁ =>
          rw [List.append_assoc]
          exact .tailFailed h (hi.mpr (.tailFailed h₁ h'))
      | both h h' =>
        cases h with
        | cons h h₁ =>
          rw [List.append_assoc, List.append_assoc]
          exact .cons h (hi.mpr (.both h₁ h'))

theorem firstOf_singleton_iff :
    Runs g s (.firstOf [es]) c m ds ↔ Runs g s (.sequence es) c m ds := by
  constructor
  case mp =>
    intro h
    cases h with
    | first h    => exact h
    | later h h' => cases h'; simpa using h
  case mpr =>
    intro h
    match m with
    | none   => simpa using Runs.later h .exhausted
    | some _ => exact .first h

theorem firstOf_append_iff :
    Runs g s (.firstOf (alternatives ++ alternatives')) c m ds ↔
      OrElse g s (.firstOf alternatives) (.firstOf alternatives') c m ds := by
  induction alternatives generalizing m ds
  case nil =>
    rw [List.nil_append]
    constructor
    case mp => exact fun h => .later .exhausted h
    case mpr =>
      intro h
      cases h with
      | first h    => cases h
      | later h h' => cases h; exact h'
  case cons es rest hi =>
    rw [List.cons_append]
    constructor
    case mp =>
      intro h
      cases h with
      | first h => exact .first (.first h)
      | later h h' =>
        cases hi.mp h' with
        | first h'    => exact .first (.later h h')
        | later h₁ h₂ => exact List.append_assoc .. ▸ .later (.later h h₁) h₂
    case mpr =>
      intro h
      cases h with
      | first h =>
        cases h with
        | first h    => exact .first h
        | later h h' => exact .later h (hi.mpr (.first h'))
      | later h h' =>
        cases h with
        | later h h₁ =>
          rw [List.append_assoc]
          exact .later h (hi.mpr (.later h₁ h'))

end PegParser.Parse
