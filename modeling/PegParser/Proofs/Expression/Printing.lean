import PegParser.Proofs.Expression.Reader

namespace PegParser

namespace Expression

@[simp]
def Part.text : Part → String
  | sequence es       => sequenceText es
  | item e            => e.text
  | primary e         => e.text
  | alternatives rows => alternativesText rows

def IsPrimary : Element → Prop
  | .terminal _ | .rule _ _ | .choice _ => True
  | .zeroOrOne _ | .zeroOrMore _ | .oneOrMore _ => False

-- The table has every name for what it stands for, each group has an alternative, and suffixes
-- follow names and groups.
inductive Meaningful (symbols : SymbolTable) : Element → Prop
  | terminal {name} :
    IsName name.toList → symbols.get? name = some .terminal → Meaningful symbols (.terminal name)
  | rule {name index} :
    IsName name.toList → symbols.get? name = some (.rule index) →
    Meaningful symbols (.rule name index)
  | choice {rows} :
    rows ≠ [] → (∀ es ∈ rows, ∀ e ∈ es, Meaningful symbols e) → Meaningful symbols (.choice rows)
  | zeroOrOne {e} : IsPrimary e → Meaningful symbols e → Meaningful symbols (.zeroOrOne e)
  | zeroOrMore {e} : IsPrimary e → Meaningful symbols e → Meaningful symbols (.zeroOrMore e)
  | oneOrMore {e} : IsPrimary e → Meaningful symbols e → Meaningful symbols (.oneOrMore e)

def Part.Meaningful (symbols : SymbolTable) : Part → Prop
  | sequence es       => ∀ e ∈ es, Expression.Meaningful symbols e
  | item e            => Expression.Meaningful symbols e
  | primary e         => IsPrimary e ∧ Expression.Meaningful symbols e
  | alternatives rows => rows ≠ [] ∧ ∀ es ∈ rows, ∀ e ∈ es, Expression.Meaningful symbols e

variable {symbols : SymbolTable} {part : Part} {e : Element} {es : List Element}
variable {rows : List (List Element)} {w : List Char} {c : Char}

theorem tailText_eq (h : es ≠ []) : tailText es = " " ++ sequenceText es := by
  cases es
  case nil => contradiction
  case cons => rw [tailText, sequenceText, String.append_assoc]

theorem barredText_eq (h : rows ≠ []) : barredText rows = " | " ++ alternativesText rows := by
  cases rows
  case nil => contradiction
  case cons => rw [barredText, alternativesText, String.append_assoc]

namespace Writes

theorem blank_alternatives (h : Writes symbols (.alternatives rows) w) (hc : Text.isBlank c) :
    Writes symbols (.alternatives rows) (c :: w) := by
  cases h
  case last h    => exact .last (.blank hc h)
  case more h h' => exact .more (.blank hc h) h'

theorem text (h : Writes symbols part w) : Writes symbols part part.text.toList := by
  have hb : Text.isBlank ' ' := by decide
  induction h
  case nil => exact .nil
  case blank hi => exact hi
  case cons e es _ _ _ _ _ hi hi' =>
    rw [Part.text, sequenceText, String.toList_append]
    by_cases hes : es = []
    case pos => exact hes ▸ .cons hi .nil Joined.nil_right
    case neg =>
      rw [tailText_eq hes, String.toList_append]
      exact .cons hi (.blank hb hi') (Joined.cons_right (not_isNamePart_of_isBlank hb))
  case plain hi => exact .plain hi
  case suffixed c _ _ hc hi =>
    have hw := Writes.suffixed hi hc
    rcases suffix?_eq_some hc with rfl | rfl | rfl <;> cases hc <;>
      simpa [Element.text] using hw
  case terminal hn hs => simpa [Element.text] using Writes.terminal hn hs
  case rule hn hs => simpa [Element.text] using Writes.rule hn hs
  case group hi => simpa [Element.text] using Writes.group hi
  case last hi => simpa [alternativesText, barredText] using Writes.last hi
  case more es rows _ _ _ hr hi hi' =>
    rw [Part.text, alternativesText, barredText_eq hr.alternatives_ne_nil]
    simpa using Writes.more (hi.concat_blank hb) (hi'.blank_alternatives hb)

end Writes

theorem Writes.meaningful (h : Writes symbols part w) : part.Meaningful symbols := by
  induction h
  case nil             => simp [Part.Meaningful]
  case blank hi        => exact hi
  case cons hi hi'     => exact List.forall_mem_cons.mpr ⟨hi, hi'⟩
  case plain hi        => exact hi.2
  case terminal hn hs  => exact ⟨trivial, .terminal (by simpa) hs⟩
  case rule hn hs      => exact ⟨trivial, .rule (by simpa) hs⟩
  case group hi        => exact ⟨trivial, .choice hi.1 hi.2⟩
  case last hi         => simpa [Part.Meaningful] using hi
  case more hi hi'     => exact ⟨nofun, List.forall_mem_cons.mpr ⟨hi, hi'.2⟩⟩
  case suffixed hc hi =>
    rcases suffix?_eq_some hc with rfl | rfl | rfl <;> cases hc
    case inl     => exact .zeroOrOne hi.1 hi.2
    case inr.inl => exact .zeroOrMore hi.1 hi.2
    case inr.inr => exact .oneOrMore hi.1 hi.2

theorem exists_writes_sequence (h : ∀ e ∈ es, ∃ w, Writes symbols (.item e) w) :
    ∃ w, Writes symbols (.sequence es) w := by
  induction es
  case nil => exact ⟨[], .nil⟩
  case cons e es hi =>
    have ⟨he, hes⟩ := List.forall_mem_cons.mp h
    have ⟨w, hw⟩ := he
    have ⟨w', hw'⟩ := hi hes
    have hb : Text.isBlank ' ' := by decide
    exact ⟨_, .cons hw (.blank hb hw') (Joined.cons_right (not_isNamePart_of_isBlank hb))⟩

theorem exists_writes_alternatives (hne : rows ≠ [])
    (h : ∀ es ∈ rows, ∃ w, Writes symbols (.sequence es) w) :
    ∃ w, Writes symbols (.alternatives rows) w := by
  induction rows
  case nil => contradiction
  case cons es rows hi =>
    have ⟨hes, hrows⟩ := List.forall_mem_cons.mp h
    have ⟨w, hw⟩ := hes
    cases rows
    case nil => exact ⟨w, .last hw⟩
    case cons =>
      have ⟨w', hw'⟩ := hi nofun hrows
      exact ⟨_, .more hw hw'⟩

theorem exists_writes_suffixed {wrap : Element → Element} (hc : suffix? c = some wrap)
    (hp : ¬IsPrimary (wrap e)) (he : ∃ w, Writes symbols (.primary e) w) :
    (IsPrimary (wrap e) → ∃ w, Writes symbols (.primary (wrap e)) w) ∧
      ∃ w, Writes symbols (.item (wrap e)) w :=
  have ⟨_, hw⟩ := he
  ⟨fun h => absurd h hp, _, .suffixed hw hc⟩

theorem Meaningful.exists_writes (h : Meaningful symbols e) :
    (IsPrimary e → ∃ w, Writes symbols (.primary e) w) ∧ ∃ w, Writes symbols (.item e) w := by
  induction h
  case terminal name hn hs =>
    have hw : Writes symbols (.primary (.terminal name)) name.toList := by
      simpa using Writes.terminal hn (by simpa using hs)
    exact ⟨fun _ => ⟨_, hw⟩, _, .plain hw⟩
  case rule name index hn hs =>
    have hw : Writes symbols (.primary (.rule name index)) name.toList := by
      simpa using Writes.rule hn (by simpa using hs)
    exact ⟨fun _ => ⟨_, hw⟩, _, .plain hw⟩
  case choice hne _ hi =>
    have ⟨w, hw⟩ := exists_writes_alternatives hne fun es hes =>
      exists_writes_sequence fun e he => (hi es hes e he).2
    exact ⟨fun _ => ⟨_, .group hw⟩, _, .plain (.group hw)⟩
  case zeroOrOne hp _ hi  => exact exists_writes_suffixed (c := '?') rfl id (hi.1 hp)
  case zeroOrMore hp _ hi => exact exists_writes_suffixed (c := '*') rfl id (hi.1 hp)
  case oneOrMore hp _ hi  => exact exists_writes_suffixed (c := '+') rfl id (hi.1 hp)

theorem exists_writes_iff :
    (∃ w, Writes symbols (.sequence es) w) ↔ ∀ e ∈ es, Meaningful symbols e := by
  constructor
  case mp  => exact fun ⟨_, h⟩ => h.meaningful
  case mpr => exact fun h => exists_writes_sequence fun e he => (h e he).exists_writes.2

-- Reading gives just the expressions that the table can give a meaning to, each of them from its
-- text. So no two of them have the same text, and printing what has been read from a printed text
-- gives that text.
theorem printing_inverts_reading (symbols : SymbolTable) (rule : String) :
    let meaningful (es : Expression) := ∀ e ∈ es, Meaningful symbols e
    let reprint (text : String) := (ofText symbols rule text).map Expression.text
    (∀ es, (∃ text, ofText symbols rule text = .ok es) ↔ meaningful es) ∧
    (∀ es, meaningful es → ofText symbols rule es.text = .ok es) ∧
    (∀ es es', meaningful es → meaningful es' → es.text = es'.text → es = es') ∧
    ∀ text printed, reprint text = .ok printed → reprint printed = .ok printed := by
  intro meaningful reprint
  have himage es : (∃ text, ofText symbols rule text = .ok es) ↔ meaningful es := by
    simp only [meaningful, ofText_eq_ok_iff, ← exists_writes_iff]
    exact ⟨fun ⟨_, h⟩ => ⟨_, h⟩, fun ⟨w, h⟩ => ⟨.ofList w, by simpa using h⟩⟩
  have hread es (hes : meaningful es) : ofText symbols rule es.text = .ok es :=
    have ⟨_, h⟩ := exists_writes_iff.mpr hes
    ofText_eq_ok_iff.mpr h.text
  refine ⟨himage, hread, fun es es' hes hes' he => ?_, fun text printed h => ?_⟩
  · have h := hread es hes
    rw [he, hread es' hes'] at h
    exact (Except.ok.inj h).symm
  · have ⟨es, hes, he⟩ := Except.map_eq_ok_iff.mp h
    simp [reprint, ← he, hread es ((himage es).mp ⟨text, hes⟩), Except.map]

theorem printing_inverts_reading_lists :
    let es : Expression := [.rule "item" 1,
      .zeroOrMore (.choice [[.terminal "comma", .rule "item" 1], []]), .oneOrMore (.rule "rest" 2)]
    es.text = "item (comma item | )* rest+" ∧
      ofText someSymbols "list" " item(comma item |)*rest+" = .ok es ∧
      (∀ e ∈ es, Meaningful someSymbols e) ∧
      ofText someSymbols "list" "item (comma item | )* rest+" = .ok es := by
  intro es
  have ht : es.text = "item (comma item | )* rest+" := by decide +kernel
  have hr : ofText someSymbols "list" " item(comma item |)*rest+" = .ok es := rfl
  have ⟨himage, hread, _, _⟩ := printing_inverts_reading someSymbols "list"
  have hm := (himage es).mp ⟨_, hr⟩
  exact ⟨ht, hr, hm, ht ▸ hread es hm⟩

end Expression
end PegParser
