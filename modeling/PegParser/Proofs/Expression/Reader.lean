import PegParser.Proofs.Except
import PegParser.Proofs.Expression.Notation

namespace PegParser.Expression

namespace Pending

def IsName : Pending → Prop
  | name _ _ => True
  | _ => False

end Pending

namespace Progress

inductive TakesUp (p : Progress) : Char → Progress → Prop
  | opened :
    TakesUp p '(' { p with
      groups := ⟨p.offset, p.sequence, []⟩ :: p.groups
      elements := []
      pending := .nothing }
  | closed {group groups} :
    p.groups = group :: groups →
    TakesUp p ')' { p with
      groups
      elements := group.outer
      pending := .element (.choice (p.sequence.reverse :: group.alternatives).reverse) }
  | barred {group groups} :
    p.groups = group :: groups →
    TakesUp p '|' { p with
      groups := { group with alternatives := p.sequence.reverse :: group.alternatives } :: groups
      elements := []
      pending := .nothing }
  | blank {c} :
    Text.isBlank c → TakesUp p c { p with elements := p.sequence, pending := .nothing }
  | named {c} :
    isNameStart c →
    TakesUp p c { p with elements := p.sequence, pending := .name p.offset [c] }
  | suffixed {c wrap e} :
    suffix? c = some wrap → p.pending = .element e →
    TakesUp p c { p with elements := wrap e :: p.elements, pending := .suffix }

-- What reading a character does: it goes on with a name, or ends it and takes up the character.
inductive Reads (symbols : SymbolTable) (p : Progress) (c : Char) : Progress → Prop
  | letter {offset letters} :
    p.pending = .name offset letters → isNamePart c →
    Reads symbols p c { p with
      offset := p.offset + c.utf8Size
      pending := .name offset (c :: letters) }
  | symbol {q q'} :
    (isNamePart c → ¬p.pending.IsName) → p.endName symbols = .ok q → q.TakesUp c q' →
    Reads symbols p c { q' with offset := p.offset + c.utf8Size }

variable {symbols : SymbolTable} {p q : Progress} {c : Char}

theorem takesUp_of_pushSymbol (h : p.pushSymbol c = .ok q) : p.TakesUp c q := by
  unfold pushSymbol at h
  split at h
  case isTrue hc =>
    subst hc
    cases h
    exact .opened
  split at h
  case isTrue hc =>
    subst hc
    split at h <;> cases h
    exact .closed ‹_›
  split at h
  case isTrue hc =>
    subst hc
    split at h <;> cases h
    exact .barred ‹_›
  split at h
  case isTrue hc =>
    cases h
    exact .blank hc
  split at h
  case isTrue hc =>
    cases h
    exact .named hc
  split at h <;> cases h
  exact .suffixed ‹_› ‹_›

theorem TakesUp.pushSymbol (h : p.TakesUp c q) : p.pushSymbol c = .ok q := by
  unfold Progress.pushSymbol
  cases h
  case opened => rfl
  case closed h => simp [h]
  case barred h => simp [h]
  case blank h =>
    have h₁ : c ≠ '(' := by rintro rfl; simp [Text.isBlank] at h
    have h₂ : c ≠ ')' := by rintro rfl; simp [Text.isBlank] at h
    have h₃ : c ≠ '|' := by rintro rfl; simp [Text.isBlank] at h
    simp [h₁, h₂, h₃, h]
  case named h =>
    have h₁ : c ≠ '(' := by rintro rfl; simp [isNameStart] at h
    have h₂ : c ≠ ')' := by rintro rfl; simp [isNameStart] at h
    have h₃ : c ≠ '|' := by rintro rfl; simp [isNameStart] at h
    have h₄ : ¬Text.isBlank c := fun h' => not_isNamePart_of_isBlank h' (by simp [isNamePart, h])
    simp [h₁, h₂, h₃, h₄, h]
  case suffixed hp h =>
    rcases suffix?_eq_some h with hc | hc | hc <;> subst hc <;> cases h <;> rw [hp] <;> rfl

theorem reads_of_push (h : p.push symbols c = .ok q) : p.Reads symbols c q := by
  unfold push at h
  split at h
  case h_1 hp hc =>
    cases h
    exact .letter hp hc
  case h_2 hn =>
    simp only [Except.bind_eq_ok_iff] at h
    obtain ⟨p₁, he, p₂, ht, h⟩ := h
    cases h
    refine .symbol (fun hc hp => ?_) he (takesUp_of_pushSymbol ht)
    cases hq : p.pending <;> simp_all [Pending.IsName]

theorem Reads.push (h : p.Reads symbols c q) : p.push symbols c = .ok q := by
  unfold Progress.push
  cases h
  case letter hp hc => rw [hp, hc]; rfl
  case symbol hn he ht =>
    split
    case h_1 hp hc => exact absurd (hp ▸ trivial) (hn hc)
    case h_2 => simp [he, ht.pushSymbol, pure, Except.pure]

theorem Reads.isName_iff (h : p.Reads symbols c q) : q.pending.IsName ↔ isNamePart c := by
  cases h
  case letter hc => simp [Pending.IsName, hc]
  case symbol ht =>
    cases ht
    case opened | closed | barred => simp [Pending.IsName, isNamePart, isNameStart]
    case blank h => simp [Pending.IsName, not_isNamePart_of_isBlank h]
    case named h => simp [Pending.IsName, isNamePart, h]
    case suffixed h => simp [Pending.IsName, not_isNamePart_of_suffix? h]

end Progress

section Soundness

variable (symbols : SymbolTable)

def Begun (rows : List Expression) (w : List Char) : Prop :=
  ∀ rest v, Writes symbols (.alternatives rest) v →
    Writes symbols (.alternatives (rows.reverse ++ rest)) (w ++ v)

-- The text up to the current sequence, by the groups that are open.
inductive Opened : List OpenGroup → List Char → Prop
  | nil : Opened [] []
  | cons {group groups w u v} :
    Opened groups w → Writes symbols (.sequence group.outer.reverse) u →
    Begun symbols group.alternatives v → Opened (group :: groups) (w ++ (u ++ '(' :: v))

inductive Current : Pending → List Element → List Char → Prop
  | nothing {es w} : Writes symbols (.sequence es.reverse) w → Current .nothing es w
  | suffix {es w} : Writes symbols (.sequence es.reverse) w → Current .suffix es w
  | element {e es w v} :
    Writes symbols (.sequence es.reverse) w → Writes symbols (.primary e) v → ¬Joined w v →
    Current (.element e) es (w ++ v)
  | name {offset letters es w} :
    Writes symbols (.sequence es.reverse) w → IsName letters.reverse → ¬Joined w letters.reverse →
    Current (.name offset letters) es (w ++ letters.reverse)

def Progress.StandsFor (p : Progress) (w : List Char) : Prop :=
  ∃ before current, w = before ++ current ∧ Opened symbols p.groups before ∧
    Current symbols p.pending p.elements current

variable {symbols} {p q : Progress} {c : Char} {w v : List Char}

namespace Begun

variable {rows : List Expression} {es : List Element}

theorem nil : Begun symbols [] [] :=
  fun _ _ h => h

theorem cons (h : Begun symbols rows w) (hv : Writes symbols (.sequence es) v) :
    Begun symbols (es :: rows) (w ++ (v ++ ['|'])) := by
  intro rest u hu
  simpa using h _ _ (.more hv hu)

theorem choice (h : Begun symbols rows w) (hv : Writes symbols (.sequence es) v) :
    Writes symbols (.primary (.choice (es :: rows).reverse)) ('(' :: (w ++ v) ++ [')']) := by
  rw [List.reverse_cons]
  exact .group (h _ _ (.last hv))

end Begun

theorem Current.writes (h : Current symbols p.pending p.elements w) (hp : ¬p.pending.IsName) :
    Writes symbols (.sequence p.sequence.reverse) w := by
  unfold Progress.sequence
  cases hq : p.pending <;> rw [hq] at h hp
  case nothing => cases h with | nothing h => exact h
  case suffix  => cases h with | suffix h => exact h
  case name    => exact absurd trivial hp
  case element =>
    cases h with
    | element hw hv hj =>
      rw [List.reverse_cons]
      exact hw.concat (.plain hv) hj

theorem resolve_writes {letters : List Char} {offset : Nat} {e : Element} (h : IsName letters)
    (he : resolve symbols (.ofList letters) offset = .ok e) :
    Writes symbols (.primary e) letters := by
  unfold resolve at he
  split at he <;> cases he
  case h_1 hs => exact .terminal h hs
  case h_2 hs => exact .rule h hs

theorem Current.endName (h : Current symbols p.pending p.elements w)
    (he : p.endName symbols = .ok q) :
    q.groups = p.groups ∧ ¬q.pending.IsName ∧ Current symbols q.pending q.elements w := by
  unfold Progress.endName at he
  split at he
  case h_1 hp =>
    rw [Except.bind_eq_ok_iff] at he
    obtain ⟨e, hr, he⟩ := he
    cases he
    rw [hp] at h
    cases h with
    | name h hn hj => exact ⟨rfl, id, .element h (resolve_writes hn hr) hj⟩
  case h_2 hn =>
    cases he
    refine ⟨rfl, fun hp => ?_, h⟩
    cases hq : p.pending <;> simp_all [Pending.IsName]

theorem Opened.takesUp (ho : Opened symbols p.groups v)
    (hc : Current symbols p.pending p.elements w) (hp : ¬p.pending.IsName) (hj : ¬Joined w [c])
    (h : p.TakesUp c q) :
    q.StandsFor symbols (v ++ w ++ [c]) := by
  have hw := hc.writes hp
  cases h
  case opened =>
    exact ⟨v ++ (w ++ ['(']), [], by simp, .cons ho hw .nil, .nothing .nil⟩
  case closed hg =>
    rw [hg] at ho
    cases ho with
    | cons ho hu hb =>
      refine ⟨_, _, ?_, ho, .element hu (hb.choice hw) (Joined.cons_right (by decide))⟩
      simp
  case barred hg =>
    rw [hg] at ho
    cases ho with
    | cons ho hu hb =>
      refine ⟨_, _, ?_, .cons ho hu (hb.cons hw), .nothing .nil⟩
      simp
  case blank h => exact ⟨v, w ++ [c], by simp, ho, .nothing (hw.concat_blank h)⟩
  case named h => exact ⟨v, w ++ [c], by simp, ho, .name hw (.singleton h) hj⟩
  case suffixed he h =>
    rw [he] at hc
    cases hc with
    | element hu hv hj' =>
      refine ⟨v, _, List.append_assoc .., ho, .suffix ?_⟩
      rw [List.reverse_cons, List.append_assoc]
      exact hu.concat (.suffixed hv h) (by rwa [Joined.append_right_iff hv.primary_ne_nil])

theorem Progress.StandsFor.reads (h : p.StandsFor symbols w) (hr : p.Reads symbols c q)
    (hw : ∀ d ∈ w.getLast?, isNamePart d → p.pending.IsName) :
    q.StandsFor symbols (w ++ [c]) := by
  obtain ⟨v, u, rfl, ho, hc⟩ := h
  cases hr
  case letter hp hn =>
    rw [hp] at hc
    cases hc with
    | name hu hn' hj =>
      have hn := hn'.concat hn
      rw [← List.reverse_cons] at hn
      refine ⟨v, _, ?_, ho, .name hu hn ?_⟩
      · simp
      · rwa [List.reverse_cons, Joined.append_right_iff hn'.ne_nil]
  case symbol hn he ht =>
    obtain ⟨hg, hp, hc'⟩ := hc.endName he
    have hj : ¬Joined u [c] := by
      rintro ⟨a, ha, b, hb, ha', hb'⟩
      cases hb
      exact hn hb' (hw a (by simp_all [List.getLast?_append]) ha')
    have := Opened.takesUp (hg ▸ ho) hc' hp hj ht
    exact this

theorem Progress.isName_iff_of_foldlM {d : Char} (h : w.foldlM (push symbols) p = .ok q)
    (hd : d ∈ w.getLast?) : q.pending.IsName ↔ isNamePart d := by
  obtain ⟨u, rfl⟩ := List.getLast?_eq_some_iff.mp hd
  obtain ⟨p, _, h⟩ := Except.foldlM_concat_eq_ok_iff.mp h
  exact (reads_of_push h).isName_iff

theorem Progress.standsFor_of_foldlM (h : w.foldlM (push symbols) {} = .ok q) :
    q.StandsFor symbols w := by
  induction w using List.reverseRecOn generalizing q
  case nil =>
    cases h
    exact ⟨[], [], rfl, .nil, .nothing .nil⟩
  case append_singleton w c hi =>
    obtain ⟨p, hp, h⟩ := Except.foldlM_concat_eq_ok_iff.mp h
    exact (hi hp).reads (reads_of_push h) fun d hd => (isName_iff_of_foldlM hp hd).mpr

theorem writes_of_ofChars {es : Expression} (h : ofChars symbols w = .ok es) :
    Writes symbols (.sequence es) w := by
  unfold ofChars at h
  rw [Except.bind_eq_ok_iff] at h
  obtain ⟨p, hp, h⟩ := h
  have ⟨v, u, hw, ho, hc⟩ := Progress.standsFor_of_foldlM hp
  unfold Progress.finish at h
  rw [Except.bind_eq_ok_iff] at h
  obtain ⟨q, he, h⟩ := h
  obtain ⟨hg, hn, hc⟩ := hc.endName he
  split at h <;> cases h
  case h_1 hq =>
    rw [← hg, hq] at ho
    cases ho
    exact hw ▸ hc.writes hn

end Soundness

section Completeness

variable {symbols : SymbolTable} {p p' q : Progress} {c : Char} {w v : List Char}
variable {P Q : Progress → Prop}

-- Reading the text from here on succeeds, and once the last name has been ended `P` holds.
def Progress.Leads (symbols : SymbolTable) (p : Progress) (w : List Char) (P : Progress → Prop) :
    Prop :=
  ∃ p' q, w.foldlM (push symbols) p = .ok p' ∧ p'.endName symbols = .ok q ∧ P q

def Progress.Fits (p : Progress) (w : List Char) : Prop :=
  ∀ c ∈ w.head?, isNamePart c → ¬p.pending.IsName

namespace Progress

theorem fits (h : ¬p.pending.IsName) : p.Fits w :=
  fun _ _ _ => h

theorem Fits.of_append (h : p.Fits (w ++ v)) : p.Fits w :=
  fun c hc => h c (by simp_all [List.head?_append])

theorem fits_of_foldlM (h : w.foldlM (push symbols) p = .ok q) (hw : w ≠ []) (hj : ¬Joined w v) :
    q.Fits v := by
  intro d hd hd' hq
  obtain ⟨u, c, rfl⟩ := List.eq_nil_or_concat' w |>.resolve_left hw
  have hc : c ∈ (u ++ [c]).getLast? := by simp
  exact hj ⟨c, hc, d, hd, (isName_iff_of_foldlM h hc).mp hq, hd'⟩

theorem Leads.nil (h : p.endName symbols = .ok q) (hq : P q) : p.Leads symbols [] P :=
  ⟨p, q, rfl, h, hq⟩

theorem Leads.cons (h : p.Reads symbols c p') (h' : p'.Leads symbols w P) :
    p.Leads symbols (c :: w) P := by
  obtain ⟨p₁, q, hf, he, hq⟩ := h'
  refine ⟨p₁, q, ?_, he, hq⟩
  rw [List.foldlM_cons, h.push]
  exact hf

theorem Leads.append (h : p.Leads symbols w P)
    (h' : ∀ p' q, w.foldlM (push symbols) p = .ok p' → p'.endName symbols = .ok q → P q →
      p'.Leads symbols v Q) :
    p.Leads symbols (w ++ v) Q := by
  obtain ⟨p₁, q₁, hf, he, hq⟩ := h
  obtain ⟨p₂, q₂, hf', he', hq'⟩ := h' p₁ q₁ hf he hq
  refine ⟨p₂, q₂, ?_, he', hq'⟩
  rw [List.foldlM_append, hf]
  exact hf'

theorem Leads.mono (h : p.Leads symbols w P) (hPQ : ∀ q, P q → Q q) : p.Leads symbols w Q :=
  have ⟨p', q, hf, he, hq⟩ := h
  ⟨p', q, hf, he, hPQ q hq⟩

theorem endName_eq (h : ¬p.pending.IsName) : p.endName symbols = .ok p := by
  unfold endName
  split
  case h_1 hp => exact absurd (hp ▸ trivial) h
  case h_2 => rfl

theorem leads_of_isNamePart {offset : Nat} {letters : List Char} {e : Element}
    (hp : p.pending = .name offset letters) (hw : ∀ c ∈ w, isNamePart c)
    (he : ∀ offset, resolve symbols (.ofList (letters.reverse ++ w)) offset = .ok e) :
    p.Leads symbols w fun q =>
      q.groups = p.groups ∧ q.elements = p.elements ∧ q.pending = .element e := by
  induction w generalizing p letters
  case nil =>
    refine .nil (q := { p with pending := .element e }) ?_ ⟨rfl, rfl, rfl⟩
    rw [List.append_nil] at he
    simp [endName, hp, he, pure, Except.pure]
  case cons c w hi =>
    obtain ⟨hc, hw⟩ := List.forall_mem_cons.mp hw
    exact .cons (.letter hp hc) (hi rfl hw (by simpa using he))

end Progress

def Part.TakenUp (q q' : Progress) : Part → Prop
  | sequence es => q'.groups = q.groups ∧ q'.sequence = es.reverse ++ q.sequence
  | item e => q'.groups = q.groups ∧ q'.sequence = e :: q.sequence
  | primary e => q'.groups = q.groups ∧ q'.elements = q.sequence ∧ q'.pending = .element e
  | alternatives rows => ∀ group groups, q.groups = group :: groups → q.sequence = [] →
    ∃ group', q'.groups = group' :: groups ∧ group'.offset = group.offset ∧
      group'.outer = group.outer ∧
      (q'.sequence.reverse :: group'.alternatives).reverse = group.alternatives.reverse ++ rows

def Part.CanStand (q : Progress) : Part → Prop
  | alternatives _ => q.groups ≠ []
  | _ => True

-- Reading the text succeeds wherever it can stand, and takes up the part.
def Part.Read (symbols : SymbolTable) (w : List Char) (part : Part) : Prop :=
  ∀ p q : Progress, p.endName symbols = .ok q → p.Fits w → part.CanStand q →
    p.Leads symbols w (part.TakenUp q)

theorem Part.Read.leads {part : Part} (h : part.Read symbols w) (hp : ¬p.pending.IsName)
    (hc : part.CanStand p) : p.Leads symbols w (part.TakenUp p) :=
  h p p (Progress.endName_eq hp) (Progress.fits hp) hc

theorem Part.read_name {letters : List Char} {e : Element} (h : IsName letters)
    (he : ∀ offset, resolve symbols (.ofList letters) offset = .ok e) :
    Part.Read symbols letters (.primary e) := by
  intro p q hq hf _
  cases letters
  case nil => exact h.elim
  case cons c cs =>
    refine .cons (.symbol (hf c rfl) hq (.named h.1)) ?_
    exact Progress.leads_of_isNamePart rfl h.2 he

theorem Writes.read {part : Part} (h : Writes symbols part w) : part.Read symbols w := by
  induction h
  case nil =>
    intro p q hq _ _
    exact .nil hq ⟨rfl, rfl⟩
  case blank c w hc _ hi =>
    intro p q hq hf _
    refine .cons (.symbol (hf c rfl) hq (.blank hc)) ?_
    exact (hi.leads id trivial).mono fun _ => id
  case cons h _ hj hi hi' =>
    intro p q hq hf _
    refine (hi p q hq hf.of_append trivial).append fun p₁ q₁ hp₁ hq₁ ⟨hg, hs⟩ => ?_
    have hf₁ := Progress.fits_of_foldlM hp₁ h.item_ne_nil hj
    refine (hi' p₁ q₁ hq₁ hf₁ trivial).mono fun q₂ ⟨hg', hs'⟩ => ⟨hg'.trans hg, ?_⟩
    simp [hs', hs]
  case plain hi =>
    intro p q hq hf _
    refine (hi p q hq hf trivial).mono fun q₁ ⟨hg, he, hp⟩ => ⟨hg, ?_⟩
    simp [Progress.sequence, hp, he]
  case suffixed h hc hi =>
    intro p q hq hf _
    refine (hi p q hq hf.of_append trivial).append fun p₁ q₁ hp₁ hq₁ ⟨hg, he, hp⟩ => ?_
    refine .cons (.symbol (absurd · (not_isNamePart_of_suffix? hc)) hq₁ (.suffixed hc hp)) ?_
    exact .nil (Progress.endName_eq id) ⟨hg, by simp [Progress.sequence, he]⟩
  case terminal hn hs => exact Part.read_name hn fun _ => by simp [resolve, hs]
  case rule hn hs => exact Part.read_name hn fun _ => by simp [resolve, hs]
  case group hi =>
    intro p q hq hf _
    refine .cons (.symbol (by simp [isNamePart, isNameStart]) hq .opened) ?_
    refine (hi.leads id (by simp [Part.CanStand])).append fun p₁ q₁ _ hq₁ h => ?_
    obtain ⟨group, hg, _, ho, ha⟩ := h _ _ rfl rfl
    refine .cons (.symbol (by simp [isNamePart, isNameStart]) hq₁ (.closed hg)) ?_
    refine .nil (Progress.endName_eq id) ⟨rfl, ho, ?_⟩
    simpa using ha
  case last hi =>
    intro p q hq hf _
    refine (hi p q hq hf trivial).mono fun q₁ ⟨hg, hs⟩ group groups hg' hs' => ?_
    exact ⟨group, hg.trans hg', rfl, rfl, by simp [hs, hs']⟩
  case more hi hi' =>
    intro p q hq hf hgs
    obtain ⟨group, groups, hgs⟩ := List.exists_cons_of_ne_nil hgs
    refine (hi p q hq hf.of_append trivial).append fun p₁ q₁ _ hq₁ ⟨hg, hs⟩ => ?_
    refine .cons (.symbol (by simp [isNamePart, isNameStart]) hq₁ (.barred (hg.trans hgs))) ?_
    refine (hi'.leads id (by simp [Part.CanStand])).mono fun q₂ h group' groups' hg' hs' => ?_
    cases hgs.symm.trans hg'
    obtain ⟨group₂, hg₂, ho, hu, ha⟩ := h _ _ rfl rfl
    refine ⟨group₂, hg₂, ho, hu, ?_⟩
    simpa [hs, hs'] using ha

theorem ofChars_of_writes {es : Expression} (h : Writes symbols (.sequence es) w) :
    ofChars symbols w = .ok es := by
  have ⟨p, q, hf, he, hg, hs⟩ := h.read.leads (p := {}) id trivial
  have hs : q.sequence = es.reverse := by simpa [Progress.sequence] using hs
  rw [ofChars, hf, Except.ok_bind, Progress.finish, he, Except.ok_bind, hg, hs,
    List.reverse_reverse]
  rfl

end Completeness

variable {symbols : SymbolTable} {rule text : String} {e e' : Expression}

theorem ofText_eq_ok_iff :
    ofText symbols rule text = .ok e ↔ Writes symbols (.sequence e) text.toList := by
  rw [ofText]
  constructor
  case mp =>
    intro h
    cases ho : ofChars symbols text.toList <;> rw [ho] at h <;> cases h
    exact writes_of_ofChars ho
  case mpr =>
    intro h
    rw [ofChars_of_writes h]
    rfl

theorem Writes.unique {w : List Char} (h : Writes symbols (.sequence e) w)
    (h' : Writes symbols (.sequence e') w) : e = e' :=
  Except.ok.inj ((ofChars_of_writes h).symm.trans (ofChars_of_writes h'))

-- Reading succeeds just for the texts that the notation derives, and gives the elements that the
-- text writes. No text writes two sequences.
theorem reads_what_is_written (symbols : SymbolTable) (rule text : String) :
    (∀ e, ofText symbols rule text = .ok e ↔ Writes symbols (.sequence e) text.toList) ∧
    ∀ e e', Writes symbols (.sequence e) text.toList → Writes symbols (.sequence e') text.toList →
      e = e' :=
  ⟨fun _ => ofText_eq_ok_iff, fun _ _ h h' => h.unique h'⟩

def someSymbols : SymbolTable where
  entries := [("item", .rule 1), ("comma", .terminal), ("rest", .rule 2)]

theorem reads_what_is_written_lists :
    Writes someSymbols
      (.sequence [.rule "item" 1, .zeroOrMore (.choice [[.terminal "comma", .rule "item" 1], []]),
        .oneOrMore (.rule "rest" 2)])
      " item(comma item |)*rest+".toList := by
  have h := (reads_what_is_written someSymbols "list" " item(comma item |)*rest+").1
  exact (h _).mp rfl

end PegParser.Expression
