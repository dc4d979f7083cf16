import PegParser.Listing
import PegParser.Proofs.Expression.Notation
import PegParser.Proofs.Parse.Derivation
import PegParser.Proofs.Text.Quoted
import PegParser.Proofs.Tree

namespace PegParser

def Styled.plain (pieces : Styled) : List Char :=
  (pieces.render false).toList

@[simp]
theorem Styled.plain_append {pieces pieces' : Styled} :
    plain (pieces ++ pieces') = pieces.plain ++ pieces'.plain := by
  simp [plain, render]

theorem Expression.IsName.append_inj {w w' u u' : List Char} (h : IsName w) (h' : IsName w')
    (hu : ∀ c ∈ u.head?, ¬isNamePart c) (hu' : ∀ c ∈ u'.head?, ¬isNamePart c)
    (he : w ++ u = w' ++ u') : w = w' ∧ u = u' :=
  Text.append_inj_of_forall (fun _ => h.isNamePart_of_mem) (fun _ => h'.isNamePart_of_mem) hu hu' he

namespace Tree

open Expression Text

variable {label : String} {value value' : Option String} {ts ts' : List Tree} {t t' : Tree}
variable {span span' : Span} {depth : Nat} {w u u' : List Char}

theorem nodes_mk :
    nodes ⟨label, value, ts, span⟩ = ⟨label, value, ts, span⟩ :: nodesOf ts := by
  simp [nodes, filter, nodesOf]

def IsNamed (t : Tree) : Prop :=
  IsName t.label.toList

-- A node with a value has nothing below it.
def IsBare (t : Tree) : Prop :=
  t.value.isSome → t.children = []

@[simp]
theorem isBare_leaf {token : Token} : (leaf token).IsBare :=
  fun _ => rfl

theorem isBare_node : (node label ts span).IsBare :=
  nofun

mutual

-- The tree with each span replaced by that of nothing at the start.
def unspanned : Tree → Tree
  | ⟨label, value, children, _⟩ => ⟨label, value, unspannedAll children, .point 0⟩

def unspannedAll : List Tree → List Tree
  | [] => []
  | t :: ts => unspanned t :: unspannedAll ts

end

def valueText : Option String → List Char
  | some value => ' ' :: (quote value).toList
  | none => []

def spanText (span : Span) : List Char :=
  ' ' :: '@' :: Nat.toDigits 10 span.start ++ '.' :: '.' :: Nat.toDigits 10 span.stop ++ ['\n']

def row (t : Tree) : List Char :=
  t.label.toList ++ (valueText t.value ++ spanText t.span)

theorem plain_line : (line depth t).plain = List.replicate (2 * depth) ' ' ++ row t := by
  cases ht : t.value <;>
    simp [Styled.plain, Styled.render, Piece.render, line, row, valueText, spanText, ht, blanks]

theorem plain_listingAt :
    (listingAt depth ⟨label, value, ts, span⟩).plain = List.replicate (2 * depth) ' ' ++
      (row ⟨label, value, ts, span⟩ ++ (listingAllAt (depth + 1) ts).plain) := by
  rw [listingAt, Styled.plain_append, plain_line, List.append_assoc]

theorem plain_listingAllAt_cons :
    (listingAllAt depth (t :: ts)).plain =
      (listingAt depth t).plain ++ (listingAllAt depth ts).plain := by
  rw [listingAllAt, Styled.plain_append]

theorem spanText_append_inj (h : spanText span ++ u = spanText span' ++ u') :
    span = span' ∧ u = u' := by
  cases span
  cases span'
  simp only [spanText, List.cons_append, List.append_assoc, List.cons.injEq, true_and] at h
  obtain ⟨rfl, hstop⟩ := toDigits_append_inj (by simp) (by simp) h
  simp only [List.cons.injEq, true_and] at hstop
  obtain ⟨rfl, hu⟩ := toDigits_append_inj (by simp) (by simp) hstop
  exact ⟨rfl, (List.cons.inj hu).2⟩

theorem valueText_append_inj (hu : ∀ w, u ≠ ' ' :: '"' :: w) (hu' : ∀ w, u' ≠ ' ' :: '"' :: w)
    (h : valueText value ++ u = valueText value' ++ u') : value = value' ∧ u = u' := by
  have hne {value u u'} (hu : ∀ w, u ≠ ' ' :: '"' :: w) : u ≠ valueText (some value) ++ u' := by
    intro h
    exact hu _ (by simpa [valueText, quote] using h)
  cases value <;> cases value'
  case none.none => exact ⟨rfl, h⟩
  case none.some => exact absurd h (hne hu)
  case some.none => exact absurd h.symm (hne hu')
  case some.some =>
    obtain ⟨rfl, hu⟩ := quote_append_inj (List.cons.inj h).2
    exact ⟨rfl, hu⟩

theorem not_isNamePart_of_mem_head?_valueText_append {c : Char} (hu : ∀ c ∈ u.head?, ¬isNamePart c)
    (hc : c ∈ (valueText value ++ u).head?) : ¬isNamePart c := by
  cases value
  case none => exact hu c hc
  case some =>
    obtain rfl : ' ' = c := by simpa [valueText] using hc
    decide

theorem row_append_inj (ht : t.IsNamed) (ht' : t'.IsNamed) (h : row t ++ u = row t' ++ u') :
    t.label = t'.label ∧ t.value = t'.value ∧ t.span = t'.span ∧ u = u' := by
  have hs {span u} : ∀ c ∈ (spanText span ++ u).head?, ¬isNamePart c := by
    simp [spanText, isNamePart, isNameStart]
  have hn {value span u} : ∀ c ∈ (valueText value ++ (spanText span ++ u)).head?, ¬isNamePart c :=
    fun _ => not_isNamePart_of_mem_head?_valueText_append hs
  simp only [row, List.append_assoc] at h
  obtain ⟨hl, hr⟩ := ht.append_inj ht' hn hn h
  obtain ⟨hv, hr⟩ := valueText_append_inj (by simp [spanText]) (by simp [spanText]) hr
  exact ⟨String.toList_inj.mp hl, hv, spanText_append_inj hr⟩

def indent (w : List Char) : Nat :=
  (w.takeWhile (· == ' ')).length

theorem indent_replicate_append {n : Nat} (h : ∀ c ∈ w.head?, c ≠ ' ') :
    indent (List.replicate n ' ' ++ w) = n := by
  cases w <;> simp_all [indent]

theorem indent_listingAt (h : t.IsNamed) :
    indent ((listingAt depth t).plain ++ u) = 2 * depth := by
  obtain ⟨label, value, ts, span⟩ := t
  rw [plain_listingAt, List.append_assoc]
  refine indent_replicate_append fun c hc => ?_
  have hn : c ∈ label.toList.head? := by
    simpa [row, h.ne_nil, List.head?_append_of_ne_nil] using hc
  have := h.isNamePart_of_mem (List.mem_of_mem_head? hn)
  rintro rfl
  exact absurd this (by decide)

theorem indent_listingAllAt_cons (h : ∀ n ∈ nodesOf (t :: ts), n.IsNamed) :
    indent ((listingAllAt depth (t :: ts)).plain ++ u) = 2 * depth := by
  have ht : t.IsNamed := h t (mem_nodesOf_of_mem List.mem_cons_self)
  rw [plain_listingAllAt_cons, List.append_assoc, indent_listingAt ht]

theorem indent_listingAllAt_le (h : ∀ n ∈ nodesOf ts, n.IsNamed) (hu : indent u < 2 * depth) :
    indent ((listingAllAt depth ts).plain ++ u) ≤ 2 * depth := by
  cases ts
  case nil  => exact hu.le
  case cons => exact (indent_listingAllAt_cons h).le

mutual

-- A node ends where a line comes that is not further in than its own.
theorem listingAt_append_inj : (t t' : Tree) → {depth : Nat} → {u u' : List Char} →
    (∀ n ∈ t.nodes, n.IsNamed) → (∀ n ∈ t'.nodes, n.IsNamed) →
    indent u < 2 * (depth + 1) → indent u' < 2 * (depth + 1) →
    (listingAt depth t).plain ++ u = (listingAt depth t').plain ++ u' → t = t' ∧ u = u'
  | ⟨label, value, ts, span⟩, ⟨label', value', ts', span'⟩, depth, u, u', ht, ht', hu, hu', h => by
    rw [nodes_mk, List.forall_mem_cons] at ht ht'
    simp only [plain_listingAt, List.append_assoc] at h
    obtain ⟨rfl, rfl, rfl, hr⟩ : label = label' ∧ value = value' ∧ span = span' ∧ _ :=
      row_append_inj ht.1 ht'.1 (List.append_cancel_left h)
    obtain ⟨rfl, hu⟩ := listingAllAt_append_inj ts ts' ht.2 ht'.2 hu hu' hr
    exact ⟨rfl, hu⟩

theorem listingAllAt_append_inj : (ts ts' : List Tree) → {depth : Nat} → {u u' : List Char} →
    (∀ n ∈ nodesOf ts, n.IsNamed) → (∀ n ∈ nodesOf ts', n.IsNamed) →
    indent u < 2 * depth → indent u' < 2 * depth →
    (listingAllAt depth ts).plain ++ u = (listingAllAt depth ts').plain ++ u' →
    ts = ts' ∧ u = u'
  | [], [], _, _, _, _, _, _, _, h => ⟨rfl, h⟩
  -- What follows the trees is not as far in as they are, so it does not start like one of them.
  | [], t' :: ts', depth, u, u', _, hts', hu, _, h => by
    have h : u = (listingAllAt depth (t' :: ts')).plain ++ u' := h
    rw [h, indent_listingAllAt_cons hts'] at hu
    exact absurd hu (lt_irrefl _)
  | t :: ts, [], depth, u, u', hts, _, _, hu', h => by
    have h : (listingAllAt depth (t :: ts)).plain ++ u = u' := h
    rw [← h, indent_listingAllAt_cons hts] at hu'
    exact absurd hu' (lt_irrefl _)
  | t :: ts, t' :: ts', depth, u, u', hts, hts', hu, hu', h => by
    rw [nodesOf_cons, List.forall_mem_append] at hts hts'
    simp only [plain_listingAllAt_cons, List.append_assoc] at h
    have hi := indent_listingAllAt_le hts.2 hu
    have hi' := indent_listingAllAt_le hts'.2 hu'
    obtain ⟨rfl, hr⟩ := listingAt_append_inj t t' hts.1 hts'.1 (by omega) (by omega) h
    obtain ⟨rfl, hu⟩ := listingAllAt_append_inj ts ts' hts.2 hts'.2 hu hu' hr
    exact ⟨rfl, hu⟩

end

section Pretty

theorem toList_pretty (h : IsBare ⟨label, value, ts, span⟩) :
    (pretty ⟨label, value, ts, span⟩).toList =
      '(' :: (label.toList ++ (valueText value ++ ((prettyAll ts).toList ++ [')']))) := by
  cases value
  case none => simp [pretty, valueText]
  case some =>
    obtain rfl : ts = [] := h rfl
    simp [pretty, prettyAll, valueText]

theorem toList_prettyAll_cons :
    (prettyAll (t :: ts)).toList = ' ' :: (t.pretty.toList ++ (prettyAll ts).toList) := by
  simp [prettyAll]

theorem exists_toList_prettyAll_of_ne_nil (h : ts ≠ []) :
    ∃ w, (prettyAll ts).toList = ' ' :: '(' :: w := by
  obtain ⟨⟨label, value, children, span⟩, ts, rfl⟩ := List.exists_cons_of_ne_nil h
  cases value <;> simp [prettyAll, pretty]

theorem prettyAll_append_ne :
    (∀ w, (prettyAll ts).toList ++ ')' :: u ≠ ' ' :: '"' :: w) ∧
    ∀ c ∈ ((prettyAll ts).toList ++ ')' :: u).head?, ¬isNamePart c := by
  by_cases ht : ts = []
  case pos =>
    subst ht
    simp [prettyAll, isNamePart, isNameStart]
  case neg =>
    obtain ⟨w, hw⟩ := exists_toList_prettyAll_of_ne_nil ht
    simp [hw, isNamePart, isNameStart]

theorem ne_prettyAll_cons_append : ')' :: u ≠ (prettyAll (t :: ts)).toList ++ w := by
  simp [toList_prettyAll_cons]

mutual

theorem pretty_append_inj : (t t' : Tree) → {u u' : List Char} →
    (∀ n ∈ t.nodes, n.IsNamed ∧ n.IsBare) → (∀ n ∈ t'.nodes, n.IsNamed ∧ n.IsBare) →
    t.pretty.toList ++ u = t'.pretty.toList ++ u' → t.unspanned = t'.unspanned ∧ u = u'
  | ⟨label, value, ts, span⟩, ⟨label', value', ts', span'⟩, u, u', ht, ht', h => by
    rw [nodes_mk, List.forall_mem_cons] at ht ht'
    obtain ⟨⟨hn, hb⟩, hts⟩ := ht
    obtain ⟨⟨hn', hb'⟩, hts'⟩ := ht'
    have hnext {value ts u} : ∀ c ∈ (valueText value ++ ((prettyAll ts).toList ++ ')' :: u)).head?,
        ¬isNamePart c :=
      fun _ => not_isNamePart_of_mem_head?_valueText_append prettyAll_append_ne.2
    simp only [toList_pretty hb, toList_pretty hb', List.cons_append, List.append_assoc,
      List.nil_append, List.cons.injEq, true_and] at h
    obtain ⟨hl, hr⟩ := hn.append_inj hn' hnext hnext h
    obtain ⟨hv, hr⟩ := valueText_append_inj prettyAll_append_ne.1 prettyAll_append_ne.1 hr
    obtain ⟨hc, hu⟩ := prettyAll_append_inj ts ts' hts hts' hr
    obtain rfl : label = label' := String.toList_inj.mp hl
    exact ⟨by rw [unspanned, unspanned, hv, hc], hu⟩

theorem prettyAll_append_inj : (ts ts' : List Tree) → {u u' : List Char} →
    (∀ n ∈ nodesOf ts, n.IsNamed ∧ n.IsBare) → (∀ n ∈ nodesOf ts', n.IsNamed ∧ n.IsBare) →
    (prettyAll ts).toList ++ ')' :: u = (prettyAll ts').toList ++ ')' :: u' →
    unspannedAll ts = unspannedAll ts' ∧ u = u'
  | [], [], _, _, _, _, h     => ⟨rfl, by simpa [prettyAll] using h⟩
  | [], _ :: _, _, _, _, _, h => absurd h ne_prettyAll_cons_append
  | _ :: _, [], _, _, _, _, h => absurd h.symm ne_prettyAll_cons_append
  | t :: ts, t' :: ts', u, u', hts, hts', h => by
    rw [nodesOf_cons, List.forall_mem_append] at hts hts'
    simp only [toList_prettyAll_cons, List.cons_append, List.append_assoc, List.cons.injEq,
      true_and] at h
    obtain ⟨ht, hr⟩ := pretty_append_inj t t' hts.1 hts'.1 h
    obtain ⟨hc, hu⟩ := prettyAll_append_inj ts ts' hts.2 hts'.2 hr
    exact ⟨by rw [unspannedAll, unspannedAll, ht, hc], hu⟩

end

end Pretty

section Parsed

open Parse

variable [RegexEngine] {g : Grammar} {s : TokenStream} {p : Phrase} {c next : Nat}
variable {nodes : List Tree} {ds : List SyntaxError}

theorem isBare_of_runs (h : Runs g s p c (some (nodes, next)) ds) :
    ∀ n ∈ nodesOf nodes, n.IsBare := by
  generalize hm : some (nodes, next) = m at h
  induction h generalizing nodes next <;> cases hm
  case taken                => simp
  case absent | ended | nil => simp
  case oneMore hi hi' | again hi hi' | cons hi hi' =>
    rw [nodesOf_append]
    exact List.forall_mem_append.mpr ⟨hi rfl, hi' rfl⟩
  case ruled hi =>
    rw [nodesOf_singleton, ruleNode, nodes_node]
    exact List.forall_mem_cons.mpr ⟨isBare_node, hi rfl⟩
  case call hi | chosen hi | present hi | many hi | oneStill hi | still hi | first hi | later hi =>
    exact hi rfl

theorem isBare_of_parsed {input : String} {complete : Bool} {errors : ErrorStack} {tree : Tree}
    (h : (g.analyze input complete errors).1 = .parsed tree) : ∀ n ∈ tree.nodes, n.IsBare := by
  obtain ⟨next, ds, hr⟩ := (analyze_parses g input complete errors).exists_runs_of_parsed h
  simpa using isBare_of_runs hr

end Parsed

-- Trees that are not the same are not shown by the same text. The one line of parentheses leaves
-- out the spans, and what is below a value; below the values of a parse there is nothing.
theorem shown_tree_is_unique [RegexEngine] {a b : Tree} (ha : ∀ n ∈ a.nodes, n.IsNamed)
    (hb : ∀ n ∈ b.nodes, n.IsNamed) :
    (a.listing.render false = b.listing.render false → a = b) ∧
    ((∀ n ∈ a.nodes, n.IsBare) → (∀ n ∈ b.nodes, n.IsBare) →
      a.pretty = b.pretty → a.unspanned = b.unspanned) ∧
    ∀ (g : Grammar) (input : String) (complete : Bool) (errors : ErrorStack) (tree : Tree),
      (g.analyze input complete errors).1 = .parsed tree → ∀ n ∈ tree.nodes, n.IsBare := by
  refine ⟨fun h => ?_, fun hv hv' h => ?_, fun _ _ _ _ _ => isBare_of_parsed⟩
  · have h : (listingAt 0 a).plain ++ [] = (listingAt 0 b).plain ++ [] :=
      congrArg (·.toList ++ []) h
    exact (listingAt_append_inj a b ha hb (by simp [indent]) (by simp [indent]) h).1
  · have h : a.pretty.toList ++ [] = b.pretty.toList ++ [] :=
      congrArg (·.toList ++ []) h
    exact (pretty_append_inj a b (fun n hn => ⟨ha n hn, hv n hn⟩)
      (fun n hn => ⟨hb n hn, hv' n hn⟩) h).1

def twoWords : Tree where
  label := "words"
  value := none
  children := [⟨"word", some "", [], ⟨0, 0⟩⟩, ⟨"word", some "", [], ⟨0, 9⟩⟩]
  span := ⟨0, 9⟩

def oneWord (value : String) : Tree where
  label := "words"
  value := none
  children := [⟨"word", some value, [], ⟨0, 9⟩⟩]
  span := ⟨0, 9⟩

open Grammar Parse in
theorem shown_tree_is_unique_words :
    (oneWord "\" @0..0\n  word \"").listing.render false ≠ twoWords.listing.render false ∧
    (oneWord "\") (word \"").pretty ≠ twoWords.pretty ∧
    ∃ tree, (lists.analyze "3.5,(7)" true .empty).1 = .parsed tree ∧
      ∀ n ∈ tree.nodes, n.IsBare := by
  have hn {value} : ∀ n ∈ (oneWord value).nodes, n.IsNamed ∧ n.IsBare := by
    simp [oneWord, nodes_mk, IsNamed, IsBare, IsName, isNamePart, isNameStart]
  have hn' : ∀ n ∈ twoWords.nodes, n.IsNamed ∧ n.IsBare := by
    simp [twoWords, nodes_mk, IsNamed, IsBare, IsName, isNamePart, isNameStart]
  have hu (value : String) := shown_tree_is_unique (a := oneWord value)
    (fun n h => (hn n h).1) (fun n h => (hn' n h).1)
  have ht : (treeOf? (lists.analyze "3.5,(7)" true .empty).1).isSome := by
    decide +kernel
  obtain ⟨tree, ht⟩ := Option.isSome_iff_exists.mp ht
  have h := eq_parsed_of_treeOf? ht
  refine ⟨fun he => ?_, fun he => ?_, tree, h, (hu "").2.2 _ _ _ _ _ h⟩
  · simpa [oneWord, twoWords] using (hu _).1 he
  · have := (hu _).2.1 (fun n h => (hn n h).2) (fun n h => (hn' n h).2) he
    simp [oneWord, twoWords, unspanned, unspannedAll] at this

end Tree
end PegParser
