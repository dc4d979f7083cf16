import Mathlib
import PegParser.Json.Reader
import PegParser.Listing

namespace PegParser.Json

section Strings

variable {c : Char} {cs done rest : List Char}

theorem hexUnit?_hexDigit {n : Nat} (h : n < 0x20) :
    hexUnit? '0' '0' (hexDigit (n / 16)) (hexDigit (n % 16)) = some n := by
  decide +revert

theorem readString_codeEscape (h : c.toNat < 0x20) :
    readString done ('\\' :: 'u' :: '0' :: '0' :: hexDigit (c.toNat / 16) ::
      hexDigit (c.toNat % 16) :: cs) = readString (c :: done) cs := by
  have hu := hexUnit?_hexDigit h
  have hh : isHighSurrogate c.toNat = false := by simp [isHighSurrogate]; omega
  have hl : isLowSurrogate c.toNat = false := by simp [isLowSurrogate]; omega
  -- Another escape behind it is looked at, but not taken.
  by_cases hs : ∃ e f g h rest, cs = '\\' :: 'u' :: e :: f :: g :: h :: rest
  case pos =>
    obtain ⟨e, f, g, h, rest, rfl⟩ := hs
    simp [readString, hu, hh, hl]
  case neg =>
    simp only [not_exists] at hs
    simp [readString, hu, hh, hl]

theorem readString_shortEscape {d : Char} (hd : d ≠ 'u') (h : shortEscape? d = some c) :
    readString done ('\\' :: d :: cs) = readString (c :: done) cs := by
  simp [readString, hd, h]

theorem readString_escape : readString done (escape c ++ cs) = readString (c :: done) cs := by
  unfold escape
  iterate 7
    split
    case isTrue hc =>
      subst hc
      exact readString_shortEscape (by decide) rfl
  split
  case isTrue hc => exact readString_codeEscape hc
  case isFalse   => simp_all [readString]

theorem readString_quoted {text : List Char} :
    readString done (text.flatMap escape ++ '"' :: rest) =
      some (.ofList (done.reverse ++ text), rest) := by
  induction text generalizing done
  case nil => simp [readString]
  case cons c cs hi =>
    rw [List.flatMap_cons, List.append_assoc, readString_escape, hi]
    simp

end Strings

section Numbers

variable {digits cs rest : List Char} {negative : Bool} {n : Nat}

def EndsNumber (cs : List Char) : Prop :=
  ∀ c ∈ cs.head?, ¬c.isDigit ∧ c ≠ '.' ∧ c ≠ 'e' ∧ c ≠ 'E'

theorem digitsValue_toDigits : digitsValue 0 (Nat.toDigits 10 n) = n :=
  Nat.ofDigitChars_toDigits (by decide) (by decide)

theorem exists_cons_toDigits (n : Nat) :
    ∃ c cs, Nat.toDigits 10 n = c :: cs ∧ c.isDigit ∧ ∀ d ∈ cs, d.isDigit := by
  have ⟨c, cs, hc⟩ := List.exists_cons_of_ne_nil (Nat.toDigits_ne_nil (n := n) (b := 10))
  have hd : ∀ d ∈ c :: cs, d.isDigit := fun d hd =>
    Nat.isDigit_of_mem_toDigits (by decide) (by decide) (hc ▸ hd)
  exact ⟨c, cs, hc, List.forall_mem_cons.mp hd⟩

theorem digitChar_ne_zero : ∀ n < 10, n ≠ 0 → n.digitChar ≠ '0' := by
  decide

theorem head?_toDigits (h : n ≠ 0) : (Nat.toDigits 10 n).head? ≠ some '0' := by
  induction n using Nat.strong_induction_on
  case h n hi =>
    by_cases hn : n < 10
    case pos =>
      rw [Nat.toDigits_of_lt_base hn]
      simpa using digitChar_ne_zero n hn h
    case neg =>
      rw [Nat.toDigits_of_base_le (by decide) (by omega),
        List.head?_append_of_ne_nil _ Nat.toDigits_ne_nil]
      exact hi _ (by omega) (by omega)

theorem takeWhile_isDigit (hd : ∀ c ∈ digits, c.isDigit) (hr : ∀ c ∈ rest.head?, ¬c.isDigit) :
    (digits ++ rest).takeWhile Char.isDigit = digits ∧
      (digits ++ rest).dropWhile Char.isDigit = rest := by
  rw [List.takeWhile_append_of_pos hd, List.dropWhile_append_of_pos hd]
  cases rest <;> simp_all

theorem readExponent_of_endsNumber (h : EndsNumber rest) :
    readExponent rest = some (none, rest) := by
  cases rest
  case nil => rfl
  case cons c cs =>
    have := h c rfl
    simp [readExponent, this]

theorem readFraction_of_endsNumber (h : EndsNumber rest) {value : Int}
    (hv : value = if negative then -(digitsValue 0 digits : Int) else digitsValue 0 digits)
    (hf : FitsWord value) (hz : negative → digitsValue 0 digits ≠ 0) :
    readFraction negative digits rest = some (integer value, rest) := by
  have hn : (negative && digitsValue 0 digits == 0) = false := by simpa using hz
  have he := readExponent_of_endsNumber h
  cases rest
  case nil => simp [readFraction, he, hn, ← hv, hf]
  case cons c cs =>
    have hc : c ≠ '.' := (h c rfl).2.1
    simp [readFraction, hc, he, hn, ← hv, hf]

theorem readNumber_toDigits (h : EndsNumber rest) {value : Int}
    (hv : value = if negative then -(n : Int) else n) (hf : FitsWord value)
    (hz : negative → n ≠ 0) :
    readNumber negative (Nat.toDigits 10 n ++ rest) = some (integer value, rest) := by
  have hread (digits) (hd : digits = Nat.toDigits 10 n) :
      readFraction negative digits rest = some (integer value, rest) := by
    subst hd
    exact readFraction_of_endsNumber h (by rw [digitsValue_toDigits, hv]) hf
      (by rwa [digitsValue_toDigits])
  by_cases h₀ : n = 0
  case pos =>
    subst h₀
    have hr : rest.head?.any Char.isDigit = false := by
      cases rest
      case nil       => rfl
      case cons c cs => simpa using (h c rfl).1
    simp [readNumber, hr, hread]
  case neg =>
    have ⟨c, cs, hc, hd, hds⟩ := exists_cons_toDigits n
    have hne : c ≠ '0' := by simpa [hc] using head?_toDigits h₀
    have hs := takeWhile_isDigit hds fun d hd => (h d hd).1
    simp [hc, readNumber, hd, hs, hread _ hc.symm]

theorem readScalar_of_isDigit {c : Char} (h : c.isDigit) :
    readScalar (c :: cs) = readNumber false (c :: cs) := by
  unfold readScalar
  split <;> simp_all

theorem toList_ofNat (n : Nat) : (toString (Int.ofNat n)).toList = Nat.toDigits 10 n :=
  Nat.toList_repr

theorem toList_negSucc (n : Nat) :
    (toString (Int.negSucc n)).toList = '-' :: Nat.toDigits 10 (n + 1) := by
  rw [Int.toString_eq_repr, Int.repr, String.toList_append]
  simp

theorem readScalar_integer (h : EndsNumber rest) {value : Int} (hf : FitsWord value) :
    readScalar ((toString value).toList ++ rest) = some (integer value, rest) := by
  cases value
  case ofNat n =>
    have ⟨c, cs, hc, hd, _⟩ := exists_cons_toDigits n
    rw [toList_ofNat, hc, List.cons_append, readScalar_of_isDigit hd, ← List.cons_append, ← hc]
    exact readNumber_toDigits h rfl hf nofun
  case negSucc n =>
    rw [toList_negSucc]
    exact readNumber_toDigits h rfl hf (by simp)

end Numbers

section Values

-- A value of which the text says all: a word holds each number in it, and no more than so many
-- containers are inside one another.
inductive Readable : (depth : Nat) → Json → Prop
  | null {depth} : Readable depth null
  | bool {depth b} : Readable depth (bool b)
  | integer {depth n} : FitsWord n → Readable depth (integer n)
  | string {depth text} : Readable depth (string text)
  | array {depth items} :
    (∀ item ∈ items, Readable depth item) → Readable (depth + 1) (array items)
  | object {depth fields} :
    (∀ field ∈ fields, Readable depth field.2) → Readable (depth + 1) (object fields)

def IsRead (depth : Nat) (v : Json) : Prop :=
  ∀ k steps cs rest, EndsNumber rest → skipBlank cs = (prettyAt k v).toList ++ rest →
    2 * (prettyAt k v).length < steps → readValue steps depth cs = some (v, rest)

variable {c : Char} {cs rest : List Char} {k depth steps : Nat} {v : Json}

theorem skipBlank_cons (h : ¬isBlank c) : skipBlank (c :: cs) = c :: cs := by
  simp [skipBlank, h]

theorem skipBlank_blank (h : isBlank c) : skipBlank (c :: cs) = skipBlank cs := by
  simp [skipBlank, h]

theorem skipBlank_newLine : skipBlank ((newLine k).toList ++ cs) = skipBlank cs := by
  have hb : ∀ c ∈ (newLine k).toList, isBlank c := by
    simp +contextual [newLine, isBlank, or_imp]
  exact List.dropWhile_append_of_pos hb

theorem endsNumber_newLine : EndsNumber ((newLine k).toList ++ cs) := by
  simp [EndsNumber, newLine]

theorem endsNumber_comma : EndsNumber (',' :: cs) := by
  simp [EndsNumber]

theorem exists_cons_toString (n : Int) :
    ∃ c text, (toString n).toList = c :: text ∧ (c.isDigit ∨ c = '-') := by
  cases n
  case ofNat n =>
    have ⟨c, cs, hc, hd, _⟩ := exists_cons_toDigits n
    exact ⟨c, cs, (toList_ofNat n).trans hc, .inl hd⟩
  case negSucc n => exact ⟨'-', _, toList_negSucc n, .inr rfl⟩

theorem not_isBlank_of_isDigit (h : c.isDigit) : ¬isBlank c := by
  intro hb
  simp only [isBlank, Bool.or_eq_true, beq_iff_eq] at hb
  rcases hb with ((rfl | rfl) | rfl) | rfl <;> simp at h

theorem exists_cons_prettyAt (h : Readable depth v) :
    ∃ c text, (prettyAt k v).toList = c :: text ∧ ¬isBlank c ∧ c ≠ ']' := by
  cases h
  case bool b          => cases b <;> simp [prettyAt, isBlank]
  case array items _   => cases items <;> simp [prettyAt, isBlank]
  case object fields _ => cases fields <;> simp [prettyAt, isBlank]
  case null | string   => simp [prettyAt, quote, isBlank]
  case integer n _ =>
    have ⟨c, text, hc, hd⟩ := exists_cons_toString n
    refine ⟨c, text, hc, ?_⟩
    rcases hd with hd | rfl
    · exact ⟨not_isBlank_of_isDigit hd, by rintro rfl; simp at hd⟩
    · decide

theorem readValue_eq_readScalar (hs : skipBlank cs = c :: rest) (h₁ : c ≠ '[')
    (h₂ : c ≠ '\x7b') : readValue (steps + 1) depth cs = readScalar (c :: rest) := by
  rw [readValue] <;> simp_all

theorem isRead_of_readScalar
    (h : ∀ k rest, EndsNumber rest →
      readScalar ((prettyAt k v).toList ++ rest) = some (v, rest))
    (hh : ∀ k, ∃ c text, (prettyAt k v).toList = c :: text ∧ c ≠ '[' ∧ c ≠ '\x7b') :
    IsRead depth v := by
  intro k steps cs rest hr hs hsteps
  have ⟨c, text, ht, h₁, h₂⟩ := hh k
  have ⟨n, hn⟩ := Nat.exists_eq_add_one.mpr (Nat.zero_lt_of_lt hsteps)
  rw [ht, List.cons_append] at hs
  rw [hn, readValue_eq_readScalar hs h₁ h₂, ← List.cons_append, ← ht, h k rest hr]

theorem isRead_null : IsRead depth null :=
  isRead_of_readScalar (fun k rest _ => by simp [prettyAt, readScalar])
    fun _ => by simp [prettyAt]

theorem isRead_bool (b : Bool) : IsRead depth (bool b) := by
  cases b <;>
    exact isRead_of_readScalar (fun k rest _ => by simp [prettyAt, readScalar])
      fun _ => by simp [prettyAt]

theorem isRead_integer {n : Int} (h : FitsWord n) : IsRead depth (integer n) := by
  refine isRead_of_readScalar (fun k rest hr => readScalar_integer hr h) fun k => ?_
  have ⟨c, text, hc, hd⟩ := exists_cons_toString n
  refine ⟨c, text, hc, ?_⟩
  rcases hd with hd | rfl
  · constructor <;> rintro rfl <;> simp at hd
  · decide

theorem isRead_string {text : String} : IsRead depth (string text) := by
  refine isRead_of_readScalar (fun k rest _ => ?_) fun _ => ?_
  · simp [prettyAt, quote, readScalar, readString_quoted]
  · simp [prettyAt, quote]

theorem skipBlank_prettyAt (h : Readable depth v) :
    skipBlank ((prettyAt k v).toList ++ cs) = (prettyAt k v).toList ++ cs := by
  have ⟨c, text, ht, hb, _⟩ := exists_cons_prettyAt (k := k) h
  rw [ht, List.cons_append, skipBlank_cons hb]

theorem readItems_item {item : Json} {done : List Json} (hi : IsRead depth item)
    (hr : EndsNumber rest) (hs : skipBlank cs = (prettyAt k item).toList ++ rest)
    (hsteps : 2 * (prettyAt k item).length < steps) :
    readItems (steps + 1) depth done cs =
      match skipBlank rest with
      | ',' :: rest => readItems steps depth (item :: done) rest
      | ']' :: rest => some (array (item :: done).reverse, rest)
      | _ => none := by
  rw [readItems, hi k steps cs rest hr hs hsteps]
  rfl

theorem readItems_pretty {item : Json} {items done : List Json} {k' : Nat}
    (hr : ∀ v ∈ item :: items, Readable depth v) (hi : ∀ v ∈ item :: items, IsRead depth v)
    (hs : skipBlank cs = (prettyAt k item).toList ++ ((prettyItems k items).toList ++
      ((newLine k').toList ++ ']' :: rest)))
    (hsteps : 2 * ((prettyAt k item).length + (prettyItems k items).length) < steps) :
    readItems (steps + 1) depth done cs = some (array (done.reverse ++ item :: items), rest) := by
  induction items generalizing item done cs steps
  case nil =>
    have hs : skipBlank cs = (prettyAt k item).toList ++ ((newLine k').toList ++ ']' :: rest) := by
      simpa [prettyItems] using hs
    rw [readItems_item (hi item List.mem_cons_self) endsNumber_newLine hs (by omega),
      skipBlank_newLine, skipBlank_cons (by decide)]
    simp
  case cons item' items hi' =>
    have ⟨hr, hr'⟩ := List.forall_mem_cons.mp hr
    have ⟨hi, hi''⟩ := List.forall_mem_cons.mp hi
    simp only [prettyItems, String.length_append] at hsteps
    have hs : skipBlank cs = (prettyAt k item).toList ++ ',' :: ((newLine k).toList ++
        ((prettyAt k item').toList ++ ((prettyItems k items).toList ++
          ((newLine k').toList ++ ']' :: rest)))) := by
      simpa [prettyItems] using hs
    have ⟨n, hn⟩ := Nat.exists_eq_add_one.mpr (Nat.zero_lt_of_lt hsteps)
    rw [readItems_item hi endsNumber_comma hs (by omega), skipBlank_cons (by decide), hn]
    have hlen : ",".length = 1 := rfl
    have hitem := hr' item' List.mem_cons_self
    refine (hi' hr' hi'' (skipBlank_newLine.trans (skipBlank_prettyAt hitem)) ?_).trans (by simp)
    omega

theorem readValue_array (hs : skipBlank cs = '[' :: rest) :
    readValue (steps + 1) (depth + 1) cs =
      match skipBlank rest with
      | ']' :: rest => some (array [], rest)
      | rest => readItems steps depth [] rest := by
  have h := readValue.eq_def (steps + 1) (depth + 1) cs
  simp only [hs] at h
  exact h

theorem isRead_array {items : List Json} (hr : ∀ v ∈ items, Readable depth v)
    (hi : ∀ v ∈ items, IsRead depth v) : IsRead (depth + 1) (array items) := by
  intro k steps cs rest _ hs hsteps
  have ⟨n, hn⟩ := Nat.exists_eq_add_one.mpr (Nat.zero_lt_of_lt hsteps)
  subst hn
  cases items
  case nil =>
    have hs : skipBlank cs = '[' :: ']' :: rest := by simpa [prettyAt] using hs
    rw [readValue_array hs, skipBlank_cons (by decide)]
    rfl
  case cons item items =>
    have hitem := hr item List.mem_cons_self
    have hs : skipBlank cs = '[' :: ((newLine (k + 1)).toList ++ ((prettyAt (k + 1) item).toList ++
        ((prettyItems (k + 1) items).toList ++ ((newLine k).toList ++ ']' :: rest)))) := by
      simpa [prettyAt] using hs
    simp only [prettyAt, String.length_append] at hsteps
    have hlen : "[".length = 1 := rfl
    have ⟨m, hm⟩ := Nat.exists_eq_add_one.mpr (show 0 < n by omega)
    have ⟨c, text, ht, _, hne⟩ := exists_cons_prettyAt (k := k + 1) hitem
    have hread {rest} : (match (prettyAt (k + 1) item).toList ++ rest with
        | ']' :: rest => some (array [], rest)
        | rest => readItems n depth [] rest) =
        readItems n depth [] ((prettyAt (k + 1) item).toList ++ rest) := by
      rw [ht]
      simp [hne]
    rw [readValue_array hs, skipBlank_newLine, skipBlank_prettyAt hitem, hread, hm]
    refine (readItems_pretty hr hi (skipBlank_prettyAt hitem) ?_).trans (by simp)
    omega

theorem skipBlank_quote {name : String} :
    skipBlank ((quote name).toList ++ cs) = (quote name).toList ++ cs := by
  simp [quote, skipBlank_cons, isBlank]

theorem readFields_field {field : String × Json} {done : List (String × Json)}
    (hv : Readable depth field.2) (hi : IsRead depth field.2) (hr : EndsNumber rest)
    (hs : skipBlank cs =
      (quote field.1).toList ++ ':' :: ' ' :: ((prettyAt k field.2).toList ++ rest))
    (hsteps : 2 * (prettyAt k field.2).length < steps) :
    readFields (steps + 1) depth done cs =
      match skipBlank rest with
      | ',' :: rest => readFields steps depth (field :: done) rest
      | '\x7d' :: rest => some (object (field :: done).reverse, rest)
      | _ => none := by
  have hvalue : skipBlank (' ' :: ((prettyAt k field.2).toList ++ rest)) =
      (prettyAt k field.2).toList ++ rest :=
    (skipBlank_blank (by decide)).trans (skipBlank_prettyAt hv)
  have hs : skipBlank cs = '"' :: (field.1.toList.flatMap escape ++
      '"' :: ':' :: ' ' :: ((prettyAt k field.2).toList ++ rest)) := by
    simpa [quote] using hs
  have hvalue := hi k steps _ rest hr hvalue hsteps
  have h := readFields.eq_def (steps + 1) depth done cs
  simp [hs, readString_quoted, skipBlank_cons, isBlank, hvalue, -List.reverse_cons] at h
  exact h

theorem readFields_pretty {field : String × Json} {fields done : List (String × Json)} {k' : Nat}
    (hr : ∀ f ∈ field :: fields, Readable depth f.2)
    (hi : ∀ f ∈ field :: fields, IsRead depth f.2)
    (hs : skipBlank cs = (quote field.1).toList ++ ':' :: ' ' :: ((prettyAt k field.2).toList ++
      ((prettyFields k fields).toList ++ ((newLine k').toList ++ '\x7d' :: rest))))
    (hsteps : 2 * ((prettyAt k field.2).length + (prettyFields k fields).length) < steps) :
    readFields (steps + 1) depth done cs =
      some (object (done.reverse ++ field :: fields), rest) := by
  induction fields generalizing field done cs steps
  case nil =>
    have hs : skipBlank cs = (quote field.1).toList ++ ':' :: ' ' ::
        ((prettyAt k field.2).toList ++ ((newLine k').toList ++ '\x7d' :: rest)) := by
      simpa [prettyFields] using hs
    rw [readFields_field (hr _ List.mem_cons_self) (hi _ List.mem_cons_self) endsNumber_newLine hs
      (by omega), skipBlank_newLine, skipBlank_cons (by decide)]
    simp
  case cons field' fields hi' =>
    have ⟨hr, hr'⟩ := List.forall_mem_cons.mp hr
    have ⟨hi, hi''⟩ := List.forall_mem_cons.mp hi
    simp only [prettyFields, String.length_append] at hsteps
    have hs : skipBlank cs = (quote field.1).toList ++ ':' :: ' ' ::
        ((prettyAt k field.2).toList ++ ',' :: ((newLine k).toList ++ ((quote field'.1).toList ++
          ':' :: ' ' :: ((prettyAt k field'.2).toList ++ ((prettyFields k fields).toList ++
            ((newLine k').toList ++ '\x7d' :: rest)))))) := by
      simpa [prettyFields] using hs
    have ⟨n, hn⟩ := Nat.exists_eq_add_one.mpr (Nat.zero_lt_of_lt hsteps)
    rw [readFields_field hr hi endsNumber_comma hs (by omega), skipBlank_cons (by decide), hn]
    have hlen : ",".length = 1 := rfl
    refine (hi' hr' hi'' (skipBlank_newLine.trans skipBlank_quote) ?_).trans (by simp)
    omega

theorem readValue_object (hs : skipBlank cs = '\x7b' :: rest) :
    readValue (steps + 1) (depth + 1) cs =
      match skipBlank rest with
      | '\x7d' :: rest => some (object [], rest)
      | rest => readFields steps depth [] rest := by
  have h := readValue.eq_def (steps + 1) (depth + 1) cs
  simp only [hs] at h
  exact h

theorem isRead_object {fields : List (String × Json)}
    (hr : ∀ field ∈ fields, Readable depth field.2)
    (hi : ∀ field ∈ fields, IsRead depth field.2) : IsRead (depth + 1) (object fields) := by
  intro k steps cs rest _ hs hsteps
  have ⟨n, hn⟩ := Nat.exists_eq_add_one.mpr (Nat.zero_lt_of_lt hsteps)
  subst hn
  cases fields
  case nil =>
    have hs : skipBlank cs = '\x7b' :: '\x7d' :: rest := by simpa [prettyAt] using hs
    rw [readValue_object hs, skipBlank_cons (by decide)]
    rfl
  case cons field fields =>
    have hs : skipBlank cs = '\x7b' :: ((newLine (k + 1)).toList ++ ((quote field.1).toList ++
        ':' :: ' ' :: ((prettyAt (k + 1) field.2).toList ++
          ((prettyFields (k + 1) fields).toList ++ ((newLine k).toList ++ '\x7d' :: rest))))) := by
      simpa [prettyAt] using hs
    simp only [prettyAt, String.length_append] at hsteps
    have hlen : "\x7b".length = 1 := rfl
    have ⟨m, hm⟩ := Nat.exists_eq_add_one.mpr (show 0 < n by omega)
    have hread {rest} : (match (quote field.1).toList ++ rest with
        | '\x7d' :: rest => some (object [], rest)
        | rest => readFields n depth [] rest) =
        readFields n depth [] ((quote field.1).toList ++ rest) := by
      simp [quote]
    rw [readValue_object hs, skipBlank_newLine, skipBlank_quote, hread, hm]
    refine (readFields_pretty hr hi skipBlank_quote ?_).trans (by simp)
    omega

theorem Readable.isRead (h : Readable depth v) : IsRead depth v := by
  induction h
  case null          => exact isRead_null
  case bool          => exact isRead_bool _
  case integer hf    => exact isRead_integer hf
  case string        => exact isRead_string
  case array hr hi   => exact isRead_array hr hi
  case object hr hi  => exact isRead_object hr hi

theorem ofTextWithin?_listing (h : Readable depth v) : ofTextWithin? depth v.listing = some v := by
  have hs : skipBlank v.listing.toList = (prettyAt 0 v).toList ++ ['\n'] := by
    simp [listing, pretty, skipBlank_prettyAt h]
  have hsteps : 2 * (prettyAt 0 v).length < 2 * v.listing.length + 2 := by
    simp only [listing, pretty, String.length_append]
    omega
  have hr := h.isRead 0 _ _ _ (by simp [EndsNumber]) hs hsteps
  simp [ofTextWithin?, hr, isBlank, skipBlank]

end Values

end PegParser.Json
