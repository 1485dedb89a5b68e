import QueryText.Proofs.Comments.Scan
import QueryText.Proofs.Literals.Characters

namespace QueryText

open Comments

/-- A number below zero, and the zero of floating point that is written with a sign. -/
def Value.isNegative : Value → Bool
  | int n => n.toInt < 0
  | float x => Decimal.Notation.isNegative x.toBits
  | _ => false

def LiteralForms.words (l : LiteralForms) : List String :=
  [l.true, l.false, l.null, l.alwaysTrue, l.alwaysFalse]

def LiteralForms.wraps (l : LiteralForms) : List (Option Wrap) :=
  [l.date, l.time, l.dateTime, l.bytes]

namespace Rules

/-- The characters that texts and identifiers are quoted with. -/
def marks (r : Rules) : List Char :=
  '\x27' :: r.identifierQuote.toList

/-- The text has no comment, and it ends outside quotes and not with a dash. -/
def Quiet (r : Rules) (s : String) : Prop :=
  read r.marks (.outside false) s.toList = some (.outside false)

instance (r : Rules) (s : String) : Decidable (r.Quiet s) :=
  inferInstanceAs (Decidable (_ = _))

def Undashed (s : String) : Prop :=
  s.toList.head?.any (· != '-') = true

instance (s : String) : Decidable (Undashed s) :=
  inferInstanceAs (Decidable (_ = _))

def Fronted (dashed : Prop) (s : String) : Prop :=
  ∃ c, s.toList.head? = some c ∧ (c = '-' ↔ dashed)

def Encloses (r : Rules) (w : Wrap) : Prop :=
  Undashed w.before ∧ read r.marks (.outside false) w.before.toList = some (.quoted '\x27') ∧
    read r.marks (.quoted '\x27') w.after.toList = some (.outside false)

instance (r : Rules) (w : Wrap) : Decidable (r.Encloses w) :=
  inferInstanceAs (Decidable (_ ∧ _ ∧ _))

def punctuation : List Char :=
  [' ', '.', ',', '(', ')', '*', '?']

structure Calm (r : Rules) : Prop where
  grammar : r.grammar = .sql
  quotes : ∃ q, r.Quotes q
  notDash : '-' ∉ r.marks
  unmarked : punctuation.all (· ∉ r.marks) = true
  keywords : ∀ k ∈ r.keywords.toList, ∀ s ∈ k, r.Quiet s
  words : ∀ s ∈ r.literals.words, r.Quiet s ∧ Undashed s
  wraps : ∀ w ∈ r.literals.wraps, ∀ x ∈ w, r.Encloses x
  clauseBreak : r.Quiet r.clauseBreak
  placeholder : r.placeholders = .question ∨ r.placeholders = .dollar

theorem calm_of_sql (d : Dialect) (h : (ofDialect d).grammar = .sql) : (ofDialect d).Calm := by
  have hq := quotes_of_sql d h
  cases d with
  | ansi | derby | mysql =>
    exact ⟨h, hq, by decide, by decide, by decide, by decide, by decide, by decide, .inl rfl⟩
  | postgres => exact ⟨h, hq, by decide, by decide, by decide, by decide, by decide, by decide, .inr rfl⟩
  | jpql | jdoql => cases h

variable {r : Rules}

theorem undashed_iff {s : String} : Undashed s ↔ ∃ c, s.toList.head? = some c ∧ c ≠ '-' := by
  rw [Undashed]
  cases s.toList.head? <;> simp

theorem Undashed.fronted {s : String} (hs : Undashed s) {dashed : Prop} (h : ¬ dashed) : Fronted dashed s := by
  obtain ⟨c, hc, hne⟩ := undashed_iff.mp hs
  exact ⟨c, hc, fun he => absurd he hne, fun hd => absurd hd h⟩

theorem Fronted.congr {A B : Prop} {s : String} (h : Fronted A s) (hAB : A ↔ B) : Fronted B s := by
  obtain ⟨c, hc, hdash⟩ := h
  exact ⟨c, hc, hdash.trans hAB⟩

theorem Fronted.append {A : Prop} {s : String} (h : Fronted A s) (t : String) : Fronted A (s ++ t) := by
  obtain ⟨c, hc, hdash⟩ := h
  refine ⟨c, ?_, hdash⟩
  rw [String.toList_append, List.head?_append, hc]
  rfl

theorem Undashed.append {s : String} (hs : Undashed s) (t : String) : Undashed (s ++ t) := by
  obtain ⟨c, hc, hne⟩ := undashed_iff.mp hs
  refine undashed_iff.mpr ⟨c, ?_, hne⟩
  rw [String.toList_append, List.head?_append, hc]
  rfl

theorem Quiet.append {s t : String} (hs : r.Quiet s) (ht : r.Quiet t) : r.Quiet (s ++ t) := by
  rw [Quiet, String.toList_append, read_append, hs, Option.bind_some, ht]

theorem Quiet.signed {s : String} (hs : r.Quiet s) (hu : Undashed s) : r.Quiet ("-" ++ s) := by
  obtain ⟨c, hc, hne⟩ := undashed_iff.mp hu
  have hnil : s.toList ≠ [] := fun h => by simp [h] at hc
  rw [Quiet, String.toList_append, read_append]
  change read r.marks (.outside true) s.toList = _
  rw [read_behind_dash hnil, hc, if_neg (by simpa using hne), hs]

namespace Calm

theorem plain_of_isNameChar (h : r.Calm) {c : Char} (hc : isNameChar c = true) : c ≠ '-' ∧ c ∉ r.marks := by
  obtain ⟨q, hq⟩ := h.quotes
  have hne {d : Char} (hd : isNameChar d = false) : c ≠ d := fun he => by
    rw [he, hd] at hc
    cases hc
  refine ⟨hne (by decide), ?_⟩
  simp only [marks, hq.quote, Option.toList_some, List.mem_cons, List.not_mem_nil, or_false, not_or]
  exact ⟨hne (by decide), hne hq.notName⟩

theorem plain_of_isDigit (h : r.Calm) {c : Char} (hc : c.isDigit = true) : c ≠ '-' ∧ c ∉ r.marks :=
  h.plain_of_isNameChar (by simp [isNameChar, Char.isAlphanum, hc])

theorem plain_of_mem (h : r.Calm) {c : Char} (hc : c ∈ punctuation) : c ≠ '-' ∧ c ∉ r.marks :=
  ⟨fun he => absurd (he ▸ hc) (by decide), by simpa using List.all_eq_true.mp h.unmarked c hc⟩

theorem quiet_words (h : r.Calm) {s : String}
    (hs : s.toList.all (fun c => isNameChar c || punctuation.contains c) = true) : r.Quiet s := by
  refine read_plain fun c hc => ?_
  have hchar := List.all_eq_true.mp hs c hc
  rw [Bool.or_eq_true, List.contains_iff_mem] at hchar
  exact hchar.elim h.plain_of_isNameChar h.plain_of_mem

theorem undashed_of_plain {cs : List Char} (hne : cs ≠ [])
    (hcs : ∀ c ∈ cs, c ≠ '-' ∧ c ∉ r.marks) :
    r.Quiet (String.ofList cs) ∧ Undashed (String.ofList cs) := by
  rw [Quiet, undashed_iff, String.toList_ofList]
  obtain ⟨c, ds, rfl⟩ := List.exists_cons_of_ne_nil hne
  exact ⟨read_plain hcs, c, rfl, (hcs c List.mem_cons_self).1⟩

theorem quote_mem (h : r.Calm) {q : Char} (hq : q ∈ r.marks) : q ≠ '-' := fun he => h.notDash (he ▸ hq)

theorem quiet_quote (h : r.Calm) {q : Char} (hq : q ∈ r.marks) (s : String) :
    r.Quiet (Text.Quoted.quote q s) ∧ Undashed (Text.Quoted.quote q s) := by
  refine ⟨read_quote hq (h.quote_mem hq) s, ?_⟩
  rw [undashed_iff, Text.Quoted.quote, String.toList_ofList]
  exact ⟨q, rfl, h.quote_mem hq⟩

theorem quiet_identifier (h : r.Calm) (n : String) :
    r.Quiet (r.identifier n) ∧ Undashed (r.identifier n) := by
  obtain ⟨q, hq⟩ := h.quotes
  unfold identifier
  rw [hq.quote]
  dsimp only
  split
  · next hplain =>
    rw [Bool.and_eq_true] at hplain
    obtain ⟨hne, hchars⟩ := isNameChar_of_isPlainName hplain.1
    have hn := undashed_of_plain hne fun c hc => h.plain_of_isNameChar (hchars c hc)
    rwa [String.ofList_toList] at hn
  · exact h.quiet_quote (by simp [marks, hq.quote]) n

theorem quiet_nat (h : r.Calm) (n : Nat) : r.Quiet (toString n) ∧ Undashed (toString n) := by
  rw [Nat.toString_eq_ofList_toDigits]
  have hn := Decimal.Digits.spells_toDigits n
  exact undashed_of_plain hn.ne_nil fun c hc => h.plain_of_isDigit (hn.digits c hc)

theorem quiet_placeholder (h : r.Calm) (n : Nat) :
    r.Quiet (r.placeholder n) ∧ Undashed (r.placeholder n) := by
  unfold Rules.placeholder
  obtain hp | hp := h.placeholder
  · rw [hp, PlaceholderStyle.text]
    exact ⟨h.quiet_words (by decide), by decide⟩
  · rw [hp, PlaceholderStyle.text]
    have hdollar : r.Quiet "$" ∧ Undashed "$" := ⟨h.quiet_words (by decide), by decide⟩
    exact ⟨hdollar.1.append (h.quiet_nat n).1, hdollar.2.append _⟩

theorem quiet_sign {s : String} (hs : r.Quiet s ∧ Undashed s) (negative : Bool) :
    r.Quiet ((if negative then "-" else "") ++ s) ∧
      Fronted (negative = true) ((if negative then "-" else "") ++ s) := by
  cases negative with
  | false => exact ⟨by simpa using hs.1, by simpa using hs.2.fronted (by decide)⟩
  | true => exact ⟨hs.1.signed hs.2, '-', by simp, by simp⟩

theorem quiet_int (h : r.Calm) (n : Int) :
    r.Quiet (toString n) ∧ Fronted (decide (n < 0) = true) (toString n) := by
  cases n with
  | ofNat n =>
    have hn := h.quiet_nat n
    exact ⟨hn.1, hn.2.fronted (by simp)⟩
  | negSucc n =>
    obtain ⟨hquiet, c, hc, hdash⟩ := quiet_sign (h.quiet_nat (n + 1)) true
    exact ⟨hquiet, c, hc, hdash.trans (by simp [Int.negSucc_lt_zero])⟩

section Float

open Decimal.Notation

theorem plain_of_isFigure (h : r.Calm) {c : Char} (hc : isFigure c = true) : c ≠ '-' ∧ c ∉ r.marks := by
  simp only [isFigure, Bool.or_eq_true, beq_iff_eq] at hc
  obtain hc | rfl := hc
  · exact h.plain_of_isDigit hc
  · exact h.plain_of_mem (by decide)

theorem quiet_scientific (h : r.Calm) {digits : List Char} (hd : ∀ c ∈ digits, c.isDigit = true)
    (exponent : Int) :
    r.Quiet (String.ofList (scientific digits exponent)) ∧
      Undashed (String.ofList (scientific digits exponent)) := by
  generalize hpower : (digits.length + exponent - 1 : Int) = power
  have hfront : ∀ c ∈ digits.take 1 ++ (if digits.length ≤ 1 then [] else '.' :: digits.drop 1) ++ ['e'],
      c ≠ '-' ∧ c ∉ r.marks := by
    intro c hc
    simp only [List.mem_append, List.mem_singleton] at hc
    obtain (hc | hc) | rfl := hc
    · exact h.plain_of_isDigit (hd c (List.mem_of_mem_take hc))
    · split at hc
      · cases hc
      · obtain rfl | hc := List.mem_cons.mp hc
        · exact h.plain_of_isFigure (by decide)
        · exact h.plain_of_isDigit (hd c (List.mem_of_mem_drop hc))
    · exact h.plain_of_isNameChar (by decide)
  have heq : String.ofList (scientific digits exponent) =
      String.ofList (digits.take 1 ++ (if digits.length ≤ 1 then [] else '.' :: digits.drop 1) ++ ['e']) ++
        toString power := by
    rw [← String.toList_inj]
    simp [scientific, hpower]
  obtain ⟨hquiet, hundashed⟩ := undashed_of_plain (r := r) (by simp) hfront
  rw [heq]
  exact ⟨hquiet.append (h.quiet_int power).1, hundashed.append _⟩

theorem quiet_unsigned (h : r.Calm) (d : Decimal.Shortest.Scaled) :
    r.Quiet (String.ofList (unsigned d)) ∧ Undashed (String.ofList (unsigned d)) := by
  have hdigits : ∀ c ∈ (stripZeros (Nat.toDigits 10 d.coefficient)).1, c.isDigit = true :=
    fun c hc => isDigit_of_mem_stripZeros hc
  unfold unsigned
  dsimp only
  split
  · obtain ⟨hne, hchars⟩ := isFigure_positional hdigits
      (d.exponent + (stripZeros (Nat.toDigits 10 d.coefficient)).2)
    exact undashed_of_plain hne fun c hc => h.plain_of_isFigure (hchars c hc)
  · exact h.quiet_scientific hdigits _

theorem quiet_float (h : r.Calm) {x : Float} (hx : isFinite x = true) :
    r.Quiet (floatText x) ∧ Fronted (isNegative x.toBits = true) (floatText x) := by
  have hfigures : ∀ c ∈ ['0', '.', '0'], c ≠ '-' ∧ c ∉ r.marks := fun c hc =>
    h.plain_of_isFigure (List.all_eq_true.mp (by decide) c hc)
  have hzero : r.Quiet "0.0" ∧ Undashed "0.0" := undashed_of_plain (by decide) hfigures
  unfold floatText
  dsimp only
  split
  · exact quiet_sign hzero _
  · exact quiet_sign (h.quiet_unsigned _) _

end Float

section Literal

theorem quiet_wrapped (h : r.Calm) {form : Option Wrap} (hform : form ∈ r.literals.wraps)
    {kind content s : String} (hc : '\x27' ∉ content.toList) (hs : r.wrapped form kind content = .ok s) :
    r.Quiet s ∧ Undashed s := by
  cases form with
  | none => simp [wrapped, unsupported] at hs
  | some w =>
    obtain rfl := Except.ok.inj hs
    obtain ⟨hundashed, hopen, hclose⟩ := h.wraps _ hform w rfl
    rw [Wrap.around]
    refine ⟨?_, (hundashed.append _).append _⟩
    rw [Quiet, String.toList_append, String.toList_append, read_append, read_append, hopen,
      Option.bind_some, read_quoted hc, Option.bind_some, hclose]

theorem foreign_quote : Foreign '\x27' :=
  ⟨by decide, by decide, by decide⟩

theorem quiet_intercalate (h : r.Calm) {ts : List String} (hts : ∀ t ∈ ts, r.Quiet t) :
    r.Quiet (String.intercalate ", " ts) := by
  induction ts with
  | nil => exact h.quiet_words (by decide)
  | cons t ts ih =>
    obtain ⟨ht, hts⟩ := List.forall_mem_cons.mp hts
    cases ts with
    | nil => simpa using ht
    | cons u us =>
      rw [String.intercalate_cons_cons]
      exact (ht.append (h.quiet_words (by decide))).append (ih hts)

theorem fronted_of_undashed {v : Value} {s : String} (hv : v.isNegative = false)
    (h : r.Quiet s ∧ Undashed s) : r.Quiet s ∧ Fronted (v.isNegative = true) s :=
  ⟨h.1, h.2.fronted (by simp [hv])⟩

mutual

theorem quiet_literal (h : r.Calm) : (v : Value) → {s : String} → r.literal v = .ok s →
    r.Quiet s ∧ Fronted (v.isNegative = true) s
  | .null, s, hs => by
    obtain rfl : r.literals.null = s := Except.ok.inj hs
    exact fronted_of_undashed rfl (h.words _ (by simp [LiteralForms.words]))
  | .bool b, s, hs => by
    obtain rfl : (if b then r.literals.true else r.literals.false) = s := Except.ok.inj hs
    exact fronted_of_undashed rfl (h.words _ (by cases b <;> simp [LiteralForms.words]))
  | .int n, s, hs => by
    obtain rfl : toString n.toInt = s := Except.ok.inj hs
    exact h.quiet_int n.toInt
  | .uint n, s, hs => by
    obtain rfl : toString n.toNat = s := Except.ok.inj hs
    exact fronted_of_undashed rfl (h.quiet_nat n.toNat)
  | .float x, s, hs => by
    simp only [literal, floatLiteral] at hs
    split at hs
    · next hx =>
      obtain rfl := Except.ok.inj hs
      exact h.quiet_float hx
    · cases hs
  | .text t, s, hs => by
    obtain rfl : Text.Quoted.quote '\x27' t = s := Except.ok.inj hs
    exact fronted_of_undashed rfl (h.quiet_quote (by simp [marks]) t)
  | .date d, s, hs =>
    fronted_of_undashed rfl (h.quiet_wrapped (by simp [LiteralForms.wraps]) (foreign_quote.notMem_date d) hs)
  | .time t, s, hs =>
    fronted_of_undashed rfl (h.quiet_wrapped (by simp [LiteralForms.wraps]) (foreign_quote.notMem_clock t) hs)
  | .dateTime t, s, hs =>
    fronted_of_undashed rfl (h.quiet_wrapped (by simp [LiteralForms.wraps]) (foreign_quote.notMem_dateTime t) hs)
  | .bytes bs, s, hs =>
    fronted_of_undashed rfl (h.quiet_wrapped (by simp [LiteralForms.wraps]) (foreign_quote.notMem_bytes bs) hs)
  | .list items, s, hs => by
    simp only [literal] at hs
    split at hs
    · split at hs
      · next texts htexts =>
        obtain rfl := Except.ok.inj hs
        have hopen : r.Quiet "(" ∧ Undashed "(" := ⟨h.quiet_words (by decide), by decide⟩
        have hitems := h.quiet_intercalate (h.quiet_literals items htexts)
        exact fronted_of_undashed rfl
          ⟨(hopen.1.append hitems).append (h.quiet_words (by decide)), (hopen.2.append _).append _⟩
      · cases hs
    · cases hs

theorem quiet_literals (h : r.Calm) : (vs : List Value) → {ts : List String} → r.literalAll vs = .ok ts →
    ∀ t ∈ ts, r.Quiet t
  | [], ts, hs => by
    obtain rfl : [] = ts := Except.ok.inj hs
    simp
  | v :: vs, ts, hs => by
    simp only [literalAll] at hs
    split at hs
    · cases hs
    · next s hv =>
      split at hs
      · cases hs
      · next us hvs =>
        obtain rfl := Except.ok.inj hs
        exact List.forall_mem_cons.mpr ⟨(h.quiet_literal v hv).1, h.quiet_literals vs hvs⟩

end

end Literal

end Calm

end Rules

end QueryText
