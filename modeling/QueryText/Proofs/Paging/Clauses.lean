import QueryText.Dialect.Presets
import QueryText.Proofs.Digits
import QueryText.Render.Select
import QueryText.Text.Blank

namespace QueryText

namespace Window

def Keeps (w : Window) (i : Nat) : Prop :=
  (w.offset.getD 0).toNat ≤ i ∧ ∀ n, w.limit = some n → i < (w.offset.getD 0).toNat + n.toNat

theorem keeps_of_isRestricting {w : Window} (h : w.isRestricting = false) (i : Nat) : w.Keeps i := by
  obtain ⟨_ | n, _ | m⟩ := w <;> simp_all [Keeps, isRestricting]

theorem lt_saturatingAdd {i : Nat} (hi : i < 0x7fffffffffffffff) (a b : UInt64) :
    i < (saturatingAdd a b).toNat ↔ i < a.toNat + b.toNat := by
  rw [toNat_saturatingAdd, UInt64.size]
  omega

theorem le_saturatingAdd (a b : UInt64) : a.toNat ≤ (saturatingAdd a b).toNat := by
  have ha := a.toNat_lt_size
  rw [toNat_saturatingAdd]
  omega

end Window

namespace Paging

open Text.Blank

inductive Clause where
  /-- as many rows, behind the skipped ones -/
  | limit (n : Nat)
  /-- as many rows skipped -/
  | offset (n : Nat)
  /-- the rows with these indexes, the second one excluded -/
  | range (start stop : Nat)
  deriving DecidableEq

namespace Clause

/-- Rows are skipped before they are counted, whichever clause comes first. -/
def skipped : List Clause → Nat
  | [] => 0
  | .offset n :: ks => n + skipped ks
  | _ :: ks => skipped ks

def Admits (skip i : Nat) : Clause → Prop
  | limit n => i < skip + n
  | offset _ => skip ≤ i
  | range start stop => start ≤ i ∧ i < stop

def Keeps (ks : List Clause) (i : Nat) : Prop :=
  ∀ k ∈ ks, k.Admits (skipped ks) i

def ofWindow (style : Pagination) (w : Window) : List Clause :=
  match style with
  | .limitOffset missing =>
    ((w.limit.or (if w.offset.isSome then missing else none)).map fun n => limit n.toNat).toList ++
      (w.offset.map fun n => offset n.toNat).toList
  | .offsetFetch =>
    (w.offset.map fun n => offset n.toNat).toList ++ (w.limit.map fun n => limit n.toNat).toList
  | .range =>
    if w.isRestricting then
      [range (w.offset.getD 0).toNat (w.stop?.getD Render.Query.rangeEnd).toNat]
    else []
  | .external => []

/-- The window is in the text: the style writes it, and a limit that it adds takes no row away. -/
inductive Written : Pagination → Prop where
  | limitOffset {missing : Option UInt64} (h : ∀ n, missing = some n → n = Window.largest) :
      Written (.limitOffset missing)
  | offsetFetch : Written .offsetFetch
  | range : Written .range

theorem keeps_ofWindow {style : Pagination} (hs : Written style) (w : Window) {i : Nat}
    (hi : i < 0x7fffffffffffffff) : Keeps (ofWindow style w) i ↔ w.Keeps i := by
  obtain ⟨l, o⟩ := w
  have hlargest : Window.largest.toNat = 0xffffffffffffffff := rfl
  have hend : Render.Query.rangeEnd.toNat = 0x7fffffffffffffff := rfl
  cases hs with
  | limitOffset hmissing =>
    rename_i missing
    cases l with
    | some n => cases o <;> simp [ofWindow, Keeps, Window.Keeps, skipped, Admits, and_comm]
    | none =>
      cases o with
      | none => simp [ofWindow, Keeps, Window.Keeps]
      | some m =>
        cases missing with
        | none => simp [ofWindow, Keeps, Window.Keeps, skipped, Admits]
        | some n =>
          obtain rfl := hmissing n rfl
          simp only [ofWindow, Keeps, Window.Keeps, skipped, Admits, Option.none_or, Option.isSome_some,
            ↓reduceIte, Option.map_some, Option.toList_some, List.cons_append, List.nil_append,
            List.mem_cons, List.not_mem_nil, or_false, forall_eq_or_imp, forall_eq, hlargest,
            Option.getD_some, reduceCtorEq, false_implies, implies_true, and_true]
          omega
  | offsetFetch => cases l <;> cases o <;> simp [ofWindow, Keeps, Window.Keeps, skipped, Admits]
  | range =>
    cases l with
    | some n =>
      simp [ofWindow, Keeps, Window.Keeps, Window.isRestricting, Window.stop?, Admits,
        Window.lt_saturatingAdd hi]
    | none =>
      cases o with
      | none => simp [ofWindow, Keeps, Window.Keeps, Window.isRestricting]
      | some m =>
        simp [ofWindow, Keeps, Window.Keeps, Window.isRestricting, Window.stop?, Admits, hend]
        omega

theorem le_of_range_iff (style : Pagination) (w : Window) :
    (∀ start stop, range start stop ∈ ofWindow style w → start ≤ stop) ↔
      ¬ (style = .range ∧ w.limit = none ∧ 0x7fffffffffffffff < (w.offset.getD 0).toNat) := by
  obtain ⟨l, o⟩ := w
  have hend : Render.Query.rangeEnd.toNat = 0x7fffffffffffffff := rfl
  cases style with
  | limitOffset missing => simp [ofWindow]
  | offsetFetch => simp [ofWindow]
  | external => simp [ofWindow]
  | range =>
    cases l with
    | some n =>
      simpa [ofWindow, Window.isRestricting, Window.stop?] using Window.le_saturatingAdd (o.getD 0) n
    | none => cases o <;> simp [ofWindow, Window.isRestricting, Window.stop?, hend]

end Clause

def wordsOf (cs : List Char) : List (List Char) :=
  (cs.splitOnP isBlank).filter (!·.isEmpty)

@[simp] theorem wordsOf_nil : wordsOf [] = [] := by
  simp [wordsOf]

theorem wordsOf_append_blank (cs ds : List Char) {b : Char} (hb : isBlank b = true) :
    wordsOf (cs ++ b :: ds) = wordsOf cs ++ wordsOf ds := by
  simp only [wordsOf, List.splitOnP_append_cons cs ds hb, List.filter_append]

theorem wordsOf_word {w : List Char} (hw : w ≠ []) (h : ∀ c ∈ w, isBlank c = false) :
    wordsOf w = [w] := by
  simp [wordsOf, List.splitOnP_eq_singleton h, hw]

def number? (w : List Char) : Option Nat :=
  if !w.isEmpty && w.all Char.isDigit then some (Decimal.Digits.number w) else none

theorem number?_toDigits (n : Nat) : number? (Nat.toDigits 10 n) = some n := by
  have h := Decimal.Digits.spells_toDigits n
  have hdigits : (Nat.toDigits 10 n).all Char.isDigit = true := List.all_eq_true.mpr h.digits
  simp [number?, h.ne_nil, hdigits, h.number_eq]

def numberBeforeComma? (w : List Char) : Option Nat :=
  match w.reverse with
  | ',' :: ds => number? ds.reverse
  | _ => none

def clauses? : List String → Option (List Clause)
  | [] => some []
  | "limit" :: n :: ws => do some (.limit (← number? n.toList) :: (← clauses? ws))
  | "offset" :: n :: "rows" :: ws => do some (.offset (← number? n.toList) :: (← clauses? ws))
  | "offset" :: n :: ws => do some (.offset (← number? n.toList) :: (← clauses? ws))
  | "fetch" :: "first" :: n :: "rows" :: "only" :: ws => do
    some (.limit (← number? n.toList) :: (← clauses? ws))
  | "RANGE" :: a :: b :: ws => do
    some (.range (← numberBeforeComma? a.toList) (← number? b.toList) :: (← clauses? ws))
  | _ => none

def readClauses (s : String) : Option (List Clause) :=
  clauses? ((wordsOf s.toList).map String.ofList)

theorem not_isBlank_of_isDigit {c : Char} (h : c.isDigit = true) : isBlank c = false := by
  simp only [Char.isDigit, Bool.and_eq_true, decide_eq_true_eq, UInt32.le_iff_toNat_le] at h
  have h1 : 48 ≤ c.toNat := h.1
  have h2 : c.toNat ≤ 57 := h.2
  simp only [isBlank, Text.CodeRanges.covers, blankRanges, List.any_eq_false, List.mem_cons]
  grind

def IsWord (s : String) : Prop :=
  s.toList ≠ [] ∧ ∀ c ∈ s.toList, isBlank c = false

instance (s : String) : Decidable (IsWord s) :=
  decidable_of_iff (s.toList ≠ [] ∧ s.toList.all (!isBlank ·)) (by simp [IsWord])

theorem isWord_number (n : Nat) : IsWord (toString n) := by
  rw [IsWord, Nat.toString_eq_ofList_toDigits, String.toList_ofList]
  have h := Decimal.Digits.spells_toDigits n
  exact ⟨h.ne_nil, fun c hc => not_isBlank_of_isDigit (h.digits c hc)⟩

theorem isWord_beforeComma (n : Nat) : IsWord (toString n ++ ",") := by
  obtain ⟨-, hblank⟩ := isWord_number n
  refine ⟨by simp, fun c hc => ?_⟩
  rw [String.toList_append, List.mem_append] at hc
  obtain hc | hc := hc
  · exact hblank c hc
  · obtain rfl : c = ',' := by simpa using hc
    decide

theorem wordsOf_intercalate {ws : List String} (h : ∀ w ∈ ws, IsWord w) :
    wordsOf (" ".intercalate ws).toList = ws.map String.toList := by
  rw [String.toList_intercalate]
  induction ws with
  | nil => simp
  | cons w ws ih =>
    have hw := h w (by simp)
    cases ws with
    | nil => simp [wordsOf_word hw.1 hw.2]
    | cons v vs =>
      have htail := ih fun u hu => h u (by simp [hu])
      have hblank : " ".toList = [' '] := rfl
      rw [List.map_cons, hblank] at htail
      rw [List.map_cons, List.map_cons, List.intercalate_cons_cons, hblank, List.append_assoc,
        List.singleton_append, wordsOf_append_blank _ _ (by decide), htail, wordsOf_word hw.1 hw.2]
      rfl

namespace Clause

def spelled : Pagination → Clause → List String
  | .offsetFetch, limit n => ["fetch", "first", toString n, "rows", "only"]
  | .offsetFetch, offset n => ["offset", toString n, "rows"]
  | _, limit n => ["limit", toString n]
  | _, offset n => ["offset", toString n]
  | _, range start stop => ["RANGE", toString start ++ ",", toString stop]

theorem isWord_spelled (style : Pagination) (k : Clause) : ∀ w ∈ k.spelled style, IsWord w := by
  have hkeyword : ∀ w ∈ ["limit", "offset", "rows", "fetch", "first", "only", "RANGE"], IsWord w := by
    decide
  cases style <;> cases k <;> grind [spelled, isWord_number, isWord_beforeComma]

theorem clauses?_spelled (style : Pagination) (k : Clause) {ws : List String}
    (h : ws.head? ≠ some "rows") : clauses? (k.spelled style ++ ws) = (clauses? ws).map (k :: ·) := by
  have hn (n : Nat) : number? (toString n).toList = some n := by
    rw [Nat.toString_eq_ofList_toDigits, String.toList_ofList, number?_toDigits]
  have hcomma (n : Nat) : numberBeforeComma? (toString n ++ ",").toList = some n := by
    simp [numberBeforeComma?, number?_toDigits]
  have hoffset (n : Nat) : clauses? ("offset" :: toString n :: ws) = (clauses? ws).map (.offset n :: ·) := by
    cases ws with
    | nil =>
      simp only [clauses?, hn]
      rfl
    | cons w ws =>
      have hw : w ≠ "rows" := by simpa using h
      rw [clauses?]
      · rw [hn]
        cases clauses? (w :: ws) <;> rfl
      · grind
  cases style <;> cases k <;> simp only [spelled, List.cons_append, List.nil_append]
  case limitOffset.offset missing n => exact hoffset n
  case range.offset n => exact hoffset n
  case external.offset n => exact hoffset n
  all_goals
    rw [clauses?]
    simp only [hn, hcomma]
    cases clauses? ws <;> rfl

def text (style : Pagination) (clauseBreak : String) (ks : List Clause) : String :=
  String.join (ks.map fun k => clauseBreak ++ " ".intercalate (k.spelled style))

theorem clauses?_flatMap_spelled (style : Pagination) (ks : List Clause) :
    clauses? (ks.flatMap (spelled style)) = some ks := by
  induction ks with
  | nil => rfl
  | cons k ks ih =>
    rw [List.flatMap_cons, clauses?_spelled style k, ih, Option.map_some]
    cases ks with
    | nil => simp
    | cons l ls => cases style <;> cases l <;> simp [spelled]

theorem wordsOf_text (style : Pagination) {clauseBreak : String} {b : Char}
    (hbreak : clauseBreak.toList = [b]) (hb : isBlank b = true) (ks : List Clause) :
    wordsOf (text style clauseBreak ks).toList = (ks.flatMap (spelled style)).map String.toList := by
  have hcons (cs : List Char) : wordsOf (b :: cs) = wordsOf cs := by
    simpa using wordsOf_append_blank [] cs hb
  induction ks with
  | nil => simp [text]
  | cons k ks ih =>
    have hk := wordsOf_intercalate (isWord_spelled style k)
    rw [List.flatMap_cons, List.map_append, ← hk, ← ih]
    simp only [text, List.map_cons, String.join_cons, String.toList_append, hbreak, List.cons_append,
      List.nil_append, hcons]
    cases ks with
    | nil => simp
    | cons l ls =>
      simp only [List.map_cons, String.join_cons, String.toList_append, hbreak, List.cons_append,
        List.nil_append, wordsOf_append_blank _ _ hb, hcons]

theorem readClauses_text (style : Pagination) {clauseBreak : String} {b : Char}
    (hbreak : clauseBreak.toList = [b]) (hb : isBlank b = true) (ks : List Clause) :
    readClauses (text style clauseBreak ks) = some ks := by
  have hwords : (ks.flatMap (spelled style)).map (String.ofList ∘ String.toList) = ks.flatMap (spelled style) := by
    simp [Function.comp_def]
  rw [readClauses, wordsOf_text style hbreak hb, List.map_map, hwords, clauses?_flatMap_spelled]

end Clause

end Paging

end QueryText
