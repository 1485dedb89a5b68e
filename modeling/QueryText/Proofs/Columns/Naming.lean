import QueryText.Dialect.Presets
import Mathlib.Data.List.TakeWhile

namespace QueryText

namespace Text.Quoted

/-- What stands before the closing quote, and what follows it. -/
def unquote? (q : Char) : List Char → Option (List Char × List Char)
  | [] => none
  | c :: cs =>
    if c = q then
      match cs with
      | [] => some ([], [])
      | d :: ds => if d = q then (unquote? q ds).map fun x => (q :: x.1, x.2) else some ([], d :: ds)
    else (unquote? q cs).map fun x => (c :: x.1, x.2)

theorem unquote?_cons {q c : Char} (hc : c ≠ q) (cs : List Char) :
    unquote? q (c :: cs) = (unquote? q cs).map fun x => (c :: x.1, x.2) := by
  cases cs <;> simp [unquote?, hc]

theorem unquote?_doubled {q : Char} (cs : List Char) {rest : List Char} (h : rest.head? ≠ some q) :
    unquote? q (doubled q cs ++ q :: rest) = some (cs, rest) := by
  induction cs with
  | nil =>
    cases rest with
    | nil => simp [doubled, unquote?]
    | cons d ds =>
      have hd : d ≠ q := fun he => h (by simp [he])
      simp [doubled, unquote?, hd]
  | cons c cs ih =>
    by_cases hc : c = q
    · simp [doubled, unquote?, hc, ih]
    · simp [doubled, hc, unquote?_cons, ih]

end Text.Quoted

namespace Rules

open Text

def isNameChar (c : Char) : Bool :=
  c.isAlphanum || c == '_' || c == '$'

theorem isNameChar_of_isPlainName {cs : List Char} (h : isPlainName cs = true) :
    cs ≠ [] ∧ ∀ c ∈ cs, isNameChar c = true := by
  cases cs with
  | nil => cases h
  | cons c cs =>
    rw [isPlainName, Bool.and_eq_true, List.all_eq_true] at h
    exact ⟨List.cons_ne_nil c cs, h.2⟩

/-- Identifiers are quoted with a character that is in no plain name. -/
structure Quotes (r : Rules) (q : Char) : Prop where
  quote : r.identifierQuote = some q
  notName : isNameChar q = false
  notDot : q ≠ '.'

theorem quotes_of_sql (d : Dialect) (h : (ofDialect d).grammar = .sql) :
    ∃ q, (ofDialect d).Quotes q := by
  cases d with
  | ansi | derby | postgres => exact ⟨'\x22', rfl, by decide, by decide⟩
  | mysql => exact ⟨'\x60', rfl, by decide, by decide⟩
  | jpql | jdoql => cases h

def readName? (q : Char) (cs : List Char) : Option (String × List Char) :=
  if cs.head? = some q then (Quoted.unquote? q cs.tail).map fun x => (String.ofList x.1, x.2)
  else some (String.ofList (cs.takeWhile isNameChar), cs.dropWhile isNameChar)

variable {r : Rules} {q : Char}

theorem span_isNameChar {cs rest : List Char} (hcs : ∀ c ∈ cs, isNameChar c = true)
    (hrest : ∀ c ∈ rest.head?, c = '.') :
    (cs ++ rest).takeWhile isNameChar = cs ∧ (cs ++ rest).dropWhile isNameChar = rest := by
  have hstop : rest.takeWhile isNameChar = [] ∧ rest.dropWhile isNameChar = rest := by
    cases rest with
    | nil => exact ⟨rfl, rfl⟩
    | cons c cs =>
      obtain rfl := hrest c rfl
      exact ⟨rfl, rfl⟩
  rw [List.takeWhile_append_of_pos hcs, List.dropWhile_append_of_pos hcs, hstop.1, hstop.2,
    List.append_nil]
  exact ⟨rfl, rfl⟩

theorem head_ne_of_isPlainName (h : r.Quotes q) {cs : List Char} (hcs : isPlainName cs = true)
    (rest : List Char) : (cs ++ rest).head? ≠ some q := by
  intro he
  obtain ⟨hne, hchars⟩ := isNameChar_of_isPlainName hcs
  obtain ⟨c, cs, rfl⟩ := List.exists_cons_of_ne_nil hne
  obtain rfl : c = q := by simpa using he
  have hc := hchars c List.mem_cons_self
  rw [h.notName] at hc
  cases hc

theorem readName?_identifier (h : r.Quotes q) (n : String) {rest : List Char}
    (hrest : ∀ c ∈ rest.head?, c = '.') :
    readName? q ((r.identifier n).toList ++ rest) = some (n, rest) := by
  unfold identifier
  rw [h.quote]
  dsimp only
  split
  · rename_i hplain
    rw [Bool.and_eq_true] at hplain
    have hspan := span_isNameChar (isNameChar_of_isPlainName hplain.1).2 hrest
    rw [readName?, if_neg (head_ne_of_isPlainName h hplain.1 rest), hspan.1, hspan.2,
      String.ofList_toList]
  · -- the closing quote is no doubled one, since a dot follows it or nothing
    have hhead : rest.head? ≠ some q := fun he => h.notDot (hrest q he)
    simp [readName?, Quoted.quote, Quoted.unquote?_doubled _ hhead]

def identifiers (r : Rules) : List String → String
  | [] => ""
  | [n] => r.identifier n
  | n :: m :: ns => r.identifier n ++ "." ++ r.identifiers (m :: ns)

theorem identifiers_concat {ns : List String} (hne : ns ≠ []) (n : String) :
    r.identifiers (ns ++ [n]) = r.identifiers ns ++ "." ++ r.identifier n := by
  induction ns with
  | nil => exact absurd rfl hne
  | cons m ms ih =>
    cases ms with
    | nil => rfl
    | cons k ks =>
      have hks := ih (List.cons_ne_nil k ks)
      simp only [List.cons_append, identifiers] at hks ⊢
      rw [hks]
      simp only [String.append_assoc]

def following (r : Rules) : List String → List Char
  | [] => []
  | n :: ns => '.' :: (r.identifiers (n :: ns)).toList

theorem head_following (ns : List String) : ∀ c ∈ (r.following ns).head?, c = '.' := by
  cases ns <;> simp [following]

theorem toList_identifiers_cons (n : String) (ns : List String) :
    (r.identifiers (n :: ns)).toList = (r.identifier n).toList ++ r.following ns := by
  cases ns <;> simp [identifiers, following]

theorem identifiers_injective (h : r.Quotes q) {ns ms : List String} (hns : ns ≠ []) (hms : ms ≠ [])
    (heq : r.identifiers ns = r.identifiers ms) : ns = ms := by
  induction ns generalizing ms with
  | nil => exact absurd rfl hns
  | cons n ns ih =>
    obtain ⟨m, ms, rfl⟩ := List.exists_cons_of_ne_nil hms
    have hread := readName?_identifier h n (head_following (r := r) ns)
    rw [← toList_identifiers_cons, heq, toList_identifiers_cons,
      readName?_identifier h m (head_following ms), Option.some.injEq, Prod.mk.injEq] at hread
    obtain ⟨rfl, hrest⟩ := hread
    cases ns with
    | nil =>
      cases ms with
      | nil => rfl
      | cons k ks => cases hrest
    | cons l ls =>
      cases ms with
      | nil => cases hrest
      | cons k ks =>
        have htexts := String.toList_injective (List.cons.inj hrest).2
        rw [ih (List.cons_ne_nil l ls) (List.cons_ne_nil k ks) htexts.symm]

end Rules

end QueryText
