import QueryText.Proofs.Inserting.Row

namespace QueryText.Insert

inductive Call where
  | columns (ps : List Path)
  | values (es : List Expr)
  | set (column : Path) (e : Expr)
  | populate (d : Descriptor) (row : List (String × Value))
  | bind (p : Param) (v : Value)

/-- What is added at once: a column without its value, a value without its column, or both. -/
inductive Entry where
  | column (p : Path)
  | value (e : Expr)
  | both (p : Path) (e : Expr)

namespace Entry

def column? : Entry → Option Path
  | column p => some p
  | value _ => none
  | both p _ => some p

def value? : Entry → Option Expr
  | column _ => none
  | value e => some e
  | both _ e => some e

def isColumn : Entry → Bool
  | column _ => true
  | _ => false

def isValue : Entry → Bool
  | value _ => true
  | _ => false

def isBoth : Entry → Bool
  | both _ _ => true
  | _ => false

theorem isBoth_iff {x : Entry} : x.isBoth = true ↔ ∃ p e, x = both p e := by
  cases x <;> simp [isBoth]

/-- Fields set by name, up to the first one that is not declared. -/
def ofFields (d : Descriptor) : List (String × Value) → List Entry
  | [] => []
  | (name, v) :: row =>
    match Statement.field d name with
    | .error _ => []
    | .ok p => both p (.constant v) :: ofFields d row

end Entry

def columnsOf (es : List Entry) : List Path :=
  es.filterMap Entry.column?

def valuesOf (es : List Entry) : List Expr :=
  es.filterMap Entry.value?

@[simp] theorem columnsOf_append (es es' : List Entry) :
    columnsOf (es ++ es') = columnsOf es ++ columnsOf es' :=
  List.filterMap_append

@[simp] theorem valuesOf_append (es es' : List Entry) :
    valuesOf (es ++ es') = valuesOf es ++ valuesOf es' :=
  List.filterMap_append

theorem columnsOf_columns (ps : List Path) : columnsOf (ps.map .column) = ps := by
  induction ps with
  | nil => rfl
  | cons p ps ih => exact congrArg (p :: ·) ih

theorem valuesOf_columns (ps : List Path) : valuesOf (ps.map .column) = [] := by
  induction ps with
  | nil => rfl
  | cons p ps ih => exact ih

theorem columnsOf_values (es : List Expr) : columnsOf (es.map .value) = [] := by
  induction es with
  | nil => rfl
  | cons e es ih => exact ih

theorem valuesOf_values (es : List Expr) : valuesOf (es.map .value) = es := by
  induction es with
  | nil => rfl
  | cons e es ih => exact congrArg (e :: ·) ih

def loneColumns (es : List Entry) : Nat :=
  es.countP Entry.isColumn

def loneValues (es : List Entry) : Nat :=
  es.countP Entry.isValue

namespace Call

def perform (i : Insert) : Call → Insert
  | columns ps => i.addColumns ps
  | values es => i.addValues es
  | set p e => i.set p e
  | populate d row => (i.populate d row).1
  | bind p v => i.bind p v

def entries : Call → List Entry
  | columns ps => ps.map .column
  | values es => es.map .value
  | set p e => [.both p e]
  | populate d row => Entry.ofFields d row
  | bind _ _ => []

end Call

def after (i : Insert) (calls : List Call) : Insert :=
  calls.foldl Call.perform i

structure Adds (es : List Entry) (i j : Insert) : Prop where
  columns : j.columns = i.columns ++ columnsOf es
  values : j.values = i.values ++ valuesOf es

namespace Adds

variable {i j k : Insert} {es es' : List Entry}

theorem refl (i : Insert) : Adds [] i i :=
  ⟨(List.append_nil _).symm, (List.append_nil _).symm⟩

theorem trans (h : Adds es i j) (h' : Adds es' j k) : Adds (es ++ es') i k := by
  refine ⟨?_, ?_⟩
  · rw [h'.columns, h.columns, columnsOf_append, List.append_assoc]
  · rw [h'.values, h.values, valuesOf_append, List.append_assoc]

theorem set (i : Insert) (p : Path) (e : Expr) : Adds [.both p e] i (i.set p e) :=
  ⟨rfl, rfl⟩

theorem populate (i : Insert) (d : Descriptor) (row : List (String × Value)) :
    Adds (Entry.ofFields d row) i (i.populate d row).1 := by
  induction row generalizing i with
  | nil => exact refl i
  | cons field row ih =>
    obtain ⟨name, v⟩ := field
    simp only [Insert.populate, Statement.populate, Entry.ofFields]
    cases Statement.field d name with
    | error e => exact refl i
    | ok p => exact (set i p (.constant v)).trans (ih (i.set p (.constant v)))

theorem perform (i : Insert) (call : Call) : Adds call.entries i (call.perform i) := by
  cases call with
  | columns ps =>
    exact
      { columns := by rw [Call.entries, columnsOf_columns]; rfl
        values := by rw [Call.entries, valuesOf_columns, List.append_nil]; rfl }
  | values es =>
    exact
      { columns := by rw [Call.entries, columnsOf_values, List.append_nil]; rfl
        values := by rw [Call.entries, valuesOf_values]; rfl }
  | set p e => exact set i p e
  | populate d row => exact populate i d row
  | bind p v => exact ⟨(List.append_nil _).symm, (List.append_nil _).symm⟩

theorem after (i : Insert) (calls : List Call) : Adds (calls.flatMap Call.entries) i (i.after calls) := by
  induction calls generalizing i with
  | nil => exact refl i
  | cons call calls ih => exact (perform i call).trans (ih (call.perform i))

end Adds

/-- What is given in one call stands against each other, and of columns and values that are given on
their own, the first stand against each other, then the second, and so on. -/
structure PairsOwn (es : List Entry) (pairs : List (Path × Expr)) : Prop where
  both {before : List Entry} {p : Path} {e : Expr} {behind : List Entry}
    (h : es = before ++ .both p e :: behind) :
    ∃ front back, pairs = front ++ (p, e) :: back ∧
      front.map (·.1) = columnsOf before ∧ front.map (·.2) = valuesOf before
  lone {before : List Entry} {p : Path} {behind before' : List Entry} {e : Expr} {behind' : List Entry}
    (h : es = before ++ .column p :: behind) (h' : es = before' ++ .value e :: behind')
    (hn : loneColumns before = loneValues before') :
    ∃ front back, pairs = front ++ (p, e) :: back ∧
      front.map (·.1) = columnsOf before ∧ front.map (·.2) = valuesOf before'

/-- Whenever a column is given with its value, no other column waits for its value, and no value for
its column. -/
def Level (es : List Entry) : Prop :=
  ∀ before p e behind, es = before ++ .both p e :: behind → loneColumns before = loneValues before

section lengths

variable (es : List Entry)

theorem length_columnsOf : (columnsOf es).length = loneColumns es + es.countP Entry.isBoth := by
  induction es with
  | nil => rfl
  | cons x es ih =>
    simp only [columnsOf, loneColumns] at ih ⊢
    cases x <;>
      simp [List.filterMap_cons, List.countP_cons, Entry.column?, Entry.isColumn, Entry.isBoth, ih] <;>
      omega

theorem length_valuesOf : (valuesOf es).length = loneValues es + es.countP Entry.isBoth := by
  induction es with
  | nil => rfl
  | cons x es ih =>
    simp only [valuesOf, loneValues] at ih ⊢
    cases x <;>
      simp [List.filterMap_cons, List.countP_cons, Entry.value?, Entry.isValue, Entry.isBoth, ih] <;>
      omega

end lengths

theorem split_pairs {pairs : List (Path × Expr)} {ps ps' : List Path} {p : Path} {es es' : List Expr}
    {e : Expr} (hp : pairs.map (·.1) = ps ++ p :: ps') (he : pairs.map (·.2) = es ++ e :: es')
    (hl : ps.length = es.length) :
    ∃ front back, pairs = front ++ (p, e) :: back ∧ front.map (·.1) = ps ∧ front.map (·.2) = es := by
  induction ps generalizing pairs es with
  | nil =>
    obtain rfl := List.eq_nil_of_length_eq_zero hl.symm
    cases pairs with
    | nil => cases hp
    | cons x pairs =>
      obtain ⟨rfl, -⟩ := List.cons.inj hp
      obtain ⟨rfl, -⟩ := List.cons.inj he
      exact ⟨[], pairs, rfl, rfl, rfl⟩
  | cons q ps ih =>
    cases es with
    | nil => cases hl
    | cons f es =>
      cases pairs with
      | nil => cases hp
      | cons x pairs =>
        obtain ⟨rfl, hp'⟩ := List.cons.inj hp
        obtain ⟨rfl, he'⟩ := List.cons.inj he
        obtain ⟨front, back, rfl, rfl, rfl⟩ := ih hp' he' (Nat.succ.inj hl)
        exact ⟨x :: front, back, rfl, rfl, rfl⟩

section level

variable {es before mid behind : List Entry} {p : Path} {e : Expr}

theorem Level.countP_isBoth_eq_zero (h : Level es) (hes : es = before ++ mid ++ behind)
    (hn : ∀ front back, mid = front ++ back →
      loneColumns (before ++ front) ≠ loneValues (before ++ front)) :
    mid.countP Entry.isBoth = 0 := by
  rw [List.countP_eq_zero]
  intro x hx hboth
  obtain ⟨q, f, rfl⟩ := Entry.isBoth_iff.mp hboth
  obtain ⟨front, back, hmid⟩ := List.append_of_mem hx
  exact hn front _ hmid (h (before ++ front) q f (back ++ behind) (by simp [hes, hmid]))

/-- As much is given together in front of a column as in front of the value that it waits for, and none
of it in between. -/
theorem Level.countP_isBoth_eq {before' behind' : List Entry} (h : Level es)
    (hc : es = before ++ .column p :: behind) (hv : es = before' ++ .value e :: behind')
    (hn : loneColumns before = loneValues before') :
    before.countP Entry.isBoth = before'.countP Entry.isBoth := by
  -- The column comes first and waits for its value, or the value for its column.
  obtain ⟨mid, hbefore, hmid⟩ | ⟨mid, hbefore, hmid⟩ := List.append_eq_append_iff.mp (hc.symm.trans hv)
  · cases mid with
    | nil => cases hmid
    | cons x mid =>
      obtain ⟨rfl, -⟩ := List.cons.inj hmid
      subst hbefore
      have hes : es = before ++ [.column p] ++ mid ++ .value e :: behind' := by simp [hv]
      have hzero : mid.countP Entry.isBoth = 0 := by
        refine h.countP_isBoth_eq_zero hes fun front back hfront hlevel => ?_
        simp [hfront, loneColumns, loneValues, List.countP_cons, Entry.isColumn, Entry.isValue] at hlevel hn
        omega
      simp [Entry.isBoth, hzero]
  · cases mid with
    | nil => cases hmid
    | cons x mid =>
      obtain ⟨rfl, -⟩ := List.cons.inj hmid
      subst hbefore
      have hes : es = before' ++ [.value e] ++ mid ++ .column p :: behind := by simp [hc]
      have hzero : mid.countP Entry.isBoth = 0 := by
        refine h.countP_isBoth_eq_zero hes fun front back hfront hlevel => ?_
        simp [hfront, loneColumns, loneValues, List.countP_cons, Entry.isColumn, Entry.isValue] at hlevel hn
        omega
      simp [Entry.isBoth, hzero]

theorem pairsOwn_iff {pairs : List (Path × Expr)} (hp : pairs.map (·.1) = columnsOf es)
    (he : pairs.map (·.2) = valuesOf es) : PairsOwn es pairs ↔ Level es := by
  constructor
  · -- What stands in front of the pair is a list of pairs, so both lists are as long up to there.
    intro h before p e behind hes
    obtain ⟨front, back, -, hcolumns, hvalues⟩ := h.both hes
    have hc := congrArg List.length hcolumns
    have hv := congrArg List.length hvalues
    rw [List.length_map, length_columnsOf] at hc
    rw [List.length_map, length_valuesOf] at hv
    omega
  · intro h
    constructor
    · intro before p e behind hes
      have hp' : pairs.map (·.1) = columnsOf before ++ p :: columnsOf behind := by
        rw [hp, hes, columnsOf_append]
        rfl
      have he' : pairs.map (·.2) = valuesOf before ++ e :: valuesOf behind := by
        rw [he, hes, valuesOf_append]
        rfl
      have hlevel := h before p e behind hes
      exact split_pairs hp' he' (by rw [length_columnsOf, length_valuesOf, hlevel])
    · intro before p behind before' e behind' hc hv hn
      have hp' : pairs.map (·.1) = columnsOf before ++ p :: columnsOf behind := by
        rw [hp, hc, columnsOf_append]
        rfl
      have he' : pairs.map (·.2) = valuesOf before' ++ e :: valuesOf behind' := by
        rw [he, hv, valuesOf_append]
        rfl
      have hboth := h.countP_isBoth_eq hc hv hn
      exact split_pairs hp' he' (by rw [length_columnsOf, length_valuesOf, hn, hboth])

end level

/-- Whatever the calls are, in whatever order: when a statement is written, it has the columns and the
values of the calls in turn, and everything in it stands against its own just if the calls are level. -/
theorem written_pairsOwn_iff {c : Config} {target : Path} {calls : List Call} {w : WrittenStatement}
    (h : ((Insert.of c target).after calls).written = .ok w) :
    ((Insert.of c target).after calls).Lists w ((Insert.of c target).after calls).pairs ∧
      (PairsOwn (calls.flatMap Call.entries) ((Insert.of c target).after calls).pairs ↔
        Level (calls.flatMap Call.entries)) := by
  obtain ⟨hcolumns, hvalues⟩ := Adds.after (Insert.of c target) calls
  obtain ⟨hfst, hsnd⟩ := map_pairs_of_written h
  exact ⟨written_lists h, pairsOwn_iff (hfst.trans hcolumns) (hsnd.trans hvalues)⟩

def cat : Path :=
  .source (.ofType "Cat") "cat"

/-- A column, its value, and a field that is set. -/
def fieldLast : List Call :=
  [.columns [cat.property "id" .int], .values [.constant (.int 1)],
    .set (cat.property "name" .text) (.constant (.text "Tom"))]

theorem written_pairsOwn_iff_fieldLast :
    ∃ w, ((Insert.of .standard cat).after fieldLast).written = .ok w ∧
      ((Insert.of .standard cat).after fieldLast).Lists w ((Insert.of .standard cat).after fieldLast).pairs ∧
      (PairsOwn (fieldLast.flatMap Call.entries) ((Insert.of .standard cat).after fieldLast).pairs ↔
        Level (fieldLast.flatMap Call.entries)) :=
  ⟨_, rfl, written_pairsOwn_iff rfl⟩

/-- The field is set while the column still waits for its value. -/
def fieldBetween : List Call :=
  [.columns [cat.property "id" .int], .set (cat.property "name" .text) (.constant (.text "Tom")),
    .values [.constant (.int 1)]]

/-- The number gets the name, and the name gets the number. -/
theorem fieldBetween_not_pairsOwn :
    ∃ w, ((Insert.of .standard cat).after fieldBetween).written = .ok w ∧
      ((Insert.of .standard cat).after fieldBetween).Lists w
        [(cat.property "id" .int, .constant (.text "Tom")),
          (cat.property "name" .text, .constant (.int 1))] ∧
      ¬ PairsOwn (fieldBetween.flatMap Call.entries)
        ((Insert.of .standard cat).after fieldBetween).pairs := by
  refine ⟨_, rfl, written_lists rfl, fun h => ?_⟩
  have hentries : fieldBetween.flatMap Call.entries =
      [.column (cat.property "id" .int)] ++
        .both (cat.property "name" .text) (.constant (.text "Tom")) ::
          [.value (.constant (.int 1))] := rfl
  obtain ⟨front, -, -, hcolumns, hvalues⟩ := h.both hentries
  have hlength := congrArg List.length hcolumns
  rw [List.length_map, ← List.length_map (·.2), hvalues] at hlength
  cases hlength

end QueryText.Insert
