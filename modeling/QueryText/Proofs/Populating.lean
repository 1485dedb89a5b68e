import Mathlib.Data.List.Forall2
import QueryText.Statement.Insert
import QueryText.Statement.Update

namespace QueryText

namespace Statement

def Declared (d : Descriptor) (row : List (String × Value)) (fs : List (Path × Expr)) : Prop :=
  List.Forall₂ (fun f x => field d f.1 = .ok x.1 ∧ x.2 = .constant f.2) row fs

/-- How far a row is read: to its end, or up to the first field that is not declared. -/
inductive Outcome (d : Descriptor) (row : List (String × Value)) :
    List (Path × Expr) → Option QueryError → Prop
  | complete {fs : List (Path × Expr)} (hfs : Declared d row fs) : Outcome d row fs none
  | interrupted {fs : List (Path × Expr)} (front : List (String × Value)) (name : String) (v : Value)
      (behind : List (String × Value)) {entity : String} (hrow : row = front ++ (name, v) :: behind)
      (hfs : Declared d front fs) (hname : field d name = .error (.unknownField entity name)) :
      Outcome d row fs (some (.unknownField entity name))

theorem field_error {d : Descriptor} {name : String} {e : QueryError} (h : field d name = .error e) :
    ∃ entity, e = .unknownField entity name := by
  cases hp : d.get? name with
  | some p => simp [field, hp] at h
  | none =>
    simp only [field, hp, Except.error.injEq] at h
    exact ⟨_, h.symm⟩

theorem Outcome.cons {d : Descriptor} {f : String × Value} {row : List (String × Value)}
    {fs : List (Path × Expr)} {refusal : Option QueryError} {p : Path} (hp : field d f.1 = .ok p)
    (h : Outcome d row fs refusal) : Outcome d (f :: row) ((p, .constant f.2) :: fs) refusal := by
  cases h with
  | complete hfs => exact .complete (.cons ⟨hp, rfl⟩ hfs)
  | interrupted front name v behind hrow hfs hname =>
    exact .interrupted (f :: front) name v behind (by rw [hrow]; rfl) (.cons ⟨hp, rfl⟩ hfs) hname

theorem populate_outcome (d : Descriptor) (row : List (String × Value)) :
    ∃ fs refusal, Outcome d row fs refusal ∧
      ∀ {α : Type} (set : α → Path → Expr → α) (s : α),
        populate set d s row = (fs.foldl (fun s x => set s x.1 x.2) s, refusal) := by
  induction row with
  | nil => exact ⟨[], none, .complete .nil, fun _ _ => rfl⟩
  | cons f row ih =>
    cases hp : field d f.1 with
    | error e =>
      obtain ⟨entity, rfl⟩ := field_error hp
      refine ⟨[], _, .interrupted [] f.1 f.2 row rfl .nil hp, fun set s => ?_⟩
      simp only [populate, hp]
      rfl
    | ok p =>
      obtain ⟨fs, refusal, houtcome, hset⟩ := ih
      refine ⟨(p, .constant f.2) :: fs, refusal, houtcome.cons hp, fun set s => ?_⟩
      simp only [populate, hp]
      exact hset set _

end Statement

namespace Insert

/-- The insertion with more columns and their values. -/
def addPairs (i : Insert) (fs : List (Path × Expr)) : Insert :=
  (i.addColumns (fs.map Prod.fst)).addValues (fs.map Prod.snd)

theorem foldl_set (i : Insert) (fs : List (Path × Expr)) :
    fs.foldl (fun i x => i.set x.1 x.2) i = i.addPairs fs := by
  induction fs generalizing i with
  | nil => simp [addPairs, addColumns, addValues]
  | cons x fs ih =>
    rw [List.foldl_cons, ih]
    simp [addPairs, addColumns, addValues, set]

theorem addPairs_eq_self_iff (i : Insert) (fs : List (Path × Expr)) : i.addPairs fs = i ↔ fs = [] := by
  constructor
  · intro h
    have hcolumns := congrArg columns h
    simpa [addPairs, addColumns, addValues] using hcolumns
  · rintro rfl
    simp [addPairs, addColumns, addValues]

end Insert

namespace Update

/-- Assigns to columns in turn. -/
def assignAll (fs as : List (Path × Expr)) : List (Path × Expr) :=
  fs.foldl (fun as x => assign x.1 x.2 as) as

theorem foldl_set (u : Update) (fs : List (Path × Expr)) :
    fs.foldl (fun u x => u.set x.1 x.2) u = { u with assignments := assignAll fs u.assignments } := by
  induction fs generalizing u with
  | nil => rfl
  | cons x fs ih =>
    rw [List.foldl_cons, ih]
    rfl

theorem lookup_assign (p q : Path) (e : Expr) (as : List (Path × Expr)) :
    (assign p e as).lookup q = if q = p then some e else as.lookup q := by
  induction as with
  | nil => exact lookup_cons_ite q (p, e) []
  | cons a as ih =>
    by_cases ha : a.1 = p
    · by_cases hq : q = p <;> simp [assign, lookup_cons_ite, ha, hq]
    · by_cases hq : q = a.1
      · simp [assign, lookup_cons_ite, ha, hq]
      · simp [assign, lookup_cons_ite, ha, hq, ih]

theorem lookup_assignAll (p : Path) (fs as : List (Path × Expr)) :
    (assignAll fs as).lookup p = (fs.reverse ++ as).lookup p := by
  induction fs generalizing as with
  | nil => rfl
  | cons x fs ih =>
    have hassign : (assign x.1 x.2 as).lookup p = (x :: as).lookup p := by
      rw [lookup_assign, lookup_cons_ite]
    rw [List.reverse_cons, List.append_assoc, List.lookup_append, List.singleton_append, ← hassign,
      ← List.lookup_append, ← ih]
    rfl

/-- A column that has no assignment goes behind those that have one. -/
def addColumn (ps : List Path) (p : Path) : List Path :=
  if p ∈ ps then ps else ps ++ [p]

theorem columns_assign (p : Path) (e : Expr) (as : List (Path × Expr)) :
    (assign p e as).map Prod.fst = addColumn (as.map Prod.fst) p := by
  induction as with
  | nil => rfl
  | cons a as ih =>
    by_cases ha : a.1 = p
    · simp [assign, addColumn, ha]
    · simp only [assign, ha, if_false, List.map_cons, ih, addColumn, List.mem_cons, Ne.symm ha,
        false_or, List.cons_append]
      split <;> rfl

theorem columns_assignAll (fs as : List (Path × Expr)) :
    (assignAll fs as).map Prod.fst = (fs.map Prod.fst).foldl addColumn (as.map Prod.fst) := by
  induction fs generalizing as with
  | nil => rfl
  | cons x fs ih =>
    rw [List.map_cons, List.foldl_cons, ← columns_assign]
    exact ih _

theorem assignAll_nil_eq_nil_iff (fs : List (Path × Expr)) : assignAll fs [] = [] ↔ fs = [] := by
  refine ⟨fun h => ?_, fun h => by rw [h]; rfl⟩
  cases fs with
  | nil => rfl
  | cons x fs =>
    have hlast := lookup_assignAll x.1 (x :: fs) []
    rw [h] at hlast
    have hmem := List.lookup_eq_none_iff.mp hlast.symm x (by simp)
    simp at hmem

theorem assignAll_cons (fs : List (Path × Expr)) (a : Path × Expr) (as : List (Path × Expr)) :
    assignAll fs (a :: as) =
      (a.1, (fs.reverse.lookup a.1).getD a.2) :: assignAll (fs.filter fun x => x.1 ≠ a.1) as := by
  induction fs generalizing a as with
  | nil => rfl
  | cons x fs ih =>
    have hstep : assignAll (x :: fs) (a :: as) = assignAll fs (assign x.1 x.2 (a :: as)) := rfl
    rw [hstep]
    by_cases hx : x.1 = a.1
    · have hassign : assign x.1 x.2 (a :: as) = (a.1, x.2) :: as := by simp [assign, hx]
      rw [hassign, ih]
      simp [List.lookup_append, lookup_cons_ite, hx]
    · have hassign : assign x.1 x.2 (a :: as) = a :: assign x.1 x.2 as := by
        simp [assign, Ne.symm hx]
      rw [hassign, ih]
      simp [List.lookup_append, lookup_cons_ite, hx, Ne.symm hx, assignAll]

theorem lookup_filter_ne (p q : Path) (fs : List (Path × Expr)) :
    (fs.filter fun x => x.1 ≠ q).lookup p = if p = q then none else fs.lookup p := by
  induction fs with
  | nil => simp
  | cons x fs ih =>
    by_cases hx : x.1 = q
    · rw [List.filter_cons_of_neg (by simpa using hx), ih, lookup_cons_ite, hx]
      by_cases hp : p = q <;> simp [hp]
    · rw [List.filter_cons_of_pos (by simpa using hx), lookup_cons_ite, lookup_cons_ite, ih]
      by_cases hp : p = q
      · simp [hp, Ne.symm hx]
      · simp [hp]

theorem assignAll_eq_self_iff (fs as : List (Path × Expr)) :
    assignAll fs as = as ↔ ∀ p e, fs.reverse.lookup p = some e → as.lookup p = some e := by
  constructor
  · intro h p e hlast
    have hvalue := lookup_assignAll p fs as
    rw [h, List.lookup_append, hlast] at hvalue
    exact hvalue
  · intro h
    induction as generalizing fs with
    | nil =>
      refine (assignAll_nil_eq_nil_iff fs).mpr (List.eq_nil_iff_forall_not_mem.mpr fun x hx => ?_)
      have hnone : fs.reverse.lookup x.1 = none :=
        Option.eq_none_iff_forall_ne_some.mpr fun e he => by cases h x.1 e he
      have hmem := List.lookup_eq_none_iff.mp hnone x (List.mem_reverse.mpr hx)
      simp at hmem
    | cons a as ih =>
      have hvalue : (fs.reverse.lookup a.1).getD a.2 = a.2 := by
        cases hlast : fs.reverse.lookup a.1 with
        | none => rfl
        | some e => simpa [lookup_cons_ite, eq_comm] using h a.1 e hlast
      have hrest : assignAll (fs.filter fun x => x.1 ≠ a.1) as = as := by
        refine ih _ fun p e hlast => ?_
        rw [← List.filter_reverse, lookup_filter_ne, Option.ite_none_left_eq_some] at hlast
        have hp := h p e hlast.2
        rwa [lookup_cons_ite, if_neg hlast.1] at hp
      rw [assignAll_cons, hvalue, hrest]

end Update

/-- The fields of a row are set in order, and if one is not declared, those in front of it: an insertion is
kept just if there are none, an update if each has the value already that it is set to. -/
theorem populate_settled (d : Descriptor) (row : List (String × Value)) :
    ∃ fs refusal, Statement.Outcome d row fs refusal ∧
      (∀ i : Insert, (i.populate d row).2 = refusal ∧ (i.populate d row).1 = i.addPairs fs ∧
        ((i.populate d row).1 = i ↔ fs = [])) ∧
      ∀ u : Update, (u.populate d row).2 = refusal ∧
        (u.populate d row).1 = { u with assignments := Update.assignAll fs u.assignments } ∧
        (∀ p, (u.populate d row).1.assignments.lookup p = (fs.reverse ++ u.assignments).lookup p) ∧
        (u.populate d row).1.assignments.map Prod.fst =
          (fs.map Prod.fst).foldl Update.addColumn (u.assignments.map Prod.fst) ∧
        ((u.populate d row).1 = u ↔
          ∀ p e, fs.reverse.lookup p = some e → u.assignments.lookup p = some e) := by
  obtain ⟨fs, refusal, houtcome, hset⟩ := Statement.populate_outcome d row
  refine ⟨fs, refusal, houtcome, fun i => ?_, fun u => ?_⟩
  · have hi : i.populate d row = (i.addPairs fs, refusal) := by
      rw [Insert.populate, hset, Insert.foldl_set]
    rw [hi]
    exact ⟨rfl, rfl, i.addPairs_eq_self_iff fs⟩
  · have hu : u.populate d row = ({ u with assignments := Update.assignAll fs u.assignments }, refusal) := by
      rw [Update.populate, hset, Update.foldl_set]
    rw [hu]
    refine ⟨rfl, rfl, fun p => Update.lookup_assignAll p fs _, Update.columns_assignAll fs _, ?_⟩
    rw [← Update.assignAll_eq_self_iff]
    exact ⟨fun h => congrArg Update.assignments h, fun h => by rw [h]⟩

/-- The name is declared, the number of whiskers is not. -/
def catFields : Descriptor :=
  (Descriptor.ofEntity (.ofType "Cat")).field "name" .text

def renamed : Update :=
  (Update.of .standard catFields.root).set (catFields.root.property "name" .text) (.constant (.text "Old"))

/-- The new name has replaced the old one when the call is refused. -/
theorem renamed_not_kept :
    let row := [("name", .text "Tom"), ("whiskers", .int 12)]
    (renamed.populate catFields row).2 = some (.unknownField "Cat" "whiskers") ∧
      renamed.written.map (·.bindings) = .ok [.value (.text "Old")] ∧
      (renamed.populate catFields row).1.written.map (·.bindings) = .ok [.value (.text "Tom")] :=
  ⟨rfl, rfl, rfl⟩

end QueryText
