import QueryText.Proofs.Counting.Heads
import QueryText.Proofs.Paging.Clauses

namespace QueryText

variable {α β : Type}

def Select.unlimited (q : Select α) : Select α :=
  q.withWindow .unrestricted

namespace Rules.Derived

variable {r : Rules}

theorem clauseBreak_blank (h : r.Derived) :
    ∃ b, r.clauseBreak.toList = [b] ∧ Text.Blank.isBlank b = true := by
  induction h with
  | preset d => exact ⟨'\n', by cases d <;> rfl, by decide⟩
  | withOperator _ _ _ _ ih => exact ih
  | withoutOperator _ _ ih => exact ih
  | onOneLine _ _ => exact ⟨' ', congrArg String.toList (rfl : _ = " "), by decide⟩

theorem pagination_cases (h : r.Derived) :
    r.pagination = .external ∨ Paging.Clause.Written r.pagination := by
  induction h with
  | preset d =>
    cases d with
    | ansi => exact .inr .offsetFetch
    | derby => exact .inr .offsetFetch
    | mysql => exact .inr (.limitOffset fun n hn => (Option.some.inj hn).symm)
    | postgres => exact .inr (.limitOffset fun n hn => by cases hn)
    | jpql => exact .inl rfl
    | jdoql => exact .inr .range
  | withOperator _ _ _ _ ih => exact ih
  | withoutOperator _ _ ih => exact ih
  | onOneLine _ ih => exact ih

end Rules.Derived

namespace Render.Query

open Writer Paging

variable (q : Select Operand) (c : Context)

def windowTexts (r : Rules) (w : Window) : List String :=
  (Clause.ofWindow r.pagination w).flatMap fun k =>
    [r.clauseBreak, " ".intercalate (k.spelled r.pagination)]

theorem join_windowTexts (r : Rules) (w : Window) :
    String.join (windowTexts r w) =
      Clause.text r.pagination r.clauseBreak (Clause.ofWindow r.pagination w) := by
  unfold windowTexts Clause.text
  induction Clause.ofWindow r.pagination w with
  | nil => rfl
  | cons k ks ih => simp only [List.flatMap_cons, List.map_cons, String.join_cons, List.cons_append,
      List.nil_append, ih, String.append_assoc]

theorem line_apply (b : Bool) (s : String) :
    line b s c = .ok (Chunk.ofTexts (if b then [c.rules.clauseBreak, s] else [])) := by
  cases b <;> rfl

theorem optionLine_apply (n : Option UInt64) (before after : String) :
    optionLine n before after c =
      .ok (Chunk.ofTexts (n.toList.flatMap fun n => [c.rules.clauseBreak, before ++ number n ++ after])) := by
  cases n with
  | none => rfl
  | some n => exact line_apply c true _

theorem writeWindow_eq (w : Window) : writeWindow w c = .ok (Chunk.ofTexts (windowTexts c.rules w)) := by
  obtain ⟨l, o⟩ := w
  have hjoined (xs ys : List String) :
      joined (.ok (Chunk.ofTexts xs)) (.ok (Chunk.ofTexts ys)) = .ok (Chunk.ofTexts (xs ++ ys)) := by
    simp [Chunk.ofTexts]
  have hskip (n : Nat) : "offset " ++ n.repr ++ " rows" = "offset " ++ (n.repr ++ " " ++ "rows") := by
    simp [← String.toList_inj]
  have hfetch (n : Nat) :
      "fetch first " ++ n.repr ++ " rows only" = "fetch " ++ ("first " ++ (n.repr ++ " " ++ "rows only")) := by
    simp [← String.toList_inj]
  cases hp : c.rules.pagination with
  | external =>
    simp only [writeWindow, byRules, windowTexts, hp]
    rfl
  | range =>
    simp only [writeWindow, byRules, windowTexts, hp, line_apply, Clause.ofWindow]
    cases l <;> cases o <;> simp [Window.isRestricting, Clause.spelled, number, String.append_assoc]
  | offsetFetch =>
    simp only [writeWindow, byRules, windowTexts, hp, append_apply, optionLine_apply, hjoined, Clause.ofWindow]
    cases l <;> cases o <;> simp [Clause.spelled, number, hskip, hfetch]
  | limitOffset missing =>
    simp only [writeWindow, byRules, windowTexts, hp, append_apply, optionLine_apply, hjoined, Clause.ofWindow]
    cases l <;> cases o <;> cases missing <;> simp [Clause.spelled, number]

theorem writeWindow_unrestricted : writeWindow .unrestricted c = .ok [] := by
  simp only [writeWindow, byRules]
  cases c.rules.pagination <;> rfl

theorem writeTail_window :
    writeTail q .rows c = joined (writeTail q.unlimited .rows c) (writeWindow q.window c) := by
  simp only [writeTail, Select.unlimited, Select.withWindow, beq_self_eq_true, Writer.when, ↓reduceIte,
    append_apply, writeWindow_unrestricted, joined_nil, joined_assoc]
  rfl

theorem writeStatement_window :
    writeStatement .rows q c = joined (writeStatement .rows q.unlimited c) (writeWindow q.window c) := by
  simp only [writeStatement, Select.unlimited, Select.withWindow]
  cases q.joins with
  | nil => rfl
  | cons first rest =>
    simp only [append_apply, writeTail_window q, joined_assoc]
    rfl

theorem objectClauses_window (name : String) (e : Entity) (first : Join Operand) (rest : List (Join Operand)) :
    objectClauses .rows q name e first rest c =
      joined (objectClauses .rows q.unlimited name e first rest c) (writeWindow q.window c) := by
  simp only [objectClauses, append_apply, writeTail_window q, joined_assoc]
  rfl

theorem write_window :
    write .rows q c = joined (write .rows q.unlimited c) (writeWindow q.window c) := by
  simp only [write, byRules]
  cases c.rules.grammar with
  | sql | jpql =>
    simp only [writeRelational, byRules, reduceCtorEq, decide_false, Bool.false_and, Bool.false_eq_true,
      ↓reduceIte]
    exact writeStatement_window q c
  | jdoql =>
    simp only [writeObject]
    cases hj : q.joins with
    | nil => simp [Select.unlimited, Select.withWindow, hj, fail]
    | cons first rest =>
      have hj' : q.unlimited.joins = first :: rest := hj
      simp only [hj']
      generalize first.target.expr = target, source? first.target = source
      cases target with
      | path p =>
        cases source with
        | none => rfl
        | some ne =>
          simp only [objectClauses_window q, writeWindow_eq]
          split <;> rfl
      | _ => rfl

end Render.Query

open Render in
theorem Select.write_rows (q : Select Expr) (c : Context) :
    q.write .rows c = joined (q.unlimited.write .rows c) (Query.writeWindow q.window c) := by
  rw [q.write_eq, Query.write_window, q.unlimited.write_eq]
  rfl

end QueryText
