import QueryText.Proofs.Paging.Tail
import QueryText.Proofs.Running.Course
import QueryText.Query

namespace QueryText

namespace Execute

def Call.range? : Call → Option Window
  | .range w => some w
  | _ => none

def ranges (log : List Exchange) : List Window :=
  log.filterMap (·.call.range?)

@[simp] theorem ranges_append (xs ys : List Exchange) : ranges (xs ++ ys) = ranges xs ++ ranges ys :=
  List.filterMap_append

theorem ranges_ranged (range : Option Window) : ranges (ranged range) = range.toList := by
  cases range <;> rfl

theorem Binds.ranges_eq_nil {slot : SlotCount} {xs : List (Value × Option Path)} {log : List Exchange}
    {r : Except QueryError SlotCount} (h : Binds slot xs log r) : ranges log = [] := by
  induction h with
  | done _ => rfl
  | refused _ _ _ _ _ => rfl
  | taken _ _ ih => exact ih

theorem PreparedCourse.ranges_eq {w : WrittenStatement} {params : ParamMap} {range : Option Window}
    {log : List Exchange} {bound : Except QueryError SlotCount} {r : Except QueryError Outcome}
    (h : PreparedCourse w params range log bound r) : ranges log = range.toList := by
  have hranged := ranges_ranged range
  cases h with
  | unranged h _ _ =>
    rw [h]
    rfl
  | unresolved _ _ =>
    rw [ranges_append, hranged]
    simp [ranges, Call.range?]
  | unbound _ hb _ | unexecuted _ hb _ _ | unclosed _ hb _ | finished _ hb _ =>
    have hbinds := hb.ranges_eq_nil
    simp only [ranges_append, hranged, hbinds]
    simp [ranges, Call.range?]

theorem Course.ranges_eq {w : WrittenStatement} {params : ParamMap} {range : Option Window}
    {log : List Exchange} {bound : Except QueryError SlotCount} {r : Except QueryError Outcome}
    (h : Course w params range log bound r) {text : String} (hp : ⟨.prepare text, none⟩ ∈ log) :
    ranges log = range.toList := by
  cases h with
  | unprepared e => simp at hp
  | prepared h => exact h.ranges_eq

theorem Course.ranges_eq_nil {w : WrittenStatement} {params : ParamMap} {log : List Exchange}
    {bound : Except QueryError SlotCount} {r : Except QueryError Outcome}
    (h : Course w params none log bound r) : ranges log = [] := by
  cases h with
  | unprepared e => rfl
  | prepared h => exact h.ranges_eq

end Execute

namespace Query

open Execute Paging

def callsOfList {σ : Type} (q : Query) (b : Backend σ) (s : σ) : List Exchange :=
  (q.list b.logging (s, [])).state.2

/-- The window of the rows. -/
def window (q : Query) : Window :=
  q.builder.select.window

/-- What a written query and the calls for its rows say of the window, where `ks` are the clauses in
the text. -/
structure Pages (q : Query) (w : WrittenQuery) (ks : List Clause) : Prop where
  /-- the clauses stand behind the query for all rows -/
  behind : ∃ bare tail, q.builder.select.unlimited.written q.config = .ok bare ∧
    w.text = bare.text ++ tail ∧ readClauses tail = some ks
  /-- a handle is told a window that the text is not told -/
  told {σ : Type} (b : Backend σ) (s : σ) (h : ⟨.prepare w.text, none⟩ ∈ q.callsOfList b s)
    (he : q.config.rules.pagination = .external) (hr : q.window.isRestricting = true) :
    ranges (q.callsOfList b s) = [q.window]
  /-- and is told nothing otherwise -/
  untold {σ : Type} (b : Backend σ) (s : σ)
    (h : q.config.rules.pagination = .external → q.window.isRestricting = false) :
    ranges (q.callsOfList b s) = []
  /-- together they keep the rows in the window -/
  rows {σ : Type} (b : Backend σ) (s : σ) (h : ⟨.prepare w.text, none⟩ ∈ q.callsOfList b s) (i : Nat)
    (hi : i < 0x7fffffffffffffff) :
    (Clause.Keeps ks i ∧ ∀ v ∈ ranges (q.callsOfList b s), v.Keeps i) ↔ q.window.Keeps i
  /-- a range does not end before it starts -/
  ordered : ∀ start stop, Clause.range start stop ∈ ks → start ≤ stop

variable {q : Query} {w : WrittenQuery}

theorem written_eq (q : Query) :
    q.written =
      (Render.Query.write .rows (q.builder.select.map Expr.operand)
        (.of q.config.rules .resolving q.config.literals [q.builder.select.params])).bind
        (WrittenQuery.ofChunks q.config.rules q.window) :=
  q.builder.select.writtenAs_eq .rows _ _

theorem window_of_written (h : q.written = .ok w) : w.window = q.window := by
  rw [written_eq] at h
  obtain ⟨cs, -, h⟩ := Except.bind_eq_ok_iff.mp h
  exact window_of_ofChunks h

theorem written_alike_unlimited (q : Query) :
    Alike
      (fun text bare => text = bare ++ Clause.text q.config.rules.pagination q.config.rules.clauseBreak
        (Clause.ofWindow q.config.rules.pagination q.window))
      q.written (q.builder.select.unlimited.written q.config) := by
  let d := Render.Context.of q.config.rules .resolving q.config.literals [q.builder.select.params]
  let o := q.builder.select.map Expr.operand
  have hbare : q.builder.select.unlimited.written q.config =
      (Render.Query.write .rows o.unlimited d).bind
        (WrittenQuery.ofChunks q.config.rules .unrestricted) :=
    q.builder.select.unlimited.writtenAs_eq .rows _ _
  have hframed : Render.Query.write .rows o d =
      Render.framed [] (Render.Query.write .rows o.unlimited d)
        (Render.Query.windowTexts q.config.rules q.window) := by
    rw [Render.Query.write_window, Render.Query.writeWindow_eq]
    exact (Render.nil_joined _).symm
  rw [written_eq, hbare, hframed]
  refine alike_around (fun s => ?_) _ _ _ _
  rw [Render.Query.join_windowTexts]
  rfl

theorem callsOfList_course {σ : Type} (h : q.written = .ok w) (b : Backend σ) (s : σ) :
    ∃ bound r, Course w.statement .empty (externalRange q.config.rules q.window)
      (q.callsOfList b s) bound r := by
  obtain ⟨log, bound, hrun, -, hcourse⟩ :=
    run_logging b q.config .select w.statement .empty (externalRange q.config.rules q.window) s
  have hlog : q.callsOfList b s = log := by
    simp only [callsOfList, list, h, window_of_written h, hrun]
    rfl
  exact ⟨bound, _, hlog ▸ hcourse⟩

theorem externalRange_eq_none {r : Rules} {v : Window}
    (h : r.pagination = .external → v.isRestricting = false) : externalRange r v = none := by
  unfold externalRange
  split
  · next he => simp [h he]
  · rfl

theorem externalRange_eq_some {r : Rules} {v : Window} (he : r.pagination = .external)
    (h : v.isRestricting = true) : externalRange r v = some v := by
  simp [externalRange, he, h]

variable {ks : List Clause}

theorem behind_ofWindow (hr : q.config.rules.Derived) (h : q.written = .ok w) :
    ∃ bare tail, q.builder.select.unlimited.written q.config = .ok bare ∧ w.text = bare.text ++ tail ∧
      readClauses tail = some (Clause.ofWindow q.config.rules.pagination q.window) := by
  obtain ⟨b, hbreak, hblank⟩ := hr.clauseBreak_blank
  have halike := written_alike_unlimited q
  rw [h] at halike
  generalize hbare : q.builder.select.unlimited.written q.config = x at halike
  cases halike with
  | written htext _ _ _ _ _ =>
    exact ⟨_, _, rfl, htext, Clause.readClauses_text _ hbreak hblank _⟩

theorem Pages.clauses_eq (hr : q.config.rules.Derived) (h : q.written = .ok w) (hp : q.Pages w ks) :
    ks = Clause.ofWindow q.config.rules.pagination q.window := by
  obtain ⟨bare, tail, hbare, htext, hread⟩ := hp.behind
  obtain ⟨bare', tail', hbare', htext', hread'⟩ := behind_ofWindow hr h
  obtain rfl : bare = bare' := Except.ok.inj (hbare.symm.trans hbare')
  obtain rfl : tail = tail' := String.append_right_inj _ |>.mp (htext.symm.trans htext')
  exact Option.some.inj (hread.symm.trans hread')

theorem pages_ofWindow (hr : q.config.rules.Derived) (h : q.written = .ok w)
    (ho : ∀ start stop,
      Clause.range start stop ∈ Clause.ofWindow q.config.rules.pagination q.window → start ≤ stop) :
    q.Pages w (Clause.ofWindow q.config.rules.pagination q.window) where
  behind := behind_ofWindow hr h
  told b s hlog he hw := by
    obtain ⟨bound, r, hcourse⟩ := callsOfList_course h b s
    rw [hcourse.ranges_eq hlog, externalRange_eq_some he hw, Option.toList_some]
  untold b s hw := by
    obtain ⟨bound, r, hcourse⟩ := callsOfList_course h b s
    rw [externalRange_eq_none hw] at hcourse
    exact hcourse.ranges_eq_nil
  rows b s hlog i hi := by
    obtain ⟨bound, r, hcourse⟩ := callsOfList_course h b s
    rw [hcourse.ranges_eq hlog]
    obtain he | hstyle := hr.pagination_cases
    · have hclauses : Clause.Keeps (Clause.ofWindow q.config.rules.pagination q.window) i := by
        simp [he, Clause.ofWindow, Clause.Keeps]
      cases hw : q.window.isRestricting with
      | true =>
        rw [externalRange_eq_some he hw]
        simp [hclauses]
      | false =>
        rw [externalRange_eq_none fun _ => hw]
        simp [hclauses, Window.keeps_of_isRestricting hw]
    · have htext : q.config.rules.pagination ≠ .external := fun he => by
        rw [he] at hstyle
        cases hstyle
      rw [externalRange_eq_none fun he => absurd he htext, ← Clause.keeps_ofWindow hstyle q.window hi]
      simp
  ordered := ho

/-- The window is told in full, and a range does not end before it starts, unless it is given no end and
starts behind the greatest one there is. -/
theorem written_pages_iff (hr : q.config.rules.Derived) (h : q.written = .ok w) :
    (∃ ks, q.Pages w ks) ↔
      ¬ (q.config.rules.pagination = .range ∧ q.window.limit = none ∧
        0x7fffffffffffffff < (q.window.offset.getD 0).toNat) := by
  rw [← Clause.le_of_range_iff]
  constructor
  · rintro ⟨ks, hp⟩
    rw [← hp.clauses_eq hr h]
    exact hp.ordered
  · intro ho
    exact ⟨_, pages_ofWindow hr h ho⟩

/-- Cats behind the given number of them. -/
def catsBehind (d : Dialect) (n : UInt64) : Query :=
  let cat := Path.source (.ofType "Cat") "cat"
  let cats := (Builder.ofRules (.ofDialect d)).sources [.path cat]
  ⟨cats.modify (·.withWindow (.ofOffset n)), .ofDialect d⟩

/-- Behind more cats than a signed number counts, the range is upside down. -/
theorem catsBehind_not_pages :
    ∃ w, (catsBehind .jdoql 0x8000000000000000).written = .ok w ∧
      w.text = "FROM Cat\nRANGE 9223372036854775808, 9223372036854775807" ∧
      ¬ ∃ ks, (catsBehind .jdoql 0x8000000000000000).Pages w ks := by
  refine ⟨_, rfl, by decide +kernel, fun ⟨ks, hp⟩ => ?_⟩
  have ho := hp.ordered
  rw [hp.clauses_eq (.preset .jdoql) rfl] at ho
  exact (Clause.le_of_range_iff _ _).mp ho ⟨rfl, rfl, by decide +kernel⟩

theorem written_pages_iff_catsBehind :
    ∃ w, (catsBehind .mysql 5).written = .ok w ∧
      ((∃ ks, (catsBehind .mysql 5).Pages w ks) ↔
        ¬ ((catsBehind .mysql 5).config.rules.pagination = .range ∧ (catsBehind .mysql 5).window.limit = none ∧
          0x7fffffffffffffff < ((catsBehind .mysql 5).window.offset.getD 0).toNat)) :=
  ⟨_, rfl, written_pages_iff (.preset .mysql) rfl⟩

end Query

end QueryText
