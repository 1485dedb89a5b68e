import QueryText.Proofs.Places.Request

namespace QueryText

open Render Paging

def Window.KeptOrDropped (w w' : Window) : Prop :=
  w' = w ∨ w' = .unrestricted

theorem Paging.Clause.ofWindow_ne_nil {style : Pagination} (hs : Written style) {w : Window}
    (hw : w.isRestricting = true) : ofWindow style w ≠ [] := by
  obtain ⟨l, o⟩ := w
  cases hs with
  | limitOffset _ | offsetFetch | range =>
    cases l <;> cases o <;> simp_all [ofWindow, Window.isRestricting]

namespace Render

namespace Chunk

def size : List Chunk → Nat
  | [] => 0
  | .text s :: cs => s.length + size cs
  | .slot _ _ :: cs => size cs

@[simp] theorem size_append (xs ys : List Chunk) : size (xs ++ ys) = size xs + size ys := by
  induction xs with
  | nil => simp [size]
  | cons x xs ih => cases x <;> simp [size, ih, Nat.add_assoc]

@[simp] theorem size_ofTexts (texts : List String) : size (ofTexts texts) = (String.join texts).length := by
  induction texts with
  | nil => rfl
  | cons s ss ih =>
    change s.length + size (ofTexts ss) = _
    rw [ih, String.join_cons, String.length_append]

theorem length_textFrom (r : Rules) (slot : Nat) (cs : List Chunk) :
    (textFrom r slot cs).length =
      size cs + (String.join ((List.range' slot (bindings cs).length).map r.placeholder)).length := by
  induction cs generalizing slot with
  | nil => rfl
  | cons c cs ih =>
    cases c with
    | text s => simp [textFrom, size, bindings, ih, Nat.add_assoc]
    | slot b p =>
      simp only [textFrom, size, bindings, String.length_append, ih, List.length_cons, List.range'_succ,
        List.map_cons, String.join_cons]
      omega

end Chunk

theorem Query.windowTexts_unrestricted (r : Rules) : windowTexts r .unrestricted = [] := by
  unfold windowTexts
  cases r.pagination <;> rfl

theorem Query.size_windowTexts {r : Rules} (hr : r.Derived) (hs : Clause.Written r.pagination) {w : Window}
    (hw : w.isRestricting = true) : 0 < Chunk.size (Chunk.ofTexts (windowTexts r w)) := by
  obtain ⟨blank, hbreak, -⟩ := hr.clauseBreak_blank
  have hlength : r.clauseBreak.length = 1 := by rw [← String.length_toList, hbreak, List.length_singleton]
  obtain ⟨k, ks, hks⟩ := List.exists_cons_of_ne_nil (Clause.ofWindow_ne_nil hs hw)
  simp only [Chunk.size_ofTexts, windowTexts, hks, List.flatMap_cons, List.cons_append, String.join_cons,
    String.length_append, hlength]
  omega

/-- Both fail alike, or the second has the same slots and no more text. -/
inductive Shrinks : Except QueryError (List Chunk) → Except QueryError (List Chunk) → Prop where
  | failed (e : QueryError) : Shrinks (.error e) (.error e)
  | written {xs ys : List Chunk} (hb : Chunk.bindings ys = Chunk.bindings xs)
      (hs : Chunk.size ys ≤ Chunk.size xs) : Shrinks (.ok xs) (.ok ys)

namespace Shrinks

variable {x y x' y' : Except QueryError (List Chunk)} {xs ys : List Chunk}

theorem refl (x : Except QueryError (List Chunk)) : Shrinks x x := by
  cases x with
  | error e => exact .failed e
  | ok xs => exact .written rfl le_rfl

theorem fails (h : Shrinks x y) (e : QueryError) : x = .error e ↔ y = .error e := by
  cases h with
  | failed _ => exact Iff.rfl
  | written _ _ => simp

theorem join (h : Shrinks x y) (h' : Shrinks x' y') : Shrinks (joined x x') (joined y y') := by
  cases h with
  | failed e => exact .failed e
  | written hb hs =>
    cases h' with
    | failed e => exact .failed e
    | written hb' hs' => exact .written (by simp [hb, hb']) (by simp; omega)

theorem size_le (h : Shrinks (.ok xs) (.ok ys)) :
    Chunk.bindings ys = Chunk.bindings xs ∧ Chunk.size ys ≤ Chunk.size xs := by
  cases h with
  | written hb hs => exact ⟨hb, hs⟩

end Shrinks

namespace Windowing

def dropping : Windowing where
  rules _ := True
  windows := Window.KeptOrDropped
  results := Shrinks
  fails := Shrinks.fails
  refl := Shrinks.refl
  join := Shrinks.join
  window {c} _ w w' hw := by
    obtain rfl | rfl := hw
    · exact .refl _
    · rw [Query.writeWindow_unrestricted, Query.writeWindow_eq]
      exact .written (by simp [Chunk.bindings]) (Nat.zero_le _)

def untold : Windowing where
  __ := still
  rules r := r.pagination = .external
  windows _ w' := w' = .unrestricted
  window {c} h w w' _ := by
    change Query.writeWindow w c = Query.writeWindow w' c
    simp only [Query.writeWindow, Writer.byRules, h]

end Windowing

end Render

/-- The query stands in the text in parentheses, and between these, behind the query for all of its rows,
stand clauses that keep the rows in its window. -/
def Select.Shown (q : Select Expr) (c : Context) (text : String) : Prop :=
  ∃ before slot cs tail after ks,
    q.unlimited.write .rows (c.inside q.params) = .ok cs ∧
      text = before ++ "(" ++ Chunk.textFrom c.rules slot cs ++ tail ++ ")" ++ after ∧
      readClauses tail = some ks ∧ ks ≠ [] ∧ ∀ i < 0x7fffffffffffffff, Clause.Keeps ks i ↔ q.window.Keeps i

namespace Request

variable {a b : Request} {w v : WrittenStatement} {is : List Nat} {q q' : Select Expr} {c c' : Context}

/-- The sub-query that is written at that address, and its context. -/
def subQuery? (a : Request) (is : List Nat) : Option (Select Expr × Context) :=
  (a.spot? is).bind fun s => s.expr.query?.map (·, s.context)

abbrev DropsTo : Request → Request → Prop :=
  Request.Rel (Expr.SameButWindows Window.KeptOrDropped) Window.KeptOrDropped

/-- No window of a sub-query is lost. -/
structure KeepsWindows (a : Request) (w : WrittenStatement) : Prop where
  shown : ∀ is q c, a.subQuery? is = some (q, c) → q.window.isRestricting = true → q.Shown c w.text
  told : ∀ is q c, a.subQuery? is = some (q, c) → q.window.isRestricting = true →
    ∀ b q' c', a.DropsTo b → b.subQuery? is = some (q', c') → q'.window = .unrestricted →
      ∀ v, b.written = .ok v → v.text ≠ w.text

theorem subQuery?_iff :
    a.subQuery? is = some (q, c) ↔ ∃ s, a.spot? is = some s ∧ s.expr = .subQuery q ∧ s.context = c := by
  simp only [subQuery?, Option.bind_eq_some_iff, Option.map_eq_some_iff, Prod.mk.injEq]
  constructor
  · rintro ⟨s, hs, q', hq, rfl, rfl⟩
    refine ⟨s, hs, ?_, rfl⟩
    cases he : s.expr with
    | subQuery _ =>
      rw [he] at hq
      rw [Option.some.inj hq]
    | _ => simp [he, Expr.query?] at hq
  · rintro ⟨s, hs, he, rfl⟩
    exact ⟨s, hs, q, by rw [he]; rfl, rfl, rfl⟩

theorem inside_of_subQuery? {all : List Chunk} (h : a.chunks = .ok all) (hq : a.subQuery? is = some (q, c)) :
    c.rules = a.config.rules ∧ ∃ before inside after, (Expr.subQuery q).write c = .ok inside ∧
      all = before ++ inside ++ after := by
  obtain ⟨s, hs, he, rfl⟩ := subQuery?_iff.mp hq
  exact he ▸ inside_of_spot? h hs

theorem around_subQuery {W : Windowing} (hr : W.rules a.config.rules)
    (h : Request.Rel W.Same W.windows a b) (hq : a.subQuery? is = some (q, c)) :
    ∃ q', b.subQuery? is = some (q', c) ∧ c.rules = a.config.rules ∧ Select.Rel W.Same W.windows q q' ∧
      W.coupling.Around ((Expr.subQuery q).write c) ((Expr.subQuery q').write c) a.chunks b.chunks := by
  obtain ⟨s, hs, he, rfl⟩ := subQuery?_iff.mp hq
  obtain ⟨s', hs', hstand⟩ := Windowing.request_stand hr h hs
  obtain ⟨hcontext, hrules, hexpr, -, hstands⟩ := hstand
  rw [he] at hexpr hstands
  cases hx : s'.expr with
  | subQuery q' =>
    rw [hx] at hexpr hstands
    cases hexpr with
    | subQuery hqq =>
      exact ⟨q', subQuery?_iff.mpr ⟨s', hs', hx, hcontext⟩, hrules, hqq, hstands⟩
  | _ =>
    rw [hx] at hexpr
    cases hexpr

theorem write_subQuery_ok {xs : List Chunk} (h : (Expr.subQuery q).write c = .ok xs) :
    ∃ cs, q.unlimited.write .rows (c.inside q.params) = .ok cs ∧
      xs = [.text "("] ++ (cs ++ Chunk.ofTexts (Query.windowTexts c.rules q.window)) ++ [.text ")"] := by
  rw [Windowing.write_subQuery, Writer.parenthesized, append_apply, append_apply, q.write_rows,
    Query.writeWindow_eq] at h
  obtain ⟨_, _, hopen, hclose, rfl⟩ := joined_ok h
  obtain ⟨_, _, hleft, hrows, rfl⟩ := joined_ok hopen
  obtain ⟨cs, _, hcs, htexts, rfl⟩ := joined_ok hrows
  obtain rfl := Except.ok.inj hleft
  obtain rfl := Except.ok.inj hclose
  obtain rfl := Except.ok.inj htexts
  exact ⟨cs, hcs, rfl⟩

theorem shown_of_written (hr : a.config.rules.Derived)
    (hs : Clause.Written a.config.rules.pagination) (h : a.written = .ok w)
    (hq : a.subQuery? is = some (q, c)) (hw : q.window.isRestricting = true) : q.Shown c w.text := by
  obtain ⟨xs, hxs, rfl⟩ := written_chunks h
  obtain ⟨hrules, pre, inner, post, hinner, rfl⟩ := inside_of_subQuery? hxs hq
  obtain ⟨ys, hys, rfl⟩ := write_subQuery_ok hinner
  obtain ⟨blank, hbreak, hblank⟩ := hr.clauseBreak_blank
  rw [← hrules] at hs hbreak
  let r := a.config.rules
  let slot := 1 + (Chunk.bindings pre).length
  refine ⟨Chunk.textFrom r 1 pre, slot, ys, String.join (Query.windowTexts c.rules q.window),
    Chunk.textFrom r (slot + (Chunk.bindings ys).length) post, _, hys, ?_, ?_,
    Clause.ofWindow_ne_nil hs hw, fun i hi => Clause.keeps_ofWindow hs q.window hi⟩
  · simp [WrittenStatement.ofChunks, Chunk.fullText, Chunk.textFrom_append, hrules, Chunk.textFrom,
      Chunk.bindings, String.append_assoc, r, slot]
  · rw [Query.join_windowTexts]
    exact Clause.readClauses_text _ hbreak hblank _

theorem text_ne_of_dropped (hr : a.config.rules.Derived) (hs : Clause.Written a.config.rules.pagination)
    (h : a.written = .ok w) (hq : a.subQuery? is = some (q, c)) (hw : q.window.isRestricting = true)
    (hb : a.DropsTo b) (hq' : b.subQuery? is = some (q', c')) (hw' : q'.window = .unrestricted)
    (hv : b.written = .ok v) : v.text ≠ w.text := by
  obtain ⟨xs, hxs, rfl⟩ := written_chunks h
  obtain ⟨ys, hys, rfl⟩ := written_chunks hv
  obtain ⟨t, ht, hrules, hqt, haround⟩ := around_subQuery (W := .dropping) trivial hb hq
  obtain ⟨rfl, rfl⟩ := Prod.mk.inj (Option.some.inj (hq'.symm.trans ht))
  rw [hxs, hys] at haround
  obtain ⟨ps, is, rs, ps', is', rs', hinner, hinner', hps, hrs, rfl, rfl⟩ := haround.of_ok
  obtain ⟨cs, hcs, rfl⟩ := write_subQuery_ok hinner
  obtain ⟨cs', hcs', rfl⟩ := write_subQuery_ok hinner'
  have hrows : Shrinks (.ok cs) (.ok cs') := by
    rw [← hcs, ← hcs', ← hqt.params]
    exact Windowing.unlimited_alike (W := .dropping) trivial .rows hqt
  have hconfig : a.config = b.config := Windowing.config_same (W := .dropping) hb
  rw [← hrules] at hr hs
  have hwindow := Query.size_windowTexts hr hs hw
  obtain ⟨hbefore, hsize⟩ := hps.size_le
  obtain ⟨hafter, hsize'⟩ := hrs.size_le
  obtain ⟨hinside, hsize''⟩ := hrows.size_le
  intro htext
  have hlength := congrArg String.length htext
  simp only [WrittenStatement.ofChunks, Chunk.fullText, Chunk.length_textFrom, Chunk.size_append,
    Chunk.bindings_append, Chunk.bindings_ofTexts, hbefore, hafter, hinside, hw', hconfig,
    Query.windowTexts_unrestricted] at hlength
  have hnone : Chunk.size (Chunk.ofTexts []) = 0 := rfl
  omega

theorem rel_untold (a : Request) :
    Request.Rel Windowing.untold.Same Windowing.untold.windows a a.dropWindows :=
  rel_dropWindows (W := Windowing.untold.windows) (fun _ => rfl) a

theorem written_dropWindows (he : a.config.rules.pagination = .external) (h : a.written = .ok w) :
    a.dropWindows.written = .ok w :=
  written_congr a.rel_untold (Windowing.chunks_alike (W := .untold) he a.rel_untold) h

theorem not_keepsWindows_of_external (he : a.config.rules.pagination = .external) (h : a.written = .ok w)
    (hq : a.subQuery? is = some (q, c)) (hw : q.window.isRestricting = true) : ¬ a.KeepsWindows w := by
  intro hkeeps
  obtain ⟨q', hq', -, hqq, -⟩ := around_subQuery (W := .untold) he a.rel_untold hq
  have hdrops : a.DropsTo a.dropWindows := rel_dropWindows (fun _ => .inr rfl) a
  have hwritten := written_dropWindows he h
  exact hkeeps.told is q c hq hw a.dropWindows q' c hdrops hq' hqq.windows w hwritten rfl

/-- The windows of sub-queries are kept, unless windows are told beside the text: there, no place is left
for those of sub-queries. -/
theorem written_keepsWindows_iff (hr : a.config.rules.Derived) (h : a.written = .ok w) :
    a.KeepsWindows w ↔
      (a.config.rules.pagination = .external →
        ∀ is q c, a.subQuery? is = some (q, c) → q.window.isRestricting = false) := by
  constructor
  · intro hkeeps he is q c hq
    by_contra hw
    exact not_keepsWindows_of_external he h hq (by simpa using hw) hkeeps
  · intro hnone
    obtain he | hs := hr.pagination_cases
    · have hfalse {is : List Nat} {q : Select Expr} {c : Context} (hq : a.subQuery? is = some (q, c))
          (hw : q.window.isRestricting = true) : False := by
        simp [hnone he is q c hq] at hw
      exact ⟨fun _ _ _ hq hw => (hfalse hq hw).elim, fun _ _ _ hq hw => (hfalse hq hw).elim⟩
    · exact ⟨fun _ _ _ hq hw => shown_of_written hr hs h hq hw,
        fun _ _ _ hq hw _ _ _ hb hq' hw' _ hv => text_ne_of_dropped hr hs h hq hw hb hq' hw' hv⟩

def firstProduct : Select Expr :=
  let product := Path.source (.ofType "Product") "product"
  { Select.empty with
    joins := [.of .plain (.path product)]
    projection := [.path (product.property "id" .int)]
    window := .ofLimit 1 }

def firstProductCats (d : Dialect) : Request :=
  let cat := Path.source (.ofType "Cat") "cat"
  let cats : Select Expr :=
    { Select.empty with
      joins := [.of .plain (.path cat)]
      filter := some (.operation .isIn [.path (cat.property "id" .int), .subQuery firstProduct]) }
  .rows cats (.ofDialect d)

theorem written_keepsWindows_iff_firstProductCats :
    ∃ w, (firstProductCats .ansi).written = .ok w ∧
      w.text = "select *\nfrom CAT cat\nwhere cat.id in (select product.id\nfrom PRODUCT product\n" ++
        "fetch first 1 rows only)" ∧
      (firstProductCats .ansi).KeepsWindows w :=
  ⟨_, rfl, by decide +kernel, (written_keepsWindows_iff (a := firstProductCats .ansi) (.preset .ansi) rfl).mpr fun he => by cases he⟩

/-- In JPQL, any product will do. -/
theorem firstProductCats_not_keepsWindows :
    ∃ w, (firstProductCats .jpql).written = .ok w ∧
      w.text = "from Cat cat\nwhere cat.id in (select product.id\nfrom Product product)" ∧
      ¬ (firstProductCats .jpql).KeepsWindows w :=
  have hq : (firstProductCats .jpql).subQuery? [0, 2] = some (firstProduct, _) := rfl
  ⟨_, rfl, by decide +kernel, not_keepsWindows_of_external rfl rfl hq rfl⟩

end Request

end QueryText
