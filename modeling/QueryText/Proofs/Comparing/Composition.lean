import QueryText.Proofs.Comparing.Alone
import QueryText.Proofs.Comparing.Filtering
import QueryText.Proofs.Places.Pagination

namespace QueryText

open Render

/-- The sub-query of a request, written on its own under the same rules. -/
def Request.own (r : Request) (q : Select Expr) : Except QueryError (List Chunk) :=
  q.write .rows (.of r.config.rules r.context.mode r.config.literals [q.params])

section SubQuery

variable {r : Request} {is : List Nat} {q : Select Expr} {c : Context} {w : WrittenStatement}

theorem Render.slotsOf_againstResult (p : Option Path) (x : Except QueryError (List Chunk)) :
    slotsOf (againstResult p x) = (slotsOf x).map fun s => (s.1, s.2.map (·.or p)) := by
  cases x with
  | error e => rfl
  | ok xs => simp [slotsOf, againstResult, Except.map]

/-- What is compared around a sub-query goes to its values, and nothing else about its slots depends on
what is around it. -/
theorem Request.slotsOf_own (h : r.subQuery? is = some (q, c)) (hs : q.SettledIn c.scopes) :
    slotsOf (q.write .rows (c.inside q.params)) = slotsOf (againstResult c.compared (r.own q)) := by
  obtain ⟨s, hspot, -, rfl⟩ := subQuery?_iff.mp h
  obtain ⟨hrules, hmode, hinlining⟩ := context_spot? hspot
  generalize s.context = c at hrules hmode hinlining hs ⊢
  have hcontext : c.inside q.params = { c.inside q.params with compared := none }.comparedOr c.compared := rfl
  have halone : AloneContexts c.scopes [q.params] (.of c.rules c.mode c.inlining [q.params])
      { c.inside q.params with compared := none } := ⟨rfl, rfl⟩
  rw [hcontext, select_write_comparedOr, slotsOf_againstResult, slotsOf_againstResult,
    ← slotsOf_alone .rows hs halone, Request.own, ← hrules, ← hmode, ← hinlining]

theorem Request.paths_subQuery (h : r.written = .ok w) (hq : r.subQuery? is = some (q, c))
    (hs : q.SettledIn c.scopes) :
    ∃ before inside after own, r.chunks = .ok (before ++ inside ++ after) ∧
      (Expr.subQuery q).write c = .ok inside ∧ r.own q = .ok own ∧
      Chunk.paths inside = (Chunk.paths own).map (·.or c.compared) := by
  obtain ⟨all, hall, -⟩ := written_chunks h
  obtain ⟨-, before, inside, after, hinside, rfl⟩ := inside_of_subQuery? hall hq
  have hwrite := hinside
  rw [Windowing.write_subQuery, Writer.parenthesized, append_apply, append_apply] at hwrite
  obtain ⟨_, _, hopen, hclose, rfl⟩ := joined_ok hwrite
  obtain ⟨_, rows, hleft, hrows, rfl⟩ := joined_ok hopen
  obtain rfl := Except.ok.inj hleft
  obtain rfl := Except.ok.inj hclose
  have hslots := slotsOf_own hq hs
  rw [hrows, slotsOf_againstResult] at hslots
  cases hown : r.own q with
  | error e => simp [hown, slotsOf, Except.map] at hslots
  | ok own =>
    simp only [hown, slotsOf, Except.map, Except.ok.injEq, Prod.mk.injEq] at hslots
    refine ⟨before, _, after, own, ?_, hinside, rfl, ?_⟩
    · rw [hall, List.append_assoc before]
    · simp [Chunk.paths, hslots.2]

end SubQuery

theorem Render.map_or_eq_self (ps : List (Option Path)) (o : Option Path) :
    ps.map (·.or o) = ps ↔ ∀ p, o = some p → none ∉ ps := by
  cases o with
  | none => simp [Option.or_none]
  | some p =>
    simp only [Option.some.injEq, forall_eq']
    induction ps with
    | nil => simp
    | cons q qs ih =>
      rw [List.map_cons, List.cons.injEq, ih, List.mem_cons, not_or]
      cases q <;> simp

/-- A pair of predicates records what both of them record alone. -/
def Filtering.RecordsApart (f : Filtering) (a b : Expr) (w : WrittenStatement) : Prop :=
  ∃ wa wb, (f.request a).written = .ok wa ∧ (f.request b).written = .ok wb ∧ w.paths = wa.paths ++ wb.paths

/-- In the text of the request, the sub-query records what it records on its own. -/
def Request.RecordsOwn (r : Request) (q : Select Expr) (c : Context) : Prop :=
  ∃ before inside after own, r.chunks = .ok (before ++ inside ++ after) ∧
    (Expr.subQuery q).write c = .ok inside ∧ r.own q = .ok own ∧ Chunk.paths inside = Chunk.paths own

namespace Filtering

variable {f : Filtering} {op : Operator} {a b : Expr} {w : WrittenStatement}

theorem recordsApart_iff (hop : op = .and ∨ op = .or) (hr : f.config.rules.WritesInOrder op)
    (h : (f.request (.operation op [a, b])).written = .ok w) :
    f.RecordsApart a b w ↔
      ∀ p wb, a.path? = some p → (f.request b).written = .ok wb → none ∉ wb.paths := by
  obtain ⟨wa, wb, ha, hb, hpaths⟩ := paths_pair hop hr h
  constructor
  · rintro ⟨wa', wb', ha', hb', happend⟩ p wb'' hp hb''
    obtain rfl := Except.ok.inj (ha.symm.trans ha')
    obtain rfl := Except.ok.inj (hb.symm.trans hb')
    obtain rfl := Except.ok.inj (hb.symm.trans hb'')
    have hsame := List.append_cancel_left (hpaths.symm.trans happend)
    exact (map_or_eq_self _ _).mp hsame p hp
  · intro hnone
    have hsame := (map_or_eq_self wb.paths a.path?).mpr fun p hp => hnone p wb hp hb
    exact ⟨wa, wb, ha, hb, by rw [hpaths, hsame]⟩

end Filtering

namespace Request

variable {r : Request} {is : List Nat} {q : Select Expr} {c : Context} {w : WrittenStatement}

theorem recordsOwn_iff (h : r.written = .ok w) (hq : r.subQuery? is = some (q, c))
    (hs : q.SettledIn c.scopes) :
    r.RecordsOwn q c ↔ ∀ p own, c.compared = some p → r.own q = .ok own → none ∉ Chunk.paths own := by
  obtain ⟨before, inside, after, own, hchunks, hinside, hown, hpaths⟩ := paths_subQuery h hq hs
  constructor
  · rintro ⟨_, inside', _, own', -, hinside', hown', hsame⟩ p own'' hp hown''
    obtain rfl := Except.ok.inj (hinside.symm.trans hinside')
    obtain rfl := Except.ok.inj (hown.symm.trans hown')
    obtain rfl := Except.ok.inj (hown.symm.trans hown'')
    exact (map_or_eq_self _ _).mp (hpaths.symm.trans hsame) p hp
  · intro hnone
    have hsame := (map_or_eq_self (Chunk.paths own) c.compared).mpr fun p hp => hnone p own hp hown
    exact ⟨before, inside, after, own, hchunks, hinside, hown, hpaths.trans hsame⟩

end Request

/-- Recorded paths are those of the parts, unless a path is handed down to values that have none: by a
path in front of a predicate, or by whatever a sub-query is compared with. -/
theorem Request.paths_compositional_iff {f : Filtering} {op : Operator} {a b : Expr} {w : WrittenStatement}
    (hop : op = .and ∨ op = .or) (ho : f.config.rules.WritesInOrder op)
    (hw : (f.request (.operation op [a, b])).written = .ok w) {r : Request} {is : List Nat}
    {q : Select Expr} {c : Context} {v : WrittenStatement} (hv : r.written = .ok v)
    (hq : r.subQuery? is = some (q, c)) (hs : q.SettledIn c.scopes) :
    (f.RecordsApart a b w ↔
      ∀ p wb, a.path? = some p → (f.request b).written = .ok wb → none ∉ wb.paths) ∧
    (r.RecordsOwn q c ↔ ∀ p own, c.compared = some p → r.own q = .ok own → none ∉ Chunk.paths own) :=
  ⟨Filtering.recordsApart_iff hop ho hw, recordsOwn_iff hv hq hs⟩

section Cats

def cats : Filtering :=
  ⟨.list, .ofType "Cat", "cat", .empty, .ofDialect .ansi⟩

def catId : Path :=
  cats.source.property "id" .int

def catName : Path :=
  cats.source.property "name" .text

def catAlive : Path :=
  cats.source.property "alive" .bool

def productName : Path :=
  (Path.source (.ofType "Product") "product").property "name" .text

/-- The ids of the products called `x`. -/
def productsCalledX : Select Expr :=
  let product := Path.source (.ofType "Product") "product"
  { Select.empty with
    joins := [.of .plain (.path product)]
    projection := [.path (product.property "id" .int)]
    filter := some (.operation .eq [.path productName, .constant (.text "x")]) }

/-- Cats called `a`, and those with the id of a product called `x`. -/
theorem Request.paths_compositional_iff_cats :
    let a := Expr.operation .eq [.path catName, .constant (.text "a")]
    let b := Expr.operation .isIn [.path catId, .subQuery productsCalledX]
    ∃ w c, (cats.request (.operation .or [a, b])).written = .ok w ∧
      w.paths = [some catName, some productName] ∧
      (cats.request (.operation .or [a, b])).subQuery? [0, 2, 2] = some (productsCalledX, c) ∧
      c.compared = some catId ∧ cats.RecordsApart a b w ∧
      (cats.request (.operation .or [a, b])).RecordsOwn productsCalledX c := by
  intro a b
  obtain ⟨own, hown, hpaths⟩ : ∃ own, (cats.request (.operation .or [a, b])).own productsCalledX = .ok own ∧
      Chunk.paths own = [some productName] := ⟨_, rfl, rfl⟩
  have hsettled : productsCalledX.SettledIn [.empty] :=
    Select.settledIn_unbound (fun m hm p => by
      obtain rfl := List.mem_singleton.mp hm
      rfl) _
  have hq : (cats.request (.operation .or [a, b])).subQuery? [0, 2, 2] = some (productsCalledX, _) := rfl
  have hiff := Request.paths_compositional_iff (f := cats) (a := a) (b := b) (.inr rfl)
    (Rules.writesInOrder_ofDialect .ansi (.inr rfl)) rfl rfl hq hsettled
  refine ⟨_, _, rfl, rfl, rfl, rfl, hiff.1.mpr ?_, hiff.2.mpr ?_⟩
  · rintro p wb ⟨⟩
  · intro p own' _ h
    obtain rfl := Except.ok.inj (hown.symm.trans h)
    simp [hpaths]

/-- A cat that is alive hands itself on to the value that its name is compared with. -/
theorem cats_not_recordsApart :
    let a := Expr.path catAlive
    let b := Expr.operation .eq [.operation .lower [.path catName], .constant (.text "a")]
    ∃ w, (cats.request (.operation .and [a, b])).written = .ok w ∧
      w.text = "select *\nfrom CAT cat\nwhere cat.alive and lower(cat.name) = ?" ∧
      w.paths = [some catAlive] ∧ ¬ cats.RecordsApart a b w := by
  intro a b
  refine ⟨_, rfl, by decide +kernel, rfl, fun h => ?_⟩
  obtain ⟨wb, hb, hpaths⟩ : ∃ wb, (cats.request b).written = .ok wb ∧ wb.paths = [none] := ⟨_, rfl, rfl⟩
  have hnone := (Filtering.recordsApart_iff (.inl rfl) (Rules.writesInOrder_ofDialect .ansi (.inl rfl)) rfl).mp
    h catAlive wb rfl hb
  simp [hpaths] at hnone

end Cats

end QueryText
