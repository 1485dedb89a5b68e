import QueryText.Proofs.Alignment
import QueryText.Proofs.Inlining
import QueryText.Proofs.Places.Spots

namespace QueryText

open Render

/-- The expressions that are written of a change. A value belongs to its column. -/
def Change.parts (ch : Change) (c : Context) : List (Expr × Context) :=
  let about (target : Path) : Context :=
    if c.rules.grammar = .jdoql then { c with candidate := some target } else c
  match ch with
  | insert i => (i.columns.zip i.values).map fun x => (x.2, { c with compared := some x.1 })
  | update u =>
    (u.assignments.map fun a => (a.2, { about u.target with compared := some a.1 })) ++
      u.filter.toList.map (·, about u.target)
  | delete d => d.filter.toList.map (·, about d.target)

theorem Change.context_parts (ch : Change) (c : Context) :
    ∀ x ∈ ch.parts c, ∃ compared candidate, x.2 = { c with compared := compared, candidate := candidate } := by
  have habout (target : Path) : ∃ candidate,
      (if c.rules.grammar = .jdoql then { c with candidate := some target } else c) =
        { c with candidate := candidate } := by
    split
    · exact ⟨some target, rfl⟩
    · exact ⟨c.candidate, rfl⟩
  intro x hx
  cases ch with
  | insert i =>
    obtain ⟨a, -, rfl⟩ := List.mem_map.mp hx
    exact ⟨some a.1, c.candidate, rfl⟩
  | update u =>
    obtain ⟨candidate, hc⟩ := habout u.target
    simp only [parts, hc] at hx
    obtain hx | hx := List.mem_append.mp hx
    · obtain ⟨a, -, rfl⟩ := List.mem_map.mp hx
      exact ⟨some a.1, candidate, rfl⟩
    · obtain ⟨_, -, rfl⟩ := List.mem_map.mp hx
      exact ⟨c.compared, candidate, rfl⟩
  | delete d =>
    obtain ⟨candidate, hc⟩ := habout d.target
    simp only [parts, hc] at hx
    obtain ⟨_, -, rfl⟩ := List.mem_map.mp hx
    exact ⟨c.compared, candidate, rfl⟩

theorem Change.rules_parts (ch : Change) (c : Context) : ∀ x ∈ ch.parts c, x.2.rules = c.rules := by
  intro x hx
  obtain ⟨_, _, h⟩ := ch.context_parts c x hx
  rw [h]

inductive Change.Rel (R : Expr → Expr → Prop) : Change → Change → Prop where
  | insert (c : Config) (target : Path) (columns : List Path) {es es' : List Expr}
      (h : List.Forall₂ R es es') (params : ParamMap) :
      Rel R (.insert ⟨c, target, columns, es, params⟩) (.insert ⟨c, target, columns, es', params⟩)
  | update (c : Config) (target : Path) {as as' : List (Path × Expr)}
      (h : List.Forall₂ (fun a a' => a.1 = a'.1 ∧ R a.2 a'.2) as as') {o o' : Option Expr}
      (ho : Option.Rel R o o') (params : ParamMap) :
      Rel R (.update ⟨c, target, as, o, params⟩) (.update ⟨c, target, as', o', params⟩)
  | delete (c : Config) (target : Path) {o o' : Option Expr} (ho : Option.Rel R o o')
      (params : ParamMap) : Rel R (.delete ⟨c, target, o, params⟩) (.delete ⟨c, target, o', params⟩)

/-- What is sent to a data store. -/
inductive Request where
  | rows (q : Select Expr) (c : Config)
  | count (q : Select Expr) (c : Config)
  | change (ch : Change)

namespace Request

def config : Request → Config
  | rows _ c | count _ c => c
  | change ch => ch.config

def context : Request → Context
  | rows q c | count q c => .of c.rules .resolving c.literals [q.params]
  | change ch => Statement.context ch.config ch.params

def chunks (a : Request) : Except QueryError (List Chunk) :=
  match a with
  | rows q _ => q.write .rows a.context
  | count q _ => q.write .count a.context
  | change ch => ch.checked.bind fun head => ch.write head a.context

def written : Request → Except QueryError WrittenStatement
  | rows q c => (q.written c).map (·.statement)
  | count q c => (q.writtenCount c).map (·.statement)
  | change ch => ch.written

def spot? (a : Request) (is : List Nat) : Option Spot :=
  match a, is with
  | rows q _, is => q.spot? .rows a.context is
  | count q _, is => q.spot? .count a.context is
  | change _, [] => none
  | change ch, i :: is => ((ch.parts a.context)[i]?).bind fun (e, d) => e.spot? is d

inductive Rel (R : Expr → Expr → Prop) (W : Window → Window → Prop) : Request → Request → Prop where
  | rows {q q' : Select Expr} (h : Select.Rel R W q q') (c : Config) : Rel R W (.rows q c) (.rows q' c)
  | count {q q' : Select Expr} (h : Select.Rel R W q q') (c : Config) : Rel R W (.count q c) (.count q' c)
  | change {ch ch' : Change} (h : Change.Rel R ch ch') : Rel R W (.change ch) (.change ch')

def dropWindows : Request → Request
  | rows q c => rows (Expr.dropWindowsSelect q) c
  | count q c => count (Expr.dropWindowsSelect q) c
  | change ch => change (ch.mapExprs Expr.dropWindows)

section Related

variable {R : Expr → Expr → Prop} {W : Window → Window → Prop}

theorem rel_mapExprs {f : Expr → Expr} (h : ∀ e, R e (f e)) (ch : Change) : ch.Rel R (ch.mapExprs f) := by
  have hlist (es : List Expr) : List.Forall₂ R es (es.map f) := by
    rw [List.forall₂_map_right_iff]
    exact List.forall₂_same.mpr fun e _ => h e
  have hoption (o : Option Expr) : Option.Rel R o (o.map f) := by
    cases o with
    | none => exact .none
    | some e => exact .some (h e)
  cases ch with
  | insert i => exact .insert i.config i.target i.columns (hlist i.values) i.params
  | update u =>
    refine .update u.config u.target ?_ (hoption u.filter) u.params
    rw [List.forall₂_map_right_iff]
    exact List.forall₂_same.mpr fun a _ => ⟨rfl, h a.2⟩
  | delete d => exact .delete d.config d.target (hoption d.filter) d.params

theorem rel_self (hW : ∀ w, W w w) (a : Request) : a.Rel (Expr.SameButWindows W) W a := by
  cases a with
  | rows q c => exact .rows (Expr.SameButWindows.refl_select hW q) c
  | count q c => exact .count (Expr.SameButWindows.refl_select hW q) c
  | change ch =>
    have hself := rel_mapExprs (f := fun e => e) (Expr.SameButWindows.refl hW) ch
    rw [ch.mapExprs_id] at hself
    exact .change hself

theorem rel_dropWindows (hW : ∀ w, W w .unrestricted) (a : Request) :
    a.Rel (Expr.SameButWindows W) W a.dropWindows := by
  cases a with
  | rows q c => exact .rows (Expr.rel_dropWindowsSelect hW q) c
  | count q c => exact .count (Expr.rel_dropWindowsSelect hW q) c
  | change ch => exact .change (rel_mapExprs (Expr.sameButWindows_dropWindows hW) ch)

end Related

theorem rules_context (a : Request) : a.context.rules = a.config.rules := by
  cases a <;> rfl

theorem inlining_context (a : Request) : a.context.inlining = a.config.literals := by
  cases a <;> rfl

theorem context_spot? {a : Request} {is : List Nat} {s : Spot} (h : a.spot? is = some s) :
    s.context.rules = a.config.rules ∧ s.context.mode = a.context.mode ∧
      s.context.inlining = a.config.literals := by
  rw [← a.rules_context, ← a.inlining_context]
  cases a with
  | rows q c | count q c =>
    have hleads := Select.leads_of_spot? h
    obtain ⟨_, hown⟩ := q.ownContext_eq (c := Context.of c.rules .resolving c.literals [q.params])
    exact ⟨hleads.rules.trans (congrArg (·.rules) hown), hleads.mode.trans (congrArg (·.mode) hown),
      hleads.inlining.trans (congrArg (·.inlining) hown)⟩
  | change ch =>
    match is, h with
    | i :: is, h =>
      obtain ⟨⟨e, d⟩, hpart, h⟩ := Option.bind_eq_some_iff.mp h
      obtain ⟨_, _, hd⟩ := ch.context_parts _ _ (List.mem_of_getElem? hpart)
      have hleads := Expr.leads_of_spot? h
      exact ⟨hleads.rules.trans (congrArg (·.rules) hd), hleads.mode.trans (congrArg (·.mode) hd),
        hleads.inlining.trans (congrArg (·.inlining) hd)⟩

theorem values_eq_iff {bs : List Binding} {vs : List Value} :
    WrittenQuery.values bs = .ok vs ↔ bs = vs.map .value :=
  ⟨values_eq, fun h => h ▸ WrittenQuery.values_map vs⟩

def Accepts (a : Request) (bs : List Binding) : Prop :=
  match a with
  | rows _ _ | count _ _ => ∃ vs : List Value, bs = vs.map .value
  | change _ => True

theorem accepts_append (a : Request) (bs bs' : List Binding) :
    a.Accepts (bs ++ bs') ↔ a.Accepts bs ∧ a.Accepts bs' := by
  cases a with
  | rows q c | count q c =>
    constructor
    · rintro ⟨vs, h⟩
      obtain ⟨us, us', -, hu, hu'⟩ := List.append_eq_map_iff.mp h
      exact ⟨⟨us, hu.symm⟩, ⟨us', hu'.symm⟩⟩
    · rintro ⟨⟨us, rfl⟩, ⟨us', rfl⟩⟩
      exact ⟨us ++ us', by rw [List.map_append]⟩
  | change ch => simp [Accepts]

theorem writtenAs_iff {form : Form} {w : Window} {q : Select Expr} {c : Config} {s : WrittenStatement} :
    (q.writtenAs form w c).map (·.statement) = .ok s ↔
      ∃ cs, q.write form (.of c.rules .resolving c.literals [q.params]) = .ok cs ∧
        (∃ vs : List Value, Chunk.bindings cs = vs.map .value) ∧ s = .ofChunks c.rules cs := by
  simp only [Except.map_eq_ok_iff, Select.writtenAs_ok_iff]
  constructor
  · rintro ⟨t, ⟨cs, hcs, ht⟩, rfl⟩
    obtain ⟨vs, hvs, -⟩ := Except.map_eq_ok_iff.mp ht
    exact ⟨cs, hcs, ⟨vs, values_eq hvs⟩, statement_ofChunks ht⟩
  · rintro ⟨cs, hcs, ⟨vs, hvs⟩, rfl⟩
    have ht : ∃ t, WrittenQuery.ofChunks c.rules w cs = .ok t := by
      rw [WrittenQuery.ofChunks, values_eq_iff.mpr hvs]
      exact ⟨_, rfl⟩
    obtain ⟨t, ht⟩ := ht
    exact ⟨t, ⟨cs, hcs, ht⟩, statement_ofChunks ht⟩

theorem written_change (ch : Change) :
    ch.written = (change ch).chunks.map (.ofChunks ch.config.rules) := by
  rw [Change.written_eq, chunks]
  cases ch.checked <;> rfl

theorem written_iff {a : Request} {s : WrittenStatement} :
    a.written = .ok s ↔
      ∃ cs, a.chunks = .ok cs ∧ a.Accepts (Chunk.bindings cs) ∧ s = .ofChunks a.config.rules cs := by
  cases a with
  | rows q c => exact writtenAs_iff
  | count q c => exact writtenAs_iff
  | change ch =>
    rw [written, written_change, Except.map_eq_ok_iff]
    simp [Accepts, config, eq_comm]

theorem written_chunks {a : Request} {s : WrittenStatement} (h : a.written = .ok s) :
    ∃ cs, a.chunks = .ok cs ∧ s = .ofChunks a.config.rules cs := by
  obtain ⟨cs, hcs, -, hs⟩ := written_iff.mp h
  exact ⟨cs, hcs, hs⟩

theorem written_congr {R : Expr → Expr → Prop} {W : Window → Window → Prop} {a b : Request}
    (h : Request.Rel R W a b) (hc : a.chunks = b.chunks) {s : WrittenStatement} (hs : a.written = .ok s) :
    b.written = .ok s := by
  obtain ⟨cs, hcs, haccepts, rfl⟩ := written_iff.mp hs
  refine written_iff.mpr ⟨cs, hc ▸ hcs, ?_, ?_⟩
  · cases h with
    | rows _ _ | count _ _ => exact haccepts
    | change _ => trivial
  · cases h with
    | rows _ _ | count _ _ => rfl
    | change h => cases h <;> rfl

end Request

namespace Render.Windowing

/-- Both results have those expressions in them, each in a context of its own. -/
structure Holds (W : Windowing) (x y : Except QueryError (List Chunk)) (as bs : List (Expr × Context)) :
    Prop where
  alike : W.results x y
  parts : List.Forall₂ (fun a b => a.2 = b.2 ∧ W.Same a.1 b.1 ∧
    W.coupling.Around (a.1.write a.2) (b.1.write b.2) x y) as bs

namespace Holds

variable {W : Windowing} {x y x' y' : Except QueryError (List Chunk)} {as bs as' bs' : List (Expr × Context)}
  {c : Context} {e e' : Expr}

theorem unchanged (x : Except QueryError (List Chunk)) : W.Holds x x [] [] :=
  ⟨W.refl _, .nil⟩

theorem self (hr : W.rules c.rules) (h : W.Same e e') : W.Holds (e.write c) (e'.write c) [(e, c)] [(e', c)] :=
  ⟨(operand_coupled e h).write c c (contexts hr), .cons ⟨rfl, h, .refl _ _⟩ .nil⟩

theorem append (h : W.Holds x y as bs) (h' : W.Holds x' y' as' bs') :
    W.Holds (joined x x') (joined y y') (as ++ as') (bs ++ bs') :=
  ⟨W.join h.alike h'.alike,
    List.rel_append (h.parts.imp fun _ _ hab => ⟨hab.1, hab.2.1, hab.2.2.left h'.alike⟩)
      (h'.parts.imp fun _ _ hab => ⟨hab.1, hab.2.1, .right h.alike hab.2.2⟩)⟩

theorem behind (h : W.Holds x y as bs) (z : Except QueryError (List Chunk)) :
    W.Holds (joined z x) (joined z y) as bs :=
  (unchanged z).append h

theorem before (h : W.Holds x y as bs) (z : Except QueryError (List Chunk)) :
    W.Holds (joined x z) (joined y z) as bs := by
  simpa using h.append (unchanged z)

theorem separated {α : Type} {R : α → α → Prop} {f : α → Writer} {part : α → Expr × Context} (s : String)
    (hf : ∀ a b, R a b → W.Holds (f a c) (f b c) [part a] [part b]) {xs ys : List α}
    (h : List.Forall₂ R xs ys) :
    W.Holds (Writer.separated s (xs.map f) c) (Writer.separated s (ys.map f) c) (xs.map part)
      (ys.map part) := by
  induction h with
  | nil => exact unchanged _
  | cons hxy hs ih =>
    cases hs with
    | nil => exact hf _ _ hxy
    | cons _ _ =>
      simp only [List.map_cons, Writer.separated, append_apply] at ih ⊢
      exact ((hf _ _ hxy).before _).append ih

variable {as as' : List (Path × Expr)} {o o' : Option Expr} {ch ch' : Change}

abbrev Assigned (W : Windowing) (a a' : Path × Expr) : Prop :=
  a.1 = a'.1 ∧ W.Same a.2 a'.2

theorem zip_assigned (columns : List Path) {es es' : List Expr} (h : List.Forall₂ W.Same es es') :
    List.Forall₂ (Assigned W) (columns.zip es) (columns.zip es') := by
  induction h generalizing columns with
  | nil => simp
  | cons he _ ih =>
    cases columns with
    | nil => exact .nil
    | cons p ps => exact .cons ⟨rfl, he⟩ (ih ps)

theorem assigned (hr : W.rules c.rules) (a a' : Path × Expr) (h : Assigned W a a') :
    W.Holds (Statement.writeAssigned a.1 a.2 c) (Statement.writeAssigned a'.1 a'.2 c)
      [(a.2, { c with compared := some a.1 })] [(a'.2, { c with compared := some a'.1 })] := by
  obtain ⟨p, e⟩ := a
  obtain ⟨p', e'⟩ := a'
  obtain ⟨rfl, he⟩ := h
  exact self (c := { c with compared := some p }) hr he

theorem assignment (hr : W.rules c.rules) (a a' : Path × Expr) (h : Assigned W a a') :
    W.Holds (Update.writeAssignment a c) (Update.writeAssignment a' c)
      [(a.2, { c with compared := some a.1 })] [(a'.2, { c with compared := some a'.1 })] := by
  simp only [Update.writeAssignment, append_apply, ← h.1]
  have hassigned := assigned hr a a' h
  rw [← h.1] at hassigned
  exact hassigned.behind _

theorem filter (hr : W.rules c.rules) (h : Option.Rel W.Same o o') :
    W.Holds (Statement.writeFilter o c) (Statement.writeFilter o' c) (o.toList.map (·, c))
      (o'.toList.map (·, c)) := by
  cases h with
  | none => exact unchanged _
  | some h =>
    simp only [Statement.writeFilter, Query.clause, append_apply]
    exact (self hr h).behind _

theorem change (hr : W.rules c.rules) (h : Change.Rel W.Same ch ch') (head : String × Entity) :
    W.Holds (ch.write head c) (ch'.write head c) (ch.parts c) (ch'.parts c) := by
  cases h with
  | insert cfg target columns hes params =>
    have hvalues := separated ", " (assigned hr) (zip_assigned columns hes)
    simp only [Change.write, Insert.write, Change.parts, append_apply]
    exact (hvalues.behind _).before _
  | update cfg target has ho params =>
    simp only [Change.write, Update.write, Change.parts, append_apply, Statement.aboutTarget,
      Query.clause]
    generalize hd : (if c.rules.grammar = .jdoql then { c with candidate := some target } else c) = d
    have hr' : W.rules d.rules := by
      rw [← hd]
      split <;> exact hr
    have hvalues := separated ", " (assignment hr') has
    exact ((hvalues.behind _).append (filter hr' ho)).behind _
  | delete cfg target ho params =>
    simp only [Change.write, Delete.write, Change.parts, append_apply, Statement.aboutTarget]
    generalize hd : (if c.rules.grammar = .jdoql then { c with candidate := some target } else c) = d
    have hr' : W.rules d.rules := by
      rw [← hd]
      split <;> exact hr
    exact (filter hr' ho).behind _

end Holds

variable {W : Windowing} {a b : Request}

theorem checked_same {ch ch' : Change} (h : Change.Rel W.Same ch ch') : ch.checked = ch'.checked := by
  cases h with
  | insert c target columns hes params => simp only [Change.checked, hes.length_eq]
  | update c target has ho params => simp only [Change.checked, Coupling.isEmpty_eq has]
  | delete c target ho params => rfl

theorem context_same (h : Request.Rel W.Same W.windows a b) : a.context = b.context := by
  cases h with
  | rows h c | count h c => simp only [Request.context, h.params]
  | change h => cases h <;> rfl

theorem config_same (h : Request.Rel W.Same W.windows a b) : a.config = b.config := by
  cases h with
  | rows h c | count h c => rfl
  | change h => cases h <;> rfl

theorem Holds.fails {x y : Except QueryError (List Chunk)} {as bs : List (Expr × Context)}
    (h : W.Holds x y as bs) (err : QueryError) : W.Holds (.error err) (.error err) as bs :=
  ⟨W.refl _, h.parts.imp fun _ _ hab => ⟨hab.1, hab.2.1, failed_around _ _ _⟩⟩

theorem chunks_hold {ch ch' : Change} (hr : W.rules (Request.change ch).context.rules)
    (h : Change.Rel W.Same ch ch') :
    W.Holds (Request.change ch).chunks (Request.change ch').chunks
      (ch.parts (Request.change ch).context) (ch'.parts (Request.change ch).context) := by
  have hcontext : (Request.change ch).context = (Request.change ch').context :=
    context_same (.change h)
  have hwrite := Holds.change hr h
  simp only [Request.chunks, checked_same h, ← hcontext]
  cases ch'.checked with
  | error err => exact (hwrite ("", .ofType "")).fails err
  | ok head => exact hwrite head

theorem chunks_alike (hr : W.rules a.config.rules) (h : Request.Rel W.Same W.windows a b) :
    W.results a.chunks b.chunks := by
  have hcontext := context_same h
  rw [← a.rules_context] at hr
  cases h with
  | rows h c =>
    simp only [Request.chunks, ← hcontext]
    exact (select_parts hr .rows h).alike
  | count h c =>
    simp only [Request.chunks, ← hcontext]
    exact (select_parts hr .count h).alike
  | change h => exact (chunks_hold hr h).alike

theorem request_stand (hr : W.rules a.config.rules) (h : Request.Rel W.Same W.windows a b)
    {is : List Nat} {s : Spot} (hs : a.spot? is = some s) :
    ∃ s', b.spot? is = some s' ∧ W.Stand a.config.rules s s' a.chunks b.chunks := by
  have hcontext := context_same h
  rw [← a.rules_context] at hr ⊢
  cases h with
  | rows h c =>
    obtain ⟨s', hs', hstand⟩ := select_spot?_stand hr .rows h hs
    exact ⟨s', by rw [← hs', Request.spot?, hcontext], by rwa [Request.chunks, Request.chunks, ← hcontext]⟩
  | count h c =>
    obtain ⟨s', hs', hstand⟩ := select_spot?_stand hr .count h hs
    exact ⟨s', by rw [← hs', Request.spot?, hcontext], by rwa [Request.chunks, Request.chunks, ← hcontext]⟩
  | @change ch ch' h =>
    match is, hs with
    | i :: is, hs =>
      obtain ⟨⟨e, d⟩, hpart, hs⟩ := Option.bind_eq_some_iff.mp hs
      obtain ⟨⟨e', d'⟩, hpart', hd, hsame, haround⟩ := forall₂_getElem? (chunks_hold hr h).parts hpart
      obtain rfl : d = d' := hd
      have hrules : d.rules = (Request.change ch).context.rules :=
        ch.rules_parts _ _ (List.mem_of_getElem? hpart)
      obtain ⟨s', hs', hstand⟩ := spot?_stand (hrules ▸ hr) hsame hs
      refine ⟨s', ?_, hstand.context, hstand.rules.trans hrules, hstand.expr, hstand.around,
        hstand.stands.trans haround⟩
      simp only [Request.spot?, ← hcontext]
      exact Option.bind_eq_some_iff.mpr ⟨(e', d), hpart', hs'⟩

end Render.Windowing

theorem Request.inside_of_spot? {a : Request} {all : List Chunk} (h : a.chunks = .ok all) {is : List Nat}
    {s : Spot} (hs : a.spot? is = some s) :
    s.context.rules = a.config.rules ∧ ∃ before inside after, s.expr.write s.context = .ok inside ∧
      all = before ++ inside ++ after := by
  obtain ⟨_, -, hstand⟩ := Windowing.request_stand (W := .still) trivial (a.rel_self fun _ => rfl) hs
  have hstands := hstand.stands
  rw [h] at hstands
  obtain ⟨before, inside, after, _, _, _, hinside, -, -, -, rfl, -⟩ := hstands.of_ok
  exact ⟨hstand.rules, before, inside, after, hinside, by rw [List.append_assoc]⟩

end QueryText
