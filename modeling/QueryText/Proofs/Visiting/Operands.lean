import QueryText.Proofs.Visiting.Session

namespace QueryText.Render

open Operand

namespace Visitor

def slots (v : Value) : Visitor := do
  let s ← get
  match v with
  | .list items =>
    if s.rules.flattensLists then parenthesized (separated ", " (items.map fun v => slot (.value v)))
    else slot (.value (.list items))
  | v => slot (.value v)

def value (v : Value) : Visitor := do
  let s ← get
  match s.mode with
  | .preview => push (previewText s.rules v)
  | _ =>
    if s.inlining then
      match s.rules.literal v with
      | .ok t => push t
      | .error e => fail e
    else slots v

def unsupported (k : Construct) : Visitor := do
  let s ← get
  fail (.unsupported k s.rules.dialect)

def path (p : Path) : Visitor := do
  let s ← get
  if p.throughAny && s.mode != .preview then unsupported (.anyPath p)
  else push (pathText s.context p)

def param (p : Param) : Visitor := do
  let s ← get
  match s.mode, s.context.resolve p with
  | .resolving, some v => value v
  | .resolving, none => fail (.parameterNotSet p)
  | .deferring, some (.list items) => value (.list items)
  | .deferring, none => if p.kind.isCollection then fail (.parameterNotSet p) else slot (.param p)
  | .deferring, some _ => slot (.param p)
  | .preview, some v => value v
  | .preview, none => push (":" ++ p.name)

namespace CarriesOut

theorem reading {f : Session → Visitor} {w : Writer} (h : ∀ s : Session, s.Reaches (w s.context) (f s s)) :
    CarriesOut (do f (← get)) w :=
  h

theorem slots (v : Value) : CarriesOut (slots v) (Operand.slots v) := by
  refine reading fun s => ?_
  cases v with
  | list items =>
    change s.Reaches (if s.rules.flattensLists then _ else _) ((if s.rules.flattensLists then _ else _ : Visitor) s)
    split
    · exact parenthesized (separated ", " (map_self (fun _ => slot _) items)) s
    · exact slot _ s
  | _ => exact slot _ s

theorem value (v : Value) : CarriesOut (value v) (writeValue v) := by
  refine reading fun s => ?_
  have hmode : s.context.mode = s.mode := rfl
  have hinlining : s.context.inlining = s.inlining := rfl
  have hrules : s.context.rules = s.rules := rfl
  have hvalue : s.Reaches (if s.inlining then
      match s.rules.literal v with
      | .ok t => .ok [.text t]
      | .error e => .error e
    else Operand.slots v s.context) ((if s.inlining then
      match s.rules.literal v with
      | .ok t => Visitor.push t
      | .error e => Visitor.fail e
    else Visitor.slots v : Visitor) s) := by
    split
    · cases s.rules.literal v with
      | ok t => exact push t s
      | error e => exact fail e s
    · exact slots v s
  unfold writeValue
  rw [hmode, hinlining, hrules]
  cases s.mode with
  | preview => exact push _ s
  | resolving | deferring => exact hvalue

theorem unsupported (k : Construct) : CarriesOut (unsupported k) (.unsupported k) :=
  reading fun s => fail _ s

theorem path (p : Path) : CarriesOut (path p) (writePath p) := by
  refine reading fun s => ?_
  have hmode : s.context.mode = s.mode := rfl
  unfold writePath
  rw [hmode]
  split
  · exact unsupported _ s
  · exact push _ s

theorem param (p : Param) : CarriesOut (param p) (writeParam p) := by
  refine reading fun s => ?_
  have hmode : s.context.mode = s.mode := rfl
  unfold writeParam
  rw [hmode]
  cases s.mode with
  | resolving =>
    cases s.context.resolve p with
    | none => exact fail _ s
    | some v => exact value v s
  | preview =>
    cases s.context.resolve p with
    | none => exact push _ s
    | some v => exact value v s
  | deferring =>
    cases s.context.resolve p with
    | none =>
      by_cases hk : p.kind.isCollection
      · simp only [hk, ↓reduceIte]
        exact fail _ s
      · simp only [hk, ↓reduceIte, Bool.false_eq_true]
        exact slot _ s
    | some v =>
      cases v with
      | list items => exact value _ s
      | _ => exact slot _ s

end CarriesOut

end Visitor

structure Part where
  expr : Expr
  visit : Visitor
  args : List Part

namespace Part

def constant (v : Value) : Part :=
  ⟨.constant v, .value v, []⟩

def path (p : Path) : Part :=
  ⟨.path p, .path p, []⟩

def param (p : Param) : Part :=
  ⟨.param p, .param p, []⟩

def percent : Part :=
  constant (.text "%")

def withWildcards (concat : Part → Part → Part) (a : Affix) (p : Part) : Part :=
  match a with
  | .bare => p
  | .leading => concat percent p
  | .trailing => concat p percent
  | .both => concat (concat percent p) percent

def emptyMembership? (c : Context) (op : Operator) (args : List Part) : Option String :=
  if ((args[1]?).map fun p => isEmptyList c p.expr).getD false then
    match op with
    | .isIn => some c.rules.literals.alwaysFalse
    | .notIn => some c.rules.literals.alwaysTrue
    | _ => none
  else none

end Part

namespace Visitor

variable (concat : Part → Part → Part)

/-- A known text gets its wildcards at once; any other part is handed, wildcards around it, to `other`. -/
def affixed (a : Affix) (p : Part) (other : Part → Visitor) : Visitor := do
  let s ← get
  if a = .bare then other p
  else
    match knownText? s.context p.expr with
    | some t => value (.text (a.apply (s.rules.escapeLike t)))
    | none => other (p.withWildcards concat a)

def grouped (op : Operator) (rank : Option Nat) (position : Nat) (enclosed : Bool) (p : Part) : Visitor := do
  let s ← get
  if needsParentheses s.rules op rank position enclosed p.expr then parenthesized p.visit
  else p.visit

def element (op : Operator) (rank : Option Nat) (args : List Part) : Pattern.Element → Visitor
  | .text t => push (String.ofList t)
  | .slot s enclosed =>
    match args[s.index]? with
    | none => unsupported (.operatorSlot s.index op)
    | some p =>
      if op = .instanceOf && s.index = 1 then emit (writeType p.expr)
      else affixed concat s.affix p (grouped op rank s.index enclosed)

/-- The values in an operation are compared with its first argument, when that is a path. -/
def operation (op : Operator) (args : List Part) : Visitor := do
  let s ← get
  match Part.emptyMembership? s.context op args with
  | some t => push t
  | none =>
    match s.rules.require op with
    | .error e => fail e
    | .ok rule =>
      comparing (args.head?.bind (·.expr.path?))
        (all (rule.pattern.elements.map (element concat op rule.rank args)))

end Visitor

namespace Part

def operationTo (depth : Nat) (op : Operator) (args : List Part) : Part :=
  let expr := Expr.operation op (args.map (·.expr))
  match depth with
  | 0 => ⟨expr, .unsupported (.operator op), args⟩
  | depth + 1 => ⟨expr, .operation (fun a b => operationTo depth .concat [a, b]) op args, args⟩

def operation (op : Operator) (args : List Part) : Part :=
  operationTo wildcardDepth op args

def concat (a b : Part) : Part :=
  operation .concat [a, b]

end Part

namespace Visitor

/-- One element of a custom pattern. Only a part with wildcards is grouped. -/
def customElement (f : Fragment) (args : List Part) : Pattern.Element → Visitor
  | .text t => push (String.ofList t)
  | .slot s _ =>
    match args[s.index]? with
    | none => unsupported (.customSlot s.index f.pattern)
    | some p =>
      affixed Part.concat s.affix p fun p =>
        if s.affix = .bare then p.visit else parenthesized p.visit

def custom (f : Fragment) (args : List Part) : Visitor := do
  let s ← get
  if f.supports s.rules.dialect then all (f.pattern.elements.map (customElement f args))
  else unsupported (.custom f.pattern)

end Visitor

namespace Part

def custom (f : Fragment) (args : List Part) : Part :=
  ⟨.custom f (args.map (·.expr)), .custom f args, args⟩

/-- Both are for one expression, which the part visits as the operand writes it, and so are their arguments. -/
inductive Carries : Part → Operand → Prop where
  | intro {p : Part} {o : Operand} (expr : p.expr = o.expr) (visit : p.visit.CarriesOut o.write)
      (args : List.Forall₂ Carries p.args o.args) : Carries p o

namespace Carries

variable {p : Part} {o : Operand} {ps : List Part} {os : List Operand}

theorem expr (h : Carries p o) : p.expr = o.expr := by
  cases h with
  | intro expr _ _ => exact expr

theorem visit (h : Carries p o) : p.visit.CarriesOut o.write := by
  cases h with
  | intro _ visit _ => exact visit

theorem args (h : Carries p o) : List.Forall₂ Carries p.args o.args := by
  cases h with
  | intro _ _ args => exact args

theorem map_expr (h : List.Forall₂ Carries ps os) : ps.map (·.expr) = os.map (·.expr) := by
  induction h with
  | nil => rfl
  | cons h _ ih => rw [List.map_cons, List.map_cons, h.expr, ih]

theorem constant (v : Value) : Carries (.constant v) (.constant v) :=
  .intro rfl (.value v) .nil

theorem path (p : Path) : Carries (.path p) (.path p) :=
  .intro rfl (.path p) .nil

theorem param (p : Param) : Carries (.param p) (.param p) :=
  .intro rfl (.param p) .nil

theorem emptyMembership?_eq (h : List.Forall₂ Carries ps os) (c : Context) (op : Operator) :
    Part.emptyMembership? c op ps = Operand.emptyMembership? c op os := by
  have hempty : (ps[1]?).map (fun p => isEmptyList c p.expr) = (os[1]?).map fun o => isEmptyList c o.expr := by
    obtain ⟨hp, ho⟩ | ⟨p, o, hp, ho, hpo⟩ := forall₂_getElem?_cases h 1
    · rw [hp, ho, Option.map_none, Option.map_none]
    · rw [hp, ho, Option.map_some, Option.map_some, hpo.expr]
  exact if_congr (by rw [hempty]) rfl rfl

theorem compared_eq (h : List.Forall₂ Carries ps os) (c : Context) :
    { c with compared := (ps.head?.bind (·.expr.path?)).or c.compared } = Operand.comparing os c := by
  cases h with
  | nil => rfl
  | @cons p o _ _ hpo _ =>
    simp only [Operand.comparing, List.head?_cons, Option.bind_some, hpo.expr]
    cases o.expr.path? <;> rfl

theorem grouped (h : Carries p o) (op : Operator) (rank : Option Nat) (position : Nat) (enclosed : Bool) :
    (Visitor.grouped op rank position enclosed p).CarriesOut (writeGrouped op rank position enclosed o) := by
  refine Visitor.CarriesOut.reading fun s => ?_
  simp only [writeGrouped, h.expr]
  change s.Reaches (if needsParentheses s.rules op rank position enclosed o.expr then _ else _) _
  split
  · exact h.visit.parenthesized s
  · exact h.visit s

section Wildcards

variable {concat : Part → Part → Part} {concat' : Operand → Operand → Operand}
  (hconcat : ∀ p p' o o', Carries p o → Carries p' o' → Carries (concat p p') (concat' o o'))

include hconcat

theorem withWildcards (a : Affix) (h : Carries p o) :
    Carries (p.withWildcards concat a) (Operand.withWildcards concat' a o) := by
  have hp : Carries percent Operand.percent := constant _
  cases a with
  | bare => exact h
  | leading => exact hconcat _ _ _ _ hp h
  | trailing => exact hconcat _ _ _ _ h hp
  | both => exact hconcat _ _ _ _ (hconcat _ _ _ _ hp h) hp

theorem affixed {v : Part → Visitor} {w : Operand → Writer}
    (hother : ∀ p o, Carries p o → (v p).CarriesOut (w o)) (a : Affix) (h : Carries p o) :
    (Visitor.affixed concat a p v).CarriesOut (writeAffixed concat' a o w) := by
  refine Visitor.CarriesOut.reading fun s => ?_
  simp only [writeAffixed, h.expr]
  split
  · exact hother p o h s
  · cases knownText? s.context o.expr with
    | some t => exact Visitor.CarriesOut.value _ s
    | none => exact hother _ _ (withWildcards hconcat a h) s

theorem element (op : Operator) (rank : Option Nat) (h : List.Forall₂ Carries ps os) (e : Pattern.Element) :
    (Visitor.element concat op rank ps e).CarriesOut (writeElement concat' op rank os e) := by
  cases e with
  | text t => exact .push _
  | slot s enclosed =>
    simp only [Visitor.element, writeElement]
    obtain ⟨hp, ho⟩ | ⟨p, o, hp, ho, hpo⟩ := forall₂_getElem?_cases h s.index
    · rw [hp, ho]
      exact .unsupported _
    · rw [hp, ho]
      by_cases hi : op = .instanceOf && s.index = 1
      · simpa only [hi, ↓reduceIte, hpo.expr] using Visitor.CarriesOut.emit _
      · simp only [hi]
        exact affixed hconcat (fun _ _ h => h.grouped op rank s.index enclosed) s.affix hpo

theorem visitOperation (op : Operator) (h : List.Forall₂ Carries ps os) :
    (Visitor.operation concat op ps).CarriesOut (writeOperation concat' op os) := by
  refine Visitor.CarriesOut.reading fun s => ?_
  have hrequire : s.context.rules.require op = s.rules.require op := rfl
  simp only [writeOperation, emptyMembership?_eq h, hrequire]
  cases Operand.emptyMembership? s.context op os with
  | some t => exact Visitor.CarriesOut.push t s
  | none =>
    cases s.rules.require op with
    | error e => exact Visitor.CarriesOut.fail e s
    | ok rule =>
      have hall : (Visitor.all (rule.pattern.elements.map (Visitor.element concat op rule.rank ps))).CarriesOut
          (.all (rule.pattern.elements.map (writeElement concat' op rule.rank os))) := by
        exact .all (Visitor.CarriesOut.map_self (fun e => element hconcat op rule.rank h e) _)
      simp only [← compared_eq h]
      exact hall.comparing _ s

end Wildcards

theorem operationTo (depth : Nat) (op : Operator) (h : List.Forall₂ Carries ps os) :
    Carries (Part.operationTo depth op ps) (Operand.operationTo depth op os) := by
  have hexpr : Expr.operation op (ps.map (·.expr)) = .operation op (os.map (·.expr)) :=
    congrArg _ (map_expr h)
  induction depth generalizing op ps os with
  | zero => exact .intro hexpr (.unsupported _) h
  | succ depth ih =>
    refine .intro hexpr (visitOperation (fun p p' o o' hp hp' => ?_) op h) h
    have hargs : List.Forall₂ Carries [p, p'] [o, o'] := .cons hp (.cons hp' .nil)
    exact ih .concat hargs (congrArg _ (map_expr hargs))

theorem operation (op : Operator) (h : List.Forall₂ Carries ps os) :
    Carries (.operation op ps) (.operation op os) :=
  operationTo wildcardDepth op h

theorem customElement (f : Fragment) (h : List.Forall₂ Carries ps os) (e : Pattern.Element) :
    (Visitor.customElement f ps e).CarriesOut (writeCustomElement f os e) := by
  cases e with
  | text t => exact .push _
  | slot s enclosed =>
    simp only [Visitor.customElement, writeCustomElement]
    obtain ⟨hp, ho⟩ | ⟨p, o, hp, ho, hpo⟩ := forall₂_getElem?_cases h s.index
    · rw [hp, ho]
      exact .unsupported _
    · rw [hp, ho]
      refine affixed (fun p p' o o' hp hp' => ?_) (fun p o h => ?_) s.affix hpo
      · exact operation .concat (.cons hp (.cons hp' .nil))
      · split
        · exact h.visit
        · exact h.visit.parenthesized

theorem custom (f : Fragment) (h : List.Forall₂ Carries ps os) :
    Carries (.custom f ps) (.custom f os) := by
  refine .intro (congrArg _ (map_expr h)) (.reading fun s => ?_) h
  change s.Reaches (if f.supports s.rules.dialect then _ else _) _
  split
  · exact Visitor.CarriesOut.all (Visitor.CarriesOut.map_self (fun e => customElement f h e) _) s
  · exact Visitor.CarriesOut.unsupported _ s

end Carries

end Part

end QueryText.Render
