import QueryText.Proofs.InnermostBinding
import QueryText.Proofs.Searching.Like

namespace QueryText

open Render

/-- A text that is looked for: at the end, at the start or anywhere. -/
structure Search where
  affix : Affix
  text : String

namespace Search

/-- The pattern as it stands in a change when it runs. -/
def pattern (t : Search) : String :=
  t.affix.apply t.text

/-- The pattern with nothing but its own wildcards. -/
def escapedPattern (r : Rules) (t : Search) : String :=
  t.affix.apply (r.escapeLike t.text)

end Search

/-- The wildcards around the text that a test looks for. -/
def Operator.affix? : Operator → Option Affix
  | startsWith => some .trailing
  | endsWith => some .leading
  | containsText => some .both
  | _ => none

theorem Pattern.singleLine_eq_self {p : Pattern} (h : '\n' ∉ p.source.toList) :
    p.singleLine = p := by
  have hkept : ∀ c ∈ p.source.toList, (if c == '\n' then ' ' else c) = c := by
    intro c hc
    have hne : c ≠ '\n' := fun heq => h (heq ▸ hc)
    simp [hne]
  rw [singleLine, List.map_congr_left hkept, List.map_id', String.ofList_toList]

namespace Rules

def Joins (r : Rules) (before between behind : List Chunk) : Prop :=
  ∃ (rule : OperatorRule) (ts us vs : List (List Char)) (e e' : Bool),
    r.operators .concat = some rule ∧
      rule.pattern.elements = ts.map .text ++ .slot ⟨0, .bare⟩ e :: (us.map .text ++
        .slot ⟨1, .bare⟩ e' :: vs.map .text) ∧
      before = ts.map (.text <| String.ofList ·) ∧ between = us.map (.text <| String.ofList ·) ∧
      behind = vs.map (.text <| String.ofList ·)

/-- Tests for parts of texts, and no other operations, are written with wildcards, and in LIKE. -/
structure SearchesByLike (r : Rules) : Prop where
  escape : r.likeEscape = some '!'
  concat : ∃ before between behind, r.Joins before between behind
  tests (op : Operator) (a : Affix) (h : op.affix? = some a) :
    ∃ rule, r.operators op = some rule ∧
      rule.pattern.elements = [.slot ⟨0, .bare⟩ false, .text " like ".toList, .slot ⟨1, a⟩ false,
        .text " escape '!'".toList]
  others (op : Operator) (h : op.affix? = none) : r.BareOperator op

theorem escapeLike_of_escape {r : Rules} {e : Char} (h : r.likeEscape = some e) (s : String) :
    r.escapeLike s = String.ofList (escapeWildcards e s.toList) := by
  simp [escapeLike, h]

theorem joins_ofDialect (d : Dialect) :
    ∃ before between behind, (ofDialect d).Joins before between behind := by
  cases d with
  | ansi | postgres =>
    exact ⟨_, _, _, ⟨⟨"\x7b0\x7d || \x7b1\x7d"⟩, some sum⟩, [], [" || ".toList], [], false, false, rfl,
      by decide +kernel, rfl, rfl, rfl⟩
  | derby =>
    exact ⟨_, _, _, ⟨⟨"varchar(\x7b0\x7d || \x7b1\x7d)"⟩, none⟩, ["varchar(".toList], [" || ".toList],
      [")".toList], false, false, rfl, by decide +kernel, rfl, rfl, rfl⟩
  | mysql | jpql =>
    exact ⟨_, _, _, ⟨⟨"concat(\x7b0\x7d, \x7b1\x7d)"⟩, none⟩, ["concat(".toList], [", ".toList],
      [")".toList], true, true, rfl, by decide +kernel, rfl, rfl, rfl⟩
  | jdoql =>
    exact ⟨_, _, _, ⟨⟨"\x7b0\x7d + \x7b1\x7d"⟩, some sum⟩, [], [" + ".toList], [], false, false, rfl,
      by decide +kernel, rfl, rfl, rfl⟩

theorem likePatterns :
    ∀ op ∈ Operator.all, ∀ a ∈ op.affix?, (sharedOperators op).map (·.pattern.elements) =
      some [.slot ⟨0, .bare⟩ false, .text " like ".toList, .slot ⟨1, a⟩ false,
        .text " escape '!'".toList] := by
  decide +kernel

theorem sharedOperators_ofDialect {d : Dialect} (hd : d ≠ .jdoql) {op : Operator} {a : Affix}
    (h : op.affix? = some a) : (ofDialect d).operators op = sharedOperators op := by
  cases op <;> simp only [Operator.affix?, reduceCtorEq] at h <;>
    cases d <;> first | rfl | exact absurd rfl hd

theorem searchesByLike_ofDialect {d : Dialect} (hd : d ≠ .jdoql) : (ofDialect d).SearchesByLike where
  escape := by cases d <;> first | rfl | exact absurd rfl hd
  concat := joins_ofDialect d
  tests op a h := by
    have hpattern := likePatterns op op.mem_all a h
    rw [← sharedOperators_ofDialect hd h] at hpattern
    cases hrule : (ofDialect d).operators op with
    | none => simp [hrule] at hpattern
    | some rule => exact ⟨rule, rfl, by simpa [hrule] using hpattern⟩
  others op h := by
    refine bareOperator_ofDialect d fun hmem => ?_
    simp only [List.mem_cons, List.not_mem_nil, or_false] at hmem
    obtain rfl | rfl | rfl := hmem <;> cases h

theorem patterns_unbroken :
    ∀ d ∈ Dialect.all, ∀ op ∈ Operator.all, ∀ rule ∈ (ofDialect d).operators op,
      '\n' ∉ rule.pattern.source.toList := by
  decide +kernel

theorem operators_onOneLine (d : Dialect) (op : Operator) :
    (ofDialect d).onOneLine.operators op = (ofDialect d).operators op := by
  cases hrule : (ofDialect d).operators op with
  | none => simp [onOneLine, hrule]
  | some rule =>
    have hunbroken := patterns_unbroken d d.mem_all op op.mem_all rule hrule
    simp [onOneLine, hrule, Pattern.singleLine_eq_self hunbroken]

theorem searchesByLike_onOneLine {d : Dialect} (hd : d ≠ .jdoql) :
    (ofDialect d).onOneLine.SearchesByLike := by
  have h := searchesByLike_ofDialect hd
  obtain ⟨before, between, behind, rule, hjoins⟩ := h.concat
  refine ⟨h.escape, ⟨before, between, behind, rule, ?_⟩, fun op a ha => ?_, fun op ha => ?_⟩
  · simp only [operators_onOneLine]
    exact hjoins
  · rw [operators_onOneLine]
    exact h.tests op a ha
  · unfold BareOperator
    rw [operators_onOneLine]
    exact h.others op ha

end Rules

namespace Render

open Operand

/-- Where a change writes its filter, as far as there are no sub-queries in it. -/
def changing (c : Config) (params : ParamMap) (o : Option Path) : Context :=
  { Statement.context c params with compared := o }

def selecting (c : Config) (params : ParamMap) (o : Option Path) : Context :=
  { Context.of c.rules .resolving c.literals [params] with compared := o }

end Render

namespace Pattern

/-- What an element has inside, when the operands have that inside them. -/
def Element.inside {α : Type} (inner : List (List α)) : Element → List α
  | .text _ => []
  | .slot s _ => (inner[s.index]?).getD []

theorem flatMap_inside_text {α : Type} (inner : List (List α)) (ts : List (List Char)) :
    (ts.map Element.text).flatMap (·.inside inner) = [] := by
  simp [List.flatMap_map, Element.inside]

end Pattern

def Operator.opened {α : Type} (op : Operator) (inner : List (List α)) : List (List α) :=
  if op = .instanceOf then inner.set 1 [] else inner

/-- The tests inside an operation, when the operands have these inside. Nothing is written of the
operands where membership is settled by an empty list. -/
def Render.searchesWithin (c : Config) (params : ParamMap) (op : Operator) (as : List Operand)
    (inner : List (List Search)) : List Search :=
  match Operand.emptyMembership? (selecting c params none) op as, c.rules.operators op with
  | none, some rule => rule.pattern.elements.flatMap (·.inside (op.opened inner))
  | _, _ => []

namespace Expr

def searched? (params : ParamMap) : Expr → Option String
  | param p => (params.get? p).bind Value.text?
  | _ => none

mutual

/-- The tests for parts of texts, in the order in which they are written, whose texts are given by
parameters. -/
def searches (c : Config) (params : ParamMap) : Expr → List Search
  | operation op args =>
    let inner := searchesOfAll c params args
    match op.affix? with
    | some a =>
      (inner[0]?).getD [] ++
        (((args[1]?).bind (searched? params)).toList.map (⟨a, ·⟩) ++ (inner[1]?).getD [])
    | none => Render.searchesWithin c params op (operands args) inner
  | custom f args => f.pattern.elements.flatMap (·.inside (searchesOfAll c params args))
  | _ => []

def searchesOfAll (c : Config) (params : ParamMap) : List Expr → List (List Search)
  | [] => []
  | e :: es => e.searches c params :: searchesOfAll c params es

end

end Expr

namespace Render

open Operand

/-- Chunks that make up the text: in the text of the statement, in slots with their values, or joined
from such parts. -/
inductive Says (r : Rules) (params : ParamMap) : List Chunk → String → Prop where
  | slot {b : Binding} {s : String} (path : Option Path) (h : Execute.lookUp params b = .text s) :
      Says r params [.slot b path] s
  | literal {s l : String} (h : r.literal (.text s) = .ok l) : Says r params [.text l] s
  | grouped {xs : List Chunk} {s : String} (h : Says r params xs s) :
      Says r params ([.text "("] ++ xs ++ [.text ")"]) s
  | joined {before between behind xs ys : List Chunk} {s t : String}
      (h : r.Joins before between behind) (hx : Says r params xs s) (hy : Says r params ys t) :
      Says r params (before ++ xs ++ between ++ ys ++ behind) (s ++ t)

/-- A filter in a change beside the same filter in a select, with the tests for the texts of parameters
in both. The change names columns as changes do, and leaves the values of parameters to be looked up. -/
inductive Beside (c : Config) (params : ParamMap) :
    List Search → List Chunk → List Chunk → Prop where
  | nil : Beside c params [] [] []
  | append {ts ts' : List Search} {xs xs' ys ys' : List Chunk} (h : Beside c params ts xs ys)
      (h' : Beside c params ts' xs' ys') : Beside c params (ts ++ ts') (xs ++ xs') (ys ++ ys')
  | text (s : String) : Beside c params [] [.text s] [.text s]
  | known (v : Value) (path : Option Path) :
      Beside c params [] [.slot (.value v) path] [.slot (.value v) path]
  | column (p : Path) :
      Beside c params [] [.text (pathText (changing c params none) p)]
        [.text (pathText (selecting c params none) p)]
  | param {p : Param} {v : Value} {path : Option Path} {ys : List Chunk}
      (hp : params.get? p = some v) (h : writeValue v (selecting c params path) = .ok ys) :
      Beside c params [] [.slot (.param p) path] ys
  | search {t : Search} {xs ys : List Chunk} (hx : Says c.rules params xs t.pattern)
      (hy : Says c.rules params ys (t.escapedPattern c.rules)) :
      Beside c params [t] ([.text " like "] ++ xs ++ [.text " escape '!'"])
        ([.text " like "] ++ ys ++ [.text " escape '!'"])
  /-- a custom fragment that asks for wildcards around the text of a parameter -/
  | fragment {t : Search} {xs ys : List Chunk} (hx : Says c.rules params xs t.pattern)
      (hy : Says c.rules params ys (t.escapedPattern c.rules)) : Beside c params [] xs ys

end Render

end QueryText
