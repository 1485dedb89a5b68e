import Mathlib.Data.List.Forall2
import QueryText.Render.Expr

namespace QueryText

namespace Rules

/-- The same rules, under which lists are spread over a group of slots, or are not. -/
def withFlattening (b : Bool) (r : Rules) : Rules :=
  { r with flattensLists := b }

variable (b : Bool) (r : Rules)

theorem withFlattening_self : r.withFlattening r.flattensLists = r := rfl

@[simp] theorem dialect_withFlattening : (r.withFlattening b).dialect = r.dialect := rfl

@[simp] theorem grammar_withFlattening : (r.withFlattening b).grammar = r.grammar := rfl

@[simp] theorem operators_withFlattening : (r.withFlattening b).operators = r.operators := rfl

@[simp] theorem literals_withFlattening : (r.withFlattening b).literals = r.literals := rfl

@[simp] theorem unsupported_withFlattening {α : Type} (k : Construct) :
    (r.withFlattening b).unsupported (α := α) k = r.unsupported k := rfl

end Rules

namespace Except

variable {α β : Type} {x : Except QueryError α} {e : QueryError}

theorem bind_eq_ok_iff {f : α → Except QueryError β} {y : β} :
    x.bind f = .ok y ↔ ∃ a, x = .ok a ∧ f a = .ok y := by
  cases x <;> simp [Except.bind]

theorem bind_eq_error_iff {f : α → Except QueryError β} :
    x.bind f = .error e ↔ x = .error e ∨ ∃ a, x = .ok a ∧ f a = .error e := by
  cases x <;> simp [Except.bind]

theorem map_eq_ok_iff {f : α → β} {y : β} : x.map f = .ok y ↔ ∃ a, x = .ok a ∧ f a = y := by
  cases x <;> simp [Except.map]

theorem map_eq_error_iff {f : α → β} : x.map f = .error e ↔ x = .error e := by
  cases x <;> simp [Except.map]

end Except

theorem forall₂_getElem?_cases {α β : Type} {R : α → β → Prop} {as : List α} {bs : List β}
    (h : List.Forall₂ R as bs) (i : Nat) :
    (as[i]? = none ∧ bs[i]? = none) ∨ ∃ a b, as[i]? = some a ∧ bs[i]? = some b ∧ R a b := by
  induction h generalizing i with
  | nil => simp
  | cons h _ ih =>
    cases i with
    | zero => simpa using h
    | succ i => simpa using ih i

namespace Render

def joined (x y : Except QueryError (List Chunk)) : Except QueryError (List Chunk) :=
  match x with
  | .error e => .error e
  | .ok xs =>
    match y with
    | .error e => .error e
    | .ok ys => .ok (xs ++ ys)

@[simp] theorem joined_error (e : QueryError) (y : Except QueryError (List Chunk)) :
    joined (.error e) y = .error e := rfl

@[simp] theorem joined_ok_error (xs : List Chunk) (e : QueryError) :
    joined (.ok xs) (.error e) = .error e := rfl

@[simp] theorem joined_ok_ok (xs ys : List Chunk) : joined (.ok xs) (.ok ys) = .ok (xs ++ ys) := rfl

theorem append_apply (a b : Writer) (c : Context) : (a ++ b) c = joined (a c) (b c) := by
  change Writer.andThen a b c = _
  unfold Writer.andThen
  cases a c with
  | error e => rfl
  | ok xs => cases b c <;> rfl

theorem joined_assoc (x y z : Except QueryError (List Chunk)) :
    joined (joined x y) z = joined x (joined y z) := by
  cases x with
  | error e => rfl
  | ok xs =>
    cases y with
    | error e => rfl
    | ok ys =>
      cases z with
      | error e => rfl
      | ok zs => exact congrArg Except.ok (List.append_assoc xs ys zs)

@[simp] theorem nil_joined (x : Except QueryError (List Chunk)) : joined (.ok []) x = x := by
  cases x <;> rfl

@[simp] theorem joined_nil (x : Except QueryError (List Chunk)) : joined x (.ok []) = x := by
  cases x with
  | error e => rfl
  | ok xs => exact congrArg Except.ok (List.append_nil xs)

theorem append_nothing (w : Writer) : w ++ .nothing = w := by
  funext d
  rw [append_apply]
  exact joined_nil (w d)

theorem joined_ok {x y : Except QueryError (List Chunk)} {zs : List Chunk} (h : joined x y = .ok zs) :
    ∃ xs ys, x = .ok xs ∧ y = .ok ys ∧ zs = xs ++ ys := by
  cases x with
  | error e => cases h
  | ok xs =>
    cases y with
    | error e => cases h
    | ok ys => exact ⟨xs, ys, rfl, rfl, (Except.ok.inj h).symm⟩

/-- What relates the chunks of two results part by part, and relates failures to all that they can come to,
relates the results of writers in a row. -/
theorem joined_related {Q : Except QueryError (List Chunk) → Except QueryError (List Chunk) → Prop}
    {R : List Chunk → List Chunk → Prop} (hok : ∀ {xs y}, Q (.ok xs) y ↔ ∃ ys, y = .ok ys ∧ R xs ys)
    (happend : ∀ {xs ys xs' ys'}, R xs ys → R xs' ys' → R (xs ++ xs') (ys ++ ys'))
    (hfirst : ∀ {e y} y', Q (.error e) y → Q (.error e) (joined y y'))
    (hsecond : ∀ {e y'} ys, Q (.error e) y' → Q (.error e) (joined (.ok ys) y'))
    {x y x' y' : Except QueryError (List Chunk)} (h : Q x y) (h' : Q x' y') :
    Q (joined x x') (joined y y') := by
  cases x with
  | error e => exact hfirst y' h
  | ok xs =>
    obtain ⟨ys, rfl, hs⟩ := hok.mp h
    cases x' with
    | error e => exact hsecond ys h'
    | ok xs' =>
      obtain ⟨ys', rfl, hs'⟩ := hok.mp h'
      exact hok.mpr ⟨ys ++ ys', rfl, happend hs hs'⟩

theorem joined_keeps {x y x' y' : Except QueryError (List Chunk)} (h : ∀ xs, x = .ok xs → y = .ok xs)
    (h' : ∀ xs, x' = .ok xs → y' = .ok xs) (zs : List Chunk) (hz : joined x x' = .ok zs) :
    joined y y' = .ok zs := by
  obtain ⟨xs, ys, rfl, rfl, rfl⟩ := joined_ok hz
  rw [h _ rfl, h' _ rfl, joined_ok_ok]

theorem append_ok {v w : Writer} {d : Context} {zs : List Chunk} (h : (v ++ w) d = .ok zs) :
    ∃ xs ys, v d = .ok xs ∧ w d = .ok ys ∧ zs = xs ++ ys := by
  rw [append_apply] at h
  exact joined_ok h

theorem append_of_ok {v w : Writer} {d : Context} {xs ys : List Chunk} (hv : v d = .ok xs)
    (hw : w d = .ok ys) : (v ++ w) d = .ok (xs ++ ys) := by
  rw [append_apply, hv, hw, joined_ok_ok]

theorem all_append (vs ws : List Writer) (c : Context) :
    Writer.all (vs ++ ws) c = joined (Writer.all vs c) (Writer.all ws c) := by
  induction vs with
  | nil => exact (nil_joined _).symm
  | cons v vs ih => simp only [List.cons_append, Writer.all, append_apply, ih, joined_assoc]

theorem all_append_of_ok {vs ws : List Writer} {d : Context} {xs ys : List Chunk}
    (hv : Writer.all vs d = .ok xs) (hw : Writer.all ws d = .ok ys) :
    Writer.all (vs ++ ws) d = .ok (xs ++ ys) := by
  rw [all_append, hv, hw, joined_ok_ok]

theorem all_texts (f : Pattern.Element → Writer) (hf : ∀ t, f (.text t) = .text (String.ofList t))
    (us : List (List Char)) (d : Context) :
    Writer.all ((us.map Pattern.Element.text).map f) d = .ok (us.map (.text <| String.ofList ·)) := by
  induction us with
  | nil => rfl
  | cons u us ih =>
    simp only [List.map_cons, hf]
    exact append_of_ok (v := .text _) rfl ih

/-- The conditions under which two runs can be followed together: results go on together, and the
contexts of both runs change in the same way. -/
structure Coupling where
  contexts : Context → Context → Prop
  results : Except QueryError (List Chunk) → Except QueryError (List Chunk) → Prop
  rules_alike {c d : Context} (h : contexts c d) : ∃ b, c.rules = d.rules.withFlattening b
  /-- sources may be called by other names -/
  renames : Prop := False
  nested_cases {c d : Context} (h : contexts c d) : c.nested = d.nested ∨ renames
  comparing {c d : Context} (h : contexts c d) (p : Path) :
    contexts { c with compared := some p } { d with compared := some p }
  candidate {c d : Context} (h : contexts c d) (p : Path) :
    contexts { c with candidate := some p } { d with candidate := some p }
  nothing : results (.ok []) (.ok [])
  text (s : String) : results (.ok [.text s]) (.ok [.text s])
  renamed (h : renames) (ss ts : List String) :
    results (.ok (ss.map .text)) (.ok (ts.map .text)) := by exact fun h => h.elim
  recalled (h : renames) {c d : Context} (hc : contexts c d) (p q : Option Path) :
    contexts { c with candidate := p } { d with candidate := q } := by exact fun h => h.elim
  fail (e : QueryError) (he : ∀ p, e ≠ .parameterNotSet p) : results (.error e) (.error e)
  join {x y x' y' : Except QueryError (List Chunk)} (h : results x y) (h' : results x' y') :
    results (joined x x') (joined y y')
  path {c d : Context} (h : contexts c d) (p : Path) :
    results (Operand.writePath p c) (Operand.writePath p d)
  /-- operands may stand in slots that want wildcards -/
  wildcards : Prop
  wildcardText {c d : Context} (h : contexts c d) (hw : wildcards) (s : String) :
    results (Operand.writeValue (.text s) c) (Operand.writeValue (.text s) d)

namespace Coupling

variable (K : Coupling)

def Coupled (v w : Writer) : Prop :=
  ∀ c d, K.contexts c d → K.results (v c) (w d)

variable {K}

namespace Coupled

variable {v w v' w' : Writer}

theorem nothing : K.Coupled .nothing .nothing :=
  fun _ _ _ => K.nothing

theorem text (s : String) : K.Coupled (.text s) (.text s) :=
  fun _ _ _ => K.text s

theorem fail (e : QueryError) (he : ∀ p, e ≠ .parameterNotSet p := by simp) :
    K.Coupled (.fail e) (.fail e) :=
  fun _ _ _ => K.fail e he

theorem unsupported (k : Construct) : K.Coupled (.unsupported k) (.unsupported k) := by
  intro c d h
  obtain ⟨b, hr⟩ := K.rules_alike h
  simp only [Writer.unsupported, hr, Rules.unsupported_withFlattening]
  exact K.fail _ (by simp)

theorem append (h : K.Coupled v w) (h' : K.Coupled v' w') : K.Coupled (v ++ v') (w ++ w') := by
  intro c d hc
  rw [append_apply, append_apply]
  exact K.join (h c d hc) (h' c d hc)

theorem all {vs ws : List Writer} (h : List.Forall₂ K.Coupled vs ws) :
    K.Coupled (.all vs) (.all ws) := by
  induction h with
  | nil => exact nothing
  | cons h _ ih => exact append h ih

theorem separated (s : String) {vs ws : List Writer} (h : List.Forall₂ K.Coupled vs ws) :
    K.Coupled (.separated s vs) (.separated s ws) := by
  induction h with
  | nil => exact nothing
  | cons h hs ih =>
    cases hs with
    | nil => exact h
    | cons _ _ => exact append (append h (text s)) ih

theorem when (b : Bool) (h : K.Coupled v w) : K.Coupled (.when b v) (.when b w) := by
  cases b with
  | false => exact nothing
  | true => exact h

theorem byRules {f g : Rules → Writer} (hf : ∀ r b, f (r.withFlattening b) = f r)
    (h : ∀ r, K.Coupled (f r) (g r)) :
    K.Coupled (.byRules f) (.byRules g) := by
  intro c d hc
  obtain ⟨b, hr⟩ := K.rules_alike hc
  simp only [Writer.byRules, hr, hf]
  exact h d.rules c d hc

theorem rulesText (f : Rules → String) (hf : ∀ r b, f (r.withFlattening b) = f r) :
    K.Coupled (.byRules fun r => .text (f r)) (.byRules fun r => .text (f r)) :=
  byRules (fun r b => by rw [hf]) fun r => text (f r)

theorem lift (f : Rules → Except QueryError Writer) (hf : ∀ r b, f (r.withFlattening b) = f r)
    (h : ∀ r w, f r = .ok w → K.Coupled w w)
    (he : ∀ r e, f r = .error e → ∀ p, e ≠ .parameterNotSet p) :
    K.Coupled (.lift f) (.lift f) := by
  intro c d hc
  obtain ⟨b, hr⟩ := K.rules_alike hc
  simp only [Writer.lift, hr, hf]
  cases hw : f d.rules with
  | error e => exact K.fail e (he _ _ hw)
  | ok w => exact h _ _ hw c d hc

theorem clauseBreak : K.Coupled .clauseBreak .clauseBreak :=
  rulesText _ fun _ _ => rfl

theorem identifier (name : String) : K.Coupled (.identifier name) (.identifier name) :=
  rulesText _ fun _ _ => rfl

theorem parenthesized (h : K.Coupled v w) : K.Coupled (.parenthesized v) (.parenthesized w) :=
  append (append (text "(") h) (text ")")

end Coupled

end Coupling

end Render

end QueryText
