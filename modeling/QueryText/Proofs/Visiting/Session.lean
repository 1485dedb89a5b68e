import QueryText.Proofs.Coupling

namespace QueryText.Render

/-- A statement in the making. -/
structure Session where
  rules : Rules
  mode : Mode
  /-- values are written into the text -/
  inlining : Bool
  /-- values of the enclosing queries, the innermost first -/
  scopes : List ParamMap
  /-- the path that values are compared with -/
  compared : Option Path
  /-- the source that is written as `this` -/
  candidate : Option Path
  /-- columns are written without their source -/
  bareColumns : Bool
  /-- number of the queries around -/
  depth : Nat
  text : String
  bindings : List Binding
  paths : List (Option Path)

namespace Session

def context (s : Session) : Context where
  rules := s.rules
  mode := s.mode
  inlining := s.inlining
  scopes := s.scopes
  compared := s.compared
  candidate := s.candidate
  bareColumns := s.bareColumns
  nested := 0 < s.depth

/-- The session with chunks added; their slots count on from those before. -/
def add (s : Session) (cs : List Chunk) : Session :=
  { s with
    text := s.text ++ Chunk.textFrom s.rules (s.bindings.length + 1) cs
    bindings := s.bindings ++ Chunk.bindings cs
    paths := s.paths ++ Chunk.paths cs }

@[simp] theorem context_add (s : Session) (cs : List Chunk) : (s.add cs).context = s.context := rfl

@[simp] theorem add_nil (s : Session) : s.add [] = s := by
  simp [add, Chunk.textFrom, Chunk.bindings, Chunk.paths]

theorem add_append (s : Session) (xs ys : List Chunk) : s.add (xs ++ ys) = (s.add xs).add ys := by
  simp [add, Chunk.textFrom_append, String.append_assoc, Nat.add_right_comm]

end Session

abbrev Visitor := EStateM QueryError Session Unit

namespace Visitor

def push (t : String) : Visitor :=
  modify fun s => { s with text := s.text ++ t }

/-- The next placeholder, with its value and the path that it is compared with. -/
def slot (b : Binding) : Visitor :=
  modify fun s =>
    { s with
      text := s.text ++ s.rules.placeholder (s.bindings.length + 1)
      bindings := s.bindings ++ [b]
      paths := s.paths ++ [s.compared] }

def fail (e : QueryError) : Visitor :=
  throw e

def emit (w : Writer) : Visitor := do
  let s ← get
  match w s.context with
  | .ok cs => set (s.add cs)
  | .error e => throw e

def all : List Visitor → Visitor
  | [] => pure ()
  | v :: vs => do
    v
    all vs

def separated (separator : String) : List Visitor → Visitor
  | [] => pure ()
  | [v] => v
  | v :: vs => do
    v
    push separator
    Visitor.separated separator vs

def parenthesized (v : Visitor) : Visitor := do
  push "("
  v
  push ")"

/-- The values are compared with that path, if there is one, and afterwards with what they were before. -/
def comparing (p : Option Path) (v : Visitor) : Visitor := do
  let outer := (← get).compared
  if p.isSome then
    modify fun s => { s with compared := p }
  try
    v
  finally
    modify fun s => { s with compared := outer }

/-- One query further in, with its own values in scope and no candidate, and back. -/
def inside (params : ParamMap) (v : Visitor) : Visitor := do
  let outer := (← get).candidate
  modify fun s => { s with scopes := params :: s.scopes, candidate := none, depth := s.depth + 1 }
  try
    v
  finally
    modify fun s => { s with scopes := s.scopes.tail, candidate := outer, depth := s.depth - 1 }

end Visitor

theorem append_assoc (a b c : Writer) : a ++ b ++ c = a ++ (b ++ c) := by
  funext d
  simp only [append_apply, joined_assoc]

/-- The outcome of a visitor that was to write `x`. After a failure some chunks may have been added. -/
def Session.Reaches (s : Session) : Except QueryError (List Chunk) → EStateM.Result QueryError Session Unit → Prop
  | .ok cs, r => r = .ok () (s.add cs)
  | .error e, r => ∃ cs, r = .error e (s.add cs)

def Visitor.CarriesOut (v : Visitor) (w : Writer) : Prop :=
  ∀ s : Session, s.Reaches (w s.context) (v s)

theorem Session.Reaches.restored {s t : Session} {x : Except QueryError (List Chunk)} {v : Visitor}
    {f : Session → Session} (h : t.Reaches x (v t)) (hf : ∀ cs, f (t.add cs) = s.add cs) :
    s.Reaches x ((tryFinally v (modify f)) t) := by
  have hrun : (tryFinally v (modify f)) t =
      match v t with
      | .ok a u => .ok a (f u)
      | .error e u => .error e (f u) := by
    simp only [tryFinally, tryFinally', Functor.map, EStateM.map]
    cases v t <;> rfl
  rw [hrun]
  cases x with
  | ok cs =>
    have hv : v t = .ok () (t.add cs) := h
    rw [hv]
    exact congrArg (EStateM.Result.ok ()) (hf cs)
  | error e =>
    obtain ⟨cs, hv⟩ := h
    rw [hv]
    exact ⟨cs, congrArg (EStateM.Result.error e) (hf cs)⟩

namespace Visitor.CarriesOut

variable {v v' : Visitor} {w w' : Writer}

theorem nothing : CarriesOut (pure ()) .nothing :=
  fun s => congrArg (EStateM.Result.ok ()) s.add_nil.symm

theorem push (t : String) : CarriesOut (push t) (.text t) := by
  intro s
  have hadd : s.add [.text t] = { s with text := s.text ++ t } := by
    simp [Session.add, Chunk.textFrom, Chunk.bindings, Chunk.paths]
  exact congrArg (EStateM.Result.ok ()) hadd.symm

theorem slot (b : Binding) : CarriesOut (slot b) fun c => .ok [.slot b c.compared] := by
  intro s
  have hadd : s.add [.slot b s.compared] =
      { s with
        text := s.text ++ s.rules.placeholder (s.bindings.length + 1)
        bindings := s.bindings ++ [b]
        paths := s.paths ++ [s.compared] } := by
    simp [Session.add, Chunk.textFrom, Chunk.bindings, Chunk.paths]
  exact congrArg (EStateM.Result.ok ()) hadd.symm

theorem fail (e : QueryError) : CarriesOut (fail e) (.fail e) :=
  fun s => ⟨[], congrArg (EStateM.Result.error e) s.add_nil.symm⟩

theorem emit (w : Writer) : CarriesOut (emit w) w := by
  intro s
  change s.Reaches (w s.context) ((match w s.context with
    | .ok cs => set (s.add cs)
    | .error e => throw e : Visitor) s)
  cases w s.context with
  | ok cs => rfl
  | error e => exact ⟨[], congrArg (EStateM.Result.error e) s.add_nil.symm⟩

theorem andThen (h : CarriesOut v w) (h' : CarriesOut v' w') : CarriesOut (do v; v') (w ++ w') := by
  intro s
  have hs := h s
  rw [append_apply]
  change s.Reaches _ (EStateM.bind v (fun _ => v') s)
  unfold EStateM.bind
  cases hx : w s.context with
  | error e =>
    rw [hx] at hs
    obtain ⟨cs, hv⟩ := hs
    rw [hv]
    exact ⟨cs, rfl⟩
  | ok xs =>
    rw [hx] at hs
    have hv : v s = .ok () (s.add xs) := hs
    have ht := h' (s.add xs)
    rw [hv]
    rw [Session.context_add] at ht
    cases hy : w' s.context with
    | error e =>
      rw [hy] at ht
      obtain ⟨ys, hv'⟩ := ht
      exact ⟨xs ++ ys, by rw [s.add_append]; exact hv'⟩
    | ok ys =>
      rw [hy] at ht
      have hv' : v' (s.add xs) = .ok () ((s.add xs).add ys) := ht
      rw [← s.add_append] at hv'
      exact hv'

theorem map {α β : Type} {R : α → β → Prop} {f : α → Visitor} {g : β → Writer} {xs : List α} {ys : List β}
    (hf : ∀ x y, R x y → CarriesOut (f x) (g y)) (h : List.Forall₂ R xs ys) :
    List.Forall₂ CarriesOut (xs.map f) (ys.map g) :=
  List.forall₂_map_left_iff.mpr (List.forall₂_map_right_iff.mpr (h.imp hf))

theorem map_self {α : Type} {f : α → Visitor} {g : α → Writer} (hf : ∀ x, CarriesOut (f x) (g x)) (xs : List α) :
    List.Forall₂ CarriesOut (xs.map f) (xs.map g) :=
  List.forall₂_map_left_iff.mpr (List.forall₂_map_right_iff.mpr (List.forall₂_same.mpr fun x _ => hf x))

theorem all {vs : List Visitor} {ws : List Writer} (h : List.Forall₂ CarriesOut vs ws) :
    CarriesOut (all vs) (.all ws) := by
  induction h with
  | nil => exact nothing
  | cons hv _ ih => exact hv.andThen ih

theorem separated (t : String) {vs : List Visitor} {ws : List Writer} (h : List.Forall₂ CarriesOut vs ws) :
    CarriesOut (separated t vs) (.separated t ws) := by
  induction h with
  | nil => exact nothing
  | cons hv hs ih =>
    cases hs with
    | nil => exact hv
    | cons _ _ =>
      have hrest := hv.andThen ((push t).andThen ih)
      rwa [← append_assoc] at hrest

theorem parenthesized (h : CarriesOut v w) : CarriesOut (parenthesized v) (.parenthesized w) := by
  have hall := (push "(").andThen (h.andThen (push ")"))
  rwa [← append_assoc] at hall

theorem comparing (p : Option Path) (h : CarriesOut v w) :
    CarriesOut (comparing p v) fun c => w { c with compared := p.or c.compared } := by
  intro s
  cases p with
  | none => exact (h s).restored (fun _ => rfl)
  | some p => exact (h { s with compared := some p }).restored (fun _ => rfl)

end Visitor.CarriesOut

end QueryText.Render
