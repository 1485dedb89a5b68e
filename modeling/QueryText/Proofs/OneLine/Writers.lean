import QueryText.Proofs.Deferral
import QueryText.Proofs.OneLine.Words

namespace QueryText.Render

def Chunk.spaced : Chunk → Chunk
  | .text s => .text (QueryText.spaced s)
  | .slot b path => .slot b path

def Context.onOneLine (c : Context) : Context :=
  { c with rules := c.rules.onOneLine }

def onOneLine (x : Except QueryError (List Chunk)) : Except QueryError (List Chunk) :=
  x.map (List.map Chunk.spaced)

def Spaces (c : Context) (v w : Writer) : Prop :=
  v c.onOneLine = onOneLine (w c)

abbrev Spaced (c : Context) (w : Writer) : Prop :=
  Spaces c w w

theorem onOneLine_joined (x y : Except QueryError (List Chunk)) :
    onOneLine (joined x y) = joined (onOneLine x) (onOneLine y) := by
  cases x with
  | error e => rfl
  | ok xs =>
    cases y with
    | error e => rfl
    | ok ys => exact congrArg Except.ok List.map_append

variable {c : Context} {v w v' w' : Writer}

namespace Spaces

theorem nothing : Spaced c .nothing :=
  rfl

theorem fail (e : QueryError) : Spaced c (.fail e) :=
  rfl

theorem unsupported (k : Construct) : Spaced c (.unsupported k) :=
  rfl

theorem spacedText (s : String) : Spaces c (.text (spaced s)) (.text s) :=
  rfl

theorem text {s : String} (hs : Unbroken s) : Spaced c (.text s) := by
  have h := spacedText (c := c) s
  rwa [spaced_eq_self hs] at h

theorem append (h : Spaces c v w) (h' : Spaces c v' w') : Spaces c (v ++ v') (w ++ w') := by
  unfold Spaces at *
  rw [append_apply, append_apply, h, h', onOneLine_joined]

section Rows

variable {α : Type} {f g : α → Writer} {xs : List α}

theorem all (h : ∀ x ∈ xs, Spaces c (f x) (g x)) : Spaces c (.all (xs.map f)) (.all (xs.map g)) := by
  induction xs with
  | nil => exact nothing
  | cons x xs ih =>
    obtain ⟨hx, hxs⟩ := List.forall_mem_cons.mp h
    exact hx.append (ih hxs)

theorem separated {s : String} (hs : Unbroken s) (h : ∀ x ∈ xs, Spaces c (f x) (g x)) :
    Spaces c (.separated s (xs.map f)) (.separated s (xs.map g)) := by
  induction xs with
  | nil => exact nothing
  | cons x xs ih =>
    obtain ⟨hx, hxs⟩ := List.forall_mem_cons.mp h
    cases xs with
    | nil => exact hx
    | cons y ys => exact (hx.append (text hs)).append (ih hxs)

end Rows

theorem when (b : Bool) (h : Spaces c v w) : Spaces c (.when b v) (.when b w) := by
  cases b with
  | false => exact nothing
  | true => exact h

theorem byRules {f : Rules → Writer} (h : Spaces c (f c.rules.onOneLine) (f c.rules)) :
    Spaced c (.byRules f) :=
  h

theorem keywordText (k : Keywords → String) (h : Unbroken (k c.rules.keywords)) :
    Spaced c (.byRules fun r => .text (k r.keywords)) :=
  byRules (text h)

theorem lift {f : Rules → Except QueryError Writer} (hsame : f c.rules.onOneLine = f c.rules)
    (h : ∀ w, f c.rules = .ok w → Spaced c w) : Spaced c (.lift f) := by
  have hrules : f c.onOneLine.rules = f c.rules := hsame
  unfold Spaced Spaces Writer.lift
  rw [hrules]
  cases hw : f c.rules with
  | error e => rfl
  | ok w => exact h w hw

theorem parenthesized (h : Spaces c v w) : Spaces c (.parenthesized v) (.parenthesized w) :=
  ((text (by decide)).append h).append (text (by decide))

theorem clauseBreak (hr : c.rules.Spaceable) : Spaced c .clauseBreak := by
  have h := spacedText (c := c) c.rules.clauseBreak
  rw [hr.clauseBreak] at h
  exact h

theorem identifier (hr : c.rules.Spaceable) {n : String} (hn : Unbroken n) :
    Spaced c (.identifier n) :=
  byRules (text (hr.identifier hn))

theorem elements {f : Pattern.Element → Writer} {es : List Pattern.Element}
    (h : ∀ el ∈ es, Spaces c (f el.spaced) (f el)) :
    Spaces c (.all ((es.map Pattern.Element.spaced).map f)) (.all (es.map f)) := by
  rw [List.map_map]
  exact all h

theorem patternText (t : List Char) :
    Spaces c (.text (String.ofList (t.map spacedChar))) (.text (String.ofList t)) := by
  have h := spacedText (c := c) (String.ofList t)
  rwa [spaced, String.toList_ofList] at h

end Spaces

namespace Chunk

theorem map_spaced_ofValue (r : Rules) (path : Option Path) (v : Value) :
    (ofValue r path v).map spaced = ofValue r path v := by
  have hwords : ∀ s ∈ ["(", ", ", ")"], Unbroken s := by decide
  exact map_ofValue (fun s hs => congrArg text (spaced_eq_self (hwords s hs))) (fun _ => rfl) r v

end Chunk

open Operand

/-- Nothing is previewed. The values that are written into the text are those of constants, and of parameters
in those scopes. -/
structure Context.Within (inlining : Bool) (scopes : List ParamMap) (c : Context) : Prop where
  rules : c.rules.Spaceable
  mode : c.mode ≠ .preview
  inlining : c.inlining = inlining
  scopes : c.scopes = scopes

theorem slots_spaces (v : Value) : Spaced c (slots v) := by
  unfold Spaced Spaces
  rw [slots_eq, slots_eq]
  exact congrArg Except.ok (Chunk.map_spaced_ofValue c.rules c.compared v).symm

section Leaves

variable {inlining : Bool} {scopes : List ParamMap} (hc : c.Within inlining scopes)

include hc

theorem writeValue_spaces {v : Value} (hv : inlining = true → v.Unbroken) :
    Spaced c (writeValue v) := by
  unfold Spaced Spaces
  rw [writeValue_eq_ite hc.mode, writeValue_eq_ite (c := c.onOneLine) hc.mode]
  have hliteral : c.onOneLine.rules.literal v = c.rules.literal v := c.rules.literal_onOneLine v
  have hinlining : c.onOneLine.inlining = c.inlining := rfl
  rw [hliteral, hinlining]
  split
  · next hi =>
    cases hs : c.rules.literal v with
    | error e => rfl
    | ok s => exact Spaces.text (c := c) (hc.rules.literal v (hv (hc.inlining ▸ hi)) hs)
  · exact slots_spaces v

theorem writeParam_spaces {p : Param} (hp : inlining = true → ∀ v, innermost scopes p = some v → v.Unbroken) :
    Spaced c (writeParam p) := by
  have hvalue {v : Value} (hv : c.resolve p = some v) : Spaced c (writeValue v) :=
    writeValue_spaces hc fun hi => hp hi v (hc.scopes ▸ hv)
  have hresolve : c.onOneLine.resolve p = c.resolve p := rfl
  have hmode : c.onOneLine.mode = c.mode := rfl
  unfold Spaced Spaces writeParam
  rw [hresolve, hmode]
  split
  · next hv => exact hvalue hv
  · rfl
  · next hv => exact hvalue hv
  · split <;> rfl
  · rfl
  · next hm _ => exact absurd hm hc.mode
  · next hm _ => exact absurd hm hc.mode

theorem unbroken_pathText {p : Path} (hp : p.Unbroken) : Unbroken (pathText c p) := by
  induction p with
  | root n k =>
    rw [pathText]
    split
    · decide
    · exact hc.rules.identifier hp.1
  | child p n r k ih =>
    have hn := hc.rules.identifier hp.2.1
    rw [pathText]
    split
    · exact hn
    · exact ((ih hp.1).append (by decide)).append hn

theorem writePath_spaces {p : Path} (hp : p.Unbroken) : Spaced c (writePath p) := by
  have htext : pathText c.onOneLine p = pathText c p :=
    pathText_congr (c := c.onOneLine) (d := c) (fun _ => rfl) rfl rfl p
  have hmode : c.onOneLine.mode = c.mode := rfl
  unfold Spaced Spaces writePath
  rw [htext, hmode]
  split
  · rfl
  · exact Spaces.text (c := c) (unbroken_pathText hc hp)

end Leaves

namespace Context.Within

variable {inlining : Bool} {scopes : List ParamMap} (h : c.Within inlining scopes)

include h

theorem about (compared candidate : Option Path) :
    Context.Within inlining scopes { c with compared := compared, candidate := candidate } :=
  ⟨h.rules, h.mode, h.inlining, h.scopes⟩

theorem inside (params : ParamMap) : (c.inside params).Within inlining (params :: scopes) :=
  ⟨h.rules, h.mode, h.inlining, congrArg (params :: ·) h.scopes⟩

theorem comparing (args : List Operand) : (Operand.comparing args c).Within inlining scopes := by
  obtain ⟨p, hp⟩ := comparing_eq args c
  rw [hp]
  exact h.about p c.candidate

end Context.Within

end QueryText.Render
