import QueryText.Proofs.Comments.Patterns
import QueryText.Proofs.Places.Spots

namespace QueryText

open Render Comments Operand

namespace Expr

/-- A negative number that is written into the text, under a name of its own or without one. -/
inductive Signed (c : Context) : Expr → Prop where
  | constant {v : Value} (hi : c.inlining = true) (hv : v.isNegative = true) : Signed c (.constant v)
  | param {p : Param} {v : Value} (hm : c.mode = .resolving) (hi : c.inlining = true)
      (hr : c.resolve p = some v) (hv : v.isNegative = true) : Signed c (.param p)
  | asAlias {e : Expr} (h : Signed c e) (es : List Expr) : Signed c (.operation .asAlias (e :: es))

/-- A number of that kind, or a negation: what is written with a dash in front, unless it is in parentheses. -/
def Dashed (c : Context) (e : Expr) : Prop :=
  e.Signed c ∨ ∃ es, e = .operation .negate es

/-- An operation that writes a dash right in front of another one. -/
inductive Clashes (c : Context) : Expr → Prop where
  | negations (as es : List Expr) : Clashes c (.operation .negate (.operation .negate as :: es))
  | negated {e : Expr} (h : Signed c e) (es : List Expr) : Clashes c (.operation .negate (e :: es))
  | subtracted (text : Expr) {e : Expr} (h : Signed c e) (es : List Expr) :
      Clashes c (.operation .substringBetween (text :: e :: es))

def DashesMeet (c : Context) (e : Expr) : Prop :=
  ∃ is s, e.spot? is c = some s ∧ s.expr.Clashes s.context

/-- No text of a user's own is written: no custom fragment, and no marker of a join that would not end
where it begins. -/
structure Fragmentless (c : Context) (e : Expr) : Prop where
  custom : ∀ is s, e.spot? is c = some s → ∀ f args, s.expr ≠ .custom f args
  flags : ∀ is s, e.spot? is c = some s → ∀ q, s.expr = .subQuery q → ∀ j ∈ q.joins, ∀ f ∈ j.flags,
    s.context.rules.Quiet f.before ∧ s.context.rules.Quiet f.after

theorem spot?_of_part? {c d : Context} {e a : Expr} {i : Nat} (hp : e.part? c i = some (a, d)) {is : List Nat}
    {s : Spot} (hs : a.spot? is d = some s) :
    ∃ t, e.spot? (i :: is) c = some t ∧ t.expr = s.expr ∧ t.context = s.context :=
  ⟨{ s with around := s.around ++ e.query?.toList }, by simp [spot?, hp, hs], rfl, rfl⟩

theorem Fragmentless.part {c d : Context} {e a : Expr} {i : Nat} (h : e.Fragmentless c)
    (hp : e.part? c i = some (a, d)) : a.Fragmentless d where
  custom is s hs := by
    obtain ⟨t, ht, hexpr, -⟩ := spot?_of_part? hp hs
    rw [← hexpr]
    exact h.custom _ t ht
  flags is s hs := by
    obtain ⟨t, ht, hexpr, hcontext⟩ := spot?_of_part? hp hs
    rw [← hexpr, ← hcontext]
    exact h.flags _ t ht

theorem dashesMeet_iff {c : Context} {e : Expr} :
    e.DashesMeet c ↔ e.Clashes c ∨ ∃ i a d, e.part? c i = some (a, d) ∧ a.DashesMeet d := by
  constructor
  · rintro ⟨is, s, hs, hclash⟩
    cases is with
    | nil =>
      obtain rfl := Option.some.inj hs
      exact .inl hclash
    | cons i is =>
      obtain ⟨⟨a, d⟩, hpart, hs⟩ := Option.bind_eq_some_iff.mp hs
      obtain ⟨t, ht, rfl⟩ := Option.map_eq_some_iff.mp hs
      exact .inr ⟨i, a, d, hpart, is, t, ht, hclash⟩
  · rintro (hclash | ⟨i, a, d, hpart, is, t, ht, hclash⟩)
    · exact ⟨[], _, rfl, hclash⟩
    · obtain ⟨u, hu, hexpr, hcontext⟩ := spot?_of_part? hpart ht
      exact ⟨i :: is, u, hu, by rwa [hexpr, hcontext]⟩

end Expr

namespace Render

theorem Decides.behind_dash {marks : List Char} {s : String} {bad dashed : Prop}
    (h : Decides bad (read marks (.outside false) s.toList)) (hf : Rules.Fronted dashed s) :
    Decides (bad ∨ dashed) (read marks (.outside true) s.toList) := by
  obtain ⟨c, hc, hdash⟩ := hf
  have hne : s.toList ≠ [] := fun hnil => by simp [hnil] at hc
  rw [read_behind_dash hne, hc]
  by_cases hd : dashed
  · obtain rfl := hdash.mpr hd
    exact ⟨fun _ => by simp, fun hn => absurd (.inr hd) hn⟩
  · have hcne : ¬ some c = some '-' := fun he => hd (hdash.mp (Option.some.inj he))
    rw [if_neg hcne]
    exact h.congr (by simp [hd])

/-- What the elements of a pattern write in a row. A dash in front of a slot meets one that its argument
is written with. -/
theorem decides_elements {d : Context} {f : Pattern.Element → Writer} {B D : Pattern.Element → Prop}
    (htext : ∀ t, f (.text t) = .text (String.ofList t) ∧ ¬ B (.text t)) {es : List Pattern.Element}
    (hslot : ∀ el ∈ es, el.slot?.isSome → CommentsIff d (f el) (B el))
    {dash : Bool} (hleg : Pattern.legible d.rules.marks dash es = true)
    (hdash : ∀ el ∈ Pattern.behindDash dash es, ∀ cs, f el d = .ok cs → ∀ n,
      Rules.Fronted (D el) (Chunk.textFrom d.rules n cs))
    {cs : List Chunk} (hcs : Writer.all (es.map f) d = .ok cs) (n : Nat) :
    Decides ((∃ el ∈ es, B el) ∨ ∃ el ∈ Pattern.behindDash dash es, D el)
      (read d.rules.marks (.outside dash) (Chunk.textFrom d.rules n cs).toList) := by
  -- The reader stands outside quotes between two elements, behind a dash or not; the induction is over both.
  induction es generalizing dash cs n with
  | nil =>
    obtain rfl := Except.ok.inj hcs
    obtain rfl : dash = false := by simpa [Pattern.legible] using hleg
    exact ⟨by simp [Pattern.behindDash], fun _ => rfl⟩
  | cons el es ih =>
    obtain ⟨hel, hslots⟩ := List.forall_mem_cons.mp hslot
    obtain ⟨xs, ys, hxs, hys, rfl⟩ := append_ok hcs
    rw [Chunk.textFrom_append, String.toList_append]
    simp only [List.mem_cons, exists_eq_or_imp]
    cases el with
    | text t =>
      simp only [Pattern.legible, Bool.and_eq_true, Bool.not_eq_true', decide_eq_true_eq] at hleg
      obtain ⟨⟨rfl, hread⟩, hleg⟩ := hleg
      rw [(htext t).1] at hxs
      obtain rfl := Except.ok.inj hxs
      have hrest := ih hslots hleg hdash hys (n + (Chunk.bindings [.text (String.ofList t)]).length)
      rw [read_append]
      simp only [Chunk.textFrom, String.append_empty, String.toList_ofList, hread, Option.bind_some]
      exact hrest.congr (by simp [Pattern.behindDash, (htext t).2])
    | slot s enclosed =>
      have hx := hel rfl xs hxs n
      have hrest := ih hslots hleg (fun el hel => hdash el (List.mem_append_right _ hel)) hys
        (n + (Chunk.bindings xs).length)
      cases dash with
      | false => exact (hx.append hrest).congr (by simp [Pattern.behindDash, or_assoc])
      | true =>
        have hfront := hdash (.slot s enclosed) (by simp [Pattern.behindDash]) xs hxs n
        refine ((hx.behind_dash hfront).append hrest).congr ?_
        simp only [Pattern.behindDash, ↓reduceIte, List.singleton_append, List.mem_cons, exists_eq_or_imp]
        exact or_or_or_comm

section Element

variable {d : Context} {op : Operator} {rank : Option Nat} {args : List Expr} {s : Pattern.Slot}
  {enclosed : Bool}

theorem CommentsIff.grouped (hc : d.rules.Calm) {o : Operand} {bad : Prop} (h : CommentsIff d o.write bad)
    (position : Nat) : CommentsIff d (writeGrouped op rank position enclosed o) bad := by
  intro cs hcs n
  unfold writeGrouped at hcs
  split at hcs
  · exact h.parenthesized hc cs hcs n
  · exact h cs hcs n

theorem element_commentsIff (hc : d.rules.Calm) (hm : d.mode ≠ .preview) (hi : op ≠ .instanceOf)
    (hparts : ∀ a, Expr.inSlot? d args s = some a → CommentsIff d a.write (a.DashesMeet d)) :
    CommentsIff d
      (writeElement (fun a b => operationTo 5 .concat [a, b]) op rank (Expr.operands args) (.slot s enclosed))
      (∃ a, Expr.inSlot? d args s = some a ∧ a.DashesMeet d) := by
  intro cs hcs n
  cases harg : args[s.index]? with
  | none => simp [writeElement, Expr.operands_eq_map, harg, Writer.unsupported, Rules.unsupported] at hcs
  | some e =>
    simp only [writeElement, Expr.operands_eq_map, List.getElem?_map, harg, Option.map_some, hi, decide_false,
      Bool.false_and, Bool.false_eq_true, ↓reduceIte] at hcs
    by_cases hk : s.affix = .bare ∨ knownText? d e = none
    · have hslot := Windowing.inSlot?_of harg hk
      rw [Windowing.writeAffixed_eq 5 hk] at hcs
      have hwild : CommentsIff d
          (Operand.withWildcards (fun a b => operationTo 5 .concat [a, b]) s.affix e.operand).write
          ((e.withWildcards s.affix).DashesMeet d) :=
        fun xs hxs => hparts _ hslot xs (Windowing.withWildcards_settled (by decide) _ _ xs hxs)
      exact (hwild.grouped hc s.index cs hcs n).congr (by simp [hslot])
    · obtain ⟨hbare, hknown⟩ := not_or.mp hk
      obtain ⟨t, ht⟩ := Option.ne_none_iff_exists'.mp hknown
      simp only [writeAffixed, hbare, ↓reduceIte, Expr.expr_operand, ht] at hcs
      have hnone : Expr.inSlot? d args s = none := by
        simp [Expr.inSlot?, harg, hbare, ht]
      exact ((writeValue_leaf hc hm _).commentsIff cs hcs n).congr (by simp [hnone])

end Element

end Render

namespace Expr

variable {c d : Context} {r : Rules} {e a : Expr} {op : Operator} {rule : OperatorRule}

theorem Signed.congr (hm : d.mode = c.mode) (hi : d.inlining = c.inlining) (hs : d.scopes = c.scopes)
    (h : e.Signed c) : e.Signed d := by
  induction h with
  | constant hi' hv => exact .constant (hi.trans hi') hv
  | @param p v hm' hi' hr hv =>
    have hresolve : d.resolve p = c.resolve p := by rw [Context.resolve, hs, Context.resolve]
    exact .param (hm.trans hm') (hi.trans hi') (hresolve.trans hr) hv
  | asAlias _ es ih => exact .asAlias ih es

theorem signed_iff (h : c.Leads d []) : e.Signed d ↔ e.Signed c :=
  ⟨fun hs => hs.congr h.mode.symm h.inlining.symm h.scopes.symm,
    fun hs => hs.congr h.mode h.inlining h.scopes⟩

theorem not_dashed_path (p : Path) : ¬ (path p).Dashed c := by
  rintro (h | ⟨es, h⟩) <;> cases h

theorem not_dashed_subQuery (q : Select Expr) : ¬ (subQuery q).Dashed c := by
  rintro (h | ⟨es, h⟩) <;> cases h

theorem dashed_constant {v : Value} : (constant v).Dashed c ↔ c.inlining = true ∧ v.isNegative = true := by
  constructor
  · rintro (h | ⟨es, h⟩)
    · cases h with
      | constant hi hv => exact ⟨hi, hv⟩
    · cases h
  · rintro ⟨hi, hv⟩
    exact .inl (.constant hi hv)

theorem dashed_param {p : Param} : (param p).Dashed c ↔
    c.mode = .resolving ∧ c.inlining = true ∧ ∃ v, c.resolve p = some v ∧ v.isNegative = true := by
  constructor
  · rintro (h | ⟨es, h⟩)
    · cases h with
      | param hm hi hr hv => exact ⟨hm, hi, _, hr, hv⟩
    · cases h
  · rintro ⟨hm, hi, v, hr, hv⟩
    exact .inl (.param hm hi hr hv)

theorem dashed_operation {args : List Expr} : (operation op args).Dashed c ↔
    op = .negate ∨ op = .asAlias ∧ ∃ a es, args = a :: es ∧ a.Signed c := by
  constructor
  · rintro (h | ⟨es, h⟩)
    · cases h with
      | asAlias h es => exact .inr ⟨rfl, _, es, rfl, h⟩
    · exact .inl (operation.inj h).1
  · rintro (rfl | ⟨rfl, a, es, rfl, h⟩)
    · exact .inr ⟨args, rfl⟩
    · exact .inl (.asAlias h es)

def BindsTightest (r : Rules) (e : Expr) : Prop :=
  ∀ op args, e = operation op args → op = .negate ∨ (r.operators op).bind (·.rank) = none

/-- Where it needs no parentheses, it is written with a dash in front just if it is dashed. -/
def Fronts (c : Context) (e : Expr) : Prop :=
  e.BindsTightest c.rules → ∀ cs, e.write c = .ok cs → ∀ n,
    Rules.Fronted (e.Dashed c) (Chunk.textFrom c.rules n cs)

def exposing : List Operator :=
  [.negate, .substringBetween, .asAlias]

theorem ranks_of_exposing (hr : r.Legible) (hop : r.operators op = some rule) (hx : op ∈ exposing) :
    op = .negate ∧ rule.rank = some Rules.sign ∨ op ≠ .negate ∧ rule.rank = none := by
  obtain ⟨-, -, -, hranks, -⟩ := Rules.legibleRule_iff.mp (hr.operators op rule hop)
  simp only [exposing, List.mem_cons, List.not_mem_nil, or_false] at hx
  obtain rfl | rfl | rfl := hx <;> simpa [Rules.ranks] using hranks

theorem bindsTightest_of_open (hr : r.Legible) (hop : r.operators op = some rule) (hx : op ∈ exposing)
    {position : Nat} (h : needsParentheses r op rule.rank position false e = false) :
    e.BindsTightest r ∧ ∀ es, e = operation .negate es → op = .negate := by
  have hnot : op ≠ .not := fun he => absurd (he ▸ hx) (by decide)
  obtain ⟨rfl, hrank⟩ | ⟨hne, hrank⟩ := ranks_of_exposing hr hop hx
  · refine ⟨?_, fun _ _ => rfl⟩
    rintro child args rfl
    -- Any other operator with a rank is looser than a negation, and would be in parentheses.
    by_contra hno
    obtain ⟨hchild, hsome⟩ := not_or.mp hno
    obtain ⟨k, hk⟩ := Option.ne_none_iff_exists'.mp hsome
    obtain ⟨row, hrow, hk'⟩ := Option.bind_eq_some_iff.mp hk
    obtain ⟨-, -, -, hranks, -⟩ := Rules.legibleRule_iff.mp (hr.operators child row hrow)
    have hlt : Rules.sign < k := by
      rw [hk'] at hranks
      unfold Rules.ranks at hranks
      split at hranks
      · exact absurd rfl hchild
      · simp at hranks
      · simp at hranks
      · simpa using hranks
    simp [needsParentheses, isAtomic, hk, hrank, hlt] at h
  · have hchild : e.BindsTightest r := by
      rintro child args rfl
      refine .inr ?_
      by_contra hsome
      obtain ⟨k, hk⟩ := Option.ne_none_iff_exists'.mp hsome
      simp [needsParentheses, isAtomic, hk, hrank, hnot] at h
    refine ⟨hchild, ?_⟩
    rintro es rfl
    simp [needsParentheses, isAtomic, hr.negate, hrank, hnot] at h

theorem open_of_signed (hr : r.Legible) (hx : op ∈ exposing) (h : e.Signed c) (position : Nat) :
    needsParentheses r op rule.rank position false e = false := by
  have hnot : op ≠ .not := fun he => absurd (he ▸ hx) (by decide)
  cases h with
  | constant _ _ | param _ _ _ _ => rfl
  | asAlias _ es =>
    have halias : (r.operators .asAlias).bind (·.rank) = none := by
      cases hrow : r.operators .asAlias with
      | none => rfl
      | some row =>
        obtain ⟨-, -, -, hranks, -⟩ := Rules.legibleRule_iff.mp (hr.operators _ row hrow)
        simpa [Rules.ranks] using hranks
    simp [needsParentheses, isAtomic, hnot, halias]

theorem open_of_negation (hr : r.Legible) (hop : r.operators .negate = some rule) (es : List Expr) :
    needsParentheses r .negate rule.rank 0 false (operation .negate es) = false := by
  have hrank : rule.rank = some Rules.sign := by simpa [hop] using hr.negate
  simp [needsParentheses, isAtomic, hop, hrank]

theorem fronted_parenthesized {w : Writer} {cs : List Chunk} (h : Writer.parenthesized w d = .ok cs) (n : Nat)
    {A : Prop} (hA : ¬ A) : Rules.Fronted A (Chunk.textFrom d.rules n cs) := by
  obtain ⟨xs, ys, hxs, -, rfl⟩ := append_ok h
  obtain ⟨ps, zs, hps, -, rfl⟩ := append_ok hxs
  obtain rfl := Except.ok.inj hps
  have hopen : Rules.Undashed "(" := by decide
  rw [List.append_assoc, List.singleton_append, Chunk.textFrom]
  exact (hopen.append _).fronted hA

/-- What such an operator is written with for an argument: a dash where the argument has one and is not
in parentheses. -/
theorem grouped_fronted (hr : d.rules.Legible) (hop : d.rules.operators op = some rule) (hx : op ∈ exposing)
    {position : Nat} (hp : op = .negate → position = 0)
    (ha : a.Fronts d) {cs : List Chunk} (hcs : writeGrouped op rule.rank position false a.operand d = .ok cs) (n : Nat) :
    Rules.Fronted (a.Signed d ∨ op = .negate ∧ ∃ es, a = operation .negate es)
      (Chunk.textFrom d.rules n cs) := by
  simp only [writeGrouped, expr_operand] at hcs
  split at hcs
  · next hparen =>
    refine fronted_parenthesized hcs n ?_
    rintro (hsigned | ⟨rfl, es, rfl⟩)
    · rw [open_of_signed hr hx hsigned] at hparen
      cases hparen
    · obtain rfl := hp rfl
      rw [open_of_negation hr hop] at hparen
      cases hparen
  · next hopen =>
    obtain ⟨htight, hneg⟩ := bindsTightest_of_open hr hop hx (by simpa using hopen)
    refine (ha htight cs hcs n).congr (or_congr_right ⟨?_, fun h => h.2⟩)
    rintro ⟨es, rfl⟩
    exact ⟨hneg es rfl, es, rfl⟩

theorem settled_write (hr : c.rules.Calm) {args : List Expr} (h : emptyMembership? c op (operands args) ≠ none)
    {cs : List Chunk} (hcs : (operation op args).write c = .ok cs) :
    (op = .isIn ∨ op = .notIn) ∧ ∃ word, cs = [.text word] ∧ c.rules.Quiet word ∧ Rules.Undashed word := by
  change writeOperation _ op (operands args) c = .ok cs at hcs
  obtain ⟨word, hword⟩ := Option.ne_none_iff_exists'.mp h
  simp only [writeOperation, hword] at hcs
  obtain rfl := Except.ok.inj hcs
  obtain ⟨hop, rfl⟩ | ⟨hop, rfl⟩ := emptyMembership?_eq_some hword
  · exact ⟨.inl hop, _, rfl, hr.words _ (by simp [LiteralForms.words])⟩
  · exact ⟨.inr hop, _, rfl, hr.words _ (by simp [LiteralForms.words])⟩

theorem fronts_operation (hr : d.rules.Legible) {args : List Expr}
    (halias : ∀ a es, args = a :: es →
      (operation op args).part? d 0 = some (a, comparing (operands args) d) →
      a.Fronts (comparing (operands args) d)) :
    (operation op args).Fronts d := by
  intro htight cs hcs n
  by_cases hempty : emptyMembership? d op (operands args) = none
  swap
  · obtain ⟨hop, word, rfl, -, hundashed⟩ := settled_write hr.toCalm hempty hcs
    rw [Chunk.textFrom]
    refine (hundashed.append _).fronted fun hdashed => ?_
    obtain rfl | rfl := hop <;> simp [dashed_operation] at hdashed
  obtain ⟨rule, hrule, hall⟩ := Windowing.write_operation hcs hempty
  obtain ⟨-, -, hopens, -, -⟩ := Rules.legibleRule_iff.mp (hr.operators op rule hrule)
  cases helements : rule.pattern.elements with
  | nil => simp [helements, Rules.opens] at hopens
  | cons el els =>
    rw [helements] at hall hopens
    obtain ⟨xs, ys, hxs, -, rfl⟩ := append_ok hall
    rw [Chunk.textFrom_append]
    refine Rules.Fronted.append ?_ _
    cases el with
    | text t =>
      obtain rfl := Except.ok.inj hxs
      obtain ⟨hne, ch, hch, hdash⟩ := Rules.opens_text hopens
      exact ⟨ch, by simp [Chunk.textFrom, hch], hdash.trans (by simp [dashed_operation, hne])⟩
    | slot s enclosed =>
      obtain ⟨rfl, rfl, rfl⟩ := Rules.opens_slot hopens fun hne => by
        simpa [hrule] using (htight op args rfl).resolve_left hne
      -- An alias is written as what it stands for, so that the front is that of its first argument.
      cases args with
      | nil => simp [writeElement, operands, Writer.unsupported, Rules.unsupported] at hxs
      | cons a es =>
        have hkept := Context.Leads.comparing (c := d) (operands (a :: es))
        have hpart : (operation .asAlias (a :: es)).part? d 0 =
            some (a, comparing (operands (a :: es)) d) :=
          Windowing.part?_operation.mpr ⟨hempty, rfl, rule, ⟨0, .bare⟩, hrule, by rw [helements]; rfl,
            by simp, rfl⟩
        have hr' : (comparing (operands (a :: es)) d).rules.Legible := by rwa [hkept.rules]
        rw [← hkept.rules] at hrule ⊢
        refine (grouped_fronted hr' hrule (by decide) (by simp) (halias a es rfl hpart) hxs n).congr ?_
        simp [dashed_operation, signed_iff hkept]

theorem fronts_of_fragmentless {d : Context} (hr : d.rules.Legible) (hm : d.mode ≠ .preview) (e : Expr)
    (hf : e.Fragmentless d) : e.Fronts d := by
  cases e with
  | path p =>
    exact fun _ cs hcs n => (writePath_leaf hr.toCalm p cs hcs n).2.congr (iff_of_false id (not_dashed_path p))
  | constant v => exact fun _ cs hcs n => (writeValue_leaf hr.toCalm hm v cs hcs n).2.congr dashed_constant.symm
  | param p => exact fun _ cs hcs n => (writeParam_leaf hr.toCalm hm p cs hcs n).2.congr dashed_param.symm
  | custom f args => exact absurd rfl (hf.custom [] _ rfl f args)
  | subQuery q =>
    intro _ cs hcs n
    have hcs' : Writer.parenthesized (q.write .rows) (d.inside q.params) = .ok cs := by
      rw [← Windowing.write_subQuery]
      exact hcs
    exact fronted_parenthesized (d := d.inside q.params) hcs' n (not_dashed_subQuery q)
  | operation op args =>
    refine fronts_operation hr fun a es hargs hpart => ?_
    subst hargs
    have hkept := Context.Leads.comparing (c := d) (operands (a :: es))
    exact fronts_of_fragmentless (by rwa [hkept.rules]) (by rwa [hkept.mode]) a (hf.part hpart)
termination_by sizeOf e

def afterDash? : Operator → List Expr → Option Expr
  | .negate, e :: _ => some e
  | .substringBetween, _ :: e :: _ => some e
  | _, _ => none

theorem clashes_iff {args : List Expr} :
    (operation op args).Clashes c ↔ ∃ a, afterDash? op args = some a ∧
      (a.Signed c ∨ op = .negate ∧ ∃ es, a = operation .negate es) := by
  constructor
  · intro h
    cases h with
    | negations as es => exact ⟨_, rfl, .inr ⟨rfl, as, rfl⟩⟩
    | negated h es => exact ⟨_, rfl, .inl h⟩
    | subtracted text h es => exact ⟨_, rfl, .inl h⟩
  · rintro ⟨a, ha, h⟩
    unfold afterDash? at ha
    split at ha
    · next e es =>
      obtain rfl := Option.some.inj ha
      obtain h | ⟨-, as, rfl⟩ := h
      · exact .negated h es
      · exact .negations as es
    · next text e es =>
      obtain rfl := Option.some.inj ha
      obtain h | ⟨h, -⟩ := h
      · exact .subtracted text h es
      · cases h
    · cases ha

theorem clashes_congr {args : List Expr} (h : c.Leads d []) :
    (operation op args).Clashes d ↔ (operation op args).Clashes c := by
  simp only [clashes_iff, signed_iff h]

theorem afterDash?_eq (args : List Expr) {el : Pattern.Element} (hel : el ∈ Rules.dashedSlots op) :
    op ∈ exposing ∧ ∃ s, el = .slot s false ∧ s.affix = .bare ∧
      (op = .negate → s.index = 0) ∧ afterDash? op args = args[s.index]? := by
  unfold Rules.dashedSlots at hel
  split at hel
  · obtain rfl := List.mem_singleton.mp hel
    refine ⟨by decide, _, rfl, rfl, fun _ => rfl, ?_⟩
    cases args <;> rfl
  · obtain rfl := List.mem_singleton.mp hel
    refine ⟨by decide, _, rfl, rfl, by simp, ?_⟩
    match args with
    | [] | [_] | _ :: _ :: _ => rfl
  · cases hel

theorem exists_dashedSlot {args : List Expr} (h : afterDash? op args = some a) :
    ∃ el, el ∈ Rules.dashedSlots op := by
  unfold afterDash? at h
  split at h
  · exact ⟨_, List.mem_cons_self⟩
  · exact ⟨_, List.mem_cons_self⟩
  · cases h

theorem dashedSlot_fronted (hr : d.rules.Legible) (hm : d.mode ≠ .preview)
    (hrule : d.rules.operators op = some rule) {args : List Expr} {el : Pattern.Element}
    (hel : el ∈ Rules.dashedSlots op)
    (hf : ∀ s a, el.slot? = some s → inSlot? d args s = some a → a.Fragmentless d) {cs : List Chunk}
    (hcs : writeElement (fun a b => operationTo 5 .concat [a, b]) op rule.rank (operands args) el d = .ok cs)
    (n : Nat) : Rules.Fronted ((operation op args).Clashes d) (Chunk.textFrom d.rules n cs) := by
  obtain ⟨hexposing, s, rfl, hbare, hposition, hafter⟩ := afterDash?_eq args hel
  have hi : op ≠ .instanceOf := fun he => absurd (he ▸ hexposing) (by decide)
  cases harg : args[s.index]? with
  | none => simp [writeElement, operands_eq_map, harg, Writer.unsupported, Rules.unsupported] at hcs
  | some a =>
    simp only [writeElement, operands_eq_map, List.getElem?_map, harg, Option.map_some, hi, decide_false,
      Bool.false_and, Bool.false_eq_true, ↓reduceIte, writeAffixed, hbare] at hcs
    have hfragmentless : a.Fragmentless d := hf s a rfl (by simp [inSlot?, harg, hbare])
    have hgrouped := grouped_fronted hr hrule hexposing hposition
      (fronts_of_fragmentless hr hm a hfragmentless) hcs n
    refine hgrouped.congr ?_
    rw [clashes_iff, hafter, harg]
    simp

theorem exists_part? {args : List Expr} (hempty : emptyMembership? c op (operands args) = none)
    (hrule : c.rules.operators op = some rule) (hi : op ≠ .instanceOf) {el : Pattern.Element}
    (hel : el ∈ rule.pattern.elements) {s : Pattern.Slot} (hs : el.slot? = some s)
    (ha : inSlot? (comparing (operands args) c) args s = some a) :
    ∃ i, (operation op args).part? c i = some (a, comparing (operands args) c) := by
  obtain ⟨i, hel⟩ := List.mem_iff_getElem?.mp hel
  exact ⟨i, Windowing.part?_operation.mpr
    ⟨hempty, rfl, rule, s, hrule, by rw [hel]; exact hs, fun h => hi h.1, ha⟩⟩

theorem exists_part?_iff {args : List Expr} (hempty : emptyMembership? c op (operands args) = none)
    (hrule : c.rules.operators op = some rule) (hi : op ≠ .instanceOf) {P : Expr → Context → Prop} :
    (∃ i a d, (operation op args).part? c i = some (a, d) ∧ P a d) ↔
      ∃ el ∈ rule.pattern.elements, ∃ s, el.slot? = some s ∧
        ∃ a, inSlot? (comparing (operands args) c) args s = some a ∧ P a (comparing (operands args) c) := by
  constructor
  · rintro ⟨i, a, d, hp, h⟩
    obtain ⟨-, rfl, row, s, hrow, hs, -, ha⟩ := Windowing.part?_operation.mp hp
    obtain rfl := Option.some.inj (hrule.symm.trans hrow)
    obtain ⟨el, hel, hs⟩ := Option.bind_eq_some_iff.mp hs
    exact ⟨el, List.mem_of_getElem? hel, s, hs, a, ha, h⟩
  · rintro ⟨el, hel, s, hs, a, ha, h⟩
    obtain ⟨i, hp⟩ := exists_part? hempty hrule hi hel hs ha
    exact ⟨i, a, _, hp, h⟩

/-- A comment begins in an operation exactly if one begins in a part of it, or if its own dash meets that
of an argument. -/
theorem operation_commentsIff (hr : c.rules.Legible) (hm : c.mode ≠ .preview) {args : List Expr}
    (hf : (operation op args).Fragmentless c)
    (hparts : ∀ i a d, (operation op args).part? c i = some (a, d) → CommentsIff d a.write (a.DashesMeet d)) :
    CommentsIff c (operation op args).write ((operation op args).DashesMeet c) := by
  intro cs hcs n
  -- A settled membership has no parts, and neither of the two operators has a dash.
  by_cases hempty : emptyMembership? c op (operands args) = none
  swap
  · obtain ⟨hop, word, rfl, hquiet, -⟩ := settled_write hr.toCalm hempty hcs
    refine ((CommentsIff.text hquiet) _ rfl n).congr ⟨False.elim, fun hmeet => ?_⟩
    obtain hclash | ⟨i, a, d, hpart, -⟩ := dashesMeet_iff.mp hmeet
    · cases hclash <;> simp at hop
    · exact hempty (Windowing.part?_operation.mp hpart).1
  obtain ⟨rule, hrule, hall⟩ := Windowing.write_operation hcs hempty
  obtain ⟨hlegible, hbehind, -, -, -⟩ := Rules.legibleRule_iff.mp (hr.operators op rule hrule)
  have hi : op ≠ .instanceOf := fun he => by simp [he, hr.instanceOf] at hrule
  have hmeets := exists_part?_iff hempty hrule hi (P := fun a d => a.DashesMeet d)
  have hpart {el : Pattern.Element} (hel : el ∈ rule.pattern.elements) {s : Pattern.Slot}
      (hs : el.slot? = some s) {a : Expr} := exists_part? (a := a) hempty hrule hi hel hs
  have hkept := Context.Leads.comparing (c := c) (operands args)
  generalize comparing (operands args) c = d at *
  have hr' : d.rules.Legible := by rwa [hkept.rules]
  have hm' : d.mode ≠ .preview := by rwa [hkept.mode]
  rw [← hkept.rules] at hrule hlegible ⊢
  have hdecides := decides_elements (d := d)
    (B := fun el => ∃ s, el.slot? = some s ∧ ∃ a, inSlot? d args s = some a ∧ a.DashesMeet d)
    (D := fun _ => (operation op args).Clashes c) (fun t => ⟨rfl, by simp [Pattern.Element.slot?]⟩)
    ?_ hlegible ?_ hall n
  · refine hdecides.congr ?_
    rw [dashesMeet_iff, hbehind, or_comm, hmeets]
    refine or_congr_left ⟨fun ⟨_, _, h⟩ => h, fun h => ?_⟩
    obtain ⟨a, ha, -⟩ := clashes_iff.mp h
    obtain ⟨el, hel⟩ := exists_dashedSlot ha
    exact ⟨el, hel, h⟩
  · intro el hel hslot
    cases el with
    | text t => cases hslot
    | slot s enclosed =>
      refine (element_commentsIff hr'.toCalm hm' hi fun a ha => ?_).congr (by simp [Pattern.Element.slot?])
      obtain ⟨i, hp⟩ := hpart hel rfl ha
      exact hparts i a d hp
  · intro el hel xs hxs n
    have hmem := Pattern.mem_of_mem_behindDash hel
    rw [hbehind] at hel
    refine (dashedSlot_fronted hr' hm' hrule hel (fun s a hs ha => ?_) hxs n).congr (clashes_congr hkept)
    obtain ⟨i, hp⟩ := hpart hmem hs ha
    exact hf.part hp

end Expr

end QueryText
