import QueryText.Proofs.Comments.Literals
import QueryText.Proofs.Slots

namespace QueryText.Render

open Comments

/-- The reader stops if that holds, and otherwise goes on outside quotes and behind no dash. -/
structure Decides (bad : Prop) (x : Option Place) : Prop where
  stops (h : bad) : x = none
  goesOn (h : ¬ bad) : x = some (.outside false)

def CommentsIff (c : Context) (w : Writer) (bad : Prop) : Prop :=
  ∀ cs, w c = .ok cs → ∀ n,
    Decides bad (read c.rules.marks (.outside false) (Chunk.textFrom c.rules n cs).toList)

variable {c : Context} {v w : Writer} {A B : Prop}

theorem Decides.of_quiet {s : String} (h : c.rules.Quiet s) :
    Decides False (read c.rules.marks (.outside false) s.toList) :=
  ⟨False.elim, fun _ => h⟩

theorem Decides.append {p : Place} {xs ys : List Char} {marks : List Char} (hx : Decides A (read marks p xs))
    (hy : Decides B (read marks (.outside false) ys)) : Decides (A ∨ B) (read marks p (xs ++ ys)) := by
  rw [read_append]
  constructor
  · intro h
    by_cases hA : A
    · rw [hx.stops hA]
      rfl
    · rw [hx.goesOn hA]
      exact hy.stops (h.resolve_left hA)
  · intro h
    rw [hx.goesOn fun hA => h (.inl hA)]
    exact hy.goesOn fun hB => h (.inr hB)

theorem Decides.congr {x : Option Place} (h : Decides A x) (hAB : A ↔ B) : Decides B x :=
  ⟨fun hB => h.stops (hAB.mpr hB), fun hB => h.goesOn fun hA => hB (hAB.mp hA)⟩

namespace CommentsIff

theorem congr (h : CommentsIff c w A) (hAB : A ↔ B) : CommentsIff c w B :=
  fun cs hcs n => (h cs hcs n).congr hAB

theorem append (hv : CommentsIff c v A) (hw : CommentsIff c w B) : CommentsIff c (v ++ w) (A ∨ B) := by
  intro cs hcs n
  obtain ⟨xs, ys, hxs, hys, rfl⟩ := append_ok hcs
  rw [Chunk.textFrom_append, String.toList_append]
  exact (hv xs hxs n).append (hw ys hys _)

theorem behind (hv : CommentsIff c v False) (hw : CommentsIff c w A) : CommentsIff c (v ++ w) A :=
  (hv.append hw).congr (by simp)

theorem before (hv : CommentsIff c v A) (hw : CommentsIff c w False) : CommentsIff c (v ++ w) A :=
  (hv.append hw).congr (by simp)

theorem of_quiet (h : ∀ cs, w c = .ok cs → ∀ n, c.rules.Quiet (Chunk.textFrom c.rules n cs)) :
    CommentsIff c w False :=
  fun cs hcs n => .of_quiet (h cs hcs n)

theorem fail (e : QueryError) (A : Prop) : CommentsIff c (.fail e) A :=
  fun _ h => nomatch h

theorem nothing : CommentsIff c .nothing False := by
  refine of_quiet fun cs hcs n => ?_
  obtain rfl : [] = cs := Except.ok.inj hcs
  rfl

theorem text {s : String} (h : c.rules.Quiet s) : CommentsIff c (.text s) False := by
  refine of_quiet fun cs hcs n => ?_
  obtain rfl : [.text s] = cs := Except.ok.inj hcs
  simpa [Chunk.textFrom] using h

theorem byRules {f : Rules → Writer} (h : CommentsIff c (f c.rules) A) : CommentsIff c (.byRules f) A :=
  h

theorem lift {f : Rules → Except QueryError Writer} (h : ∀ w, f c.rules = .ok w → CommentsIff c w A) :
    CommentsIff c (.lift f) A := by
  intro cs hcs n
  unfold Writer.lift at hcs
  split at hcs
  · cases hcs
  · next w hw => exact h w hw cs hcs n

theorem when (b : Bool) (h : CommentsIff c w False) : CommentsIff c (.when b w) False := by
  cases b with
  | false => exact nothing
  | true => exact h

theorem all {ws : List Writer} (h : ∀ w ∈ ws, CommentsIff c w False) : CommentsIff c (.all ws) False := by
  induction ws with
  | nil => exact nothing
  | cons w ws ih =>
    obtain ⟨hw, hws⟩ := List.forall_mem_cons.mp h
    exact hw.behind (ih hws)

theorem parenthesized (hc : c.rules.Calm) (h : CommentsIff c w A) : CommentsIff c (.parenthesized w) A :=
  ((text (hc.quiet_words (by decide))).behind h).before (text (hc.quiet_words (by decide)))

end CommentsIff

def Leaf (c : Context) (w : Writer) (dashed : Prop) : Prop :=
  ∀ cs, w c = .ok cs → ∀ n,
    c.rules.Quiet (Chunk.textFrom c.rules n cs) ∧ Rules.Fronted dashed (Chunk.textFrom c.rules n cs)

theorem Leaf.of_undashed (h : ∀ cs, w c = .ok cs → ∀ n, c.rules.Quiet (Chunk.textFrom c.rules n cs) ∧
    Rules.Undashed (Chunk.textFrom c.rules n cs)) : Leaf c w False :=
  fun cs hcs n => ⟨(h cs hcs n).1, (h cs hcs n).2.fronted not_false⟩

theorem Leaf.commentsIff {dashed : Prop} (h : Leaf c w dashed) : CommentsIff c w False :=
  .of_quiet fun cs hcs n => (h cs hcs n).1

section Leaves

open Operand

variable (hc : c.rules.Calm) (hm : c.mode ≠ .preview)

include hc

theorem quiet_ofItems (path : Option Path) (items : List Value) (n : Nat) :
    c.rules.Quiet (Chunk.textFrom c.rules n (Chunk.ofItems path items)) := by
  induction items generalizing n with
  | nil => exact hc.quiet_words (s := "") (by decide)
  | cons v vs ih =>
    have hn := (hc.quiet_placeholder n).1
    cases vs with
    | nil => exact hn.append (hc.quiet_words (s := "") (by decide))
    | cons w ws => exact hn.append ((hc.quiet_words (s := ", ") (by decide)).append (ih (n + 1)))

theorem slots_leaf (v : Value) : Leaf c (slots v) False := by
  refine .of_undashed fun cs hcs n => ?_
  rw [slots_eq] at hcs
  obtain rfl := Except.ok.inj hcs
  have hslot : c.rules.Quiet (Chunk.textFrom c.rules n [.slot (.value v) c.compared]) ∧
      Rules.Undashed (Chunk.textFrom c.rules n [.slot (.value v) c.compared]) := by
    simpa [Chunk.textFrom] using hc.quiet_placeholder n
  unfold Chunk.ofValue
  split
  · split
    · next items _ =>
      have hopen : c.rules.Quiet "(" ∧ Rules.Undashed "(" := ⟨hc.quiet_words (by decide), by decide⟩
      rw [List.cons_append, Chunk.textFrom, Chunk.textFrom_append]
      exact ⟨hopen.1.append ((quiet_ofItems hc _ items n).append (hc.quiet_words (s := ")") (by decide))),
        hopen.2.append _⟩
    · exact hslot
  · exact hslot

include hm

theorem writeValue_leaf (v : Value) :
    Leaf c (writeValue v) (c.inlining = true ∧ v.isNegative = true) := by
  intro cs hcs n
  rw [writeValue_eq_ite hm] at hcs
  split at hcs
  · next hi =>
    obtain ⟨s, hs, rfl⟩ := Except.map_eq_ok_iff.mp hcs
    simpa [Chunk.textFrom, hi] using hc.quiet_literal v hs
  · next hi => simpa [hi] using slots_leaf hc v cs hcs n

theorem writeParam_leaf (p : Param) :
    Leaf c (writeParam p)
      (c.mode = .resolving ∧ c.inlining = true ∧ ∃ v, c.resolve p = some v ∧ v.isNegative = true) := by
  intro cs hcs n
  have hslot : Leaf c (fun c => .ok [.slot (.param p) c.compared]) False := by
    refine .of_undashed fun cs hcs n => ?_
    obtain rfl := Except.ok.inj hcs
    simpa [Chunk.textFrom] using hc.quiet_placeholder n
  unfold writeParam at hcs
  split at hcs
  · next v hmode hv => simpa [hmode, hv] using writeValue_leaf hc hm v cs hcs n
  · cases hcs
  · next items hmode hv => simpa [hmode, Value.isNegative] using writeValue_leaf hc hm _ cs hcs n
  · next hmode hv =>
    split at hcs
    · cases hcs
    · simpa [hmode] using hslot cs hcs n
  · next hmode hv => simpa [hmode] using hslot cs hcs n
  · next hmode hv => exact absurd hmode hm
  · next hmode hv => exact absurd hmode hm

omit hm

theorem quiet_pathText (p : Path) :
    c.rules.Quiet (pathText c p) ∧ Rules.Undashed (pathText c p) := by
  induction p with
  | root n k =>
    rw [pathText]
    split
    · exact ⟨hc.quiet_words (by decide), by decide⟩
    · exact hc.quiet_identifier n
  | child p n r k ih =>
    rw [pathText]
    split
    · exact hc.quiet_identifier n
    · exact ⟨(ih.1.append (hc.quiet_words (by decide))).append (hc.quiet_identifier n).1,
        (ih.2.append _).append _⟩

theorem writePath_leaf (p : Path) : Leaf c (writePath p) False := by
  refine .of_undashed fun cs hcs n => ?_
  obtain ⟨-, rfl⟩ := writePath_ok_iff.mp hcs
  simpa [Chunk.textFrom] using quiet_pathText hc p

end Leaves

end QueryText.Render
