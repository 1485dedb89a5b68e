import Mathlib.Tactic.MkIffOfInductiveProp
import QueryText.Proofs.Reading.Reader

namespace QueryText.Reading

def breaksBefore (t : List Char) : Bool :=
  (glyphs t).head?.all Glyph.breaks

def breaksAfter (t : List Char) : Bool :=
  (glyphs t).getLast?.all Glyph.breaks

def cutsHoles : List Hole → Bool
  | [] => true
  | [h] => breaksBefore h.after
  | h :: hs => h.after ≠ [] && breaksBefore h.after && breaksAfter h.after && cutsHoles hs

variable (t : List Notation)

def starts : List Word :=
  openParen :: t.filterMap fun x => (wordsOf x.lead).head?

def closes (m : Limit) (after : List Char) : Bool :=
  (wordsOf after ≠ []) &&
    t.all fun y => y.lead ≠ [] || (wordsOf y.led).head? ≠ (wordsOf after).head? || !allowed y.rank m

def closesHoles (rank : Option Nat) (i : Nat) : List Hole → Bool
  | [] => true
  | [h] => h.after = [] || closes t (limitAt rank i h.enclosed) h.after
  | h :: hs => h.after ≠ [] && closes t (limitAt rank i h.enclosed) h.after && closesHoles rank (i + 1) hs

def openLimit? (rank : Option Nat) (i : Nat) : List Hole → Option Limit
  | [] => none
  | [h] => if h.after = [] then some (limitAt rank i h.enclosed) else none
  | _ :: hs => openLimit? rank (i + 1) hs

namespace Notation

def openLimit? (x : Notation) : Option Limit :=
  Reading.openLimit? x.rank 0 x.holes

def LeadClear (y x : Notation) : Prop :=
  y.lead = [] ∨ x.lead = [] ∨
    ¬ wordsOf y.lead <+: wordsOf x.lead ∧
      (wordsOf x.lead <+: wordsOf y.lead →
        ∀ w ∈ ((wordsOf y.lead).drop (wordsOf x.lead).length).head?, w ∉ starts t)

def LedApart (y x : Notation) : Prop :=
  y.lead ≠ [] ∨ x.lead ≠ [] ∨ ¬ wordsOf y.led <+: wordsOf x.led ∧ ¬ wordsOf x.led <+: wordsOf y.led

instance (y x : Notation) : Decidable (LeadClear t y x) := by
  unfold LeadClear
  infer_instance

instance (y x : Notation) : Decidable (LedApart y x) := by
  unfold LedApart
  infer_instance

end Notation

@[mk_iff]
structure Cut : Prop where
  cutLead : ∀ x ∈ t, breaksAfter x.lead
  cutHoles : ∀ x ∈ t, cutsHoles x.holes

@[mk_iff]
structure ReadsLeads : Prop where
  leadOpens : ∀ x ∈ t, (wordsOf x.lead).head? ≠ some openParen
  leadWords : ∀ x ∈ t, x.lead ≠ [] → wordsOf x.lead ≠ []
  leadCloses : ∀ x ∈ t, x.lead ≠ [] → closesHoles t x.rank 0 x.holes
  leadClear : t.Pairwise (Notation.LeadClear t)

/-- The notations that begin with an operand are known by the words behind it, and do not go on inside
of it. -/
@[mk_iff]
structure ReadsLed : Prop where
  ledWords : ∀ x ∈ t, x.lead = [] → ∃ w ∈ (wordsOf x.led).head?, w ≠ closeParen
  ledFirst : ∀ x ∈ t, x.lead = [] →
    ∃ k ∈ x.rank, ∀ h ∈ x.holes.head?, limitAt x.rank 0 h.enclosed = some k
  ledCloses : ∀ x ∈ t, x.lead = [] → closesHoles t x.rank 1 x.holes.tail
  ledApart : t.Pairwise Notation.LedApart
  ledEnds : ∀ x ∈ t, x.lead = [] →
    ∀ y ∈ t, ∀ m ∈ y.openLimit?, allowed y.rank x.rank → allowed x.rank m = false

/-- The conditions under which expressions can be read back by the notations of the rules. -/
@[mk_iff]
structure Readable (r : Rules) : Prop extends Cut (table r), ReadsLeads (table r), ReadsLed (table r) where
  written : ∀ op ∈ readOperators, ∃ x ∈ notation? r op, x.holes.length = op.arity
  /-- the last operand of what stands open binds at least as tight -/
  openRanked : ∀ x ∈ table r, ∀ m ∈ x.openLimit?, ∃ k ∈ x.rank, ∃ l ∈ m, l ≤ k
  associative : ∀ x ∈ table r, x.op.isAssociative → x.rank.isSome → regroups r x.op
  regrouped : ∀ op ∈ readOperators, regroups r op →
    ∃ x ∈ notation? r op, x.lead = [] ∧ x.holes = [⟨false, x.led⟩, ⟨false, []⟩]

instance : Decidable (Cut t) :=
  decidable_of_iff' _ (cut_iff t)

instance : Decidable (ReadsLeads t) :=
  decidable_of_iff' _ (readsLeads_iff t)

instance : Decidable (ReadsLed t) :=
  decidable_of_iff' _ (readsLed_iff t)

instance (r : Rules) : Decidable (Readable r) :=
  decidable_of_iff' _ (readable_iff r)

theorem readable_of_mem {d : Dialect} (hd : d ∈ readDialects) : Readable (.ofDialect d) := by
  revert d
  decide +kernel

end QueryText.Reading
