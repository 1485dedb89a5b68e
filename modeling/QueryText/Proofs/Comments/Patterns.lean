import QueryText.Proofs.Comments.Writers

namespace QueryText

open Comments

namespace Pattern

def endsWithDash (t : List Char) : Bool :=
  t.getLast? == some '-'

def behindDash (dash : Bool) : List Element → List Element
  | [] => []
  | .text t :: es => behindDash (endsWithDash t) es
  | .slot s enclosed :: es => (if dash then [.slot s enclosed] else []) ++ behindDash false es

theorem mem_of_mem_behindDash {el : Element} {es : List Element} {dash : Bool}
    (h : el ∈ behindDash dash es) : el ∈ es := by
  induction es generalizing dash with
  | nil => cases h
  | cons e es ih =>
    cases e with
    | text t => exact List.mem_cons_of_mem _ (ih h)
    | slot s enclosed =>
      obtain h | h := List.mem_append.mp h
      · cases dash with
        | false => cases h
        | true => simpa using Or.inl h
      · exact List.mem_cons_of_mem _ (ih h)

/-- No text has a comment in it or leaves a quote open, and each stands behind a slot or in front. -/
def legible (marks : List Char) (dash : Bool) : List Element → Bool
  | [] => !dash
  | .text t :: es =>
    !dash && read marks (.outside false) t = some (.outside (endsWithDash t)) &&
      legible marks (endsWithDash t) es
  | .slot _ _ :: es => legible marks false es

def isBare (es : List Element) : Bool :=
  es.all fun
    | .text _ => true
    | .slot s _ => s.affix = .bare

end Pattern

namespace Rules

open Pattern

def dashedSlots : Operator → List Element
  | .negate => [.slot ⟨0, .bare⟩ false]
  | .substringBetween => [.slot ⟨1, .bare⟩ false]
  | _ => []

/-- Only a negation begins with a dash. Of the patterns without a rank, only that of an alias begins with
a slot. -/
def opens (op : Operator) (rank : Option Nat) : List Element → Bool
  | [] => false
  | .text t :: _ => op != .asAlias && t.head?.any fun c => c = '-' ↔ op = .negate
  | .slot s enclosed :: _ =>
    op != .negate && (rank.isSome || op = .asAlias && s = ⟨0, .bare⟩ && !enclosed)

section Opens

variable {op : Operator} {rank : Option Nat} {es : List Element}

theorem opens_text {t : List Char} (h : opens op rank (.text t :: es) = true) :
    op ≠ .asAlias ∧ ∃ c, t.head? = some c ∧ (c = '-' ↔ op = .negate) := by
  cases ht : t.head? with
  | none => simp [opens, ht] at h
  | some c => simpa [opens, ht] using h

theorem opens_slot {s : Slot} {enclosed : Bool} (h : opens op rank (.slot s enclosed :: es) = true)
    (hrank : op ≠ .negate → rank = none) : op = .asAlias ∧ s = ⟨0, .bare⟩ ∧ enclosed = false := by
  simp only [opens, Bool.and_eq_true, bne_iff_ne, ne_eq, Bool.or_eq_true] at h
  simpa [hrank h.1, and_assoc] using h.2

end Opens

/-- A negation binds tightest of all operators with a rank; aliases and substrings have none. -/
def ranks : Operator → Option Nat → Bool
  | .negate, rank => rank = some sign
  | .asAlias, rank | .substringBetween, rank => rank = none
  | _, rank => rank.all (sign < ·)

def legibleRule (marks : List Char) (op : Operator) (rule : OperatorRule) : Bool :=
  legible marks false rule.pattern.elements &&
    behindDash false rule.pattern.elements = dashedSlots op &&
    opens op rule.rank rule.pattern.elements && ranks op rule.rank &&
    (op != .concat || isBare rule.pattern.elements)

theorem legibleRule_iff {marks : List Char} {op : Operator} {rule : OperatorRule} :
    legibleRule marks op rule = true ↔ legible marks false rule.pattern.elements = true ∧
      behindDash false rule.pattern.elements = dashedSlots op ∧
      opens op rule.rank rule.pattern.elements = true ∧ ranks op rule.rank = true ∧
      (op = .concat → isBare rule.pattern.elements = true) := by
  simp [legibleRule, and_assoc, imp_iff_not_or]

/-- The operators of an SQL dialect have no comments in their patterns. -/
structure Legible (r : Rules) : Prop extends Calm r where
  operators : ∀ op rule, r.operators op = some rule → legibleRule r.marks op rule = true
  negate : (r.operators .negate).bind (·.rank) = some sign
  instanceOf : r.operators .instanceOf = none

theorem legible_sqlOperators : ∀ op ∈ Operator.all, ∀ rule ∈ sqlOperators op,
    ∀ marks ∈ [['\x27', '\x22'], ['\x27', '\x60']], legibleRule marks op rule = true := by
  decide +kernel

theorem legible_of_sql (d : Dialect) (h : (ofDialect d).grammar = .sql) : (ofDialect d).Legible := by
  have hshared {op : Operator} {rule : OperatorRule} (hop : sqlOperators op = some rule) :=
    legible_sqlOperators op op.mem_all rule hop
  refine ⟨calm_of_sql d h, fun op rule hop => ?_, ?_, ?_⟩
  · cases d with
    | ansi => exact hshared hop _ (by decide)
    | derby =>
      change derbyOperators op = some rule at hop
      unfold derbyOperators at hop
      split at hop
      · obtain rfl := Option.some.inj hop
        decide +kernel
      · exact hshared hop _ (by decide)
    | mysql =>
      change mysqlOperators op = some rule at hop
      unfold mysqlOperators at hop
      split at hop
      iterate 3
        · obtain rfl := Option.some.inj hop
          decide +kernel
      · exact hshared hop _ (by decide)
    | postgres =>
      change postgresOperators op = some rule at hop
      unfold postgresOperators at hop
      split at hop
      iterate 2
        · obtain rfl := Option.some.inj hop
          decide +kernel
      · exact hshared hop _ (by decide)
    | jpql | jdoql => cases h
  all_goals
    cases d with
    | ansi | derby | mysql | postgres => rfl
    | jpql | jdoql => cases h

end Rules

end QueryText
