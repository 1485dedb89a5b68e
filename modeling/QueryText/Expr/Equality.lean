import QueryText.Expr.Basic

namespace QueryText

namespace Fragment

instance : BEq Fragment :=
  ⟨fun a b => a.pattern == b.pattern && a.dialects == b.dialects && a.kind == b.kind⟩

end Fragment

namespace Expr

mutual

def beq : Expr → Expr → Bool
  | path a, path b => a == b
  | operation o as, operation p bs => o == p && beqAll as bs
  | constant a, constant b => a == b
  | param a, param b => a == b
  | custom f as, custom g bs => f == g && beqAll as bs
  | subQuery a, subQuery b => beqSelect a b
  | _, _ => false

def beqAll : List Expr → List Expr → Bool
  | [], [] => true
  | a :: as, b :: bs => beq a b && beqAll as bs
  | _, _ => false

def beqOption : Option Expr → Option Expr → Bool
  | none, none => true
  | some a, some b => beq a b
  | _, _ => false

def beqJoin : Join Expr → Join Expr → Bool
  | ⟨k, t, c, fs⟩, ⟨l, u, d, gs⟩ => k == l && beq t u && beqOption c d && fs == gs

def beqJoins : List (Join Expr) → List (Join Expr) → Bool
  | [], [] => true
  | a :: as, b :: bs => beqJoin a b && beqJoins as bs
  | _, _ => false

def beqOrder : Order Expr → Order Expr → Bool
  | ⟨t, d, n⟩, ⟨u, e, m⟩ => beq t u && d == e && n == m

def beqOrders : List (Order Expr) → List (Order Expr) → Bool
  | [], [] => true
  | a :: as, b :: bs => beqOrder a b && beqOrders as bs
  | _, _ => false

def beqSelect : Select Expr → Select Expr → Bool
  | ⟨js, i, w, h, gs, os, ps, d, u, n, m⟩, ⟨js', i', w', h', gs', os', ps', d', u', n', m'⟩ =>
    beqJoins js js' && i == i' && beqOption w w' && beqOption h h' && beqAll gs gs' &&
      beqOrders os os' && beqAll ps ps' && d == d' && u == u' && n == n' && m == m'

end

instance : BEq Expr := ⟨beq⟩

end Expr

instance : BEq (Join Expr) := ⟨Expr.beqJoin⟩

end QueryText
