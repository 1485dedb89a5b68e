namespace QueryText.Text

abbrev CodeRanges :=
  List (Nat × Nat)

def CodeRanges.covers (rs : CodeRanges) (c : Char) : Bool :=
  rs.any fun r => r.1 ≤ c.toNat && c.toNat ≤ r.2

end QueryText.Text
