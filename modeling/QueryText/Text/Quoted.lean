namespace QueryText.Text.Quoted

def doubled (q : Char) : List Char → List Char
  | [] => []
  | c :: cs => if c == q then q :: q :: doubled q cs else c :: doubled q cs

def quote (q : Char) (s : String) : String :=
  String.ofList (q :: doubled q s.toList ++ [q])

end QueryText.Text.Quoted
