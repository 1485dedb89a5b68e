import QueryText.Dialect.Presets
import QueryText.Render.Expr

namespace QueryText

open Render

namespace Expr

/-- The text for display, where the standard dialect can write the expression at all. -/
def preview? (e : Expr) : Option String :=
  match e.write (.of Rules.ansi .preview true []) with
  | .ok cs => some (Chunk.fullText Rules.ansi cs)
  | .error _ => none

end Expr

namespace Select

/-- The text of the query in a dialect, with the values that it knows written in. -/
def preview (q : Select Expr) (r : Rules) : Except QueryError String :=
  match q.write .rows (.of r .preview true [q.params]) with
  | .ok cs => .ok (Chunk.fullText r cs)
  | .error e => .error e

end Select

namespace Join

def preview? (j : Join Expr) : Option String := do
  let target ← j.target.preview?
  let condition ←
    match j.condition with
    | none => some ""
    | some c => (c.preview?).map (" on " ++ ·)
  some (j.kind.name ++ " " ++ target ++ condition ++ String.join (j.flags.map (" " ++ ·.label)))

end Join

end QueryText
