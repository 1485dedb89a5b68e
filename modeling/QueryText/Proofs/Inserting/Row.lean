import QueryText.Proofs.Coupling.Change

namespace QueryText

namespace Render

def listing : List (List Chunk) → List Chunk
  | [] => []
  | [xs] => xs
  | xs :: ys :: rest => xs ++ .text ", " :: listing (ys :: rest)

theorem separated_ok {ws : List Writer} {d : Context} {cs : List Chunk}
    (h : Writer.separated ", " ws d = .ok cs) :
    ∃ parts, List.Forall₂ (fun w xs => w d = .ok xs) ws parts ∧ cs = listing parts := by
  induction ws generalizing cs with
  | nil =>
    obtain rfl := Except.ok.inj h
    exact ⟨[], .nil, rfl⟩
  | cons v ws ih =>
    cases ws with
    | nil => exact ⟨[cs], .cons h .nil, rfl⟩
    | cons w ws =>
      obtain ⟨front, ys, hfront, hy, rfl⟩ := append_ok h
      obtain ⟨xs, comma, hx, hcomma, rfl⟩ := append_ok hfront
      obtain rfl := Except.ok.inj hcomma
      obtain ⟨parts, hparts, rfl⟩ := ih hy
      cases hparts with
      | @cons _ p _ ps hp hps => exact ⟨xs :: p :: ps, .cons hx (.cons hp hps), by simp [listing]⟩

end Render

namespace Insert

open Render Statement

/-- Columns and the values that stand where they do. -/
def pairs (i : Insert) : List (Path × Expr) :=
  i.columns.zip i.values

/-- A column as it is written, and what is written of the value against it. -/
structure Cell where
  column : String
  value : List Chunk

/-- A row of cells, with the keyword and the table in front of it. -/
def row (r : Rules) (front : List Chunk) (cells : List Cell) : List Chunk :=
  front ++ .text " (" :: listing (cells.map fun c => [.text c.column]) ++
    [.text ")", .text r.clauseBreak, .text (r.keywords.values ++ " (")] ++
    listing (cells.map (·.value)) ++ [.text ")"]

structure Cell.Holds (i : Insert) (cell : Cell) (x : Path × Expr) : Prop where
  column : cell.column = i.config.rules.identifier x.1.name
  value : writeAssigned x.1 x.2 (context i.config i.params) = .ok cell.value

/-- The statement has a row with those columns and values, each value in the place of its column. -/
def Lists (i : Insert) (w : WrittenStatement) (pairs : List (Path × Expr)) : Prop :=
  ∃ front cells, w = .ofChunks i.config.rules (row i.config.rules front cells) ∧
    List.Forall₂ (Cell.Holds i) cells pairs

variable {i : Insert}

theorem length_eq_of_checked {head : String × Entity} (h : (Change.insert i).checked = .ok head) :
    i.columns.length = i.values.length := by
  obtain ⟨e, -, h⟩ := Except.bind_eq_ok_iff.mp h
  obtain ⟨k, -, h⟩ := Except.bind_eq_ok_iff.mp h
  by_contra hne
  rw [if_pos hne] at h
  split at h <;> cases h

theorem exists_cells {pairs : List (Path × Expr)} {parts : List (List Chunk)}
    (h : List.Forall₂ (fun w xs => w (context i.config i.params) = .ok xs)
      (pairs.map fun x => writeAssigned x.1 x.2) parts) :
    ∃ cells, List.Forall₂ (Cell.Holds i) cells pairs ∧ cells.map (·.value) = parts := by
  induction pairs generalizing parts with
  | nil =>
    cases h
    exact ⟨[], .nil, rfl⟩
  | cons x pairs ih =>
    obtain ⟨xs, rest, hx, hrest, rfl⟩ := List.forall₂_cons_left_iff.mp h
    obtain ⟨cells, hcells, rfl⟩ := ih hrest
    exact ⟨⟨i.config.rules.identifier x.1.name, xs⟩ :: cells, .cons ⟨rfl, hx⟩ hcells, rfl⟩

theorem columns_listed {cells : List Cell} {pairs : List (Path × Expr)}
    (h : List.Forall₂ (Cell.Holds i) cells pairs) :
    Writer.separated ", " ((pairs.map (·.1)).map fun p => .identifier p.name)
        (context i.config i.params) =
      .ok (listing (cells.map fun c => [.text c.column])) := by
  induction h with
  | nil => rfl
  | @cons cell x cells pairs hx hs ih =>
    have hwrite : Writer.identifier x.1.name (context i.config i.params) = .ok [.text cell.column] := by
      rw [hx.column]
      rfl
    cases hs with
    | nil => exact hwrite
    | cons _ _ =>
      have hcomma : Writer.text ", " (context i.config i.params) = .ok [.text ", "] := rfl
      have hrow := append_of_ok (append_of_ok hwrite hcomma) ih
      rw [List.append_assoc] at hrow
      exact hrow

theorem write_ok {k : String} {e : Entity} {d : Context} {cs : List Chunk} (h : i.write k e d = .ok cs) :
    ∃ front columns values,
      Writer.separated ", " (i.columns.map fun p => .identifier p.name) d = .ok columns ∧
      Writer.separated ", " (i.pairs.map fun x => writeAssigned x.1 x.2) d = .ok values ∧
      cs = front ++ .text " (" :: columns ++
        [.text ")", .text d.rules.clauseBreak, .text (d.rules.keywords.values ++ " (")] ++ values ++
        [.text ")"] := by
  obtain ⟨_, _, h₁, hclosing, rfl⟩ := append_ok h
  obtain ⟨_, values, h₂, hvalues, rfl⟩ := append_ok h₁
  obtain ⟨_, _, h₃, hkeyword, rfl⟩ := append_ok h₂
  obtain ⟨_, _, h₄, hbreak, rfl⟩ := append_ok h₃
  obtain ⟨_, _, h₅, hclosing', rfl⟩ := append_ok h₄
  obtain ⟨_, columns, h₆, hcolumns, rfl⟩ := append_ok h₅
  obtain ⟨front, _, -, hopening, rfl⟩ := append_ok h₆
  refine ⟨front, columns, values, hcolumns, hvalues, ?_⟩
  rw [← Except.ok.inj hclosing, ← Except.ok.inj hkeyword, ← Except.ok.inj hbreak,
    ← Except.ok.inj hclosing', ← Except.ok.inj hopening]
  simp

theorem map_pairs_of_written {w : WrittenStatement} (h : i.written = .ok w) :
    i.pairs.map (·.1) = i.columns ∧ i.pairs.map (·.2) = i.values := by
  obtain ⟨head, cs, hchecked, -, -⟩ := Change.written_ok (show (Change.insert i).written = .ok w from h)
  have hlength := length_eq_of_checked hchecked
  exact ⟨List.map_fst_zip (Nat.le_of_eq hlength), List.map_snd_zip (Nat.le_of_eq hlength.symm)⟩

theorem written_lists {w : WrittenStatement} (h : i.written = .ok w) : i.Lists w i.pairs := by
  obtain ⟨hfst, -⟩ := map_pairs_of_written h
  obtain ⟨head, cs, -, hcs, rfl⟩ := Change.written_ok (show (Change.insert i).written = .ok w from h)
  obtain ⟨front, columns, values, hcolumns, hvalues, rfl⟩ := write_ok hcs
  obtain ⟨parts, hparts, rfl⟩ := separated_ok hvalues
  obtain ⟨cells, hcells, rfl⟩ := exists_cells hparts
  have hlisted := columns_listed hcells
  rw [hfst] at hlisted
  obtain rfl := Except.ok.inj (hcolumns.symm.trans hlisted)
  exact ⟨front, cells, rfl, hcells⟩

end Insert

end QueryText
