import QueryText.Proofs.Reading.ReadBack
import QueryText.Proofs.Reading.Spelling

namespace QueryText.Reading

open Render Chunk

variable {c : Context} {e f : Expr}

/-- Both expressions are written, with one text and the same values in its slots. -/
def WrittenAlike (c : Context) (e f : Expr) : Prop :=
  ∃ cs ds, e.write c = .ok cs ∧ f.write c = .ok ds ∧
    (∀ slot, textFrom c.rules slot cs = textFrom c.rules slot ds) ∧ bindings cs = bindings ds

theorem Spells.run {w : Writer} {items : List Item} (h : Spells c w items) :
    ∃ cs, w c = .ok cs ∧ cs.map unpathed = spelled c items :=
  h c.compared

theorem WrittenAlike.of_spells {items : List Item} (he : Spells c e.write items)
    (hf : Spells c f.write items) : WrittenAlike c e f := by
  obtain ⟨cs, hcs, hs⟩ := he.run
  obtain ⟨ds, hds, hs'⟩ := hf.run
  have heq : cs.map unpathed = ds.map unpathed := hs.trans hs'.symm
  refine ⟨cs, ds, hcs, hds, fun slot => ?_, ?_⟩
  · rw [← textFrom_unpathed, heq, textFrom_unpathed]
  · rw [← bindings_unpathed, heq, bindings_unpathed]

theorem Plain.read_writing (hr : Readable c.rules) (h : Plain c e) :
    ∃ n, read (table c.rules) (lex (writing c.rules e)) = some n ∧ Regrouped c.rules e n := by
  obtain ⟨n, hn, hen⟩ := h.exists_leaning
  refine ⟨n, ?_, hen⟩
  have htokens : tokens c.rules e = tokens c.rules n := by rw [tokens, tokens, hen.layout_eq hr]
  rw [h.lex_writing hr, htokens, hn.read_tokens hr]

/-- An expression is written as its layout says. That is read back, by the dialect's own ranks, as the
expression up to regrouping, and all of its regroupings are written alike. -/
theorem written_reads_back {d : Dialect} (hd : d ∈ readDialects) (hr : c.rules = .ofDialect d)
    (h : Plain c e) :
    (∃ cs, e.write c = .ok cs ∧ cs.map unpathed = spelled c (layout c.rules e)) ∧
      (∃ f, read (table c.rules) (lex (writing c.rules e)) = some f ∧ Regrouped c.rules e f) ∧
        ∀ f, Regrouped c.rules e f → WrittenAlike c e f := by
  have hreadable : Readable c.rules := hr ▸ readable_of_mem hd
  have hspells := h.spells hd hr
  refine ⟨hspells.run, h.read_writing hreadable, fun f hf => ?_⟩
  have hfspells := (hf.plain_iff.mp h).spells hd hr
  rw [← hf.layout_eq hreadable] at hfspells
  exact .of_spells hspells hfspells

/-- `price * (1 + (2 + tax)) between -low and high` -/
def priceBetween : Expr :=
  let column := fun name => Expr.path (.root name .int)
  let sum := .operation .add [.constant (.int 1), .operation .add [.constant (.int 2), column "tax"]]
  .operation .between
    [.operation .mul [column "price", sum], .operation .negate [column "low"], column "high"]

/-- Values are bound. -/
def standard : Context :=
  .of (.ofDialect .ansi) .resolving false []

example : (priceBetween.write standard).toOption.map (fullText standard.rules) =
    some "price * (? + ? + tax) between -low and high" := by
  decide +kernel

theorem priceBetween_plain : Plain standard priceBetween := by
  have column : ∀ name, Plain standard (.path (.root name .int)) := fun name => .atom ⟨rfl, ⟨_, rfl⟩, rfl⟩
  have number : ∀ n, Plain standard (.constant (.int n)) := fun n => .atom ⟨rfl, ⟨_, rfl⟩, rfl⟩
  have add : ∀ a b, Plain standard a → Plain standard b → Plain standard (.operation .add [a, b]) := by
    intro a b ha hb
    exact .operation (by decide) rfl (by simp [ha, hb])
  have sum := add _ _ (number 1) (add _ _ (number 2) (column "tax"))
  have product : Plain standard (.operation .mul [_, _]) :=
    .operation (by decide) rfl (by simpa using ⟨column "price", sum⟩)
  have low : Plain standard (.operation .negate [_]) :=
    .operation (by decide) rfl (by simpa using column "low")
  exact .operation (by decide) rfl (by simpa using ⟨product, low, column "high"⟩)

theorem written_reads_back_priceBetween :
    (∃ cs, priceBetween.write standard = .ok cs ∧
      cs.map unpathed = spelled standard (layout standard.rules priceBetween)) ∧
      (∃ f, read (table standard.rules) (lex (writing standard.rules priceBetween)) = some f ∧
        Regrouped standard.rules priceBetween f) ∧
        ∀ f, Regrouped standard.rules priceBetween f → WrittenAlike standard priceBetween f :=
  written_reads_back (d := .ansi) (by decide) rfl priceBetween_plain

end QueryText.Reading
