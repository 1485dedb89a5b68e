import QueryText.Proofs.Places.Request
import QueryText.Proofs.Searching.Following

namespace QueryText

open Render Operand

/-- The expression is known to be that text: it is a constant, or a parameter whose value is at hand. -/
def Render.Context.Knows (c : Context) (e : Expr) (s : String) : Prop :=
  e = .constant (.text s) ∨ ∃ p, e = .param p ∧ c.mode = .resolving ∧ c.resolve p = some (.text s)

theorem Render.Context.Knows.knownText? {c : Context} {e : Expr} {s : String} (h : c.Knows e s) :
    Operand.knownText? c e = some s := by
  obtain rfl | ⟨p, rfl, hm, hp⟩ := h
  · rfl
  · simp [Operand.knownText?, hm, hp, Value.text?]

/-- A text in a statement: a literal, or a slot for it. -/
def Render.Chunk.ofText (literals : Bool) (path : Option Path) (s : String) : Chunk :=
  if literals then .text (Rules.quotedText s) else .slot (.value (.text s)) path

theorem Render.writeValue_text {c : Context} (hm : c.mode ≠ .preview) (s : String) :
    writeValue (.text s) c = .ok [.ofText c.inlining c.compared s] := by
  cases hi : c.inlining with
  | false => exact writeValue_eq _ c ⟨hm, hi⟩
  | true =>
    rw [writeValue_literal hm hi]
    rfl

namespace Rules

/-- What is behind the pattern in a test for a part of a text. -/
def escapeClause (escape : Char) : String :=
  " escape '" ++ String.singleton escape ++ "'"

theorem searchesByLike_of_likeEscape {d : Dialect} {escape : Char}
    (he : (ofDialect d).likeEscape = some escape) {r : Rules}
    (hr : r = .ofDialect d ∨ r = (ofDialect d).onOneLine) : r.SearchesByLike ∧ escape = '!' := by
  have hd : d ≠ .jdoql := by
    rintro rfl
    cases he
  have hescape := (searchesByLike_ofDialect hd).escape
  rw [he] at hescape
  refine ⟨?_, Option.some.inj hescape⟩
  obtain rfl | rfl := hr
  · exact searchesByLike_ofDialect hd
  · exact searchesByLike_onOneLine hd

end Rules

namespace Expr

variable {c : Context} {op : Operator} {x y : Expr} {cs : List Chunk}

theorem write_known (hr : c.rules.SearchesByLike) (hm : c.mode ≠ .preview) {t : Search}
    (hop : op.affix? = some t.affix) (hy : knownText? c y = some t.text)
    (h : (operation op [x, y]).write c = .ok cs) :
    ∃ xs path, cs = xs ++ [.text " like ", .ofText c.inlining path (t.escapedPattern c.rules),
      .text (Rules.escapeClause '!')] := by
  have hsettled : op ≠ .isIn ∧ op ≠ .notIn := by
    constructor <;> rintro rfl <;> cases hop
  have hinstance : op ≠ .instanceOf := by
    rintro rfl
    cases hop
  have haffix : t.affix ≠ .bare := by
    intro hbare
    rw [hbare] at hop
    cases op <;> cases hop
  obtain ⟨rule, hrule, hw⟩ := Windowing.write_operation h (emptyMembership?_eq_none hsettled c _)
  obtain ⟨rule', hrule', helements⟩ := hr.tests op t.affix hop
  obtain rfl := Option.some.inj (hrule'.symm.trans hrule)
  generalize hd : comparing (operands [x, y]) c = d at hw
  have hleads : c.Leads d [] := hd ▸ .comparing _
  have hknown : knownText? d y = some t.text := by
    rw [← hy]
    cases y with
    | param p => simp only [knownText?, Context.resolve, hleads.mode, hleads.scopes, List.map_nil,
        List.nil_append]
    | _ => rfl
  rw [helements] at hw
  obtain ⟨xs, behind, -, hbehind, rfl⟩ := append_ok hw
  obtain ⟨like, ending, hlike, hending, rfl⟩ := append_ok hbehind
  obtain ⟨ys, last, hpattern, hlast, rfl⟩ := append_ok hending
  obtain ⟨escape, nothing, hescape, hnothing, rfl⟩ := append_ok hlast
  obtain rfl := Except.ok.inj hlike
  obtain rfl := Except.ok.inj hescape
  obtain rfl := Except.ok.inj hnothing
  have hvalue : writeValue (.text (t.escapedPattern d.rules)) d = .ok ys := by
    simpa [writeElement, operands, hinstance, writeAffixed, haffix, expr_operand, hknown,
      Search.escapedPattern] using hpattern
  rw [writeValue_text (hleads.mode ▸ hm), hleads.rules, hleads.inlining] at hvalue
  obtain rfl := Except.ok.inj hvalue
  exact ⟨xs, d.compared, rfl⟩

end Expr

namespace Request

theorem mode_context_ne (a : Request) : a.context.mode ≠ .preview := by
  cases a <;> exact fun h => by cases h

/-- The pattern for a known text selects the texts that start with it, end with it or contain it, as the
test asks. Whatever is put behind the escaped text, the wildcard as well, is read as it is read alone. -/
theorem finds_known {d : Dialect} {escape : Char} (he : (Rules.ofDialect d).likeEscape = some escape)
    {a : Request} (hr : a.config.rules = .ofDialect d ∨ a.config.rules = (Rules.ofDialect d).onOneLine)
    {w : WrittenStatement} (hw : a.written = .ok w) {is : List Nat} {s : Spot} (hs : a.spot? is = some s)
    {op : Operator} {x y : Expr} (hexpr : s.expr = .operation op [x, y]) {t : Search}
    (hop : op.affix? = some t.affix) (hy : s.context.Knows y t.text) :
    (∃ before xs path after,
      let written := xs ++ [.text " like ", .ofText a.config.literals path (t.escapedPattern a.config.rules),
        .text (Rules.escapeClause escape)]
      s.expr.write s.context = .ok written ∧ w = .ofChunks a.config.rules (before ++ written ++ after)) ∧
      (∀ u, Like.selects escape (t.escapedPattern a.config.rules).toList u = true ↔
        t.affix.Asks t.text.toList u) ∧
      ∀ p u, Like.selects escape ((a.config.rules.escapeLike t.text).toList ++ p) u = true ↔
        ∃ v, u = t.text.toList ++ v ∧ Like.selects escape p v = true := by
  obtain ⟨hlike, rfl⟩ := Rules.searchesByLike_of_likeEscape he hr
  have hescaped := Rules.escapeLike_of_escape hlike.escape t.text
  refine ⟨?_, fun u => ?_, fun p u => ?_⟩
  · obtain ⟨hrules, hmode, hliterals⟩ := context_spot? hs
    obtain ⟨all, hall, rfl⟩ := written_chunks hw
    obtain ⟨-, before, cs, after, hcs, rfl⟩ := inside_of_spot? hall hs
    obtain ⟨xs, path, rfl⟩ := Expr.write_known (hrules ▸ hlike) (hmode ▸ a.mode_context_ne) hop
      hy.knownText? (hexpr ▸ hcs)
    rw [hrules, hliterals] at hcs ⊢
    exact ⟨before, xs, path, after, hcs, rfl⟩
  · rw [Search.escapedPattern, hescaped]
    exact Affix.selects_apply_escaped (by decide) t.affix t.text u
  · rw [hescaped, String.toList_ofList]
    exact Like.selects_escaped t.text.toList p u

/-- The names of cats that end with a text, given by a parameter. -/
def nameEnds : Expr :=
  .operation .endsWith
    [.path ((Path.source (.ofType "Cat") "cat").property "name" .text), .param ⟨1, "who", .text⟩]

/-- The cats whose names end with a text. -/
def catsEnding (s : String) (c : Config) : Request :=
  .rows
    { Select.empty with
      joins := [.of .plain (.path (.source (.ofType "Cat") "cat"))]
      filter := some nameEnds
      params := .insert .empty ⟨1, "who", .text⟩ (.text s) }
    c

/-- The text ends with the escape character. -/
theorem finds_known_catsEnding :
    let a := catsEnding "50%!" .standard
    let pattern := Search.escapedPattern .ansi ⟨.leading, "50%!"⟩
    ∃ w, a.written = .ok w ∧ w.text = "select *\nfrom CAT cat\nwhere cat.name like ? escape '!'" ∧
      pattern = "%50!%!!" ∧
      (∃ before xs path after,
        let written := xs ++ [.text " like ", .ofText false path pattern, .text (Rules.escapeClause '!')]
        nameEnds.write a.context = .ok written ∧
          w = .ofChunks .ansi (before ++ written ++ after)) ∧
      (∀ u, Like.selects '!' pattern.toList u = true ↔ "50%!".toList <:+ u) ∧
      ∀ p u, Like.selects '!' ((Rules.ansi.escapeLike "50%!").toList ++ p) u = true ↔
        ∃ v, u = "50%!".toList ++ v ∧ Like.selects '!' p v = true :=
  ⟨_, rfl, by decide +kernel, by decide +kernel, finds_known (d := .ansi)
    (a := catsEnding "50%!" .standard) (t := ⟨.leading, "50%!"⟩) rfl (.inl rfl) rfl
    (show (catsEnding "50%!" .standard).spot? [0] = some _ from rfl) rfl rfl (.inr ⟨_, rfl, rfl, rfl⟩)⟩

end Request

end QueryText
