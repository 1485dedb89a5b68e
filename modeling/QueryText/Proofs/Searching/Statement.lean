import QueryText.Proofs.Searching.Following

namespace QueryText

open Render

namespace Change

def target : Change → Path
  | insert i => i.target
  | update u => u.target
  | delete d => d.target

def filter? : Change → Option Expr
  | insert _ => none
  | update u => u.filter
  | delete d => d.filter

/-- The query for the rows that the change is about. -/
def asSelect (ch : Change) : Select Expr :=
  { Select.empty with
    joins := [.of .plain (.path ch.target)]
    filter := ch.filter?
    params := ch.params }

def searches (ch : Change) : List Search :=
  match ch.filter? with
  | none => []
  | some e => e.searches ch.config ch.params

variable {ch : Change} {e : Expr}

theorem aboutTarget_eq {c : Config} {params : ParamMap} (h : c.rules.grammar ≠ .jdoql) (target : Path)
    (w : Writer) :
    Statement.aboutTarget target w (Statement.context c params) = w (Statement.context c params) := by
  have hg : (Statement.context c params).rules.grammar ≠ .jdoql := h
  simp only [Statement.aboutTarget, hg, ↓reduceIte]

theorem written_filter (h : ch.config.rules.grammar ≠ .jdoql) (he : ch.filter? = some e)
    {s : WrittenStatement} (hs : ch.written = .ok s) :
    ∃ front xs, e.write (Statement.context ch.config ch.params) = .ok xs ∧
      s = .ofChunks ch.config.rules (front ++ xs) := by
  obtain ⟨head, cs, -, hw, rfl⟩ := written_ok hs
  have hfilter : ∀ {xs},
      Statement.writeFilter (some e) (Statement.context ch.config ch.params) = .ok xs →
      ∃ front ys, e.write (Statement.context ch.config ch.params) = .ok ys ∧ xs = front ++ ys := by
    intro xs hx
    obtain ⟨front, ys, -, hy, rfl⟩ := append_ok hx
    exact ⟨front, ys, hy, rfl⟩
  cases ch with
  | insert i => cases he
  | update u =>
    have he' : u.filter = some e := he
    obtain ⟨front, xs, -, hx, rfl⟩ := append_ok hw
    rw [aboutTarget_eq h, he'] at hx
    obtain ⟨assigned, ys, -, hy, rfl⟩ := append_ok hx
    obtain ⟨keyword, zs, hz, rfl⟩ := hfilter hy
    exact ⟨front ++ (assigned ++ keyword), zs, hz, by simp⟩
  | delete d =>
    have he' : d.filter = some e := he
    obtain ⟨front, xs, -, hx, rfl⟩ := append_ok hw
    rw [aboutTarget_eq h, he'] at hx
    obtain ⟨keyword, ys, hy, rfl⟩ := hfilter hx
    exact ⟨front ++ keyword, ys, hy, by simp⟩

theorem write_asSelect {d : Context} (h : d.rules.grammar ≠ .jdoql) (he : ch.filter? = some e) :
    ∃ front behind, ch.asSelect.write .rows d =
      (front ++ Query.filterClause [e.operand] ++ behind) d := by
  let q := Expr.selectOperands ch.asSelect
  let first : Join Operand := .of .plain (.path ch.target)
  refine ⟨Query.rowsHead q first ++ Query.writeSources first [], Query.writeTail q .rows, ?_⟩
  have hrelational : ch.asSelect.write .rows d = Query.writeRelational .rows q d := by
    simp only [Select.write, Query.write, Writer.byRules]
    cases hg : d.rules.grammar with
    | jdoql => exact absurd hg h
    | sql | jpql => rfl
  have hfilter : q.filter = some e.operand := by
    simp [q, asSelect, Expr.selectOperands, Select.empty, he, Expr.optionOperand]
  have hconditions : Query.sourceConditions first [] ++ q.filter.toList = [e.operand] := by
    rw [hfilter]
    rfl
  rw [hrelational, ← hconditions]
  rfl

theorem asSelect_filter (h : ch.config.rules.grammar ≠ .jdoql) (he : ch.filter? = some e)
    {w : WrittenQuery} (hw : ch.asSelect.written ch.config = .ok w) :
    ∃ front ys behind,
      e.write (.of ch.config.rules .resolving ch.config.literals [ch.params]) = .ok ys ∧
        WrittenQuery.ofChunks ch.config.rules .unrestricted (front ++ ys ++ behind) = .ok w := by
  obtain ⟨front, behind, hwrite⟩ := write_asSelect
    (d := .of ch.config.rules .resolving ch.config.literals [ch.params]) h he
  have hparams : ch.asSelect.params = ch.params := rfl
  have hwindow : ch.asSelect.window = .unrestricted := rfl
  obtain ⟨cs, hcs, hw⟩ := Select.writtenAs_ok_iff.mp hw
  rw [hparams, hwrite] at hcs
  rw [hwindow] at hw
  obtain ⟨xs, behind, hxs, -, rfl⟩ := append_ok hcs
  obtain ⟨front, zs, -, hzs, rfl⟩ := append_ok hxs
  obtain ⟨keyword, ys, -, hys, rfl⟩ := append_ok hzs
  exact ⟨front ++ keyword, ys, behind, hys, by simpa using hw⟩

/-- The filter of the change is one of a dialect with LIKE and has no sub-queries. -/
structure Filters (ch : Change) (e : Expr) : Prop where
  filter : ch.filter? = some e
  flat : ∀ n ∈ e.nodes [], n.expr.isSubQuery = false
  rules : ∃ d, d ≠ Dialect.jdoql ∧
    (ch.config.rules = .ofDialect d ∨ ch.config.rules = (Rules.ofDialect d).onOneLine)

namespace Filters

theorem grammar (h : ch.Filters e) : ch.config.rules.grammar ≠ .jdoql := by
  obtain ⟨d, hd, hr | hr⟩ := h.rules <;> rw [hr] <;> cases d <;> first | exact absurd rfl hd | decide

theorem searchesByLike (h : ch.Filters e) : ch.config.rules.SearchesByLike := by
  obtain ⟨d, hd, hr | hr⟩ := h.rules <;> rw [hr]
  · exact Rules.searchesByLike_ofDialect hd
  · exact Rules.searchesByLike_onOneLine hd

end Filters

/-- What the statement ends with lies beside what the select has behind its sources. -/
def LiesBeside (ch : Change) (s : WrittenStatement) (w : WrittenQuery) : Prop :=
  ∃ front xs front' ys behind,
    s = .ofChunks ch.config.rules (front ++ xs) ∧
      .ok w = WrittenQuery.ofChunks ch.config.rules .unrestricted (front' ++ ys ++ behind) ∧
      Beside ch.config ch.params ch.searches xs ys

theorem written_beside (h : ch.Filters e) {s : WrittenStatement} {w : WrittenQuery}
    (hs : ch.written = .ok s) (hw : ch.asSelect.written ch.config = .ok w) : ch.LiesBeside s w := by
  obtain ⟨front, xs, hx, rfl⟩ := written_filter h.grammar h.filter hs
  obtain ⟨front', ys, behind, hy, hw'⟩ := asSelect_filter h.grammar h.filter hw
  obtain ⟨xs', hx', hbeside⟩ := write_follows h.searchesByLike e h.flat none ys hy
  obtain rfl := Except.ok.inj (hx.symm.trans hx')
  have hch : ch.searches = e.searches ch.config ch.params := by
    simp only [searches, h.filter]
  exact ⟨front, xs, front', ys, behind, rfl, hw'.symm, hch ▸ hbeside⟩

/-- The filter of the change lies beside that of its select, and each of the tests in them selects the
texts that it asks for: in the change, once its slots have their values, and in the select. -/
def SearchesAsSelect (ch : Change) : Prop :=
  ∀ s w, ch.written = .ok s → ch.asSelect.written ch.config = .ok w →
    ch.LiesBeside s w ∧
      ∀ t ∈ ch.searches, ∀ x,
        (Like.selects '!' t.pattern.toList x = true ↔ t.affix.Asks t.text.toList x) ∧
        (Like.selects '!' (t.escapedPattern ch.config.rules).toList x = true ↔
          t.affix.Asks t.text.toList x)

/-- Every text is looked for as in the select just if there is nothing in it to escape. -/
theorem searchesAsSelect_iff (h : ch.Filters e) :
    ch.SearchesAsSelect ↔
      ∀ s w, ch.written = .ok s → ch.asSelect.written ch.config = .ok w →
        ∀ t ∈ ch.searches, Like.Plain '!' t.text.toList := by
  have hne : '!' ≠ '%' := by decide
  constructor
  · intro hsearches s w hs hw t ht
    obtain ⟨-, hasks⟩ := hsearches s w hs hw
    exact (Affix.selects_apply_iff hne t.affix t.text).mp fun x => (hasks t ht x).1
  · intro hplain s w hs hw
    refine ⟨written_beside h hs hw, fun t ht x => ⟨?_, ?_⟩⟩
    · exact (Affix.selects_apply_iff hne t.affix t.text).mpr (hplain s w hs hw t ht) x
    · rw [Search.escapedPattern, Rules.escapeLike_of_escape h.searchesByLike.escape]
      exact Affix.selects_apply_escaped hne t.affix t.text x

end Change

/-- The deletion of the cats whose names start with a text, given by a parameter. -/
def catsFrom (s : String) : Change :=
  let cat := Path.source (.ofType "Cat") "cat"
  let who : Param := ⟨1, "who", .text⟩
  .delete
    { Delete.of .standard cat with
      filter := some (.operation .startsWith [.path (cat.property "name" .text), .param who])
      params := .insert .empty who (.text s) }

theorem catsFrom_filters (s : String) : ∃ e, (catsFrom s).Filters e :=
  ⟨_, rfl, by decide, .ansi, by decide, .inl rfl⟩

theorem searches_catsFrom (s : String) : (catsFrom s).searches = [⟨.trailing, s⟩] :=
  rfl

/-- A percent sign in the text is taken for a wildcard. -/
theorem catsFrom_not_searchesAsSelect :
    (∃ e, (catsFrom "50%").Filters e) ∧ ¬ (catsFrom "50%").SearchesAsSelect := by
  refine ⟨catsFrom_filters "50%", fun h => ?_⟩
  have hs : (catsFrom "50%").written.isOk = true := by decide +kernel
  have hw : ((catsFrom "50%").asSelect.written (catsFrom "50%").config).isOk = true := by decide +kernel
  cases hs' : (catsFrom "50%").written with
  | error e =>
    rw [hs'] at hs
    cases hs
  | ok s =>
    cases hw' : (catsFrom "50%").asSelect.written (catsFrom "50%").config with
    | error e =>
      rw [hw'] at hw
      cases hw
    | ok w =>
      obtain ⟨-, hasks⟩ := h s w hs' hw'
      rw [searches_catsFrom] at hasks
      obtain ⟨hchange, -⟩ := hasks _ (List.mem_singleton_self _) "509".toList
      have hselects : Like.selects '!' "50%%".toList "509".toList = true := by decide +kernel
      have hprefix : "50%".toList <+: "509".toList := hchange.mp hselects
      exact absurd hprefix (by decide)

theorem searchesAsSelect_iff_catsFrom :
    ∃ e, (catsFrom "Tom").Filters e ∧
      ((catsFrom "Tom").SearchesAsSelect ↔
        ∀ s w, (catsFrom "Tom").written = .ok s →
          (catsFrom "Tom").asSelect.written (catsFrom "Tom").config = .ok w →
          ∀ t ∈ (catsFrom "Tom").searches, Like.Plain '!' t.text.toList) := by
  obtain ⟨e, he⟩ := catsFrom_filters "Tom"
  exact ⟨e, he, Change.searchesAsSelect_iff he⟩

end QueryText
