import QueryText.Proofs.Reading.Layout
import QueryText.Proofs.Reading.Table

namespace QueryText.Reading

open Render

namespace Item

def glyphs : Item → List Glyph
  | text t => Reading.glyphs t
  | atom e => [.atom e]

def tokens : Item → List Token
  | text t => (wordsOf t).map .word
  | atom e => [.atom e]

end Item

/-- The characters and atoms that an expression is written with. -/
def writing (r : Rules) (e : Expr) : List Glyph :=
  (layout r e).flatMap Item.glyphs

def tokens (r : Rules) (e : Expr) : List Token :=
  (layout r e).flatMap Item.tokens

def tokensFrom (r : Rules) (x : Notation) (i : Nat) (hs : List Hole) (es : List Expr) : List Token :=
  (layoutFrom r x i hs es).flatMap Item.tokens

theorem flatMap_glyphs_textItems (t : List Char) : (textItems t).flatMap Item.glyphs = glyphs t := by
  cases t <;> simp [textItems, Item.glyphs, glyphs]

theorem flatMap_tokens_textItems (t : List Char) :
    (textItems t).flatMap Item.tokens = (wordsOf t).map .word := by
  cases t with
  | nil => rfl
  | cons c t => simp [textItems, Item.tokens]

def groupedTokens (b : Bool) (ts : List Token) : List Token :=
  if b then .word openParen :: ts ++ [.word closeParen] else ts

theorem wordsOf_paren : wordsOf ['('] = [openParen] ∧ wordsOf [')'] = [closeParen] := by
  decide

theorem flatMap_tokens_groupedItems (b : Bool) (items : List Item) :
    (groupedItems b items).flatMap Item.tokens = groupedTokens b (items.flatMap Item.tokens) := by
  cases b with
  | false => rfl
  | true =>
    simp [groupedItems, groupedTokens, Item.tokens, wordsOf_paren]

variable {r : Rules}

theorem tokens_of_leaf {e : Expr} (h : e.isLeaf) : tokens r e = [.atom e] := by
  rw [tokens, layout_of_leaf r h]
  rfl

theorem tokens_operation {op : Operator} {x : Notation} (h : notation? r op = some x) (args : List Expr) :
    tokens r (.operation op args) = (wordsOf x.lead).map .word ++ tokensFrom r x 0 x.holes args := by
  rw [tokens, layout_operation r h, List.flatMap_append, flatMap_tokens_textItems, tokensFrom]

theorem tokensFrom_cons (x : Notation) (i : Nat) (h : Hole) (hs : List Hole) (e : Expr) (es : List Expr) :
    tokensFrom r x i (h :: hs) (e :: es) =
      groupedTokens (x.groups r i h e) (tokens r e) ++
        ((wordsOf h.after).map .word ++ tokensFrom r x (i + 1) hs es) := by
  rw [tokensFrom, layoutFrom, List.flatMap_append, List.flatMap_append, flatMap_tokens_groupedItems,
    flatMap_tokens_textItems, tokens, tokensFrom]

def Lexes (gs : List Glyph) (ts : List Token) : Prop :=
  ∀ k : List Glyph, k.head?.all Glyph.breaks → lex (gs ++ k) = ts ++ lex k

namespace Lexes

theorem atom (e : Expr) : Lexes [.atom e] [.atom e] :=
  fun _ _ => rfl

theorem append {gs gs' : List Glyph} {ts ts' : List Token} (h : Lexes gs ts) (h' : Lexes gs' ts')
    (hb : ∀ k : List Glyph, k.head?.all Glyph.breaks → (gs' ++ k).head?.all Glyph.breaks) :
    Lexes (gs ++ gs') (ts ++ ts') := by
  intro k hk
  rw [List.append_assoc, h _ (hb k hk), h' k hk, List.append_assoc]

theorem words {t : List Char} : Lexes (glyphs t) ((wordsOf t).map .word) := by
  intro k hk
  rw [lex_append_of_head _ _ hk, lex_glyphs]

theorem append_of_breaksAfter {t : List Char} (h : breaksAfter t) {gs : List Glyph} {ts : List Token}
    (hgs : Lexes gs ts) : Lexes (glyphs t ++ gs) ((wordsOf t).map .word ++ ts) := by
  intro k hk
  rw [List.append_assoc, lex_append_of_last _ _ h, lex_glyphs, hgs k hk, List.append_assoc]

theorem grouped (b : Bool) {items : List Item} {ts : List Token} (h : Lexes (items.flatMap Item.glyphs) ts) :
    Lexes ((groupedItems b items).flatMap Item.glyphs) (groupedTokens b ts) := by
  cases b with
  | false => exact h
  | true =>
    have hclose : Lexes (glyphs [')']) ((wordsOf [')']).map .word) := words
    have hall := append h hclose fun _ _ => rfl
    have hopen := append_of_breaksAfter (t := ['(']) (by decide) hall
    simpa [groupedItems, groupedTokens, Item.glyphs, wordsOf_paren] using hopen

end Lexes

theorem layoutFrom_lexes (x : Notation) (hs : List Hole) (i : Nat) (es : List Expr) (hcut : cutsHoles hs)
    (hlen : hs.length = es.length) (he : ∀ e ∈ es, Lexes (writing r e) (tokens r e)) :
    Lexes ((layoutFrom r x i hs es).flatMap Item.glyphs) (tokensFrom r x i hs es) := by
  induction hs generalizing i es with
  | nil =>
    obtain rfl : es = [] := List.eq_nil_of_length_eq_zero hlen.symm
    exact fun _ _ => rfl
  | cons h hs ih =>
    cases es with
    | nil => simp at hlen
    | cons e es =>
      have hfirst := Lexes.grouped (x.groups r i h e) (he e (by simp))
      rw [tokensFrom_cons, layoutFrom, List.flatMap_append, List.flatMap_append, flatMap_glyphs_textItems]
      cases hs with
      | nil =>
        obtain rfl : es = [] := List.eq_nil_of_length_eq_zero (by simpa using hlen.symm)
        have hnil : layoutFrom r x (i + 1) [] [] = [] := rfl
        rw [tokensFrom, hnil, List.flatMap_nil, List.flatMap_nil, List.append_nil, List.append_nil]
        refine hfirst.append Lexes.words fun k hk => ?_
        cases ht : h.after with
        | nil => exact hk
        | cons a t =>
          rw [cutsHoles, ht] at hcut
          exact hcut
      | cons h' hs =>
        simp only [cutsHoles, Bool.and_eq_true] at hcut
        obtain ⟨⟨⟨hne, hbefore⟩, hafter⟩, hcut⟩ := hcut
        have hrest := ih (i + 1) es hcut (by simpa using hlen) fun f hf => he f (by simp [hf])
        refine hfirst.append (Lexes.append_of_breaksAfter hafter hrest) fun k hk => ?_
        cases ht : h.after with
        | nil => simp [ht] at hne
        | cons a t =>
          rw [ht] at hbefore
          exact hbefore

theorem Plain.lexes {c : Context} (hr : Readable c.rules) {e : Expr} (h : Plain c e) :
    Lexes (writing c.rules e) (tokens c.rules e) := by
  induction h with
  | atom h =>
    rw [writing, layout_of_leaf _ h.leaf, tokens_of_leaf h.leaf]
    exact Lexes.atom _
  | @operation op args hop hlen hargs ih =>
    obtain ⟨x, hx, hholes⟩ := hr.written op hop
    have hmem : x ∈ table c.rules := List.mem_filterMap.mpr ⟨op, hop, hx⟩
    rw [writing, layout_operation _ hx, tokens_operation hx, List.flatMap_append, flatMap_glyphs_textItems]
    exact Lexes.append_of_breaksAfter (hr.cutLead x hmem)
      (layoutFrom_lexes x x.holes 0 args (hr.cutHoles x hmem) (hholes.trans hlen.symm) ih)

theorem Plain.lex_writing {c : Context} (hr : Readable c.rules) {e : Expr} (h : Plain c e) :
    lex (writing c.rules e) = tokens c.rules e := by
  have hlex := h.lexes hr [] rfl
  rw [List.append_nil] at hlex
  rw [hlex]
  exact List.append_nil _

end QueryText.Reading
