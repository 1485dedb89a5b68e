import QueryText.Expr.Basic

namespace QueryText.Reading

/-- A character of the text around atoms, or an atom. -/
inductive Glyph where
  | char (c : Char)
  | atom (e : Expr)

abbrev Word := List Char

inductive Token where
  | word (w : Word)
  | atom (e : Expr)

/-- Characters of one class make one word when they stand side by side. -/
inductive CharClass where
  | blank
  /-- a word of its own -/
  | single
  | letter
  | symbol
  deriving DecidableEq

def classOf (c : Char) : CharClass :=
  if Text.Blank.isBlank c then .blank
  else if c ∈ ['(', ')', ',', '-'] then .single
  else if c.isAlphanum || c == '_' || c == '.' then .letter
  else .symbol

def flush : Word → List Token
  | [] => []
  | c :: w => [.word (c :: w)]

def continues (w : Word) (c : Char) : Bool :=
  match w with
  | [] => true
  | d :: _ => classOf d = classOf c

/-- Tokens, where `w` is the word that has been begun. -/
def lexFrom (w : Word) : List Glyph → List Token
  | [] => flush w
  | .atom e :: gs => flush w ++ .atom e :: lexFrom [] gs
  | .char c :: gs =>
    match classOf c with
    | .blank => flush w ++ lexFrom [] gs
    | .single => flush w ++ .word [c] :: lexFrom [] gs
    | _ => if continues w c then lexFrom (w ++ [c]) gs else flush w ++ lexFrom [c] gs

def lex (gs : List Glyph) : List Token :=
  lexFrom [] gs

def Glyph.breaks : Glyph → Bool
  | char c => classOf c = .blank || classOf c = .single
  | atom _ => true

theorem lexFrom_of_head (w : Word) (gs : List Glyph) (h : gs.head?.all Glyph.breaks) :
    lexFrom w gs = flush w ++ lex gs := by
  cases gs with
  | nil => simp [lexFrom, lex, flush]
  | cons g gs =>
    cases g with
    | atom e => rfl
    | char c =>
      have hc : classOf c = .blank ∨ classOf c = .single := by simpa [Glyph.breaks] using h
      obtain hc | hc := hc
      · simp [lexFrom, lex, flush, hc]
      · simp [lexFrom, lex, flush, hc]

theorem lexFrom_append_of_head (w : Word) (xs ys : List Glyph) (h : ys.head?.all Glyph.breaks) :
    lexFrom w (xs ++ ys) = lexFrom w xs ++ lex ys := by
  induction xs generalizing w with
  | nil => exact lexFrom_of_head w ys h
  | cons g gs ih =>
    cases g with
    | atom e => simp [lexFrom, ih]
    | char c =>
      simp only [List.cons_append, lexFrom]
      cases classOf c with
      | blank | single => simp [ih]
      | letter | symbol =>
        simp only
        split <;> simp [ih]

theorem lex_append_of_head (xs ys : List Glyph) (h : ys.head?.all Glyph.breaks) :
    lex (xs ++ ys) = lex xs ++ lex ys :=
  lexFrom_append_of_head [] xs ys h

theorem lex_cons_of_breaks (g : Glyph) (gs : List Glyph) (h : g.breaks) :
    lex (g :: gs) = lex [g] ++ lex gs := by
  cases g with
  | atom e => rfl
  | char c =>
    have hc : classOf c = .blank ∨ classOf c = .single := by simpa [Glyph.breaks] using h
    obtain hc | hc := hc
    · simp [lex, lexFrom, flush, hc]
    · simp [lex, lexFrom, flush, hc]

theorem lex_append_of_last (xs ys : List Glyph) (h : xs.getLast?.all Glyph.breaks) :
    lex (xs ++ ys) = lex xs ++ lex ys := by
  obtain rfl | ⟨gs, g, rfl⟩ := xs.eq_nil_or_concat
  · rfl
  · have hg : g.breaks := by simpa using h
    have hhead : ∀ zs : List Glyph, (g :: zs).head?.all Glyph.breaks := fun _ => by simpa using hg
    rw [List.concat_eq_append, List.append_assoc, List.singleton_append,
      lex_append_of_head gs (g :: ys) (hhead ys),
      lex_append_of_head gs [g] (hhead []), lex_cons_of_breaks g ys hg, List.append_assoc]

def Token.word? : Token → Option Word
  | word w => some w
  | atom _ => none

def glyphs (t : List Char) : List Glyph :=
  t.map .char

def wordsOf (t : List Char) : List Word :=
  (lex (glyphs t)).filterMap Token.word?

theorem map_word_filterMap_flush (w : Word) : ((flush w).filterMap Token.word?).map Token.word = flush w := by
  cases w <;> rfl

theorem map_word_lexFrom (w : Word) (t : List Char) :
    ((lexFrom w (glyphs t)).filterMap Token.word?).map Token.word = lexFrom w (glyphs t) := by
  induction t generalizing w with
  | nil => exact map_word_filterMap_flush w
  | cons c t ih =>
    have hf := map_word_filterMap_flush w
    have hn := ih []
    simp only [glyphs, List.map_cons, lexFrom] at hn ⊢
    cases classOf c with
    | blank => rw [List.filterMap_append, List.map_append, hf, hn]
    | single =>
      rw [List.filterMap_append, List.map_append, hf, List.filterMap_cons]
      simp only [Token.word?, List.map_cons, hn]
    | letter | symbol =>
      simp only
      split
      · exact ih (w ++ [c])
      · rw [List.filterMap_append, List.map_append, hf]
        exact congrArg (flush w ++ ·) (ih [c])

theorem lex_glyphs (t : List Char) : lex (glyphs t) = (wordsOf t).map .word :=
  (map_word_lexFrom [] t).symm

example : wordsOf "count(distinct ".toList = ["count".toList, "(".toList, "distinct".toList] := by
  decide

end QueryText.Reading
