import QueryText.Proofs.Patterns.Parsing

namespace QueryText

def spacedChar (c : Char) : Char :=
  if c == '\n' then ' ' else c

def spaced (s : String) : String :=
  String.ofList (s.toList.map spacedChar)

namespace Pattern

open Text.Blank

theorem spacedChar_cases (c : Char) : c = '\n' ∧ spacedChar c = ' ' ∨ spacedChar c = c := by
  unfold spacedChar
  split
  · next h => exact .inl ⟨by simpa using h, rfl⟩
  · exact .inr rfl

theorem spacedChar_eq_iff {c d : Char} (hd : d ≠ ' ') (hd' : d ≠ '\n') : spacedChar c = d ↔ c = d := by
  obtain ⟨rfl, h⟩ | h := spacedChar_cases c
  · rw [h]
    exact ⟨fun he => absurd he.symm hd, fun he => absurd he.symm hd'⟩
  · rw [h]

theorem isBlank_spacedChar (c : Char) : isBlank (spacedChar c) = isBlank c := by
  obtain ⟨rfl, h⟩ | h := spacedChar_cases c
  · rw [h]
    decide
  · rw [h]

theorem ofBody?_spaced (body : List Char) : Slot.ofBody? (body.map spacedChar) = Slot.ofBody? body := by
  by_cases h : '\n' ∈ body
  · have hnone : ∀ {cs : List Char} {c : Char}, c ∈ cs → c ≠ '%' → c.isDigit = false →
        Slot.ofBody? cs = none := by
      intro cs c hc hmark hdigit
      refine Option.eq_none_iff_forall_ne_some.mpr fun s hs => ?_
      obtain h | h := (isBody_of_ofBody? hs).percent_or_isDigit hc
      · exact hmark h
      · rw [hdigit] at h
        cases h
    rw [hnone h (by decide) (by decide), hnone (List.mem_map_of_mem h) (by decide) (by decide)]
  · have hkept : ∀ c ∈ body, spacedChar c = c := by
      intro c hc
      refine if_neg fun he => h ?_
      rwa [← show c = '\n' by simpa using he]
    rw [List.map_congr_left hkept, List.map_id']

def Piece.spaced : Piece → Piece
  | .char c => .char (spacedChar c)
  | .slot s => .slot s

def Element.spaced : Element → Element
  | .text t => .text (t.map spacedChar)
  | .slot s enclosed => .slot s enclosed

theorem literal_spaced (body : List Char) :
    literal (body.map spacedChar) = (literal body).map Piece.spaced := by
  simp [literal, Piece.spaced, show spacedChar openBrace = openBrace from rfl]

theorem scan_spaced (state : Option (List Char)) (cs : List Char) :
    scan (state.map (List.map spacedChar)) (cs.map spacedChar) = (scan state cs).map Piece.spaced := by
  have hopen (c : Char) : (spacedChar c == openBrace) = (c == openBrace) := by
    rw [Bool.eq_iff_iff, beq_iff_eq, beq_iff_eq, spacedChar_eq_iff (by decide) (by decide)]
  have hclose (c : Char) : (spacedChar c == closeBrace) = (c == closeBrace) := by
    rw [Bool.eq_iff_iff, beq_iff_eq, beq_iff_eq, spacedChar_eq_iff (by decide) (by decide)]
  have hbody (body : List Char) : Slot.ofBody? (body.map spacedChar).reverse = Slot.ofBody? body.reverse := by
    rw [← List.map_reverse, ofBody?_spaced]
  have hliteral (body : List Char) :
      literal (body.map spacedChar).reverse = (literal body.reverse).map Piece.spaced := by
    rw [← List.map_reverse, literal_spaced]
  fun_induction scan state cs with
  | case1 => rfl
  | case2 body => simp [scan, hliteral]
  | case3 c cs hc ih => simpa [scan, hopen, hc] using ih
  | case4 c cs hc ih => simpa [scan, hopen, hc, Piece.spaced] using ih
  | case5 body c cs hc ih => simpa [scan, hopen, hc, hliteral] using ih
  | case6 body c cs hc hbrace s hs ih =>
    simpa [scan, hopen, hclose, hc, hbrace, hbody, hs, Piece.spaced] using ih
  | case7 body c cs hc hbrace hs ih =>
    simpa [scan, hopen, hclose, hc, hbrace, hbody, hs, hliteral, Piece.spaced] using ih
  | case8 body c cs hc hbrace ih => simpa [scan, hopen, hclose, hc, hbrace] using ih

theorem gather_spaced (ps : List Piece) :
    gather (ps.map Piece.spaced) = (gather ps).map Element.spaced := by
  induction ps with
  | nil => rfl
  | cons p ps ih =>
    cases p with
    | slot s => simp [gather, Piece.spaced, Element.spaced, ih]
    | char c =>
      simp only [List.map_cons, Piece.spaced, gather, ih]
      cases gather ps with
      | nil => rfl
      | cons e es => cases e <;> rfl

theorem dropWhile_spaced (t : List Char) :
    (t.map spacedChar).dropWhile isBlank = (t.dropWhile isBlank).map spacedChar := by
  rw [List.dropWhile_map]
  congr 2
  exact funext isBlank_spacedChar

theorem first_spaced {c d : Char} (hc : isBlank c = false) (hd : isBlank d = false) (t : List Char) :
    ((t.map spacedChar).dropWhile isBlank).head?.any (fun x => x == c || x == d) =
      (t.dropWhile isBlank).head?.any fun x => x == c || x == d := by
  have hsame {e : Char} (he : isBlank e = false) (x : Char) : (spacedChar x == e) = (x == e) := by
    have hblank : e ≠ ' ' := by
      rintro rfl
      cases he
    have hbreak : e ≠ '\n' := by
      rintro rfl
      cases he
    rw [Bool.eq_iff_iff, beq_iff_eq, beq_iff_eq, spacedChar_eq_iff hblank hbreak]
  rw [dropWhile_spaced]
  cases t.dropWhile isBlank with
  | nil => rfl
  | cons x xs => simp [hsame hc, hsame hd]

theorem opensArgument_eq (t : List Char) :
    opensArgument t = (t.reverse.dropWhile isBlank).head?.any fun x => x == '(' || x == ',' := by
  unfold opensArgument
  cases t.reverse.dropWhile isBlank with
  | nil => rfl
  | cons x xs => split <;> simp_all

theorem closesArgument_eq (t : List Char) :
    closesArgument t = (t.dropWhile isBlank).head?.any fun x => x == ')' || x == ',' := by
  unfold closesArgument
  cases t.dropWhile isBlank with
  | nil => rfl
  | cons x xs => split <;> simp_all

theorem opensArgument_spaced (t : List Char) : opensArgument (t.map spacedChar) = opensArgument t := by
  rw [opensArgument_eq, opensArgument_eq, ← List.map_reverse, first_spaced (by decide) (by decide)]

theorem closesArgument_spaced (t : List Char) : closesArgument (t.map spacedChar) = closesArgument t := by
  rw [closesArgument_eq, closesArgument_eq, first_spaced (by decide) (by decide)]

theorem markEnclosed_spaced (opened : Bool) (es : List Element) :
    markEnclosed opened (es.map Element.spaced) = (markEnclosed opened es).map Element.spaced := by
  fun_induction markEnclosed opened es with
  | case1 => rfl
  | case2 opened t es ih => simp [markEnclosed, Element.spaced, opensArgument_spaced, ih]
  | case3 opened s b t es ih =>
    simpa [markEnclosed, Element.spaced, opensArgument_spaced, closesArgument_spaced] using ih
  | case4 opened s b es hes ih =>
    cases es with
    | nil => rfl
    | cons e es =>
      cases e with
      | text t => exact absurd rfl (hes t es)
      | slot s' b' => simpa [markEnclosed, Element.spaced] using ih

theorem elements_singleLine (p : Pattern) : p.singleLine.elements = p.elements.map Element.spaced := by
  have hscan := scan_spaced none p.source.toList
  rw [Option.map_none] at hscan
  change parse (String.ofList (p.source.toList.map spacedChar)).toList = _
  rw [String.toList_ofList, parse, hscan, gather_spaced, markEnclosed_spaced]
  rfl

end Pattern

end QueryText
