import QueryText.Proofs.Columns.Naming

namespace QueryText

namespace Comments

/-- The quote that is still open behind the text, when `mark?` was open before it. -/
def openMark? (marks : List Char) (mark? : Option Char) : List Char → Option Char
  | [] => mark?
  | c :: cs =>
    match mark? with
    | some q => openMark? marks (if c = q then none else some q) cs
    | none => openMark? marks (if c ∈ marks then some c else none) cs

/-- Two dashes stand in a row where no quote is open. -/
def HasComment (marks : List Char) (text : String) : Prop :=
  ∃ before after, text.toList = before ++ '-' :: '-' :: after ∧ openMark? marks none before = none

/-- Where a reader stands: outside quotes, behind a dash or not, or behind an open quote. -/
inductive Place where
  | outside (dash : Bool)
  | quoted (mark : Char)
  deriving DecidableEq

def Place.mark? : Place → Option Char
  | outside _ => none
  | quoted q => some q

def step (marks : List Char) : Place → Char → Option Place
  | .outside dash, c =>
    if c = '-' then if dash then none else some (.outside true)
    else some (if c ∈ marks then .quoted c else .outside false)
  | .quoted q, c => some (if c = q then .outside false else .quoted q)

def read (marks : List Char) : Place → List Char → Option Place
  | p, [] => some p
  | p, c :: cs => (step marks p c).bind fun p => read marks p cs

variable {marks : List Char}

theorem step_eq_none_iff {p : Place} {c : Char} : step marks p c = none ↔ p = .outside true ∧ c = '-' := by
  cases p with
  | outside dash => cases dash <;> by_cases hc : c = '-' <;> simp [step, hc]
  | quoted q => simp [step]

theorem step_dash_iff {p p' : Place} {c : Char} (h : step marks p c = some p') :
    p' = .outside true ↔ c = '-' ∧ p.mark? = none := by
  cases p with
  | outside dash =>
    simp only [step] at h
    split at h
    · next hc =>
      cases dash with
      | true => cases h
      | false => simp [← Option.some.inj h, hc, Place.mark?]
    · next hc =>
      rw [← Option.some.inj h]
      split <;> simp [hc]
  | quoted q =>
    rw [← Option.some.inj h]
    split <;> simp [Place.mark?]

theorem read_append (p : Place) (xs ys : List Char) :
    read marks p (xs ++ ys) = (read marks p xs).bind fun p => read marks p ys := by
  induction xs generalizing p with
  | nil => rfl
  | cons c cs ih =>
    simp only [List.cons_append, read]
    cases step marks p c with
    | none => rfl
    | some p => exact ih p

theorem openMark?_cons {p p' : Place} {c : Char} (hm : '-' ∉ marks) (h : step marks p c = some p')
    (cs : List Char) : openMark? marks p.mark? (c :: cs) = openMark? marks p'.mark? cs := by
  cases p with
  | outside dash =>
    simp only [step] at h
    split at h
    · next hc =>
      subst hc
      cases dash with
      | true => cases h
      | false =>
        obtain rfl := Option.some.inj h
        simp [Place.mark?, openMark?, hm]
    · obtain rfl := Option.some.inj h
      split <;> simp [Place.mark?, openMark?, *]
  | quoted q =>
    obtain rfl := Option.some.inj h
    split <;> simp [Place.mark?, openMark?, *]

theorem read_eq_none_iff_from (hm : '-' ∉ marks) (p : Place) (cs : List Char) :
    read marks p cs = none ↔ p = .outside true ∧ cs.head? = some '-' ∨
      ∃ before after, cs = before ++ '-' :: '-' :: after ∧ openMark? marks p.mark? before = none := by
  -- The first dash of the two may stand in front of the text, so the induction is over the place as well.
  induction cs generalizing p with
  | nil => simp [read]
  | cons c cs ih =>
    cases hs : step marks p c with
    | none =>
      obtain ⟨rfl, rfl⟩ := step_eq_none_iff.mp hs
      simp [read, hs]
    | some p' =>
      have hgo : ¬ (p = .outside true ∧ c = '-') := fun h => by simp [step_eq_none_iff.mpr h] at hs
      rw [read, hs, Option.bind_some, ih p', step_dash_iff hs]
      simp only [List.head?_cons, Option.some.injEq, hgo, false_or]
      constructor
      · rintro (⟨⟨rfl, hp⟩, hhead⟩ | ⟨before, after, rfl, hopen⟩)
        · obtain ⟨ds, rfl⟩ := List.head?_eq_some_iff.mp hhead
          exact ⟨[], ds, rfl, hp⟩
        · exact ⟨c :: before, after, rfl, (openMark?_cons hm hs before).trans hopen⟩
      · rintro ⟨before, after, heq, hopen⟩
        cases before with
        | nil =>
          obtain ⟨rfl, rfl⟩ := List.cons.inj heq
          exact .inl ⟨⟨rfl, hopen⟩, rfl⟩
        | cons d before =>
          obtain ⟨rfl, rfl⟩ := List.cons.inj heq
          exact .inr ⟨before, after, rfl, (openMark?_cons hm hs before).symm.trans hopen⟩

theorem read_eq_none_iff (hm : '-' ∉ marks) (text : String) :
    read marks (.outside false) text.toList = none ↔ HasComment marks text := by
  rw [read_eq_none_iff_from hm]
  simp [HasComment, Place.mark?]

theorem read_behind_dash {cs : List Char} (hne : cs ≠ []) :
    read marks (.outside true) cs =
      if cs.head? = some '-' then none else read marks (.outside false) cs := by
  obtain ⟨c, cs, rfl⟩ := List.exists_cons_of_ne_nil hne
  by_cases hc : c = '-' <;> simp [read, step, hc]

theorem read_plain {cs : List Char} (h : ∀ c ∈ cs, c ≠ '-' ∧ c ∉ marks) :
    read marks (.outside false) cs = some (.outside false) := by
  induction cs with
  | nil => rfl
  | cons c cs ih =>
    obtain ⟨hc, hcs⟩ := List.forall_mem_cons.mp h
    simpa [read, step, hc] using ih hcs

theorem read_quoted {q : Char} {cs : List Char} (h : q ∉ cs) :
    read marks (.quoted q) cs = some (.quoted q) := by
  induction cs with
  | nil => rfl
  | cons c cs ih =>
    have hc : c ≠ q := fun he => h (by simp [he])
    simpa [read, step, hc] using ih fun hq => h (List.mem_cons_of_mem c hq)

theorem read_doubled {q : Char} (hq : q ∈ marks) (hdash : q ≠ '-') (cs : List Char) :
    read marks (.quoted q) (Text.Quoted.doubled q cs) = some (.quoted q) := by
  induction cs with
  | nil => rfl
  | cons c cs ih =>
    by_cases hc : c = q <;> simp [Text.Quoted.doubled, read, step, hc, hq, hdash, ih]

theorem read_quote {q : Char} (hq : q ∈ marks) (hdash : q ≠ '-') (s : String) :
    read marks (.outside false) (Text.Quoted.quote q s).toList = some (.outside false) := by
  rw [Text.Quoted.quote, String.toList_ofList, List.cons_append, read]
  simp only [step, hdash, ↓reduceIte, hq, Option.bind_some, read_append, read_doubled hq hdash]
  simp [read, step]

end Comments

end QueryText
