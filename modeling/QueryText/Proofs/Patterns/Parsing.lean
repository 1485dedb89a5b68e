import Mathlib.Data.List.Chain
import QueryText.Pattern
import QueryText.Proofs.Digits

namespace QueryText.Pattern

def mark : Bool → List Char
  | true => ['%']
  | false => []

structure Slot.IsBody (s : Slot) (body : List Char) : Prop where
  fits : s.index < indexBound
  spelled : ∃ leading trailing digits, Decimal.Digits.Spells digits s.index ∧
    s.affix = .ofMarks leading trailing ∧ body = mark leading ++ digits ++ mark trailing

/-- Ways to write a slot: its number may have zeros in front. -/
def Slot.Spelled (s : Slot) (cs : List Char) : Prop :=
  ∃ body, s.IsBody body ∧ cs = openBrace :: body ++ [closeBrace]

def Slotless (cs : List Char) : Prop :=
  ∀ s slot, Slot.Spelled s slot → ¬slot <:+: cs

namespace Element

/-- A text stands for itself, a slot for each way to write it. -/
def Spelled : Element → List Char → Prop
  | text t, cs => cs = t
  | slot s _, cs => s.Spelled cs

/-- The element without what is known of its surroundings. -/
def unmarked : Element → Element
  | text t => text t
  | slot s _ => slot s false

def Apart : Element → Element → Prop
  | text _, text _ => False
  | _, _ => True

end Element

/-- The elements, written one after the other. -/
inductive Spelling : List Element → List Char → Prop
  | nil : Spelling [] []
  | cons {e : Element} {t : List Char} {es : List Element} {cs : List Char} (he : e.Spelled t)
      (hes : Spelling es cs) : Spelling (e :: es) (t ++ cs)

/-- No text is empty, no two texts are in a row, and no text has a slot in it. -/
structure Normal (es : List Element) : Prop where
  ne_nil : ∀ t, Element.text t ∈ es → t ≠ []
  apart : es.IsChain Element.Apart
  slotless : ∀ t, Element.text t ∈ es → Slotless t

section Slots

variable {s : Slot} {body cs : List Char}

theorem isBody_of_ofBody? (h : Slot.ofBody? body = some s) : s.IsBody body := by
  have hfront : ∀ cs : List Char, mark (splitMark cs).1 ++ (splitMark cs).2 = cs := by
    intro cs
    unfold splitMark
    split <;> rfl
  unfold Slot.ofBody? at h
  simp only [Option.ite_none_right_eq_some, Bool.and_eq_true, Bool.not_eq_true',
    List.isEmpty_eq_false_iff, List.all_eq_true, decide_eq_true_eq, Option.some.injEq] at h
  obtain ⟨⟨⟨hne, hdigits⟩, hfits⟩, rfl⟩ := h
  refine ⟨hfits, _, _, _, ⟨hne, hdigits, rfl⟩, rfl, ?_⟩
  have hrest := hfront (splitMark body).2.reverse
  have hback := congrArg List.reverse hrest
  have hmark : ∀ b, (mark b).reverse = mark b := by decide
  rw [List.reverse_append, List.reverse_reverse, hmark] at hback
  rw [List.append_assoc, hback, hfront]

theorem splitMark_of_ne (h : ∀ c ∈ cs.head?, c ≠ '%') : splitMark cs = (false, cs) := by
  unfold splitMark
  split
  · next cs => exact absurd rfl (h '%' rfl)
  · rfl

theorem splitMark_mark_append {b : Bool} (h : ∀ c ∈ cs.head?, c ≠ '%') :
    splitMark (mark b ++ cs) = (b, cs) := by
  cases b with
  | true => rfl
  | false => exact splitMark_of_ne h

theorem ne_percent_of_isDigit {c : Char} (h : c.isDigit = true) : c ≠ '%' := by
  rintro rfl
  cases h

theorem Slot.IsBody.ofBody? (h : s.IsBody body) : Slot.ofBody? body = some s := by
  obtain ⟨hfits, leading, trailing, digits, hd, haffix, rfl⟩ := h
  have hfirst : ∀ c ∈ (digits ++ mark trailing).head?, c ≠ '%' := by
    obtain ⟨d, ds, rfl⟩ := List.exists_cons_of_ne_nil hd.ne_nil
    intro c hc
    obtain rfl : d = c := Option.some.inj hc
    exact ne_percent_of_isDigit (hd.digits d List.mem_cons_self)
  have hlast : ∀ c ∈ digits.reverse.head?, c ≠ '%' := fun c hc =>
    ne_percent_of_isDigit (hd.digits c (List.mem_reverse.mp (List.mem_of_mem_head? hc)))
  have hmark : (mark trailing).reverse = mark trailing := by
    cases trailing <;> rfl
  have hreverse : splitMark (digits ++ mark trailing).reverse = (trailing, digits.reverse) := by
    rw [List.reverse_append, hmark, splitMark_mark_append hlast]
  have hall : digits.all Char.isDigit = true := List.all_eq_true.mpr hd.digits
  obtain ⟨index, affix⟩ := s
  obtain rfl : affix = .ofMarks leading trailing := haffix
  have hnumber : Decimal.Digits.number digits = index := hd.number_eq
  have hlt : index < indexBound := hfits
  simp only [Slot.ofBody?, List.append_assoc, splitMark_mark_append hfirst, hreverse,
    List.reverse_reverse, hall, hnumber]
  simp [hd.ne_nil, hlt]

theorem Slot.IsBody.percent_or_isDigit (h : s.IsBody body) {c : Char} (hc : c ∈ body) :
    c = '%' ∨ c.isDigit = true := by
  obtain ⟨-, leading, trailing, digits, hd, -, rfl⟩ := h
  have hmark : ∀ b, c ∈ mark b → c = '%' := by
    intro b hb
    cases b with
    | true => exact List.mem_singleton.mp hb
    | false => cases hb
  simp only [List.mem_append] at hc
  obtain (hc | hc) | hc := hc
  · exact .inl (hmark _ hc)
  · exact .inr (hd.digits c hc)
  · exact .inl (hmark _ hc)

theorem Slot.IsBody.ne_brace (h : s.IsBody body) {c : Char} (hc : c ∈ body) :
    c ≠ openBrace ∧ c ≠ closeBrace := by
  obtain rfl | hdigit := h.percent_or_isDigit hc
  · decide
  · constructor <;> rintro rfl <;> revert hdigit <;> decide

theorem Slot.Spelled.ne_nil (h : s.Spelled cs) : cs ≠ [] := by
  obtain ⟨body, -, rfl⟩ := h
  simp

end Slots

section Scanning

variable {s : Slot} {state : Option (List Char)} {body pre slot post rest cs : List Char}

theorem scan_append_openBrace (state : Option (List Char)) (pre rest : List Char) :
    scan state (pre ++ openBrace :: rest) = scan state pre ++ scan (some []) rest := by
  fun_induction scan state pre with
  | case1 => rfl
  | case2 body => simp [scan]
  | case3 c cs hc ih => simp [scan, hc, ih]
  | case4 c cs hc ih => simp [scan, hc, ih]
  | case5 body c cs hc ih => simp [scan, hc, ih]
  | case6 body c cs hc hclose s hs ih => simp [scan, hc, hclose, hs, ih]
  | case7 body c cs hc hclose hs ih => simp [scan, hc, hclose, hs, ih]
  | case8 body c cs hc hclose ih => simp [scan, hc, hclose, ih]

theorem scan_body (front : List Char) (hbody : ∀ c ∈ body, c ≠ openBrace ∧ c ≠ closeBrace)
    (hs : Slot.ofBody? (front.reverse ++ body) = some s) :
    scan (some front) (body ++ closeBrace :: rest) = .slot s :: scan none rest := by
  induction body generalizing front with
  | nil =>
    rw [List.append_nil] at hs
    simp [scan, hs, show closeBrace ≠ openBrace by decide]
  | cons c body ih =>
    obtain ⟨hopen, hclose⟩ := hbody c List.mem_cons_self
    have htail := ih (c :: front) (fun d hd => hbody d (List.mem_cons_of_mem c hd)) (by simpa using hs)
    simpa [scan, hopen, hclose] using htail

theorem scan_slot (h : s.Spelled slot) (pre post : List Char) :
    scan none (pre ++ slot ++ post) = scan none pre ++ .slot s :: scan none post := by
  obtain ⟨body, hbody, rfl⟩ := h
  have hs : scan (some []) (body ++ closeBrace :: post) = .slot s :: scan none post :=
    scan_body [] (fun c => hbody.ne_brace) hbody.ofBody?
  have hsource : pre ++ (openBrace :: body ++ [closeBrace]) ++ post =
      pre ++ openBrace :: (body ++ closeBrace :: post) := by
    simp
  rw [hsource, scan_append_openBrace, hs]

def held : Option (List Char) → List Char
  | none => []
  | some body => openBrace :: body.reverse

theorem Slotless.of_isInfix (h : Slotless cs) (hi : body <:+: cs) : Slotless body :=
  fun s slot hs hslot => h s slot hs (hslot.trans hi)

theorem scan_held (h : Slotless (held state ++ cs)) :
    scan state cs = (held state ++ cs).map .char := by
  fun_induction scan state cs with
  | case1 => rfl
  | case2 body => simp [held, literal]
  | case3 c cs hc ih =>
    obtain rfl : c = openBrace := by simpa using hc
    exact ih h
  | case4 c cs hc ih =>
    rw [ih (h.of_isInfix (List.suffix_cons c cs).isInfix)]
    rfl
  | case5 body c cs hc ih =>
    obtain rfl : c = openBrace := by simpa using hc
    rw [ih (h.of_isInfix (List.suffix_append _ _).isInfix)]
    simp [held, literal]
  | case6 body c cs hc hclose s hs ih =>
    obtain rfl : c = closeBrace := by simpa using hclose
    have hslot : s.Spelled (openBrace :: body.reverse ++ [closeBrace]) := ⟨_, isBody_of_ofBody? hs, rfl⟩
    refine absurd ?_ (h s _ hslot)
    exact (List.prefix_append (openBrace :: body.reverse ++ [closeBrace]) cs).isInfix.trans (by simp [held])
  | case7 body c cs hc hclose hs ih =>
    have htail : Slotless (held none ++ cs) :=
      h.of_isInfix ((List.suffix_cons c cs).trans (List.suffix_append _ _)).isInfix
    rw [ih htail]
    simp [held, literal]
  | case8 body c cs hc hclose ih =>
    have hsame : held (some (c :: body)) ++ cs = held (some body) ++ c :: cs := by
      simp [held]
    rw [ih (hsame ▸ h), hsame]

theorem scan_slotless (h : Slotless cs) : scan none cs = cs.map .char :=
  scan_held h

end Scanning

section Gathering

variable {s : Slot} {t : List Char} {ps qs : List Piece}

theorem gather_append_slot (ps qs : List Piece) :
    gather (ps ++ .slot s :: qs) = gather ps ++ .slot s false :: gather qs := by
  induction ps with
  | nil => rfl
  | cons p ps ih =>
    cases p with
    | slot s => simp [gather, ih]
    | char c =>
      simp only [List.cons_append, gather, ih]
      cases hps : gather ps with
      | nil => rfl
      | cons e es => cases e <;> rfl

theorem gather_chars (ht : t ≠ []) : gather (t.map .char) = [.text t] := by
  induction t with
  | nil => exact absurd rfl ht
  | cons c t ih =>
    cases t with
    | nil => rfl
    | cons d t =>
      rw [List.map_cons, gather, ih (List.cons_ne_nil d t)]

end Gathering

section Marking

variable {es : List Element} {cs : List Char}

@[simp] theorem unmarked_unmarked (e : Element) : e.unmarked.unmarked = e.unmarked := by
  cases e <;> rfl

theorem apart_unmarked (d e : Element) : d.unmarked.Apart e.unmarked ↔ d.Apart e := by
  cases d <;> cases e <;> rfl

theorem spelled_unmarked (e : Element) : e.unmarked.Spelled = e.Spelled := by
  cases e <;> rfl

theorem markEnclosed_unmarked (opened : Bool) (es : List Element) :
    (markEnclosed opened es).map Element.unmarked = es.map Element.unmarked := by
  fun_induction markEnclosed opened es with
  | case1 => rfl
  | case2 opened t es ih => simp [ih]
  | case3 opened s b t es ih => simpa [Element.unmarked] using ih
  | case4 opened s b es hes ih => simp [ih, Element.unmarked]

theorem spelling_unmarked : Spelling (es.map Element.unmarked) cs ↔ Spelling es cs := by
  induction es generalizing cs with
  | nil => rfl
  | cons e es ih =>
    constructor
    · rintro (_ | ⟨he, hes⟩)
      exact .cons (spelled_unmarked e ▸ he) (ih.mp hes)
    · rintro (_ | ⟨he, hes⟩)
      exact .cons (spelled_unmarked e ▸ he) (ih.mpr hes)

theorem text_mem_unmarked {t : List Char} :
    Element.text t ∈ es.map Element.unmarked ↔ Element.text t ∈ es := by
  constructor
  · intro h
    obtain ⟨e, he, hu⟩ := List.mem_map.mp h
    cases e with
    | text t' => exact hu ▸ he
    | slot s b => cases hu
  · intro h
    exact List.mem_map.mpr ⟨.text t, h, rfl⟩

theorem normal_unmarked : Normal (es.map Element.unmarked) ↔ Normal es := by
  have hapart : (es.map Element.unmarked).IsChain Element.Apart ↔ es.IsChain Element.Apart := by
    simp only [List.isChain_map, apart_unmarked]
  constructor
  · intro h
    exact ⟨fun t ht => h.ne_nil t (text_mem_unmarked.mpr ht), hapart.mp h.apart,
      fun t ht => h.slotless t (text_mem_unmarked.mpr ht)⟩
  · intro h
    exact ⟨fun t ht => h.ne_nil t (text_mem_unmarked.mp ht), hapart.mpr h.apart,
      fun t ht => h.slotless t (text_mem_unmarked.mp ht)⟩

end Marking

section Reading

variable {s : Slot} {es fs : List Element} {cs ds slot : List Char} {p : Pattern}

theorem Spelling.append (hes : Spelling es cs) (hfs : Spelling fs ds) : Spelling (es ++ fs) (cs ++ ds) := by
  induction hes with
  | nil => exact hfs
  | cons he _ ih =>
    rw [List.append_assoc]
    exact .cons he ih

theorem Normal.tail {e : Element} (h : Normal (e :: es)) : Normal es where
  ne_nil t ht := h.ne_nil t (List.mem_cons_of_mem e ht)
  apart := h.apart.tail
  slotless t ht := h.slotless t (List.mem_cons_of_mem e ht)

theorem Normal.take (h : Normal es) (n : Nat) : Normal (es.take n) where
  ne_nil t ht := h.ne_nil t (List.mem_of_mem_take ht)
  apart := h.apart.take n
  slotless t ht := h.slotless t (List.mem_of_mem_take ht)

theorem Normal.around_slot {b : Bool} (hes : Normal es) (hfs : Normal fs) :
    Normal (es ++ .slot s b :: fs) where
  ne_nil t ht := by
    obtain ht | ht : Element.text t ∈ es ∨ Element.text t ∈ fs := by simpa using ht
    · exact hes.ne_nil t ht
    · exact hfs.ne_nil t ht
  apart := by
    have hslot : ∀ e, Element.Apart (.slot s b) e ∧ Element.Apart e (.slot s b) := by
      intro e
      cases e <;> exact ⟨trivial, trivial⟩
    simp [List.isChain_append, List.isChain_cons, hes.apart, hfs.apart, hslot]
  slotless t ht := by
    obtain ht | ht : Element.text t ∈ es ∨ Element.text t ∈ fs := by simpa using ht
    · exact hes.slotless t ht
    · exact hfs.slotless t ht

theorem gather_scan (cs : List Char) :
    Spelling (gather (scan none cs)) cs ∧ Normal (gather (scan none cs)) := by
  by_cases h : Slotless cs
  · rw [scan_slotless h]
    by_cases hcs : cs = []
    · subst hcs
      exact ⟨.nil, by simp [gather], by simp [gather], by simp [gather]⟩
    · rw [gather_chars hcs]
      have hspelling : Spelling [.text cs] (cs ++ []) := .cons rfl .nil
      rw [List.append_nil] at hspelling
      exact ⟨hspelling, by simp [hcs], by simp, by simpa using h⟩
  · -- around any slot in the source there is less to read
    simp only [Slotless, not_forall, not_not] at h
    obtain ⟨s, slot, hs, pre, post, hcs⟩ := h
    have hshorter : pre.length < cs.length ∧ post.length < cs.length := by
      have hslot := List.length_pos_of_ne_nil hs.ne_nil
      simp only [← hcs, List.length_append]
      omega
    obtain ⟨hpre, hnpre⟩ := gather_scan pre
    obtain ⟨hpost, hnpost⟩ := gather_scan post
    rw [← hcs, scan_slot hs, gather_append_slot, List.append_assoc]
    exact ⟨hpre.append (.cons hs hpost), hnpre.around_slot hnpost⟩
  termination_by cs.length
  decreasing_by
  · exact hshorter.1
  · exact hshorter.2

theorem gather_scan_of_spelling {es : List Element} {cs : List Char} (h : Spelling es cs)
    (hes : Normal es) : gather (scan none cs) = es.map Element.unmarked := by
  match es, cs, h with
  | [], _, .nil => rfl
  | .slot s b :: es, _, @Spelling.cons _ slot _ rest hslot hrest =>
    have ih := gather_scan_of_spelling hrest hes.tail
    have hscan := scan_slot hslot [] rest
    rw [List.nil_append] at hscan
    rw [hscan, scan, List.nil_append, gather, ih]
    rfl
  | [.text t], _, .cons (t := t') ht .nil =>
    obtain rfl : t' = t := ht
    have hmem : Element.text t' ∈ [.text t'] := List.mem_singleton_self _
    rw [List.append_nil, scan_slotless (hes.slotless t' hmem), gather_chars (hes.ne_nil t' hmem)]
    rfl
  | .text t :: .text u :: es, _, _ => exact (List.isChain_cons_cons.mp hes.apart).1.elim
  | .text t :: .slot s b :: es, _, .cons (t := t') ht (@Spelling.cons _ slot _ rest hslot hrest) =>
    obtain rfl : t' = t := ht
    have ih := gather_scan_of_spelling hrest hes.tail.tail
    have hmem : Element.text t' ∈ .text t' :: .slot s b :: es := List.mem_cons_self
    rw [← List.append_assoc, scan_slot hslot, gather_append_slot, ih,
      scan_slotless (hes.slotless t' hmem), gather_chars (hes.ne_nil t' hmem)]
    rfl

theorem elements_unmarked (p : Pattern) :
    p.elements.map Element.unmarked = (gather (scan none p.source.toList)).map Element.unmarked :=
  markEnclosed_unmarked false _

theorem spelling_elements (p : Pattern) : Spelling p.elements p.source.toList :=
  spelling_unmarked.mp (elements_unmarked p ▸ spelling_unmarked.mpr (gather_scan _).1)

theorem normal_elements (p : Pattern) : Normal p.elements :=
  normal_unmarked.mp (elements_unmarked p ▸ normal_unmarked.mpr (gather_scan _).2)

theorem parse_of_spelling (h : Spelling es cs) (hes : Normal es) :
    (parse cs).map Element.unmarked = es.map Element.unmarked := by
  rw [parse, markEnclosed_unmarked, gather_scan_of_spelling h hes]
  simp

/-- The slot that is read where one is spelled: what is before it and what is behind it are spelled by
the elements before it and behind it. -/
structure IsSlotAt (p : Pattern) (s : Slot) (pre post : List Char) (i : Nat) : Prop where
  before : Spelling (p.elements.take i) pre
  slot : ∃ enclosed, p.elements[i]? = some (.slot s enclosed)
  behind : Spelling (p.elements.drop (i + 1)) post

theorem existsUnique_isSlotAt {pre post : List Char} (hs : s.Spelled slot)
    (hp : p.source.toList = pre ++ slot ++ post) : ∃! i, IsSlotAt p s pre post i := by
  have helements : p.elements.map Element.unmarked =
      (gather (scan none pre)).map Element.unmarked ++
        .slot s false :: (gather (scan none post)).map Element.unmarked := by
    rw [elements_unmarked, hp, scan_slot hs, gather_append_slot]
    simp [Element.unmarked]
  obtain ⟨es, fs', helements', hes, hfs'⟩ := List.map_eq_append_iff.mp helements
  obtain ⟨e, fs, rfl, he, hfs⟩ := List.map_eq_cons_iff.mp hfs'
  have hbefore : Spelling es pre := spelling_unmarked.mp (hes ▸ spelling_unmarked.mpr (gather_scan pre).1)
  have hbehind : Spelling fs post := spelling_unmarked.mp (hfs ▸ spelling_unmarked.mpr (gather_scan post).1)
  obtain ⟨b, rfl⟩ : ∃ b, e = .slot s b := by
    cases e with
    | text t => cases he
    | slot s' b =>
      cases he
      exact ⟨b, rfl⟩
  refine ⟨es.length, ⟨?_, ⟨b, ?_⟩, ?_⟩, ?_⟩
  · rwa [helements', List.take_left]
  · rw [helements', List.getElem?_append_right le_rfl, Nat.sub_self, List.getElem?_cons_zero]
  · rwa [helements', List.drop_append, List.drop_eq_nil_of_le (by omega), Nat.add_sub_cancel_left]
  · -- the elements in front are those of the text in front, so that there are as many of them
    intro j hj
    have hfront := congrArg List.length (gather_scan_of_spelling hj.before ((normal_elements p).take j))
    obtain ⟨b', hslot⟩ := hj.slot
    obtain ⟨hlt, -⟩ := List.getElem?_eq_some_iff.mp hslot
    have hlength := congrArg List.length hes
    simp only [List.length_map, List.length_take] at hfront hlength
    omega

end Reading

section Printing

variable {s : Slot} {es : List Element} {cs : List Char}

/-- The number without zeros in front, between its percent signs. -/
def Slot.printed (s : Slot) : List Char :=
  let digits := Nat.toDigits 10 s.index
  let body :=
    match s.affix with
    | .bare => digits
    | .leading => '%' :: digits
    | .trailing => digits ++ ['%']
    | .both => '%' :: digits ++ ['%']
  openBrace :: body ++ [closeBrace]

def printed (es : List Element) : List Char :=
  es.flatMap fun e =>
    match e with
    | .text t => t
    | .slot s _ => s.printed

theorem Slot.spelled_printed (hs : s.index < indexBound) : s.Spelled s.printed := by
  refine ⟨_, ⟨hs, ?_⟩, rfl⟩
  have hd := Decimal.Digits.spells_toDigits s.index
  cases s.affix with
  | bare => exact ⟨false, false, _, hd, rfl, by simp [mark]⟩
  | leading => exact ⟨true, false, _, hd, rfl, by simp [mark]⟩
  | trailing => exact ⟨false, true, _, hd, rfl, by simp [mark]⟩
  | both => exact ⟨true, true, _, hd, rfl, by simp [mark]⟩

theorem spelling_printed (hes : ∀ s b, Element.slot s b ∈ es → s.index < indexBound) :
    Spelling es (printed es) := by
  induction es with
  | nil => exact .nil
  | cons e es ih =>
    have htail := ih fun s b hmem => hes s b (List.mem_cons_of_mem e hmem)
    cases e with
    | text t => exact .cons rfl htail
    | slot s b => exact .cons (Slot.spelled_printed (hes s b List.mem_cons_self)) htail

theorem slotless_of_not_mem (h : openBrace ∉ cs ∨ closeBrace ∉ cs) : Slotless cs := by
  rintro s slot ⟨body, -, rfl⟩ hslot
  have hsub := hslot.subset
  obtain h | h := h
  · exact h (hsub (by simp))
  · exact h (hsub (by simp))

/-- Nothing of a pattern is lost, all of its slots are found, and its elements read the same when they
are written out. -/
theorem parsing_exact :
    (∀ p : Pattern, Spelling p.elements p.source.toList ∧ Normal p.elements ∧
      ∀ s slot pre post, Slot.Spelled s slot → p.source.toList = pre ++ slot ++ post →
        ∃! i, IsSlotAt p s pre post i) ∧
    (∀ es cs, Normal es → Spelling es cs → (parse cs).map Element.unmarked = es.map Element.unmarked) ∧
    ∀ es, Normal es → (∀ s b, Element.slot s b ∈ es → s.index < indexBound) →
      Spelling es (printed es) ∧
        (parse (printed es)).map Element.unmarked = es.map Element.unmarked := by
  refine ⟨fun p => ⟨spelling_elements p, normal_elements p, ?_⟩, ?_, ?_⟩
  · intro s slot pre post hs hp
    exact existsUnique_isSlotAt hs hp
  · intro es cs hes hspelling
    exact parse_of_spelling hspelling hes
  · intro es hes hfits
    have hspelling := spelling_printed hfits
    exact ⟨hspelling, parse_of_spelling hspelling hes⟩

/-- A brace in front of a slot is text, and the zeros of its number are not kept. -/
theorem parsing_exact_behindBrace :
    (∃! i, IsSlotAt ⟨"\x7b\x7b007%\x7d)"⟩ ⟨7, .trailing⟩ ['\x7b'] [')'] i) ∧
      (parse "\x7b\x7b7%\x7d)".toList).map Element.unmarked =
        [.text ['\x7b'], .slot ⟨7, .trailing⟩ false, .text [')']] := by
  have hfits : (7 : Nat) < indexBound := by decide
  constructor
  · refine (parsing_exact.1 _).2.2 ⟨7, .trailing⟩ "\x7b007%\x7d".toList ['\x7b'] [')'] ?_ (by decide)
    exact ⟨"007%".toList, ⟨hfits, false, true, "007".toList, ⟨by decide, by simp, by decide⟩, rfl, by decide⟩,
      by decide⟩
  · have hnormal : Normal [.text ['\x7b'], .slot ⟨7, .trailing⟩ true, .text [')']] := by
      refine ⟨by simp, by simp [Element.Apart], ?_⟩
      intro t ht
      have ht' : t = ['\x7b'] ∨ t = [')'] := by simpa using ht
      obtain rfl | rfl := ht'
      · exact slotless_of_not_mem (.inr (by decide))
      · exact slotless_of_not_mem (.inl (by decide))
    exact (parsing_exact.2.2 _ hnormal (by simp [hfits])).2

end Printing

end QueryText.Pattern
