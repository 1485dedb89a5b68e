import Mathlib.Algebra.Group.Fin.Basic
import Mathlib.Algebra.GroupWithZero.Nat
import QueryText.Proofs.Places.Request
import QueryText.Proofs.Running.Protocol

namespace QueryText

def Binding.value? (params : ParamMap) : Binding → Option Value
  | value v => some v
  | param p => params.get? p

namespace Execute

variable {σ : Type}

instance (priority := 2000) SlotCount.zero : Zero SlotCount :=
  ⟨0⟩

/-- A value that is bound, its slot and its path. -/
structure Placed where
  slot : SlotCount
  value : Value
  path : Option Path

def Call.placed? : Call → Option Placed
  | bind slot path v => some ⟨slot, v, path⟩
  | _ => none

/-- The values that a backend was given, each with its slot. -/
def placed (log : List Exchange) : List Placed :=
  log.filterMap (·.call.placed?)

/-- The slots that values take which are bound in turn from that slot on, up to the first value that is
refused. -/
def widthsFrom (b : Backend σ) (slot : SlotCount) : List (Value × Option Path) → σ → List SlotCount
  | [], _ => []
  | (v, p) :: rest, s =>
    match b.bind slot p v s with
    | (.error _, _) => []
    | (.ok width, s) => width :: widthsFrom b (slot + width) rest s

/-- The slots that the backend says the values of a statement take, in a run from that state. -/
def widths (b : Backend σ) (w : WrittenStatement) (params : ParamMap) (range : Option Window) (s : σ) :
    List SlotCount :=
  widthsFrom b 1 (toBind w params) (setRange? b range (b.prepare w.text s).2).2

def slotsFrom (slot : SlotCount) : List SlotCount → List SlotCount
  | [] => [slot]
  | width :: ws => slot :: slotsFrom (slot + width) ws

def place (slots : List SlotCount) (xs : List (Value × Option Path)) : List Placed :=
  List.zipWith (fun slot x => ⟨slot, x.1, x.2⟩) slots xs

@[simp] theorem placed_append (xs ys : List Exchange) : placed (xs ++ ys) = placed xs ++ placed ys :=
  List.filterMap_append

theorem getElem?_slotsFrom {slot n : SlotCount} {i : Nat} {ws : List SlotCount} (h : (slotsFrom slot ws)[i]? = some n) :
    i ≤ ws.length ∧ n = slot + (ws.take i).sum := by
  induction ws generalizing slot i with
  | nil =>
    cases i with
    | zero => simpa [slotsFrom, eq_comm] using h
    | succ i => simp [slotsFrom] at h
  | cons width ws ih =>
    cases i with
    | zero => simpa [slotsFrom, eq_comm] using h
    | succ i =>
      obtain ⟨hi, hn⟩ := ih (by simpa [slotsFrom] using h)
      refine ⟨by simpa using hi, ?_⟩
      rw [hn, List.take_succ_cons, List.sum_cons, add_assoc]

theorem length_slotsFrom (slot : SlotCount) (ws : List SlotCount) : (slotsFrom slot ws).length = ws.length + 1 := by
  induction ws generalizing slot with
  | nil => rfl
  | cons width ws ih => rw [slotsFrom, List.length_cons, ih, List.length_cons]

theorem slotCount_add (m n : Nat) : ((m + n : Nat) : SlotCount) = (m : SlotCount) + (n : SlotCount) := by
  apply Fin.ext
  simp [Fin.val_add]

theorem slotCount_succ (n : Nat) : ((n + 1 : Nat) : SlotCount) = (n : SlotCount) + 1 :=
  slotCount_add n 1

theorem sum_slotCounts (ws : List SlotCount) : ws.sum = ((ws.map (·.val)).sum : Nat) := by
  induction ws with
  | nil => rfl
  | cons w ws ih =>
    have hw : (w.val : SlotCount) = w := Fin.ofNat_val_eq_self w
    rw [List.map_cons, List.sum_cons, List.sum_cons, slotCount_add, ih, hw]

theorem take_sum_eq_iff {ws : List SlotCount} {n : Nat} (hn : n ≤ ws.length + 1) :
    (∀ i < n, (ws.take i).sum = i) ↔ ∀ i, i + 1 < n → ws[i]? = some 1 := by
  constructor
  · intro h i hi
    have hlen : i < ws.length := by omega
    have hnext := h (i + 1) hi
    rw [List.take_add_one, List.sum_append, h i (by omega), List.getElem?_eq_getElem hlen,
      slotCount_succ] at hnext
    simp only [Option.toList_some, List.sum_cons, List.sum_nil, add_zero] at hnext
    rw [List.getElem?_eq_getElem hlen, add_left_cancel hnext]
  · intro h i hi
    induction i with
    | zero => rfl
    | succ i ih =>
      rw [List.take_add_one, List.sum_append, ih (by omega), h i hi, slotCount_succ]
      rfl

section Log

variable (b : Backend σ) (s : σ) (log : List Exchange)

theorem placed_noted {α ε : Type} {call : Call} (hcall : call.placed? = none) (lift : ε → QueryError)
    (x : Except ε α × σ) : placed (noted call lift log x).2.2 = placed log := by
  simp [noted, placed, hcall]

theorem placed_bindFrom (slot : SlotCount) (xs : List (Value × Option Path)) :
    placed (bindFrom b.logging slot xs (s, log)).2.2 =
      placed log ++ place (slotsFrom slot (widthsFrom b slot xs s)) xs := by
  -- Each value moves the slot, the state and the log, so the induction is over all of them.
  induction xs generalizing slot s log with
  | nil => simp [bindFrom, place]
  | cons x xs ih =>
    obtain ⟨v, p⟩ := x
    obtain ⟨r, t, hb⟩ : ∃ r t, b.bind slot p v s = (r, t) := ⟨_, _, rfl⟩
    cases r with
    | error e =>
      simp [bindFrom, Backend.logging, hb, widthsFrom, slotsFrom, place, placed, Call.placed?]
    | ok width =>
      have hrest := ih t (log ++ [⟨.bind slot p v, none⟩]) (slot + width)
      simp only [Backend.logging] at hrest ⊢
      simp only [bindFrom, hb, noted_ok, hrest, widthsFrom, slotsFrom, place, List.zipWith_cons_cons,
        placed_append, List.append_assoc]
      rfl

theorem placed_setRange? (range : Option Window) :
    placed (setRange? b.logging range (s, log)).2.2 = placed log := by
  cases range with
  | none => rfl
  | some w => exact placed_noted log rfl _ _

theorem setRange?_logging_eq (range : Option Window) :
    setRange? b.logging range (s, log) =
      ((setRange? b range s).1, (setRange? b range s).2, (setRange? b.logging range (s, log)).2.2) := by
  obtain ⟨calls, hcalls, -⟩ := setRange?_logging b range s log
  rw [hcalls]

theorem placed_abandon : placed (abandon b.logging (s, log)).2 = placed log :=
  placed_noted log rfl _ _

theorem placed_executeAndClose : placed (executeAndClose b.logging (s, log)).2.2 = placed log := by
  obtain ⟨calls, hcalls, hcases⟩ := executeAndClose_logging b s log
  have hnone : placed calls = [] := by
    obtain ⟨_, _, -, rfl⟩ | ⟨_, -, rfl⟩ | ⟨_, -, rfl⟩ := hcases <;> rfl
  rw [hcalls, placed_append, hnone, List.append_nil]

theorem placed_runPrepared (w : WrittenStatement) (params : ParamMap) (range : Option Window) :
    placed (runPrepared b.logging w params range (s, log)).2.2.2 = placed log ∨
      placed (runPrepared b.logging w params range (s, log)).2.2.2 =
        placed log ++ place (slotsFrom 1 (widthsFrom b 1 (toBind w params) (setRange? b range s).2))
          (toBind w params) := by
  have hranged := placed_setRange? b s log range
  unfold runPrepared
  rw [setRange?_logging_eq]
  generalize (setRange? b.logging range (s, log)).2.2 = log' at hranged
  obtain ⟨r, t, hr⟩ : ∃ r t, setRange? b range s = (r, t) := ⟨_, _, rfl⟩
  rw [hr, ← hranged]
  cases r with
  | error e => exact .inl (placed_abandon b _ _)
  | ok _ =>
    simp only [bindAll_eq]
    cases hv : valuesOf w params with
    | error e => exact .inl (placed_abandon b _ _)
    | ok values =>
      have hbound := placed_bindFrom b t log' 1 (values.zip w.paths)
      have htoBind : toBind w params = values.zip w.paths := by rw [toBind, hv]
      obtain ⟨q, u, log'', hq⟩ : ∃ q u log'', bindFrom b.logging 1 (values.zip w.paths) (t, log') =
          (q, u, log'') := ⟨_, _, _, rfl⟩
      refine .inr ?_
      rw [hq] at hbound
      rw [htoBind, ← hbound]
      simp only [hq]
      cases q with
      | error e => exact placed_abandon b _ _
      | ok stop => exact placed_executeAndClose b _ _

theorem placed_run (c : Config) (kind : StatementKind) (w : WrittenStatement) (params : ParamMap)
    (range : Option Window) :
    placed (run b.logging c kind w params range (s, [])).state.2 = [] ∨
      placed (run b.logging c kind w params range (s, [])).state.2 =
        place (slotsFrom 1 (widths b w params range s)) (toBind w params) := by
  obtain ⟨r, t, hb⟩ : ∃ r t, b.prepare w.text s = (r, t) := ⟨_, _, rfl⟩
  cases r with
  | error e =>
    refine .inl ?_
    simp [run_eq, Backend.logging, hb, placed, Call.placed?]
  | ok _ =>
    have hp : b.logging.prepare w.text (s, []) = (.ok (), t, [⟨.prepare w.text, none⟩]) := by
      simp [Backend.logging, hb]
    have hprepared := placed_runPrepared b t [⟨.prepare w.text, none⟩] w params range
    simp only [run_eq, hp, widths, hb]
    exact hprepared

end Log

theorem resolveAll_value? {params : ParamMap} {bs : List Binding} {vs : List Value}
    (h : resolveAll params bs = .ok vs) : bs.map (·.value? params) = vs.map some := by
  induction bs generalizing vs with
  | nil =>
    obtain rfl := Except.ok.inj h
    rfl
  | cons b bs ih =>
    have hrest (v : Value) (hb : b.value? params = some v)
        (hv : (resolveAll params bs).map (v :: ·) = .ok vs) :
        (b :: bs).map (·.value? params) = vs.map some := by
      cases hbs : resolveAll params bs with
      | error e => simp [hbs, Except.map] at hv
      | ok ws =>
        rw [hbs] at hv
        obtain rfl := Except.ok.inj hv
        rw [List.map_cons, List.map_cons, hb, ih hbs]
    cases b with
    | value v => exact hrest v rfl h
    | param p =>
      simp only [resolveAll] at h
      split at h
      · cases h
      · next v hp => exact hrest v hp h

theorem toBind_value? {w : WrittenStatement} {params : ParamMap} {i : Nat} {v : Value}
    {path : Option Path} (h : (toBind w params)[i]? = some (v, path)) :
    ∃ binding, w.bindings[i]? = some binding ∧ binding.value? params = some v ∧
      w.paths[i]? = some path := by
  rw [toBind] at h
  split at h
  · next values hvalues =>
    obtain ⟨hv, hpath⟩ := List.getElem?_zip_eq_some.mp h
    simp only [valuesOf] at hvalues
    split at hvalues
    · cases hvalues
    · have hmap := congrArg (·[i]?) (resolveAll_value? hvalues)
      simp only [List.getElem?_map, hv, Option.map_some] at hmap
      obtain ⟨binding, hbinding, hvalue⟩ := Option.map_eq_some_iff.mp hmap
      exact ⟨binding, hbinding, hvalue, hpath⟩
  · cases h

theorem place_getElem? {slots : List SlotCount} {xs : List (Value × Option Path)} {i : Nat} {x : Placed}
    (h : (place slots xs)[i]? = some x) :
    slots[i]? = some x.slot ∧ xs[i]? = some (x.value, x.path) := by
  rw [place, List.getElem?_zipWith_eq_some] at h
  obtain ⟨slot, y, hslot, hy, rfl⟩ := h
  exact ⟨hslot, hy⟩

end Execute

theorem Piece.exists_placeholder (slot : Nat) {i : Nat} {cs : List Render.Chunk} {b : Binding}
    (h : (Render.Chunk.bindings cs)[i]? = some b) :
    ∃ p, (placeholders (ofChunks slot cs))[i]? = some p ∧ p.binding = b ∧ p.number = slot + i ∧
      (Render.Chunk.paths cs)[i]? = some p.path := by
  rw [← bindings_ofChunks slot cs, List.getElem?_map] at h
  obtain ⟨p, hp, rfl⟩ := Option.map_eq_some_iff.mp h
  refine ⟨p, hp, rfl, ?_, ?_⟩
  · have hn := congrArg (·[i]?) (numbers_ofChunks slot cs)
    simp only [List.getElem?_map, hp, Option.map_some] at hn
    obtain ⟨_, hn⟩ := List.getElem?_eq_some_iff.mp hn.symm
    simpa [List.getElem_range'] using hn.symm
  · rw [← paths_ofChunks slot cs, List.getElem?_map, hp]
    rfl

/-- A request as pieces of text and placeholders that are numbered from one. -/
def Request.pieces (a : Request) : Except QueryError (List Piece) :=
  a.chunks.map (Piece.ofChunks 1)

namespace Execute

variable {σ : Type}

/-- What a backend was given belongs to the placeholders in turn: to each its value and its path, at the
slot behind those that the values before it take. -/
structure Follows (params : ParamMap) (widths : List SlotCount) (ps : List Placeholder) (xs : List Placed) :
    Prop where
  belongs : ∀ i x, xs[i]? = some x → ∃ p, ps[i]? = some p ∧ p.number = i + 1 ∧
    p.binding.value? params = some x.value ∧ p.path = x.path
  slot : ∀ i x, xs[i]? = some x → x.slot = 1 + (widths.take i).sum
  told : xs.length ≤ widths.length + 1

/-- The slot of each value is the number of its placeholder. -/
def AtNumbers (ps : List Placeholder) (xs : List Placed) : Prop :=
  ∀ (i : Nat) (p : Placeholder) (x : Placed), ps[i]? = some p → xs[i]? = some x → x.slot = p.number

theorem Follows.atNumbers_iff {params : ParamMap} {widths : List SlotCount} {ps : List Placeholder}
    {xs : List Placed} (h : Follows params widths ps xs) :
    AtNumbers ps xs ↔ ∀ i, i + 1 < xs.length → widths[i]? = some 1 := by
  rw [← take_sum_eq_iff h.told]
  constructor
  · intro hat i hi
    have hx := List.getElem?_eq_getElem hi
    obtain ⟨p, hp, hn, -⟩ := h.belongs i _ hx
    have hslot := h.slot i _ hx
    rw [hat i p _ hp hx, hn, slotCount_succ, add_comm] at hslot
    exact (add_left_cancel hslot).symm
  · intro hsum i p x hp hx
    obtain ⟨q, hq, hn, -⟩ := h.belongs i x hx
    obtain rfl : p = q := Option.some.inj (hp.symm.trans hq)
    rw [h.slot i x hx, hn, hsum i (List.getElem?_eq_some_iff.mp hx).1, slotCount_succ, add_comm]

theorem follows_place {a : Request} {w : WrittenStatement} {cs : List Render.Chunk}
    (hw : w = .ofChunks a.config.rules cs) (params : ParamMap) (widths : List SlotCount) :
    Follows params widths (Piece.placeholders (Piece.ofChunks 1 cs))
      (place (slotsFrom 1 widths) (toBind w params)) where
  belongs i x hx := by
    obtain ⟨-, hx⟩ := place_getElem? hx
    obtain ⟨b, hb, hvalue, hpath⟩ := toBind_value? hx
    rw [hw] at hb hpath
    obtain ⟨p, hp, rfl, hn, hpaths⟩ := Piece.exists_placeholder 1 hb
    exact ⟨p, hp, by rw [hn, Nat.add_comm], hvalue, Option.some.inj (hpaths.symm.trans hpath)⟩
  slot i x hx := (getElem?_slotsFrom (place_getElem? hx).1).2
  told := by
    rw [place, List.length_zipWith, length_slotsFrom]
    exact Nat.min_le_left _ _

/-- Whatever a backend says that values take, those of a request are handed to it in the order of their
placeholders. The slots are the numbers of the placeholders exactly when each value takes one slot that
another one is bound behind. -/
theorem run_atNumbers_iff (a : Request) {w : WrittenStatement} (h : a.written = .ok w)
    (b : Backend σ) (c : Config) (kind : StatementKind) (params : ParamMap) (range : Option Window)
    (s : σ) :
    ∃ ps log, a.pieces = .ok ps ∧ w.text = String.join (ps.map (Piece.spelling a.config.rules)) ∧
      run b.logging c kind w params range (s, []) =
        { run b c kind w params range s with
          state := ((run b c kind w params range s).state, log) } ∧
      Follows params (widths b w params range s) (Piece.placeholders ps) (placed log) ∧
      (AtNumbers (Piece.placeholders ps) (placed log) ↔
        ∀ i, i + 1 < (placed log).length → (widths b w params range s)[i]? = some 1) := by
  obtain ⟨cs, hcs, hw⟩ := a.written_chunks h
  obtain ⟨log, -, hlog, -⟩ := run_logging b c kind w params range s
  have hfollows : Follows params (widths b w params range s)
      (Piece.placeholders (Piece.ofChunks 1 cs)) (placed log) := by
    have hplaced := placed_run b s c kind w params range
    rw [hlog] at hplaced
    obtain hnone | hplaced := hplaced
    · rw [hnone]
      exact ⟨by simp, by simp, by simp⟩
    · rw [hplaced]
      exact follows_place hw params _
  refine ⟨_, log, by rw [Request.pieces, hcs]; rfl, ?_, hlog, hfollows, hfollows.atNumbers_iff⟩
  rw [Piece.text_ofChunks, hw]
  rfl

/-- The insertion of a cat with its date of birth and its name. -/
def datedCat : Change :=
  let cat := Path.source (.ofType "Cat") "cat"
  .insert (((Insert.of (.ofDialect .postgres) cat).set (cat.property "birthdate" .date)
      (.constant (.date ⟨2020, 1, 2⟩))).set (cat.property "name" .text) (.constant (.text "Tom")))

/-- Dates take two slots, and everything succeeds. -/
def twoSlotDates : Script where
  outcome := .affected 1
  wide := some (.date, 2)
  rejectedSlot := none
  rejection := none
  prepareFailure := none
  executeFailure := none
  closeFailure := none
  rangeFailure := none
  ignoresRange := false

theorem run_atNumbers_iff_datedCat :
    ∃ w, (Request.change datedCat).written = .ok w ∧
      ∃ ps log, (Request.change datedCat).pieces = .ok ps ∧
        w.text = String.join (ps.map (Piece.spelling datedCat.config.rules)) ∧
        run twoSlotDates.backend.logging datedCat.config .insert w datedCat.params none ([], []) =
          { run twoSlotDates.backend datedCat.config .insert w datedCat.params none [] with
            state :=
              ((run twoSlotDates.backend datedCat.config .insert w datedCat.params none []).state, log) } ∧
        Follows datedCat.params (widths twoSlotDates.backend w datedCat.params none [])
          (Piece.placeholders ps) (placed log) ∧
        (AtNumbers (Piece.placeholders ps) (placed log) ↔
          ∀ i, i + 1 < (placed log).length →
            (widths twoSlotDates.backend w datedCat.params none [])[i]? = some 1) :=
  ⟨_, rfl, run_atNumbers_iff (.change datedCat) rfl twoSlotDates.backend datedCat.config .insert
    datedCat.params none []⟩

/-- The name is written as the second placeholder and bound at slot three. -/
theorem not_atNumbers_datedCat :
    ∃ w ps, (Request.change datedCat).written = .ok w ∧ (Request.change datedCat).pieces = .ok ps ∧
      w.text = "insert into CAT (birthdate, name)\nvalues ($1, $2)" ∧
      (placed (run twoSlotDates.backend.logging datedCat.config .insert w datedCat.params none
        ([], [])).state.2).map (fun x => (x.slot, x.value)) =
          [(1, .date ⟨2020, 1, 2⟩), (3, .text "Tom")] ∧
      ¬ AtNumbers (Piece.placeholders ps)
        (placed (run twoSlotDates.backend.logging datedCat.config .insert w datedCat.params none
          ([], [])).state.2) := by
  refine ⟨_, _, rfl, rfl, by decide +kernel, rfl, fun hat => ?_⟩
  exact absurd (hat 1 _ _ rfl rfl) (by decide)

end Execute

end QueryText
