import QueryText.Proofs.Digits
import QueryText.Proofs.Literals.Quotes

namespace QueryText

namespace Date

open Decimal.Digits

def read (cs : List Char) : Date × List Char :=
  let year := readInt cs
  let month := readNat year.2.tail
  let day := readNat month.2.tail
  (⟨year.1, month.1, day.1⟩, day.2)

theorem read_text (d : Date) {rest : List Char} (hrest : ∀ c ∈ rest.head?, c.isDigit = false) :
    read (d.text.toList ++ rest) = (d, rest) := by
  have htext : d.text.toList ++ rest = (Calendar.yearText d.year).toList ++
      '-' :: ((Calendar.padded 2 d.month).toList ++ '-' :: ((Calendar.padded 2 d.day).toList ++ rest)) := by
    simp [text]
  have hdash : ∀ cs : List Char, ∀ c ∈ ('-' :: cs).head?, c.isDigit = false := by
    rintro cs c ⟨⟩
    rfl
  simp only [read, htext, readInt_yearText _ (hdash _), List.tail_cons,
    (spells_padded _ _).readNat_append (hdash _), (spells_padded _ _).readNat_append hrest]

end Date

namespace Time

open Decimal.Digits

/-- What a clock shows of the time. -/
def shown (t : Time) : Time :=
  ⟨t.hour, t.minute, t.second + if t.isLeap then 1 else 0, 0⟩

def read (cs : List Char) : Time :=
  let hour := readNat cs
  let minute := readNat hour.2.tail
  let second := readNat minute.2.tail
  ⟨hour.1, minute.1, second.1, 0⟩

theorem read_clock (t : Time) : read t.clock.toList = t.shown := by
  have htext : t.clock.toList = (Calendar.padded 2 t.hour).toList ++ ':' ::
      ((Calendar.padded 2 t.minute).toList ++ ':' ::
        ((Calendar.padded 2 (t.second + if t.isLeap then 1 else 0)).toList ++ [])) := by
    simp [clock]
  have hcolon : ∀ cs : List Char, ∀ c ∈ (':' :: cs).head?, c.isDigit = false := by
    rintro cs c ⟨⟩
    rfl
  have hnil : ∀ c ∈ ([] : List Char).head?, c.isDigit = false := by simp
  simp only [read, htext, List.tail_cons, (spells_padded _ _).readNat_append (hcolon _),
    (spells_padded _ _).readNat_append hnil, shown]

theorem clock_shown (t : Time) : t.shown.clock = t.clock := by
  simp [clock, shown, isLeap]

end Time

namespace DateTime

def shown (t : DateTime) : DateTime :=
  ⟨t.date, t.time.shown⟩

def read (cs : List Char) : DateTime :=
  let date := Date.read cs
  ⟨date.1, Time.read date.2.tail⟩

theorem read_clock (t : DateTime) : read t.clock.toList = t.shown := by
  have htext : t.clock.toList = t.date.text.toList ++ ' ' :: t.time.clock.toList := by
    simp [clock]
  have hblank : ∀ c ∈ (' ' :: t.time.clock.toList).head?, c.isDigit = false := by
    rintro c ⟨⟩
    rfl
  simp only [read, htext, Date.read_text _ hblank, List.tail_cons, Time.read_clock, shown]

theorem clock_shown (t : DateTime) : t.shown.clock = t.clock := by
  rw [clock, shown, Time.clock_shown, clock]

end DateTime

namespace Value

/-- What the literal of the value shows. -/
def shown : Value → Value
  | time t => time t.shown
  | dateTime t => dateTime t.shown
  | v => v

/-- Two values of one kind: integers, texts, bytes, dates or times. -/
inductive Alike : Value → Value → Prop
  | int (m n : Int64) : Alike (int m) (int n)
  | uint (m n : UInt64) : Alike (uint m) (uint n)
  | text (s t : String) : Alike (text s) (text t)
  | bytes (bs cs : List UInt8) : Alike (bytes bs) (bytes cs)
  | date (d e : Date) : Alike (date d) (date e)
  | time (t u : Time) : Alike (time t) (time u)
  | dateTime (t u : DateTime) : Alike (dateTime t) (dateTime u)

end Value

namespace Rules

variable {r : Rules} {v w : Value} {s t : String}

def hexValue (c : Char) : Nat :=
  if c.isDigit then c.toNat - 48 else c.toNat - 87

def readBytes : List Char → List UInt8
  | c :: d :: cs => UInt8.ofNat (16 * hexValue c + hexValue d) :: readBytes cs
  | _ => []

theorem readBytes_hexBytes (bs : List UInt8) : readBytes (bs.flatMap hexByte) = bs := by
  have hdigit : ∀ n < 16, hexValue (Nat.digitChar n) = n := by decide
  induction bs with
  | nil => rfl
  | cons b bs ih =>
    have hlt := b.toNat_lt
    have hb : 16 * hexValue (Nat.digitChar (b.toNat / 16)) + hexValue (Nat.digitChar (b.toNat % 16)) =
        b.toNat := by
      rw [hdigit _ (by omega), hdigit _ (by omega)]
      omega
    simp only [List.flatMap_cons, hexByte, List.cons_append, List.nil_append, readBytes, hb, ih,
      UInt8.ofNat_toNat]

theorem quotedText_inj (h : quotedText s = quotedText t) : s = t := by
  have hread (u : String) : Text.Quoted.token? '\x27' ((quotedText u).toList ++ []) = some (u.toList, []) :=
    (Text.Quoted.token?_quote_iff u).mpr (by simp)
  have heq := (hread s).symm.trans (h ▸ hread t)
  rw [Option.some.injEq, Prod.mk.injEq, String.toList_inj] at heq
  exact heq.1

theorem literal_shown (r : Rules) (v : Value) : r.literal v.shown = r.literal v := by
  cases v <;> simp only [Value.shown, literal, Time.clock_shown, DateTime.clock_shown]

theorem wrapped_inj {form : Option Wrap} {kind a b : String} (ha : r.wrapped form kind a = .ok s)
    (hb : r.wrapped form kind b = .ok s) : a = b := by
  cases form with
  | none => simp [wrapped, unsupported] at ha
  | some f =>
    have heq : f.around a = f.around b := (Except.ok.inj ha).trans (Except.ok.inj hb).symm
    simpa [Wrap.around] using heq

theorem shown_eq_of_literal (h : v.Alike w) (hv : r.literal v = .ok s) (hw : r.literal w = .ok s) :
    v.shown = w.shown := by
  cases h with
  | int m n =>
    have hmn : toString m.toInt = toString n.toInt := (Except.ok.inj hv).trans (Except.ok.inj hw).symm
    have hread := congrArg (fun s => (Decimal.Digits.readInt s.toList).1) hmn
    simp only [Decimal.Digits.readInt_toString] at hread
    rw [Int64.toInt_inj.mp hread]
  | uint m n =>
    have hmn : toString m.toNat = toString n.toNat := (Except.ok.inj hv).trans (Except.ok.inj hw).symm
    have hread := congrArg (fun s => (Decimal.Digits.readNat s.toList).1) hmn
    simp only [Decimal.Digits.readNat_toString] at hread
    rw [UInt64.toNat_inj.mp hread]
  | text a b =>
    have hab : quotedText a = quotedText b := (Except.ok.inj hv).trans (Except.ok.inj hw).symm
    rw [quotedText_inj hab]
  | bytes bs cs =>
    have hread := congrArg (fun s => readBytes s.toList) (wrapped_inj hv hw)
    simp only [String.toList_ofList, readBytes_hexBytes] at hread
    rw [hread]
  | date d e =>
    have htext (d : Date) : Date.read (d.text.toList ++ []) = (d, []) := d.read_text (by simp)
    have hread := congrArg (fun s => Date.read (s.toList ++ [])) (wrapped_inj hv hw)
    simp only [htext, Prod.mk.injEq, and_true] at hread
    rw [hread]
  | time t u =>
    have hread := congrArg (fun s => Time.read s.toList) (wrapped_inj hv hw)
    simp only [Time.read_clock] at hread
    rw [Value.shown, hread, Value.shown]
  | dateTime t u =>
    have hread := congrArg (fun s => DateTime.read s.toList) (wrapped_inj hv hw)
    simp only [DateTime.read_clock] at hread
    rw [Value.shown, hread, Value.shown]

/-- Two values of one kind have one literal exactly if it shows the same of both. Only times, of a day or
alone, can differ and show the same, where one is a part of a second behind the other. -/
theorem literal_eq_iff (r : Rules) (h : v.Alike w) (hv : r.literal v = .ok s) (hw : r.literal w = .ok t) :
    s = t ↔ v.shown = w.shown := by
  constructor
  · rintro rfl
    exact shown_eq_of_literal h hv hw
  · intro heq
    rw [← literal_shown, heq, literal_shown, hw] at hv
    exact (Except.ok.inj hv).symm

/-- A leap second is shown as one more, and is told from the second in front of it. -/
theorem literal_eq_iff_leap :
    Value.Alike (.time ⟨23, 59, 59, 1000000000⟩) (.time ⟨23, 59, 59, 0⟩) ∧
    (ofDialect .ansi).literal (.time ⟨23, 59, 59, 1000000000⟩) = .ok "time '23:59:60'" ∧
    (ofDialect .ansi).literal (.time ⟨23, 59, 59, 0⟩) = .ok "time '23:59:59'" ∧
    ("time '23:59:60'" = "time '23:59:59'" ↔
      (Value.time ⟨23, 59, 59, 1000000000⟩).shown = (Value.time ⟨23, 59, 59, 0⟩).shown) := by
  have hleap : "time '" ++ Time.clock ⟨23, 59, 59, 1000000000⟩ ++ "'" = "time '23:59:60'" := by
    decide +kernel
  have hlast : "time '" ++ Time.clock ⟨23, 59, 59, 0⟩ ++ "'" = "time '23:59:59'" := by decide +kernel
  exact ⟨.time _ _, congrArg Except.ok hleap, congrArg Except.ok hlast,
    literal_eq_iff (ofDialect .ansi) (.time _ _) (congrArg Except.ok hleap) (congrArg Except.ok hlast)⟩

/-- A time and another one half a second later. -/
theorem literal_halfSecond :
    (ofDialect .ansi).literal (.time ⟨10, 20, 30, 0⟩) = .ok "time '10:20:30'" ∧
    (ofDialect .ansi).literal (.time ⟨10, 20, 30, 500000000⟩) = .ok "time '10:20:30'" ∧
    Value.time ⟨10, 20, 30, 0⟩ ≠ Value.time ⟨10, 20, 30, 500000000⟩ := by
  have hwhole : "time '" ++ Time.clock ⟨10, 20, 30, 0⟩ ++ "'" = "time '10:20:30'" := by decide +kernel
  have hhalf : "time '" ++ Time.clock ⟨10, 20, 30, 500000000⟩ ++ "'" = "time '10:20:30'" := by
    decide +kernel
  refine ⟨congrArg Except.ok hwhole, congrArg Except.ok hhalf, fun h => ?_⟩
  have ht : (⟨10, 20, 30, 0⟩ : Time) = ⟨10, 20, 30, 500000000⟩ := Value.time.inj h
  exact absurd ht (by decide)

end Rules

end QueryText
