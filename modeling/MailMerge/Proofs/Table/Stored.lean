import MailMerge.Proofs.Double.Order
import MailMerge.Proofs.Instant.Years
import Mathlib.Data.List.TakeDrop

/-!
# Stored values

What a column stores for a value of its type is null or shows a value of the type: it is
read back as that value, and it stands beside the form of a constant as the value stands
beside the constant.
-/

namespace MailMerge

namespace Value

/-- The type a value is of; null is of none. -/
def dataType? : Value → Option DataType
  | .null => none
  | .bool _ => some .boolean
  | .int _ => some .integer
  | .double _ => some .double
  | .text _ => some .string
  | .time _ => some .datetime

/-- A value whose instant, if it is one, is an instant that clocks show. -/
def OnClock : Value → Prop
  | .time t => t.OnClock
  | _ => True

/-- A value a table can write in full: a text without a NUL character, an instant in a year
of four digits. -/
def Legible : Value → Prop
  | .text s => '\x00' ∉ s.toList
  | .time t => t.InFourDigits
  | _ => True

/-- A value with a place in the order of its type as written: a number, an instant on a
whole second. -/
def Exact : Value → Prop
  | .double d => d.isNaN = false
  | .time t => t.nanos % Instant.nanosPerSecond = 0
  | _ => True

/-- A value that a column of a type takes. -/
def Storable (t : DataType) (v : Value) : Prop :=
  v = .null ∨ v.dataType? = some t ∧ v.OnClock ∧ v.Legible

/-- A constant of a type that can be compared with what a column of the type shows. -/
structure Comparable (t : DataType) (w : Value) : Prop where
  dataType? : w.dataType? = some t
  onClock : w.OnClock
  legible : w.Legible
  exact : w.Exact

instance : DecidablePred OnClock
  | .time t => inferInstanceAs (Decidable t.OnClock)
  | .null | .bool _ | .int _ | .double _ | .text _ => .isTrue trivial

instance : DecidablePred Legible
  | .text s => inferInstanceAs (Decidable ('\x00' ∉ s.toList))
  | .time t => inferInstanceAs (Decidable t.InFourDigits)
  | .null | .bool _ | .int _ | .double _ => .isTrue trivial

instance : DecidablePred Exact
  | .double d => inferInstanceAs (Decidable (d.isNaN = false))
  | .time t => inferInstanceAs (Decidable (t.nanos % Instant.nanosPerSecond = 0))
  | .null | .bool _ | .int _ | .text _ => .isTrue trivial

instance (t : DataType) (v : Value) : Decidable (v.Storable t) :=
  inferInstanceAs (Decidable (_ ∨ _))

/-- Reading a value as one of a type gives a value of the type. -/
theorem dataType?_of_coerce? {t : DataType} {v w : Value} (h : t.coerce? v = some w) :
    w.dataType? = some t := by
  cases t <;> cases v <;> simp only [DataType.coerce?, Option.map_eq_some_iff, Option.some.injEq,
    reduceCtorEq] at h
  all_goals
    first
    | (subst h; rfl)
    | (obtain ⟨x, -, rfl⟩ := h; rfl)

/-- Reading a value makes no instant that clocks do not show. -/
theorem onClock_of_coerce? {t : DataType} {v w : Value} (hv : v.OnClock)
    (h : t.coerce? v = some w) : w.OnClock := by
  have htype := dataType?_of_coerce? h
  cases w with
  | time t' =>
    cases htype
    cases v with
    | time s =>
      cases h
      exact hv
    | text s =>
      obtain ⟨t, ht, heq⟩ := Option.map_eq_some_iff.mp h
      cases heq
      exact Instant.onClock_of_read? ht
    | _ => cases h
  | _ => exact trivial

end Value

-- ---------------------------------------------------------------------------
-- Texts that denote no number
-- ---------------------------------------------------------------------------

variable {ds : List Char} (hds : ∀ c ∈ ds, c.isDigit = true)

theorem Double.splitSign_of_isDigit {c : Char} (hc : c.isDigit = true) (cs : List Char) :
    splitSign (c :: cs) = (false, c :: cs) := by
  rw [splitSign]
  · rintro _ h
    cases h
    exact absurd hc (by decide)
  · rintro _ h
    cases h
    exact absurd hc (by decide)

include hds in
/-- A dash behind digits belongs to no number. -/
theorem Double.readDigits?_dash (hne : ds ≠ []) (negative : Bool) (rest : List Char) :
    readDigits? negative (ds ++ '-' :: rest) = none := by
  have hempty : ds.isEmpty = false := by
    cases ds with
    | nil => exact absurd rfl hne
    | cons c cs => rfl
  rw [readDigits?, spanDigits_append hds (by simp)]
  simp only [hempty, Bool.false_and]
  rfl

namespace Instant

open Double (splitSign readDigits?)

variable (t : Instant)

/-- Behind a sign a written instant has digits and a dash. -/
theorem splitSign_write :
    ∃ negative ds, splitSign t.write.toList = (negative, ds ++ '-' :: (t.behindYear ++ ['Z'])) ∧
      ds ≠ [] ∧ ∀ c ∈ ds, c.isDigit = true := by
  obtain ⟨sign, ds, hwrite, hsign, hne, hds⟩ := t.exists_write
  rw [hwrite]
  split at hsign
  · subst hsign
    obtain ⟨d, ds, rfl⟩ := List.exists_cons_of_ne_nil hne
    exact ⟨false, d :: ds, Double.splitSign_of_isDigit (hds d List.mem_cons_self) _, hne, hds⟩
  · rcases hsign with rfl | rfl
    · exact ⟨true, ds, rfl, hne, hds⟩
    · exact ⟨false, ds, rfl, hne, hds⟩

theorem readInt?_write : readInt? t.write.toList = none := by
  obtain ⟨negative, ds, hsplit, -, -⟩ := t.splitSign_write
  simp [readInt?, hsplit]

theorem readDigits?_write :
    readDigits? (splitSign t.write.toList).1 (splitSign t.write.toList).2 = none := by
  obtain ⟨negative, ds, hsplit, hne, hds⟩ := t.splitSign_write
  rw [hsplit]
  exact Double.readDigits?_dash hds hne negative _

end Instant

namespace Cell

theorem isSpace_of_isDigit {c : Char} (h : c.isDigit = true) : isSpace c = false := by
  have hzero : 48 ≤ c.toNat := by
    rw [Char.isDigit, Bool.and_eq_true, decide_eq_true_eq] at h
    exact UInt32.le_iff_toNat_le.mp h.1
  rw [isSpace, Bool.or_eq_false_iff, beq_eq_false_iff_ne]
  constructor
  · rintro rfl
    exact absurd hzero (by decide)
  · simp only [Bool.and_eq_false_iff, decide_eq_false_iff_not]
    omega

/-- A written instant denotes no number. -/
theorem number?_write (t : Instant) : number? t.write = none := by
  have htrim : trimSpaces t.write.toList = t.write.toList :=
    Instant.dropEnds_write (fun _ => isSpace_of_isDigit) (by decide) (by decide) t
  rw [number?]
  simp [htrim, t.readInt?_write, t.readDigits?_write]

-- ---------------------------------------------------------------------------
-- Cells that show a value
-- ---------------------------------------------------------------------------

/-- A cell of a column of a type shows a value, which is never null. -/
inductive Shows : DataType → Cell → Value → Prop
  | int (i : Int64) : Shows .integer (.int i) (.int i)
  | real {d : Double} (h : d.isNaN = false) : Shows .double (.real d) (.double d)
  | truth (b : Bool) : Shows .boolean (.int (if b then 1 else 0)) (.bool b)
  | text {s : String} (h : '\x00' ∉ s.toList) : Shows .string (.text s) (.text s)
  | time {t : Instant} (hclock : t.OnClock) (hyear : t.InFourDigits) :
    Shows .datetime (.text t.write) (.time t.truncated)

/-- A cell of a column of a type and what is read back from it, be it of the type or not. -/
inductive Reads : DataType → Cell → Value → Prop
  | int (i : Int64) : Reads .integer (.int i) (.int i)
  | real {d : Double} (h : d.isNaN = false) : Reads .double (.real d) (.double d)
  | truth (b : Bool) : Reads .boolean (.int (if b then 1 else 0)) (.bool b)
  | text (s : String) : Reads .string (.text s) (.text s)
  | time (u : Instant) : Reads .datetime (.text u.write) (.time u.truncated)
  | late (u : Instant) : Reads .datetime (.text u.write) (.text u.write)

/-- A cell of a column of a type is null or shows a value. -/
def Held (t : DataType) (cell : Cell) : Prop := cell = .null ∨ ∃ v, Shows t cell v

variable {t : DataType} {cell : Cell} {v w : Value}

theorem Shows.ne_null (h : Shows t cell v) : cell ≠ .null := by
  cases h <;> exact Cell.noConfusion

theorem Shows.reads (h : Shows t cell v) : Reads t cell v := by
  cases h with
  | int i => exact .int i
  | real h => exact .real h
  | truth b => exact .truth b
  | text h => exact .text _
  | time hclock hyear => exact .time _

theorem Reads.exists_write (h : Reads .datetime cell v) : ∃ u : Instant, cell = .text u.write := by
  cases h with
  | time u => exact ⟨u, rfl⟩
  | late u => exact ⟨u, rfl⟩

theorem Reads.value_ne_null (h : Reads t cell v) : v ≠ .null := by
  cases h <;> exact Value.noConfusion

/-- The value is the one that is read back. -/
theorem Shows.toValue (h : Shows t cell v) : cell.toValue t = v := by
  cases h with
  | int i => rfl
  | real h => rfl
  | truth b => cases b <;> rfl
  | text h => rfl
  | time hclock hyear =>
    rw [Cell.toValue, Instant.read?_write hclock hyear]
    rfl

/-- The value is of the type. -/
theorem Shows.coerce? (h : Shows t cell v) : t.coerce? v = some v := by
  cases h <;> rfl

theorem ofDouble_ne_null (d : Double) : ofDouble d ≠ .null := by
  rcases ofDouble_cases d with h | ⟨i, -, h⟩ <;> rw [h] <;> exact Cell.noConfusion

theorem ofDouble_ne_text (d : Double) (s : String) : ofDouble d ≠ .text s := by
  rcases ofDouble_cases d with h | ⟨i, -, h⟩ <;> rw [h] <;> exact Cell.noConfusion

/-- What a text denotes is a number. -/
theorem number?_cases {s : String} (h : number? s = some cell) :
    (∃ i, cell = .int i) ∨ ∃ d, cell = ofDouble d := by
  rw [number?] at h
  split at h
  · cases h
    exact .inl ⟨_, rfl⟩
  · obtain ⟨d, -, rfl⟩ := Option.map_eq_some_iff.mp h
    exact .inr ⟨d, rfl⟩

theorem number?_ne_null {s : String} : number? s ≠ some .null := by
  intro h
  rcases number?_cases h with ⟨i, heq⟩ | ⟨d, heq⟩
  · cases heq
  · exact ofDouble_ne_null d heq.symm

/-- A text that denotes a number does not stay a text. -/
theorem number?_ne_text {s a : String} : number? s ≠ some (.text a) := by
  intro h
  rcases number?_cases h with ⟨i, heq⟩ | ⟨d, heq⟩
  · cases heq
  · exact ofDouble_ne_text d a heq.symm

/-- A double that is a whole number is read back as the double of that number. -/
theorem stored_real (d : Double) :
    (Cell.real d).stored .double = .real d ∨
      ∃ i, d.toInt? = some i ∧ (Cell.real d).stored .double = .real (Double.ofInt i) := by
  have hcompared : (Cell.real d).compared .double = ofDouble d := rfl
  rcases ofDouble_cases d with h | ⟨i, hi, h⟩
  · left
    simp [stored, hcompared, h]
  · exact .inr ⟨i.toInt, hi, by simp [stored, hcompared, h]⟩

/-- Every column takes a written instant as a text. -/
theorem compared_write (t : Instant) (d : DataType) :
    (Cell.text t.write).compared d = .text t.write := by
  cases d <;> simp [compared, toNumber, toText, text?, number?_write]

/-- A column of instants stores a written instant. -/
theorem stored_write (t : Instant) : (Cell.ofValue (.time t)).stored .datetime = .text t.write := by
  rw [ofValue, stored, compared_write]
  exact fun _ => DataType.noConfusion

/-- What is stored for a value of the type shows one, unless it is null. -/
theorem held_stored (h : v.Storable t) : Held t ((Cell.ofValue v).stored t) := by
  rcases h with rfl | ⟨htype, hclock, hlegible⟩
  · left
    cases t <;> rfl
  · cases v with
    | null => cases htype
    | bool b =>
      cases htype
      exact .inr ⟨_, .truth b⟩
    | int i =>
      cases htype
      exact .inr ⟨_, .int i⟩
    | text s =>
      cases htype
      exact .inr ⟨_, .text hlegible⟩
    | time t =>
      cases htype
      rw [stored_write]
      exact .inr ⟨_, .time hclock hlegible⟩
    | double d =>
      cases htype
      by_cases hnan : d.isNaN = true
      · left
        rw [ofValue, if_pos hnan]
        rfl
      · right
        rw [ofValue, if_neg hnan]
        rcases stored_real d with h | ⟨i, -, h⟩
        · rw [h]
          exact ⟨_, .real (Bool.eq_false_iff.mpr hnan)⟩
        · rw [h]
          exact ⟨_, .real (Double.isNaN_ofInt i)⟩

-- ---------------------------------------------------------------------------
-- Constants
-- ---------------------------------------------------------------------------

/-- The form in which a constant is compared with the cells of a column of its type. -/
def ofConstant : Value → Cell
  | .double d => ofDouble d
  | w => Cell.ofValue w

theorem compared_ofValue (h : w.Comparable t) : (Cell.ofValue w).compared t = ofConstant w := by
  obtain ⟨htype, hclock, hlegible, hexact⟩ := h
  cases w with
  | null => cases htype
  | bool b =>
    cases htype
    rfl
  | int i =>
    cases htype
    rfl
  | double d =>
    cases htype
    have hnan : ¬d.isNaN = true := Bool.eq_false_iff.mp hexact
    rw [ofValue, if_neg hnan]
    rfl
  | text s =>
    cases htype
    rfl
  | time t =>
    cases htype
    exact compared_write t .datetime

theorem ofConstant_ne_null (h : w.Comparable t) : ofConstant w ≠ .null := by
  cases w with
  | null => cases h.dataType?
  | double d => exact ofDouble_ne_null d
  | bool b => exact Cell.noConfusion
  | int i => exact Cell.noConfusion
  | text s => exact Cell.noConfusion
  | time t => exact Cell.noConfusion

/-- A cell stands beside the form of a constant as its value stands beside the constant. -/
theorem Shows.compare? (h : Shows t cell v) (hw : w.Comparable t) :
    v.compare? w = some (cell.order (ofConstant w)) := by
  obtain ⟨htype, hwClock, hlegible, hexact⟩ := hw
  cases h with
  | int i =>
    cases w <;> cases htype
    exact congrArg some (order_int_int ..).symm
  | @real d h =>
    cases w <;> cases htype
    next d' =>
    have hnan : (d.isNaN || d'.isNaN) = false := by rw [h, hexact]; rfl
    rw [Value.compare?, Double.compare?, if_neg (Bool.eq_false_iff.mp hnan), ofConstant,
      order_real_ofDouble]
  | truth b =>
    cases w <;> cases htype
    next b' =>
    rw [Value.compare?, ofConstant, ofValue, order_int_int]
    · cases b <;> cases b' <;> rfl
    · exact fun d => Value.noConfusion
  | text h =>
    cases w <;> cases htype
    rfl
  | @time s hclock hyear =>
    cases w <;> cases htype
    next s' =>
    have horder := Instant.order_write hclock hwClock hyear hlegible
    rw [Instant.truncated_eq_self hexact] at horder
    exact congrArg some horder.symm

-- ---------------------------------------------------------------------------
-- The empty text
-- ---------------------------------------------------------------------------

theorem compared_empty (t : DataType) : (Cell.text "").compared t = .text "" := by
  cases t <;> rfl

theorem order_text_empty (s : String) : ((Cell.text s).order (.text "") == .eq) = (s == "") := by
  by_cases h : s = ""
  · rw [h]
    rfl
  · obtain ⟨c, cs, hcons⟩ := List.exists_cons_of_ne_nil (mt String.toList_eq_nil_iff.mp h)
    have horder : (Cell.text s).order (.text "") = .gt := by
      rw [order, hcons]
      rfl
    rw [horder, beq_eq_false_iff_ne.mpr h]
    rfl

/-- Only the empty text stands beside the empty text. -/
theorem Reads.order_empty (h : Reads t cell v) :
    (cell.order (.text "") == .eq) = (v.text? == some "") := by
  cases h with
  | int i => rfl
  | real h => rfl
  | truth b => rfl
  | text s => exact order_text_empty s
  | late u => exact order_text_empty u.write
  | time u =>
    rw [order_text_empty, beq_eq_false_iff_ne.mpr u.write_ne_empty]
    rfl

end Cell

end MailMerge
