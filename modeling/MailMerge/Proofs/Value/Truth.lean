import MailMerge.Proofs.Double.Whole
import MailMerge.Proofs.Table.Stored

/-!
# Values read as truth values

A truth value, one and zero as a number, and four words say a truth value. A column of truth
values takes these as what they say, refuses what is no number, and takes every other number for
false.
-/

namespace MailMerge

-- ---------------------------------------------------------------------------
-- The number one as a double
-- ---------------------------------------------------------------------------

namespace Double

theorem natAbs_orderKey (d : Double) : d.orderKey.natAbs = d.magnitude := by
  rw [orderKey]
  split
  · rw [Int.natAbs_neg, Int.natAbs_natCast]
  · rw [Int.natAbs_natCast]

/-- The sign of a double tells the side of zero it is on, unless it is zero. -/
theorem isNegative_eq {d : Double} (hne : d.orderKey ≠ 0) :
    d.isNegative = decide (d.orderKey < 0) := by
  rw [orderKey] at hne ⊢
  cases hsign : d.isNegative with
  | false => exact (decide_eq_false (Int.not_lt.mpr (Int.natCast_nonneg _))).symm
  | true =>
    rw [hsign, if_pos rfl] at hne
    rw [if_pos rfl]
    exact (decide_eq_true (by omega)).symm

/-- Doubles at one position other than zero are the same. -/
theorem eq_of_orderKey {a b : Double} (h : a.orderKey = b.orderKey) (hne : b.orderKey ≠ 0) :
    a = b := by
  have hsign : a.isNegative = b.isNegative := by rw [isNegative_eq (h ▸ hne), isNegative_eq hne, h]
  have hmagnitude : a.magnitude = b.magnitude := by rw [← natAbs_orderKey, h, natAbs_orderKey]
  rw [← ofSign_magnitude a, ← ofSign_magnitude b, hsign, hmagnitude]

theorem compare?_one_iff {d : Double} :
    d.compare? (ofInt 1) = some .eq ↔ d.toInt? = some 1 := by
  have hkey : (ofInt 1).orderKey ≠ 0 := by decide +kernel
  constructor
  · intro h
    rw [compare?] at h
    split at h
    · cases h
    · rw [eq_of_orderKey (compare_eq_iff_eq.mp (Option.some.inj h)) hkey]
      decide +kernel
  · intro h
    have hsigned : d ≠ ofSign true 0 := by
      rintro rfl
      exact absurd h (by decide +kernel)
    rw [← ofInt_of_toInt? h hsigned]
    decide +kernel

end Double

-- ---------------------------------------------------------------------------
-- What says a truth value
-- ---------------------------------------------------------------------------

/-- The words for a truth value. -/
def truthWords : List (String × Bool) :=
  [("1", true), ("true", true), ("0", false), ("false", false)]

namespace Value

/-- An integer, or a double that is a whole number, and the number it is. -/
inductive Counts : Value → Int → Prop
  | int (i : Int64) : Counts (.int i) i.toInt
  | double {d : Double} {n : Int} (h : d.toInt? = some n) : Counts (.double d) n

/-- What says a truth value: the value itself, one and zero, and the words, in any letter case
and with blanks around them. -/
inductive Says : Value → Bool → Prop
  | truth (b : Bool) : Says (.bool b) b
  | one {v : Value} (h : v.Counts 1) : Says v true
  | zero {v : Value} (h : v.Counts 0) : Says v false
  | word {s : String} {b : Bool}
    (h : (String.ofList ((Text.trim s.toList).map Char.toLower), b) ∈ truthWords) : Says (.text s) b

/-- An integer or a double, whole or not, other than zero and one. -/
structure OtherNumber (v : Value) : Prop where
  number : v.dataType? = some .integer ∨ v.dataType? = some .double
  ne_zero : ¬v.Counts 0
  ne_one : ¬v.Counts 1

/-- What a column of truth values takes a value for: the truth value it says, and false where it
is another number. -/
def TakenFor (v : Value) (b : Bool) : Prop := v.Says b ∨ v.OtherNumber ∧ b = false

theorem Counts.unique {v : Value} {m n : Int} (hm : v.Counts m) (hn : v.Counts n) : m = n := by
  cases hm with
  | int i =>
    cases hn
    rfl
  | double h =>
    cases hn with
    | double h' => exact Option.some.inj (h.symm.trans h')

theorem counts_int_iff {i : Int64} {n : Int} : (Value.int i).Counts n ↔ i.toInt = n := by
  constructor
  · rintro ⟨⟩
    rfl
  · rintro rfl
    exact .int i

theorem counts_double_iff {d : Double} {n : Int} :
    (Value.double d).Counts n ↔ d.toInt? = some n := by
  constructor
  · rintro (_ | h)
    exact h
  · exact .double

theorem not_says_null {b : Bool} : ¬Value.null.Says b := by
  rintro (_ | h | h | _) <;> cases h

theorem not_says_time {t : Instant} {b : Bool} : ¬(Value.time t).Says b := by
  rintro (_ | h | h | _) <;> cases h

theorem says_bool_iff {a b : Bool} : (Value.bool a).Says b ↔ a = b := by
  constructor
  · rintro (_ | h | h | _)
    · rfl
    · cases h
    · cases h
  · rintro rfl
    exact .truth a

theorem says_text_iff {s : String} {b : Bool} : (Value.text s).Says b ↔
    (String.ofList ((Text.trim s.toList).map Char.toLower), b) ∈ truthWords := by
  constructor
  · rintro (_ | h | h | h)
    · cases h
    · cases h
    · exact h
  · exact .word

/-- Of a number only one and zero say a truth value. -/
theorem says_number_iff {v : Value} {b : Bool}
    (hv : v.dataType? = some .integer ∨ v.dataType? = some .double) :
    v.Says b ↔ v.Counts (if b then 1 else 0) := by
  constructor
  · rintro (_ | h | h | _)
    · simp [dataType?] at hv
    · exact h
    · exact h
    · simp [dataType?] at hv
  · cases b with
    | false => exact .zero
    | true => exact .one

/-- What is no number is taken for nothing but what it says. -/
theorem takenFor_iff_says {v : Value} {b : Bool} (hinteger : v.dataType? ≠ some .integer)
    (hdouble : v.dataType? ≠ some .double) : v.TakenFor b ↔ v.Says b := by
  refine ⟨?_, .inl⟩
  rintro (h | ⟨h, -⟩)
  · exact h
  · exact (h.number.elim hinteger hdouble).elim

end Value

namespace DataType

theorem booleanOfText?_eq_some_iff {s : String} {b : Bool} :
    booleanOfText? s = some b ↔
      (String.ofList ((Text.trim s.toList).map Char.toLower), b) ∈ truthWords := by
  rw [booleanOfText?, truthWords]
  generalize String.ofList ((Text.trim s.toList).map Char.toLower) = word
  simp only [Bool.or_eq_true, beq_iff_eq, List.mem_cons, List.not_mem_nil, or_false, Prod.mk.injEq]
  split
  · next h => rcases h with rfl | rfl <;> cases b <;> decide
  · next hyes =>
    split
    · next h => rcases h with rfl | rfl <;> cases b <;> decide
    · next hno =>
      rw [not_or] at hyes hno
      simp [hyes, hno]

/-- A number is taken for true if it is one, and else for false. -/
theorem boolean_of_number {v : Value} {one b : Bool}
    (hv : v.dataType? = some .integer ∨ v.dataType? = some .double)
    (hone : one = true ↔ v.Counts 1) : one = b ↔ v.TakenFor b := by
  rw [Value.TakenFor, Value.says_number_iff hv]
  cases b with
  | true => simp [hone]
  | false =>
    rw [Bool.eq_false_iff, Ne, hone]
    constructor
    · intro hne
      by_cases hzero : v.Counts 0
      · exact .inl hzero
      · exact .inr ⟨⟨hv, hzero, hne⟩, rfl⟩
    · rintro (hzero | ⟨hother, -⟩) h
      · exact absurd (hzero.unique h) (by decide)
      · exact hother.ne_one h

/-- Which values a column of truth values takes for which truth value. -/
theorem boolean_eq_some_bool_iff {v : Value} {b : Bool} :
    DataType.boolean.coerce? v = some (.bool b) ↔ v.TakenFor b := by
  cases v with
  | null =>
    rw [Value.takenFor_iff_says (by simp [Value.dataType?]) (by simp [Value.dataType?])]
    exact ⟨fun h => (by cases h), fun h => absurd h Value.not_says_null⟩
  | bool a =>
    rw [Value.takenFor_iff_says (by simp [Value.dataType?]) (by simp [Value.dataType?]),
      Value.says_bool_iff, coerce?, Option.some.injEq, Value.bool.injEq]
  | int i =>
    have hone : (i == 1) = true ↔ (Value.int i).Counts 1 := by
      rw [beq_iff_eq, Value.counts_int_iff, ← Int64.toInt_inj]
      rfl
    rw [← boolean_of_number (.inl rfl) hone, coerce?, Option.some.injEq, Value.bool.injEq]
  | double d =>
    have hone : (d.compare? (.ofInt 1) == some .eq) = true ↔ (Value.double d).Counts 1 := by
      rw [beq_iff_eq, Double.compare?_one_iff, Value.counts_double_iff]
    rw [← boolean_of_number (.inr rfl) hone, coerce?, Option.some.injEq, Value.bool.injEq]
  | text s =>
    rw [Value.takenFor_iff_says (by simp [Value.dataType?]) (by simp [Value.dataType?]),
      Value.says_text_iff, ← booleanOfText?_eq_some_iff]
    simp only [coerce?, Option.map_eq_some_iff, Value.bool.injEq, exists_eq_right]
  | time t =>
    rw [Value.takenFor_iff_says (by simp [Value.dataType?]) (by simp [Value.dataType?])]
    exact ⟨fun h => (by cases h), fun h => absurd h Value.not_says_time⟩

/-- Nothing but truth values comes into a column of truth values. -/
theorem boolean_eq_some_iff {v w : Value} :
    DataType.boolean.coerce? v = some w ↔ ∃ b, w = .bool b ∧ v.TakenFor b := by
  constructor
  · intro h
    have htype := Value.dataType?_of_coerce? h
    cases w with
    | bool b => exact ⟨b, rfl, boolean_eq_some_bool_iff.mp h⟩
    | _ => cases htype
  · rintro ⟨b, rfl, htaken⟩
    exact boolean_eq_some_bool_iff.mpr htaken

end DataType

end MailMerge
