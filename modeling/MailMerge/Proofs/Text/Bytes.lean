import MailMerge.Proofs.Text.Digits

/-!
# The bytes of texts

Texts stand in the order of their UTF-8 bytes: the first byte of a longer character is greater
than that of a shorter one, and the bytes of characters of one length are the digits of their
numbers to the base of 64.
-/

namespace MailMerge

namespace Text

/-- The UTF-8 bytes of a text. -/
def bytes (s : String) : List UInt8 := s.toUTF8.data.toList

theorem bytes_eq (s : String) : bytes s = s.toList.flatMap String.utf8EncodeChar := by
  have hbytes : s.toUTF8 = (String.ofList s.toList).toByteArray := by
    rw [String.ofList_toList, String.toUTF8_eq_toByteArray]
  rw [bytes, hbytes, String.toByteArray_ofList, List.utf8Encode, List.toList_data_toByteArray]

-- ---------------------------------------------------------------------------
-- Single bytes
-- ---------------------------------------------------------------------------

theorem compare_ofNat {m n : Nat} (hm : m < 256) (hn : n < 256) :
    compare (UInt8.ofNat m) (UInt8.ofNat n) = compare m n := by
  have hlt : UInt8.ofNat m < UInt8.ofNat n ↔ m < n := by
    rw [UInt8.lt_iff_toNat_lt, UInt8.toNat_ofNat', UInt8.toNat_ofNat', Nat.mod_eq_of_lt hm,
      Nat.mod_eq_of_lt hn]
  have heq : UInt8.ofNat m = UInt8.ofNat n ↔ m = n := by
    rw [← UInt8.toNat_inj, UInt8.toNat_ofNat', UInt8.toNat_ofNat', Nat.mod_eq_of_lt hm,
      Nat.mod_eq_of_lt hn]
  change compareOfLessAndEq _ _ = compareOfLessAndEq _ _
  simp only [compareOfLessAndEq, hlt, heq]

section

variable {v w x y : Nat} {o o' : Ordering}

theorem then_of_lt (h : x < y) (h' : v < w) : (compare x y).then o = (compare v w).then o' := by
  rw [compare_lt_iff_lt.mpr h, compare_lt_iff_lt.mpr h']
  rfl

theorem then_of_gt (h : y < x) (h' : w < v) : (compare x y).then o = (compare v w).then o' := by
  rw [compare_gt_iff_gt.mpr h, compare_gt_iff_gt.mpr h']
  rfl

/-- A byte that goes on with a character adds a digit to the number. -/
theorem compare_continued (v w : Nat) (o : Ordering) :
    (compare (v / 64) (w / 64)).then ((compare (v % 64 + 128) (w % 64 + 128)).then o)
      = (compare v w).then o := by
  have hdigit : compare (v % 64 + 128) (w % 64 + 128) = compare (v % 64) (w % 64) :=
    compare_eq_compare (by omega) (by omega) (by omega)
  rw [hdigit, ← Ordering.then_assoc, ← compare_div_mod]

end

-- ---------------------------------------------------------------------------
-- Characters and texts
-- ---------------------------------------------------------------------------

theorem compare_utf8EncodeChar_append (c d : Char) (xs ys : List UInt8) :
    compare (String.utf8EncodeChar c ++ xs) (String.utf8EncodeChar d ++ ys)
      = (compare c.toNat d.toNat).then (compare xs ys) := by
  have hvalid : ∀ c : Char, c.toNat < 0x110000 := fun c =>
    c.valid.elim (fun h => Nat.lt_trans h (by decide)) And.right
  have hc := hvalid c
  have hd := hvalid d
  have htwo : ∀ n, n / 4096 = n / 64 / 64 := by omega
  have hthree : ∀ n, n / 262144 = n / 64 / 64 / 64 := by omega
  simp only [String.utf8EncodeChar, ← Char.toNat_val] at hc hd ⊢
  generalize c.val.toNat = v at hc ⊢
  generalize d.val.toNat = w at hd ⊢
  -- Characters of two lengths differ in their first bytes, and three lengths have more than one.
  split_ifs <;> simp only [List.cons_append, List.nil_append, List.compare_cons_cons] <;>
    simp (disch := omega) only [compare_ofNat] <;>
    first
    | exact then_of_lt (by omega) (by omega)
    | exact then_of_gt (by omega) (by omega)
    | skip
  · have hfirst : compare (v / 64 % 32 + 192) (w / 64 % 32 + 192) = compare (v / 64) (w / 64) :=
      compare_eq_compare (by omega) (by omega) (by omega)
    rw [hfirst, compare_continued]
  · have hfirst : compare (v / 4096 % 16 + 224) (w / 4096 % 16 + 224)
        = compare (v / 64 / 64) (w / 64 / 64) :=
      compare_eq_compare (by omega) (by omega) (by omega)
    rw [hfirst, compare_continued, compare_continued]
  · have hfirst : compare (v / 262144 % 8 + 240) (w / 262144 % 8 + 240)
        = compare (v / 64 / 64 / 64) (w / 64 / 64 / 64) :=
      compare_eq_compare (by omega) (by omega) (by omega)
    rw [hfirst, htwo, htwo, compare_continued, compare_continued, compare_continued]

theorem utf8EncodeChar_ne_nil (c : Char) : String.utf8EncodeChar c ≠ [] := by
  intro h
  have hlength := String.length_utf8EncodeChar c
  rw [h] at hlength
  exact absurd hlength (Nat.ne_of_lt c.utf8Size_pos)

/-- Texts stand in the order of their bytes. -/
theorem compare_bytes (s t : String) : compare (bytes s) (bytes t) = order s.toList t.toList := by
  rw [bytes_eq, bytes_eq]
  generalize s.toList = cs
  generalize t.toList = ds
  induction cs generalizing ds with
  | nil =>
    cases ds with
    | nil => rfl
    | cons d ds =>
      obtain ⟨b, bs, hb⟩ := List.exists_cons_of_ne_nil (utf8EncodeChar_ne_nil d)
      rw [List.flatMap_cons, hb]
      rfl
  | cons c cs ih =>
    cases ds with
    | nil =>
      obtain ⟨b, bs, hb⟩ := List.exists_cons_of_ne_nil (utf8EncodeChar_ne_nil c)
      rw [List.flatMap_cons, hb]
      rfl
    | cons d ds =>
      rw [List.flatMap_cons, List.flatMap_cons, compare_utf8EncodeChar_append, ih, order]

end Text

end MailMerge
