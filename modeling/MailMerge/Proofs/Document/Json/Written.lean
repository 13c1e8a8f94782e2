import MailMerge.Proofs.Document.Json.Scalar

/-!
# Written documents

A document without doubles, and without what only block notation has, is read back from its
text if it does not nest deeper than a reader follows.
-/

namespace MailMerge

namespace Document

-- ---------------------------------------------------------------------------
-- Depth
-- ---------------------------------------------------------------------------

mutual

/-- How many lists and records stand around each other at the deepest place. -/
def depth : Document → Nat
  | .scalar _ => 0
  | .plain _ => 0
  | .tagged _ d => depth d
  | .list items => depthItems items + 1
  | .record fields => depthFields fields + 1

def depthItems : List Document → Nat
  | [] => 0
  | d :: ds => max (depth d) (depthItems ds)

def depthFields : List (String × Document) → Nat
  | [] => 0
  | f :: fs => max (depth f.2) (depthFields fs)

end

end Document

-- ---------------------------------------------------------------------------
-- What a text tells apart
-- ---------------------------------------------------------------------------

/-- Whether a scalar is read back as what it is: a whole number of 64 bits, or no number. -/
def Scalar.Exact : Scalar → Prop
  | .int i => -2 ^ 63 ≤ i ∧ i < 2 ^ 64
  | .double _ => False
  | _ => True

instance : DecidablePred Scalar.Exact
  | .int i => inferInstanceAs (Decidable (-2 ^ 63 ≤ i ∧ i < 2 ^ 64))
  | .double _ => isFalse id
  | .null | .bool _ | .text _ => isTrue trivial

namespace Document

mutual

/-- Whether all scalars of a document are read back as what they are. -/
def Exact : Document → Prop
  | .scalar v => v.Exact
  | .plain _ => False
  | .tagged _ _ => False
  | .list items => ExactItems items
  | .record fields => ExactFields fields

def ExactItems : List Document → Prop
  | [] => True
  | d :: ds => Exact d ∧ ExactItems ds

def ExactFields : List (String × Document) → Prop
  | [] => True
  | f :: fs => Exact f.2 ∧ ExactFields fs

end

mutual

def decideExact : (d : Document) → Decidable d.Exact
  | .scalar v => inferInstanceAs (Decidable v.Exact)
  | .plain _ => isFalse id
  | .tagged _ _ => isFalse id
  | .list items => decideExactItems items
  | .record fields => decideExactFields fields

def decideExactItems : (ds : List Document) → Decidable (ExactItems ds)
  | [] => isTrue trivial
  | d :: ds =>
    have := decideExact d
    have := decideExactItems ds
    inferInstanceAs (Decidable (Exact d ∧ ExactItems ds))

def decideExactFields : (fs : List (String × Document)) → Decidable (ExactFields fs)
  | [] => isTrue trivial
  | (_, d) :: fs =>
    have := decideExact d
    have := decideExactFields fs
    inferInstanceAs (Decidable (Exact d ∧ ExactFields fs))

end

instance : DecidablePred Exact := decideExact

end Document

namespace Json

-- ---------------------------------------------------------------------------
-- First characters
-- ---------------------------------------------------------------------------

/-- Whether a text may stand behind a value. -/
def EndsValue (rest : List Char) : Prop := ∀ c ∈ rest.head?, c ∈ [',', ']', '}']

theorem EndsValue.endsNumber {rest : List Char} (h : EndsValue rest) : EndsNumber rest := by
  intro c hc
  have hmem := h c hc
  simp only [List.mem_cons, List.not_mem_nil, or_false] at hmem
  rcases hmem with rfl | rfl | rfl <;> decide

theorem endsValue_cons {c : Char} (hc : c ∈ [',', ']', '}']) (rest : List Char) :
    EndsValue (c :: rest) := by
  rintro _ ⟨⟩
  exact hc

theorem endsValue_writeItems (xs : List Document) (rest : List Char) :
    EndsValue (writeItems xs ++ rest) := by
  cases xs <;> exact endsValue_cons (by decide) _

theorem endsValue_writeFields (fs : List (String × Document)) (rest : List Char) :
    EndsValue (writeFields fs ++ rest) := by
  cases fs <;> exact endsValue_cons (by decide) _

theorem dropSpace_cons {c : Char} (hc : isSpace c = false) (cs : List Char) :
    dropSpace (c :: cs) = c :: cs := by
  rw [dropSpace, List.dropWhile_cons_of_neg (by simp [hc])]

/-- The characters a number starts with. -/
def StartsNumber (c : Char) : Prop := c = '-' ∨ c.isDigit = true

theorem toList_toString_eq_cons (i : Int) :
    ∃ c cs, (toString i).toList = c :: cs ∧ StartsNumber c := by
  by_cases hi : i < 0
  · exact ⟨_, _, toList_toString_of_neg hi, .inl rfl⟩
  · obtain ⟨d, ds, hds⟩ := List.exists_cons_of_ne_nil
      (Nat.toDigits_ne_nil (n := i.natAbs) (b := 10))
    refine ⟨d, ds, (toList_toString_of_nonneg (Int.not_lt.mp hi)).trans hds, .inr ?_⟩
    exact isDigit_toDigits i.natAbs d (hds ▸ List.mem_cons_self)

theorem StartsNumber.not_mem {c : Char} (h : StartsNumber c) :
    c ∉ [' ', '\n', '\t', '\r', '"', '[', ']', '{', 'n', 't', 'f'] := by
  intro hmem
  simp only [List.mem_cons, List.not_mem_nil, or_false] at hmem
  rcases h with rfl | h
  · revert hmem; decide
  · rcases hmem with rfl | rfl | rfl | rfl | rfl | rfl | rfl | rfl | rfl | rfl | rfl <;>
      exact absurd h (by decide)

/-- The first character of a document is no blank and ends no list. -/
theorem writeChars_eq_cons {d : Document} (hd : d.Exact) :
    ∃ c cs, writeChars d = c :: cs ∧ isSpace c = false ∧ c ≠ ']' := by
  match d, hd with
  | .scalar .null, _ => exact ⟨_, _, rfl, by decide, by decide⟩
  | .scalar (.bool true), _ => exact ⟨_, _, rfl, by decide, by decide⟩
  | .scalar (.bool false), _ => exact ⟨_, _, rfl, by decide, by decide⟩
  | .scalar (.int i), _ =>
    obtain ⟨c, cs, hcons, hc⟩ := toList_toString_eq_cons i
    have hnot := hc.not_mem
    simp only [List.mem_cons, List.not_mem_nil, or_false, not_or] at hnot
    exact ⟨c, cs, hcons, by simp [isSpace, hnot], hnot.2.2.2.2.2.2.1⟩
  | .scalar (.text s), _ => exact ⟨_, _, rfl, by decide, by decide⟩
  | .list [], _ => exact ⟨_, _, rfl, by decide, by decide⟩
  | .list (_ :: _), _ => exact ⟨_, _, rfl, by decide, by decide⟩
  | .record [], _ => exact ⟨_, _, rfl, by decide, by decide⟩
  | .record (_ :: _), _ => exact ⟨_, _, rfl, by decide, by decide⟩

theorem dropSpace_written {d : Document} (hd : d.Exact) (rest : List Char) :
    dropSpace (writeChars d ++ rest) = writeChars d ++ rest := by
  obtain ⟨c, cs, hcons, hc, -⟩ := writeChars_eq_cons hd
  rw [hcons, List.cons_append, dropSpace_cons hc]

-- ---------------------------------------------------------------------------
-- Scalars
-- ---------------------------------------------------------------------------

theorem value?_number {c : Char} {cs rest : List Char} {v : Scalar} (hc : StartsNumber c)
    (h : number? (c :: cs) = some (v, rest)) (fuel depth : Nat) :
    value? (fuel + 1) depth (c :: cs) = some (.scalar v, rest) := by
  have hnot := hc.not_mem
  simp only [List.mem_cons, List.not_mem_nil, or_false, not_or] at hnot
  have hspace : isSpace c = false := by simp [isSpace, hnot]
  rw [value?, dropSpace_cons hspace]
  split <;> simp_all

theorem fieldName?_written (name : String) (rest : List Char) :
    fieldName? (writeString name ++ ':' :: rest) = some (name, rest) := by
  have hcolon : dropSpace (':' :: rest) = ':' :: rest := dropSpace_cons (by decide) rest
  rw [writeString, List.cons_append, List.append_assoc, List.singleton_append, fieldName?,
    stringRest?_written]
  simp only [hcolon, String.ofList_toList]

/-- Whether a document is read back from its text, whatever stands behind it. -/
def ReadBack (depth : Nat) (d : Document) : Prop :=
  ∀ fuel rest, 2 * (writeChars d).length ≤ fuel → EndsValue rest →
    value? fuel depth (writeChars d ++ rest) = some (d, rest)

theorem readBack_scalar {v : Scalar} (hv : v.Exact) (depth : Nat) :
    ReadBack depth (.scalar v) := by
  intro fuel rest hfuel hrest
  obtain ⟨c, cs, hcons, -⟩ := writeChars_eq_cons (d := .scalar v) hv
  rw [hcons, List.length_cons] at hfuel
  obtain ⟨fuel, rfl⟩ := Nat.exists_eq_add_of_le' (show 1 ≤ fuel by omega)
  match v, hv with
  | .null, _ => rfl
  | .bool true, _ => rfl
  | .bool false, _ => rfl
  | .int i, ⟨hlow, hhigh⟩ =>
    obtain ⟨c, cs, hcons, hc⟩ := toList_toString_eq_cons i
    have hread := number?_written hlow hhigh hrest.endsNumber
    rw [hcons] at hread
    rw [writeChars, writeScalar, hcons]
    exact value?_number hc hread fuel depth
  | .text s, _ =>
    have hquote : isSpace '"' = false := by decide
    rw [writeChars, writeScalar, writeString, List.cons_append, List.append_assoc,
      List.singleton_append, value?, dropSpace_cons hquote]
    simp only [stringRest?_written, Option.map_some, String.ofList_toList]
    rfl

-- ---------------------------------------------------------------------------
-- Lists and records
-- ---------------------------------------------------------------------------

theorem value?_openList (fuel depth : Nat) {c : Char} {cs : List Char}
    (hspace : dropSpace (c :: cs) = c :: cs) (hc : c ≠ ']') :
    value? (fuel + 1) (depth + 1) ('[' :: c :: cs)
      = (items? fuel depth (c :: cs)).map fun r => (.list r.1, r.2) := by
  have hopen : isSpace '[' = false := by decide
  rw [value?, dropSpace_cons hopen]
  simp [hspace, hc]

theorem value?_openRecord (fuel depth : Nat) (cs : List Char) :
    value? (fuel + 1) (depth + 1) ('{' :: '"' :: cs)
      = (fields? fuel depth ('"' :: cs)).map fun r => (.record r.1, r.2) := by
  have hopen : isSpace '{' = false := by decide
  have hquote : isSpace '"' = false := by decide
  rw [value?, dropSpace_cons hopen]
  simp [dropSpace_cons hquote]

mutual

/-- A document is read back where what is left of the nesting allows it. -/
theorem readBack (d : Document) (hd : d.Exact) {depth : Nat} (hdepth : d.depth ≤ depth) :
    ReadBack depth d := by
  match d, hd with
  | .scalar v, hd => exact readBack_scalar hd depth
  | .list [], _ =>
    intro fuel rest hfuel _
    obtain ⟨depth, rfl⟩ := Nat.exists_eq_add_of_le' hdepth
    obtain ⟨fuel, rfl⟩ := Nat.exists_eq_add_of_le' (Nat.le_of_lt hfuel)
    rfl
  | .list (x :: xs), ⟨hx, hxs⟩ =>
    intro fuel rest hfuel _
    rw [Document.depth, Document.depthItems] at hdepth
    obtain ⟨depth, rfl⟩ := Nat.exists_eq_add_of_le' (show 1 ≤ depth by omega)
    obtain ⟨hdx, hdxs⟩ := Nat.max_le.mp (Nat.le_of_succ_le_succ hdepth)
    rw [writeChars, List.length_cons] at hfuel
    obtain ⟨fuel, rfl⟩ := Nat.exists_eq_add_of_le' (show 1 ≤ fuel by omega)
    have hitems := items?_written xs hxs hdxs (readBack x hx hdx) fuel (by omega) rest
    have hspace := dropSpace_written hx (writeItems xs ++ rest)
    obtain ⟨c, cs, hcons, -, hc⟩ := writeChars_eq_cons hx
    rw [writeChars, List.cons_append, List.append_assoc]
    rw [hcons, List.cons_append] at hitems hspace ⊢
    rw [value?_openList fuel depth hspace hc, hitems]
    rfl
  | .record [], _ =>
    intro fuel rest hfuel _
    obtain ⟨depth, rfl⟩ := Nat.exists_eq_add_of_le' hdepth
    obtain ⟨fuel, rfl⟩ := Nat.exists_eq_add_of_le' (Nat.le_of_lt hfuel)
    rfl
  | .record (f :: fs), ⟨hf, hfs⟩ =>
    intro fuel rest hfuel _
    rw [Document.depth, Document.depthFields] at hdepth
    obtain ⟨depth, rfl⟩ := Nat.exists_eq_add_of_le' (show 1 ≤ depth by omega)
    obtain ⟨hdf, hdfs⟩ := Nat.max_le.mp (Nat.le_of_succ_le_succ hdepth)
    rw [writeChars, List.length_cons, List.length_append, List.length_cons] at hfuel
    obtain ⟨fuel, rfl⟩ := Nat.exists_eq_add_of_le' (show 1 ≤ fuel by omega)
    have hfields := fields?_written fs hfs hdfs f (readBack f.2 hf hdf) fuel (by omega) rest
    rw [writeChars, List.cons_append, List.append_assoc, List.cons_append, List.append_assoc]
    rw [writeString, List.cons_append] at hfields ⊢
    rw [value?_openRecord fuel depth, hfields]
    rfl

/-- Items behind one that is read back. -/
theorem items?_written (xs : List Document) (hxs : Document.ExactItems xs) {depth : Nat}
    (hdepth : Document.depthItems xs ≤ depth) {x : Document} (hx : ReadBack depth x)
    (fuel : Nat) (hfuel : 2 * (writeChars x ++ writeItems xs).length < fuel) (rest : List Char) :
    items? fuel depth (writeChars x ++ (writeItems xs ++ rest)) = some (x :: xs, rest) := by
  obtain ⟨fuel, rfl⟩ := Nat.exists_eq_add_of_le' (show 1 ≤ fuel by omega)
  rw [List.length_append] at hfuel
  rw [items?, hx fuel _ (by omega) (endsValue_writeItems xs rest)]
  match xs, hxs with
  | [], _ =>
    have hbracket : dropSpace (']' :: rest) = ']' :: rest := dropSpace_cons (by decide) rest
    simp only [writeItems, List.singleton_append, hbracket]
  | y :: ys, ⟨hy, hys⟩ =>
    rw [Document.depthItems, Nat.max_le] at hdepth
    rw [writeItems, List.length_cons] at hfuel
    have hrest := items?_written ys hys hdepth.2 (readBack y hy hdepth.1) fuel (by omega) rest
    have hcomma : ∀ cs, dropSpace (',' :: cs) = ',' :: cs := dropSpace_cons (by decide)
    simp only [writeItems, List.cons_append, List.append_assoc, hcomma, hrest, Option.map_some]

/-- Fields behind one whose document is read back. -/
theorem fields?_written (fs : List (String × Document)) (hfs : Document.ExactFields fs)
    {depth : Nat} (hdepth : Document.depthFields fs ≤ depth) (f : String × Document)
    (hf : ReadBack depth f.2) (fuel : Nat)
    (hfuel : 2 * (writeChars f.2 ++ writeFields fs).length < fuel) (rest : List Char) :
    fields? fuel depth (writeString f.1 ++ ':' :: (writeChars f.2 ++ (writeFields fs ++ rest)))
      = some (f :: fs, rest) := by
  obtain ⟨fuel, rfl⟩ := Nat.exists_eq_add_of_le' (show 1 ≤ fuel by omega)
  rw [List.length_append] at hfuel
  have hquote : ∀ cs, dropSpace (writeString f.1 ++ cs) = writeString f.1 ++ cs :=
    fun cs => dropSpace_cons (by decide) _
  rw [fields?, hquote, fieldName?_written]
  simp only [hf fuel _ (by omega) (endsValue_writeFields fs rest)]
  match fs, hfs with
  | [], _ =>
    have hbrace : dropSpace ('}' :: rest) = '}' :: rest := dropSpace_cons (by decide) rest
    simp only [writeFields, List.singleton_append, hbrace]
  | g :: gs, ⟨hg, hgs⟩ =>
    rw [Document.depthFields, Nat.max_le] at hdepth
    rw [writeFields, List.length_cons, List.length_append, List.length_cons] at hfuel
    have hrest := fields?_written gs hgs hdepth.2 g (readBack g.2 hg hdepth.1) fuel (by omega) rest
    have hcomma : ∀ cs, dropSpace (',' :: cs) = ',' :: cs := dropSpace_cons (by decide)
    simp only [writeFields, List.cons_append, List.append_assoc, hcomma, hrest, Option.map_some]

end

/-- A document is read back from its text. -/
theorem read?_write {d : Document} (hd : d.Exact) (hdepth : d.depth ≤ maxDepth) :
    read? (write d) = some d := by
  have hfuel : 2 * (writeChars d).length ≤ 2 * (writeChars d).length + 2 := by omega
  have hread := readBack d hd hdepth _ [] hfuel fun c hc => by cases hc
  rw [List.append_nil] at hread
  rw [read?, write, String.toList_ofList]
  simp only [hread]
  rfl

end Json

end MailMerge
