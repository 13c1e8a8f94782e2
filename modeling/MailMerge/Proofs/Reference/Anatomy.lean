import MailMerge.Proofs.Letter.Scanning

/-!
# The parts of a reference

The search for a reference takes a text apart: `Opens` and `Closes` say what may stand before
and behind a name, and the parts found are exactly those.
-/

namespace MailMerge

namespace Reference

variable {m k : Markup} {a b r cs : List Char}

-- ---------------------------------------------------------------------------
-- Behind a name
-- ---------------------------------------------------------------------------

/-- All characters of a text are blank. -/
def Blank (cs : List Char) : Prop := ∀ c ∈ cs, isBlank c = true

theorem Blank.takeWhile_append (h : Blank b) (hr : ∀ c ∈ r.head?, isBlank c = false) :
    (b ++ r).takeWhile isBlank = b := by
  rw [List.takeWhile_append_of_pos h]
  cases r with
  | nil => simp
  | cons c r => simp [hr c rfl]

theorem Blank.dropWhile_append (h : Blank b) (hr : ∀ c ∈ r.head?, isBlank c = false) :
    (b ++ r).dropWhile isBlank = r := by
  rw [List.dropWhile_append_of_pos h]
  cases r with
  | nil => rfl
  | cons c r => simp [hr c rfl]

theorem blank_takeWhile (cs : List Char) : Blank (cs.takeWhile isBlank) :=
  fun _ hc => List.mem_takeWhile_imp hc

theorem head?_dropWhile_isBlank (cs : List Char) :
    ∀ c ∈ (cs.dropWhile isBlank).head?, isBlank c = false := by
  intro c hc
  have hnot := List.head?_dropWhile_not isBlank cs
  rw [Option.mem_def.mp hc] at hnot
  simpa using hnot

namespace Markup

/-- What may stand behind a name: blanks and the delimiter. -/
def Closes (m : Markup) (a : List Char) : Prop := ∃ bs, Blank bs ∧ a = bs ++ m.closing

theorem head?_closing_append (m : Markup) (r : List Char) :
    ∀ c ∈ (m.closing ++ r).head?, isBlank c = false := by
  cases m <;> simp [closing] <;> rfl

theorem close?_append (h : m.Closes a) (r : List Char) : m.close? (a ++ r) = some (a, r) := by
  obtain ⟨bs, hbs, rfl⟩ := h
  have htake := hbs.takeWhile_append (m.head?_closing_append r)
  have hdrop := hbs.dropWhile_append (m.head?_closing_append r)
  rw [List.append_assoc, close?, spanBlank_eq, htake, hdrop]
  cases m <;> rfl

theorem close?_eq_some (h : m.close? cs = some (a, r)) : m.Closes a ∧ cs = a ++ r := by
  have hcs : cs.takeWhile isBlank ++ cs.dropWhile isBlank = cs := List.takeWhile_append_dropWhile
  have hparts : a = cs.takeWhile isBlank ++ m.closing ∧ cs.dropWhile isBlank = m.closing ++ r := by
    simp only [close?, spanBlank_eq] at h
    split at h
    · next hrest =>
      obtain ⟨rfl, rfl⟩ := Prod.mk.inj (Option.some.inj h)
      exact ⟨rfl, hrest⟩
    · next hrest =>
      obtain ⟨rfl, rfl⟩ := Prod.mk.inj (Option.some.inj h)
      exact ⟨rfl, hrest⟩
    · cases h
  obtain ⟨rfl, hrest⟩ := hparts
  refine ⟨⟨_, blank_takeWhile cs, rfl⟩, ?_⟩
  rw [List.append_assoc, ← hrest, hcs]

/-- No delimiter of one kind stands where one of another kind does. -/
theorem close?_eq_none_of_ne (hk : k ≠ m) (h : (k.close? cs).isSome) : m.close? cs = none := by
  obtain ⟨⟨a, r⟩, ha⟩ := Option.isSome_iff_exists.mp h
  obtain ⟨⟨bs, hbs, rfl⟩, rfl⟩ := close?_eq_some ha
  have hdrop := hbs.dropWhile_append (k.head?_closing_append r)
  rw [List.append_assoc, close?, spanBlank_eq, hdrop]
  cases k <;> cases m <;> first | rfl | exact absurd rfl hk

-- ---------------------------------------------------------------------------
-- In front of a name
-- ---------------------------------------------------------------------------

/-- What may stand in front of a name: the delimiter and blanks, with the keyword of a condition
between them. -/
inductive Opens : Markup → List Char → Prop where
  | reference {bs : List Char} (hbs : Blank bs) : Opens .variable ('{' :: '{' :: bs)
  | condition {bs keyword bs' : List Char} (hbs : Blank bs) (hk : keyword ∈ keywords)
      (hbs' : Blank bs') (hne : bs' ≠ []) :
      Opens .condition ('{' :: '%' :: (bs ++ (keyword ++ bs')))

theorem Opens.ne_nil (h : m.Opens b) : b ≠ [] := by
  cases h <;> exact List.cons_ne_nil _ _

theorem keyword?_append {keyword bs : List Char} (hk : keyword ∈ keywords) (hbs : Blank bs)
    (hne : bs ≠ []) (hr : ∀ c ∈ r.head?, isBlank c = false) :
    keyword? (keyword ++ (bs ++ r)) = some (keyword ++ bs, r) := by
  have hempty : bs.isEmpty = false := by simpa using hne
  simp only [keywords, List.mem_cons, List.not_mem_nil, or_false] at hk
  rcases hk with rfl | rfl <;>
    simp [keyword?, spanBlank_eq, hbs.takeWhile_append hr, hbs.dropWhile_append hr, hempty]

theorem keyword?_eq_some (h : keyword? cs = some (b, r)) :
    ∃ keyword bs, keyword ∈ keywords ∧ Blank bs ∧ bs ≠ [] ∧ b = keyword ++ bs ∧ cs = b ++ r ∧
      ∀ c ∈ r.head?, isBlank c = false := by
  have hsplit : ∃ keyword rest, keyword ∈ keywords ∧ cs = keyword ++ rest ∧
      (rest.takeWhile isBlank).isEmpty = false ∧ b = keyword ++ rest.takeWhile isBlank ∧
      r = rest.dropWhile isBlank := by
    simp only [keyword?, spanBlank_eq] at h
    split at h
    · next rest =>
      split at h
      · cases h
      · next hne =>
        obtain ⟨rfl, rfl⟩ := Prod.mk.inj (Option.some.inj h)
        exact ⟨['e', 'l', 'i', 'f'], rest, by decide, rfl, by simpa using hne, rfl, rfl⟩
    · next rest =>
      split at h
      · cases h
      · next hne =>
        obtain ⟨rfl, rfl⟩ := Prod.mk.inj (Option.some.inj h)
        exact ⟨['i', 'f'], rest, by decide, rfl, by simpa using hne, rfl, rfl⟩
    · cases h
  obtain ⟨keyword, rest, hk, rfl, hne, rfl, rfl⟩ := hsplit
  refine ⟨keyword, _, hk, blank_takeWhile rest, ?_, rfl, ?_, head?_dropWhile_isBlank rest⟩
  · intro hnil
    rw [hnil] at hne
    cases hne
  · rw [List.append_assoc, List.takeWhile_append_dropWhile]

theorem open?_append (h : m.Opens b) (hr : ∀ c ∈ r.head?, isBlank c = false) :
    m.open? (b ++ r) = some (b, r) := by
  cases h with
  | reference hbs =>
    simp only [List.cons_append, open?, spanBlank_eq, hbs.takeWhile_append hr,
      hbs.dropWhile_append hr]
  | @condition bs keyword bs' hbs hk hbs' hne =>
    have hhead : ∀ c ∈ (keyword ++ (bs' ++ r)).head?, isBlank c = false := by
      simp only [keywords, List.mem_cons, List.not_mem_nil, or_false] at hk
      rcases hk with rfl | rfl <;> simp <;> rfl
    simp only [List.cons_append, List.append_assoc, open?, spanBlank_eq,
      hbs.takeWhile_append hhead, hbs.dropWhile_append hhead, keyword?_append hk hbs' hne hr,
      Option.map_some]

theorem open?_eq_some (h : m.open? cs = some (b, r)) :
    m.Opens b ∧ cs = b ++ r ∧ ∀ c ∈ r.head?, isBlank c = false := by
  simp only [open?, spanBlank_eq] at h
  split at h
  · next rest =>
    obtain ⟨rfl, rfl⟩ := Prod.mk.inj (Option.some.inj h)
    refine ⟨.reference (blank_takeWhile rest), ?_, head?_dropWhile_isBlank rest⟩
    rw [List.cons_append, List.cons_append, List.takeWhile_append_dropWhile]
  · next rest =>
    obtain ⟨⟨b', r'⟩, hkeyword, hb⟩ := Option.map_eq_some_iff.mp h
    obtain ⟨rfl, rfl⟩ := Prod.mk.inj hb
    obtain ⟨keyword, bs, hk, hbs, hne, rfl, hrest, hr⟩ := keyword?_eq_some hkeyword
    refine ⟨.condition (blank_takeWhile rest) hk hbs hne, ?_, hr⟩
    have hsplit : rest = rest.takeWhile isBlank ++ (keyword ++ bs ++ r') := by
      rw [← hrest, List.takeWhile_append_dropWhile]
    conv_lhs => rw [hsplit]
    simp
  · cases h

-- ---------------------------------------------------------------------------
-- The name
-- ---------------------------------------------------------------------------

/-- What a search for the end of a name finds. -/
structure Found (m : Markup) (cs x a r : List Char) : Prop where
  split : cs = x ++ (a ++ r)
  closes : m.Closes a
  ne_nil : x ≠ []
  last : ∀ c ∈ x.getLast?, isBlank c = false

theorem extend?_eq_some {x : List Char} (h : m.extend? cs = some (x, a, r)) :
    m.Found cs x a r := by
  induction cs generalizing x with
  | nil => cases h
  | cons c cs ih =>
    rw [extend?] at h
    split at h
    · next after rest hclose =>
      split at hclose
      · cases hclose
      · next hc =>
        obtain ⟨rfl, hrest⟩ := Prod.mk.inj (Option.some.inj h)
        obtain ⟨rfl, rfl⟩ := Prod.mk.inj hrest
        obtain ⟨hcloses, rfl⟩ := close?_eq_some hclose
        exact ⟨rfl, hcloses, List.cons_ne_nil _ _, by simpa using hc⟩
    · split at h
      · cases h
      · obtain ⟨⟨y, q⟩, hy, hx⟩ := Option.map_eq_some_iff.mp h
        obtain ⟨rfl, rfl⟩ := Prod.mk.inj hx
        have hfound := ih hy
        refine ⟨?_, hfound.closes, List.cons_ne_nil _ _, ?_⟩
        · rw [List.cons_append, ← hfound.split]
        · obtain ⟨d, more, rfl⟩ := List.exists_cons_of_ne_nil hfound.ne_nil
          rw [List.getLast?_cons_cons]
          exact hfound.last

theorem named?_eq_some {x : List Char} (h : m.named? cs = some (x, a, r)) :
    m.Found cs x a r ∧ (∀ c ∈ x.head?, isBlank c = false) ∧
      (2 ≤ x.length ∨ m.extend? (a ++ r) = none) := by
  cases cs with
  | nil => cases h
  | cons c cs =>
    rw [named?] at h
    split at h
    · cases h
    · next hstart =>
      have hc : isBlank c = false := by
        cases m <;> simp [mayStart] at hstart <;> simp [hstart]
      split at h
      · next more after rest hextend =>
        obtain ⟨rfl, hrest⟩ := Prod.mk.inj (Option.some.inj h)
        obtain ⟨rfl, rfl⟩ := Prod.mk.inj hrest
        obtain ⟨rfl, hcloses, hne, hlast⟩ := extend?_eq_some hextend
        obtain ⟨d, more, rfl⟩ := List.exists_cons_of_ne_nil hne
        refine ⟨⟨rfl, hcloses, List.cons_ne_nil _ _, ?_⟩, by simpa using hc, .inl (by simp)⟩
        rwa [List.getLast?_cons_cons]
      · next hextend =>
        obtain ⟨⟨after, rest⟩, hclose, hx⟩ := Option.map_eq_some_iff.mp h
        obtain ⟨rfl, hrest⟩ := Prod.mk.inj hx
        obtain ⟨rfl, rfl⟩ := Prod.mk.inj hrest
        obtain ⟨hcloses, rfl⟩ := close?_eq_some hclose
        exact ⟨⟨rfl, hcloses, List.cons_ne_nil _ _, by simpa using hc⟩, by simpa using hc,
          .inr hextend⟩

theorem site?_eq_some {x : List Char} (h : m.site? cs = some (b, x, a)) :
    ∃ rest r, m.Opens b ∧ cs = b ++ rest ∧ m.named? rest = some (x, a, r) := by
  rw [site?_eq_named?] at h
  obtain ⟨⟨b', rest⟩, hopen, h⟩ := Option.bind_eq_some_iff.mp h
  obtain ⟨⟨x', a', r⟩, hnamed, h⟩ := Option.map_eq_some_iff.mp h
  obtain ⟨rfl, hrest⟩ := Prod.mk.inj h
  obtain ⟨rfl, rfl⟩ := Prod.mk.inj hrest
  obtain ⟨hopens, hcs, -⟩ := open?_eq_some hopen
  exact ⟨rest, r, hopens, hcs, hnamed⟩

theorem site?_append {x rest : List Char} (hb : m.Opens b)
    (h : m.named? rest = some (x, a, r)) : m.site? (b ++ rest) = some (b, x, a) := by
  obtain ⟨hfound, hfirst, -⟩ := named?_eq_some h
  have hhead : ∀ c ∈ rest.head?, isBlank c = false := by
    obtain ⟨c, more, rfl⟩ := List.exists_cons_of_ne_nil hfound.ne_nil
    rw [hfound.split]
    exact hfirst
  rw [site?_eq_named?, open?_append hb hhead, Option.bind_some, h]
  rfl

theorem extend?_cons_of_not_close {c : Char} (h : isBlank c = true ∨ m.close? cs = none) :
    m.extend? (c :: cs) =
      if c == '\n' then none else (m.extend? cs).map fun r => (c :: r.1, r.2) := by
  have hnone : (if isBlank c then none else m.close? cs) = none := by
    rcases h with h | h <;> simp [h]
  rw [extend?, hnone]

theorem extend?_cons_of_close {c : Char} (hc : isBlank c = false)
    (h : m.close? cs = some (a, r)) : m.extend? (c :: cs) = some ([c], a, r) := by
  simp [extend?, hc, h]

end Markup

end Reference

end MailMerge
