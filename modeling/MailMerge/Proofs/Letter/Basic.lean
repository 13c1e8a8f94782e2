import MailMerge.Template.Render

/-!
# Letters

The part of the template language that a mail merge is written in: text, references to
names, and conditions on names with what stands in their place where they do not hold. A
letter is a tree; `Letter.source` is the template it is written as. What a letter says is
read off the tree alone (`Letter.written`), without any tokens, identifiers or frames.
-/

namespace MailMerge

-- ---------------------------------------------------------------------------
-- Plain names
-- ---------------------------------------------------------------------------

namespace Name

/-- The characters that end a line or stand next to a name in markup. -/
def separators : List Char := ['\n', '{', '}', '%']

/-- The words that do not name anything in a template. -/
def engineWords : List String := ["true", "True", "false", "False", "none", "None", "not"]

/-- A name that stands in a template as it is. -/
structure Plain (n : String) : Prop where
  long : 2 ≤ n.toList.length
  inner : ∀ c ∈ n.toList, c ∉ separators
  first : ∀ c ∈ n.toList.head?, isBlank c = false
  last : ∀ c ∈ n.toList.getLast?, isBlank c = false
  unquoted : isQuoted n.toList = false
  unreserved : Render.isReserved n = false
  unspoken : n ∉ engineWords

theorem plain_iff (n : String) :
    Plain n ↔ 2 ≤ n.toList.length ∧ (∀ c ∈ n.toList, c ∉ separators) ∧
      (∀ c ∈ n.toList.head?, isBlank c = false) ∧ (∀ c ∈ n.toList.getLast?, isBlank c = false) ∧
      isQuoted n.toList = false ∧ Render.isReserved n = false ∧ n ∉ engineWords :=
  ⟨fun ⟨h₁, h₂, h₃, h₄, h₅, h₆, h₇⟩ => ⟨h₁, h₂, h₃, h₄, h₅, h₆, h₇⟩,
    fun ⟨h₁, h₂, h₃, h₄, h₅, h₆, h₇⟩ => ⟨h₁, h₂, h₃, h₄, h₅, h₆, h₇⟩⟩

instance (n : String) : Decidable (Plain n) := decidable_of_iff _ (plain_iff n).symm

/-- A name, of any length, that can be told from the markup around it. -/
structure Inline (n : String) : Prop where
  nonempty : n.toList ≠ []
  inner : ∀ c ∈ n.toList, c ∉ separators
  first : ∀ c ∈ n.toList.head?, isBlank c = false
  last : ∀ c ∈ n.toList.getLast?, isBlank c = false

instance (n : String) : Decidable (Inline n) :=
  decidable_of_iff (n.toList ≠ [] ∧ (∀ c ∈ n.toList, c ∉ separators) ∧
      (∀ c ∈ n.toList.head?, isBlank c = false) ∧ ∀ c ∈ n.toList.getLast?, isBlank c = false)
    ⟨fun ⟨h₁, h₂, h₃, h₄⟩ => ⟨h₁, h₂, h₃, h₄⟩, fun ⟨h₁, h₂, h₃, h₄⟩ => ⟨h₁, h₂, h₃, h₄⟩⟩

theorem Inline.not_mem {n : String} (h : Inline n) {c : Char} (hc : c ∈ separators) :
    c ∉ n.toList := fun hmem => h.inner c hmem hc

theorem Plain.inline {n : String} (h : Plain n) : Inline n where
  nonempty hnil := by
    have hlong := h.long
    rw [hnil] at hlong
    exact absurd hlong (by decide)
  inner := h.inner
  first := h.first
  last := h.last

/-- A name that refers to something in the row of a letter, unless it is a word of the engine. -/
structure Ordinary (n : String) : Prop where
  inline : Inline n
  long : 2 ≤ n.toList.length
  unquoted : isQuoted n.toList = false
  unreserved : Render.isReserved n = false

instance (n : String) : Decidable (Ordinary n) :=
  decidable_of_iff (Inline n ∧ 2 ≤ n.toList.length ∧ isQuoted n.toList = false ∧
      Render.isReserved n = false)
    ⟨fun ⟨h₁, h₂, h₃, h₄⟩ => ⟨h₁, h₂, h₃, h₄⟩, fun ⟨h₁, h₂, h₃, h₄⟩ => ⟨h₁, h₂, h₃, h₄⟩⟩

theorem Plain.ordinary {n : String} (h : Plain n) : Ordinary n :=
  ⟨h.inline, h.long, h.unquoted, h.unreserved⟩

end Name

-- ---------------------------------------------------------------------------
-- Trees
-- ---------------------------------------------------------------------------

mutual

/-- Text, references and conditions, one after the other. -/
inductive Letter where
  | done
  | char (c : Char) (rest : Letter)
  | reference (name : String) (rest : Letter)
  | condition (name : String) (yes : Letter) (no : Otherwise) (rest : Letter)

/-- What stands in the place of a text whose condition does not hold. -/
inductive Otherwise where
  | nothing
  | always (no : Letter)
  | onlyIf (name : String) (yes : Letter) (no : Otherwise)

end

namespace Letter

/-- The markup of a reference. -/
def referenceSource (name : List Char) : List Char :=
  '{' :: '{' :: ' ' :: (name ++ [' ', '}', '}'])

/-- The markup of a statement. -/
def statementSource (words : List Char) : List Char :=
  '{' :: '%' :: ' ' :: (words ++ [' ', '%', '}'])

/-- A text without anything else. -/
def ofText (s : String) (rest : Letter) : Letter := s.toList.foldr char rest

end Letter

mutual

/-- The template a letter is written as. -/
def Letter.source : Letter → List Char
  | .done => []
  | .char c rest => c :: rest.source
  | .reference name rest => Letter.referenceSource name.toList ++ rest.source
  | .condition name yes no rest =>
    Letter.statementSource ('i' :: 'f' :: ' ' :: name.toList) ++
      (yes.source ++ (no.source ++ rest.source))

/-- The markup from the end of one text of a condition to the end of the condition. -/
def Otherwise.source : Otherwise → List Char
  | .nothing => Letter.statementSource ['e', 'n', 'd', 'i', 'f']
  | .always no =>
    Letter.statementSource ['e', 'l', 's', 'e'] ++
      (no.source ++ Letter.statementSource ['e', 'n', 'd', 'i', 'f'])
  | .onlyIf name yes no =>
    Letter.statementSource ('e' :: 'l' :: 'i' :: 'f' :: ' ' :: name.toList) ++
      (yes.source ++ no.source)

end

/-- The template a letter is written as. -/
def Letter.text (l : Letter) : String := String.ofList l.source

mutual

/-- How deep conditions stand inside conditions. -/
def Letter.nesting : Letter → Nat
  | .done => 0
  | .char _ rest => rest.nesting
  | .reference _ rest => rest.nesting
  | .condition _ yes no rest => max (max yes.nesting no.nesting + 1) rest.nesting

def Otherwise.nesting : Otherwise → Nat
  | .nothing => 0
  | .always no => no.nesting
  | .onlyIf _ yes no => max yes.nesting no.nesting

end

mutual

/-- What holds of a letter whose references and conditions are to names of certain kinds.
No text of a letter opens markup. -/
def Letter.All (p q : String → Prop) : Letter → Prop
  | .done => True
  | .char c rest => c ≠ '{' ∧ rest.All p q
  | .reference name rest => p name ∧ rest.All p q
  | .condition name yes no rest => q name ∧ yes.All p q ∧ no.All p q ∧ rest.All p q

def Otherwise.All (p q : String → Prop) : Otherwise → Prop
  | .nothing => True
  | .always no => no.All p q
  | .onlyIf name yes no => q name ∧ yes.All p q ∧ no.All p q

end

mutual

def Letter.decideAll (p q : String → Prop) [DecidablePred p] [DecidablePred q] :
    (l : Letter) → Decidable (l.All p q)
  | .done => .isTrue trivial
  | .char c rest =>
    have := rest.decideAll p q
    inferInstanceAs (Decidable (c ≠ '{' ∧ rest.All p q))
  | .reference name rest =>
    have := rest.decideAll p q
    inferInstanceAs (Decidable (p name ∧ rest.All p q))
  | .condition name yes no rest =>
    have := yes.decideAll p q
    have := no.decideAll p q
    have := rest.decideAll p q
    inferInstanceAs (Decidable (q name ∧ yes.All p q ∧ no.All p q ∧ rest.All p q))

def Otherwise.decideAll (p q : String → Prop) [DecidablePred p] [DecidablePred q] :
    (o : Otherwise) → Decidable (o.All p q)
  | .nothing => .isTrue trivial
  | .always no => no.decideAll p q
  | .onlyIf name yes no =>
    have := yes.decideAll p q
    have := no.decideAll p q
    inferInstanceAs (Decidable (q name ∧ yes.All p q ∧ no.All p q))

end

instance (p q : String → Prop) [DecidablePred p] [DecidablePred q] (l : Letter) :
    Decidable (l.All p q) := l.decideAll p q

mutual

/-- A letter with the names of its references replaced, and those of its conditions. -/
def Letter.mapNames (f g : String → String) : Letter → Letter
  | .done => .done
  | .char c rest => .char c (rest.mapNames f g)
  | .reference name rest => .reference (f name) (rest.mapNames f g)
  | .condition name yes no rest =>
    .condition (g name) (yes.mapNames f g) (no.mapNames f g) (rest.mapNames f g)

def Otherwise.mapNames (f g : String → String) : Otherwise → Otherwise
  | .nothing => .nothing
  | .always no => .always (no.mapNames f g)
  | .onlyIf name yes no => .onlyIf (g name) (yes.mapNames f g) (no.mapNames f g)

end

mutual

theorem Letter.All.imp {p p' q q' : String → Prop} (hp : ∀ n, p n → p' n)
    (hq : ∀ n, q n → q' n) (l : Letter) (h : l.All p q) : l.All p' q' := by
  match l, h with
  | .done, _ => exact trivial
  | .char _ l, ⟨hc, hl⟩ => exact ⟨hc, Letter.All.imp hp hq l hl⟩
  | .reference _ l, ⟨hn, hl⟩ => exact ⟨hp _ hn, Letter.All.imp hp hq l hl⟩
  | .condition _ yes no l, ⟨hn, hyes, hno, hl⟩ =>
    exact ⟨hq _ hn, Letter.All.imp hp hq yes hyes, Otherwise.All.imp hp hq no hno,
      Letter.All.imp hp hq l hl⟩

theorem Otherwise.All.imp {p p' q q' : String → Prop} (hp : ∀ n, p n → p' n)
    (hq : ∀ n, q n → q' n) (o : Otherwise) (h : o.All p q) : o.All p' q' := by
  match o, h with
  | .nothing, _ => exact trivial
  | .always no, hno => exact Letter.All.imp hp hq no hno
  | .onlyIf _ yes no, ⟨hn, hyes, hno⟩ =>
    exact ⟨hq _ hn, Letter.All.imp hp hq yes hyes, Otherwise.All.imp hp hq no hno⟩

end

mutual

theorem Letter.All.mapNames {p q : String → Prop} {f g : String → String} (l : Letter)
    (h : l.All (fun n => p (f n)) (fun n => q (g n))) : (l.mapNames f g).All p q := by
  match l, h with
  | .done, _ => exact trivial
  | .char _ l, ⟨hc, hl⟩ => exact ⟨hc, Letter.All.mapNames l hl⟩
  | .reference _ l, ⟨hn, hl⟩ => exact ⟨hn, Letter.All.mapNames l hl⟩
  | .condition _ yes no l, ⟨hn, hyes, hno, hl⟩ =>
    exact ⟨hn, Letter.All.mapNames yes hyes, Otherwise.All.mapNames no hno,
      Letter.All.mapNames l hl⟩

theorem Otherwise.All.mapNames {p q : String → Prop} {f g : String → String} (o : Otherwise)
    (h : o.All (fun n => p (f n)) (fun n => q (g n))) : (o.mapNames f g).All p q := by
  match o, h with
  | .nothing, _ => exact trivial
  | .always no, hno => exact Letter.All.mapNames no hno
  | .onlyIf _ yes no, ⟨hn, hyes, hno⟩ =>
    exact ⟨hn, Letter.All.mapNames yes hyes, Otherwise.All.mapNames no hno⟩

end

mutual

theorem Letter.mapNames_id (l : Letter) : l.mapNames id id = l := by
  match l with
  | .done => rfl
  | .char _ l => simp only [Letter.mapNames, l.mapNames_id]
  | .reference _ l => simp only [Letter.mapNames, l.mapNames_id, id]
  | .condition _ yes no l =>
    simp only [Letter.mapNames, yes.mapNames_id, no.mapNames_id, l.mapNames_id, id]

theorem Otherwise.mapNames_id (o : Otherwise) : o.mapNames id id = o := by
  match o with
  | .nothing => rfl
  | .always no => simp only [Otherwise.mapNames, no.mapNames_id]
  | .onlyIf _ yes no => simp only [Otherwise.mapNames, yes.mapNames_id, no.mapNames_id, id]

end

mutual

theorem Letter.mapNames_mapNames (f g f' g' : String → String) (l : Letter) :
    (l.mapNames f g).mapNames f' g' = l.mapNames (f' ∘ f) (g' ∘ g) := by
  match l with
  | .done => rfl
  | .char _ l => simp only [Letter.mapNames, l.mapNames_mapNames]
  | .reference _ l => simp only [Letter.mapNames, l.mapNames_mapNames, Function.comp_apply]
  | .condition _ yes no l =>
    simp only [Letter.mapNames, yes.mapNames_mapNames, no.mapNames_mapNames, l.mapNames_mapNames,
      Function.comp_apply]

theorem Otherwise.mapNames_mapNames (f g f' g' : String → String) (o : Otherwise) :
    (o.mapNames f g).mapNames f' g' = o.mapNames (f' ∘ f) (g' ∘ g) := by
  match o with
  | .nothing => rfl
  | .always no => simp only [Otherwise.mapNames, no.mapNames_mapNames]
  | .onlyIf _ yes no =>
    simp only [Otherwise.mapNames, yes.mapNames_mapNames, no.mapNames_mapNames,
      Function.comp_apply]

end

theorem Letter.All.ordinary {l : Letter} (h : l.All Name.Plain Name.Plain) :
    l.All Name.Ordinary Name.Ordinary :=
  Letter.All.imp (fun _ hn => hn.ordinary) (fun _ hn => hn.ordinary) l h

-- ---------------------------------------------------------------------------
-- The end of a letter
-- ---------------------------------------------------------------------------

/-- A text without a character at its end, if that is there. -/
def Text.dropLast (c : Char) (cs : List Char) : List Char :=
  if cs.getLast? == some c then cs.dropLast else cs

theorem Text.dropLast_append {c : Char} {cs ds : List Char}
    (h : ds ≠ [] ∨ cs.getLast? ≠ some c) : dropLast c (cs ++ ds) = cs ++ dropLast c ds := by
  cases ds with
  | nil =>
    have hlast : cs.getLast? ≠ some c := h.resolve_left (fun hne => hne rfl)
    simp [dropLast, hlast]
  | cons d ds =>
    have hlast : (cs ++ d :: ds).getLast? = (d :: ds).getLast? := by
      rw [List.getLast?_append, List.getLast?_cons]
      rfl
    simp only [dropLast, hlast, List.dropLast_append_cons]
    split <;> rfl

namespace Letter

/-- A letter without a character of text at its end, if that is there. -/
def dropLast (c : Char) : Letter → Letter
  | .done => .done
  | .char d .done => if d = c then .done else .char d .done
  | .char d rest => .char d (rest.dropLast c)
  | .reference name rest => .reference name (rest.dropLast c)
  | .condition name yes no rest => .condition name yes no (rest.dropLast c)

theorem source_ne_nil {l : Letter} (h : l ≠ .done) : l.source ≠ [] := by
  cases l with
  | done => exact absurd rfl h
  | char c rest => exact List.cons_ne_nil _ _
  | reference name rest => exact List.cons_ne_nil _ _
  | condition name yes no rest => exact List.cons_ne_nil _ _

theorem getLast?_referenceSource (name : List Char) :
    (referenceSource name).getLast? = some '}' := by
  have hsplit : referenceSource name = '{' :: '{' :: ' ' :: (name ++ [' ', '}']) ++ ['}'] := by
    simp [referenceSource]
  rw [hsplit, List.getLast?_append]
  rfl

theorem getLast?_statementSource (words : List Char) :
    (statementSource words).getLast? = some '}' := by
  have hsplit : statementSource words = '{' :: '%' :: ' ' :: (words ++ [' ', '%']) ++ ['}'] := by
    simp [statementSource]
  rw [hsplit, List.getLast?_append]
  rfl

end Letter

theorem Otherwise.getLast?_source (o : Otherwise) : o.source.getLast? = some '}' := by
  match o with
  | .nothing => exact Letter.getLast?_statementSource _
  | .always no =>
    simp [Otherwise.source, List.getLast?_append, Letter.getLast?_statementSource]
  | .onlyIf name yes no =>
    simp [Otherwise.source, List.getLast?_append, no.getLast?_source]

namespace Letter

theorem source_dropLast {c : Char} (hc : c ≠ '}') (l : Letter) :
    (l.dropLast c).source = Text.dropLast c l.source := by
  have hlast : some '}' ≠ some c := fun heq => hc (Option.some.inj heq).symm
  fun_induction l.dropLast c with
  | case1 => rfl
  | case2 => simp [source, Text.dropLast]
  | case3 d hd => simp [source, Text.dropLast, hd]
  | case4 d rest hrest ih =>
    have happend : Text.dropLast c ([d] ++ rest.source) = [d] ++ Text.dropLast c rest.source :=
      Text.dropLast_append (Or.inl (source_ne_nil hrest))
    simpa [source, ih] using happend.symm
  | case5 name rest ih =>
    rw [source, source, ih, Text.dropLast_append]
    right
    rw [getLast?_referenceSource]
    exact hlast
  | case6 name yes no rest ih =>
    have hend : (statementSource ('i' :: 'f' :: ' ' :: name.toList) ++
        (yes.source ++ no.source)).getLast? ≠ some c := by
      rw [List.getLast?_append, List.getLast?_append, no.getLast?_source]
      exact hlast
    have happend : Text.dropLast c (_ ++ rest.source) = _ ++ Text.dropLast c rest.source :=
      Text.dropLast_append (Or.inr hend)
    simpa [source, ih] using happend.symm

theorem mapNames_dropLast (f g : String → String) (c : Char) (l : Letter) :
    (l.dropLast c).mapNames f g = (l.mapNames f g).dropLast c := by
  fun_induction l.dropLast c with
  | case1 => rfl
  | case2 => simp [mapNames, dropLast]
  | case3 d hd => simp [mapNames, dropLast, hd]
  | case4 d rest hrest ih =>
    rw [mapNames, ih]
    cases rest with
    | done => exact absurd rfl hrest
    | char e rest => rfl
    | reference name rest => rfl
    | condition name yes no rest => rfl
  | case5 name rest ih => rw [mapNames, mapNames, ih, dropLast]
  | case6 name yes no rest ih => rw [mapNames, mapNames, ih, dropLast]

theorem All.dropLast {p q : String → Prop} (c : Char) {l : Letter} (h : l.All p q) :
    (l.dropLast c).All p q := by
  fun_induction l.dropLast c with
  | case1 => exact h
  | case2 => trivial
  | case3 d hd => exact h
  | case4 d rest hrest ih => exact ⟨h.1, ih h.2⟩
  | case5 name rest ih => exact ⟨h.1, ih h.2⟩
  | case6 name yes no rest ih => exact ⟨h.1, h.2.1, h.2.2.1, ih h.2.2.2⟩

theorem nesting_dropLast (c : Char) (l : Letter) : (l.dropLast c).nesting = l.nesting := by
  fun_induction l.dropLast c with
  | case1 => rfl
  | case2 => rfl
  | case3 => rfl
  | case4 d rest hrest ih => exact ih
  | case5 name rest ih => exact ih
  | case6 name yes no rest ih => rw [nesting, nesting, ih]

/-- A letter as it is rendered: unless it is to be kept, without one line break at the end. -/
def ended (keep : Bool) (l : Letter) : Letter := if keep then l else (l.dropLast '\n').dropLast '\r'

theorem ended_mapNames (keep : Bool) (f g : String → String) (l : Letter) :
    (l.mapNames f g).ended keep = (l.ended keep).mapNames f g := by
  unfold ended
  split
  · rfl
  · rw [← mapNames_dropLast, ← mapNames_dropLast]

theorem All.ended {p q : String → Prop} (keep : Bool) {l : Letter} (h : l.All p q) :
    (l.ended keep).All p q := by
  unfold Letter.ended
  split
  · exact h
  · exact (h.dropLast '\n').dropLast '\r'

theorem nesting_ended (keep : Bool) (l : Letter) : (l.ended keep).nesting = l.nesting := by
  unfold ended
  split
  · rfl
  · rw [nesting_dropLast, nesting_dropLast]

end Letter

-- ---------------------------------------------------------------------------
-- What a letter says
-- ---------------------------------------------------------------------------

mutual

/-- What a letter says: its text, with something in the place of each reference, and of
each condition the first text whose name holds. -/
def Letter.written (print : String → String) (holds : String → Bool) : Letter → List Char
  | .done => []
  | .char c rest => c :: rest.written print holds
  | .reference name rest => (print name).toList ++ rest.written print holds
  | .condition name yes no rest =>
    (if holds name then yes.written print holds else no.written print holds) ++
      rest.written print holds

def Otherwise.written (print : String → String) (holds : String → Bool) : Otherwise → List Char
  | .nothing => []
  | .always no => no.written print holds
  | .onlyIf name yes no =>
    if holds name then yes.written print holds else no.written print holds

end

mutual

/-- What a letter says where a name may be refused. -/
def Letter.writtenOr (print : String → Except RenderError String)
    (holds : String → Except RenderError Bool) : Letter → Except RenderError (List Char)
  | .done => .ok []
  | .char c rest => do return c :: (← rest.writtenOr print holds)
  | .reference name rest => do
    let s ← print name
    return s.toList ++ (← rest.writtenOr print holds)
  | .condition name yes no rest => do
    let b ← holds name
    let s ← (if b then yes.writtenOr print holds else no.writtenOr print holds)
    return s ++ (← rest.writtenOr print holds)

def Otherwise.writtenOr (print : String → Except RenderError String)
    (holds : String → Except RenderError Bool) : Otherwise → Except RenderError (List Char)
  | .nothing => .ok []
  | .always no => no.writtenOr print holds
  | .onlyIf name yes no => do
    let b ← holds name
    if b then yes.writtenOr print holds else no.writtenOr print holds

end

mutual

theorem Letter.writtenOr_mapNames {f g : String → String}
    {p p' : String → Except RenderError String} {q q' : String → Except RenderError Bool}
    (l : Letter) (h : l.All (fun n => p (f n) = p' n) (fun n => q (g n) = q' n)) :
    (l.mapNames f g).writtenOr p q = l.writtenOr p' q' := by
  match l, h with
  | .done, _ => rfl
  | .char _ l, ⟨_, hl⟩ => rw [Letter.mapNames, Letter.writtenOr, l.writtenOr_mapNames hl]; rfl
  | .reference _ l, ⟨hn, hl⟩ =>
    rw [Letter.mapNames, Letter.writtenOr, l.writtenOr_mapNames hl, hn]
    rfl
  | .condition _ yes no l, ⟨hn, hyes, hno, hl⟩ =>
    rw [Letter.mapNames, Letter.writtenOr, yes.writtenOr_mapNames hyes, no.writtenOr_mapNames hno,
      l.writtenOr_mapNames hl, hn]
    rfl

theorem Otherwise.writtenOr_mapNames {f g : String → String}
    {p p' : String → Except RenderError String} {q q' : String → Except RenderError Bool}
    (o : Otherwise) (h : o.All (fun n => p (f n) = p' n) (fun n => q (g n) = q' n)) :
    (o.mapNames f g).writtenOr p q = o.writtenOr p' q' := by
  match o, h with
  | .nothing, _ => rfl
  | .always no, hno => exact no.writtenOr_mapNames hno
  | .onlyIf _ yes no, ⟨hn, hyes, hno⟩ =>
    rw [Otherwise.mapNames, Otherwise.writtenOr, yes.writtenOr_mapNames hyes,
      no.writtenOr_mapNames hno, hn]
    rfl

end

mutual

/-- Where no name is refused a letter says something. -/
theorem Letter.writtenOr_eq_ok {p : String → Except RenderError String}
    {q : String → Except RenderError Bool} {print : String → String} {holds : String → Bool}
    (hp : ∀ n, p n = .ok (print n)) (hq : ∀ n, q n = .ok (holds n)) (l : Letter) :
    l.writtenOr p q = .ok (l.written print holds) := by
  match l with
  | .done => rfl
  | .char _ l =>
    rw [Letter.writtenOr, l.writtenOr_eq_ok hp hq]
    rfl
  | .reference n l =>
    rw [Letter.writtenOr, l.writtenOr_eq_ok hp hq, hp]
    rfl
  | .condition n yes no l =>
    rw [Letter.writtenOr, yes.writtenOr_eq_ok hp hq, no.writtenOr_eq_ok hp hq,
      l.writtenOr_eq_ok hp hq, hq, Letter.written]
    cases holds n <;> rfl

theorem Otherwise.writtenOr_eq_ok {p : String → Except RenderError String}
    {q : String → Except RenderError Bool} {print : String → String} {holds : String → Bool}
    (hp : ∀ n, p n = .ok (print n)) (hq : ∀ n, q n = .ok (holds n)) (o : Otherwise) :
    o.writtenOr p q = .ok (o.written print holds) := by
  match o with
  | .nothing => rfl
  | .always no => exact no.writtenOr_eq_ok hp hq
  | .onlyIf n yes no =>
    rw [Otherwise.writtenOr, yes.writtenOr_eq_ok hp hq, no.writtenOr_eq_ok hp hq, hq,
      Otherwise.written]
    cases holds n <;> rfl

end

end MailMerge
