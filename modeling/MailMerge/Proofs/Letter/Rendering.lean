import MailMerge.Proofs.Letter.Depth
import MailMerge.Proofs.Letter.Running
import MailMerge.Proofs.Letter.Scanning
import MailMerge.Proofs.Name.Context

/-!
# Rendering letters

Replacing names by identifiers, dividing into tokens, reading and running come to nothing
more than putting data in the place of names: a letter is rendered as what it says.
-/

namespace MailMerge

-- ---------------------------------------------------------------------------
-- Identifiers of plain names
-- ---------------------------------------------------------------------------

namespace Name

theorem isIdentChar_hexDigits (n : Nat) :
    ∀ x ∈ Text.hexDigits n, Token.isIdentChar x = true := by
  have hdigit : ∀ a < 16, Token.isIdentChar (Nat.digitChar a) = true := by decide
  induction n using Nat.strongRecOn with
  | ind n ih =>
    intro x hx
    rw [Text.hexDigits_eq] at hx
    split at hx
    · next hn =>
      rw [List.mem_singleton.mp hx]
      exact hdigit n hn
    · next hn =>
      rcases List.mem_append.mp hx with hx | hx
      · exact ih (n / 16) (Nat.div_lt_self (by omega) (by decide)) x hx
      · rw [List.mem_singleton.mp hx]
        exact hdigit _ (Nat.mod_lt n (by decide))

theorem isIdentChar_code? {c x : Char} (h : code? c = some x) : Token.isIdentChar x = true := by
  unfold code? at h
  split at h <;> first | (obtain rfl := Option.some.inj h; decide) | cases h

theorem isIdentChar_encodeChar (c : Char) : ∀ x ∈ encodeChar c, Token.isIdentChar x = true := by
  intro x hx
  have hunderscore : Token.isIdentChar '_' = true := by decide
  rcases encodeChar_cases c with ⟨hc, h⟩ | ⟨y, hy, h⟩ | h
  · rw [h, List.mem_singleton] at hx
    rw [hx]
    simp [Token.isIdentChar, hc]
  · simp only [h, List.mem_cons, List.not_mem_nil, or_false] at hx
    rcases hx with rfl | rfl
    · exact hunderscore
    · exact isIdentChar_code? hy
  · simp only [h, List.mem_cons, List.mem_append, List.not_mem_nil, or_false] at hx
    rcases hx with rfl | rfl | hx | rfl | rfl
    · exact hunderscore
    · decide
    · exact isIdentChar_hexDigits _ x hx
    · exact hunderscore
    · decide

theorem isWord_identifier {n : String} (h : isQuoted n.toList = false) : IsWord (identifier n) := by
  obtain ⟨c, rest, heq, hc⟩ := identifierChars_eq_cons h
  refine ⟨c, rest.flatMap encodeChar, ?_, ?_, ?_⟩
  · rw [identifier, String.toList_ofList, heq]
  · simp [Token.isIdentStart, hc]
  · intro x hx
    obtain ⟨d, -, hd⟩ := List.mem_flatMap.mp hx
    exact isIdentChar_encodeChar d x hd

theorem identifier_engineWord : ∀ w ∈ engineWords, identifier w = w := by decide

theorem names_of_not_mem_engineWords {n : String} (h : n ∉ engineWords) : Expr.Reader.Names n := by
  refine ⟨?_, fun heq => h (by rw [heq]; decide)⟩
  unfold Expr.Reader.constant?
  split
  case h_7 => rfl
  all_goals exact absurd (by decide) h

theorem identifier_not_mem_engineWords {n : String} (h : n ∉ engineWords) :
    identifier n ∉ engineWords := by
  intro hmem
  have heq : n = identifier n := identifier_injective (identifier_engineWord _ hmem).symm
  exact h (heq ▸ hmem)

theorem Plain.names_identifier {n : String} (h : Plain n) : Expr.Reader.Names (identifier n) :=
  names_of_not_mem_engineWords (identifier_not_mem_engineWords h.unspoken)

theorem Ordinary.isWord_identifier {n : String} (h : Ordinary n) : IsWord (identifier n) :=
  Name.isWord_identifier h.unquoted

theorem Ordinary.referenceIdentifier {n : String} (h : Ordinary n) :
    Render.referenceIdentifier n = identifier n := by
  simp [Render.referenceIdentifier, h.unreserved]

theorem Ordinary.isWord_referenceIdentifier {n : String} (h : Ordinary n) :
    IsWord (Render.referenceIdentifier n) := by
  rw [h.referenceIdentifier]
  exact h.isWord_identifier

theorem IsWord.no_brace {n : String} (h : IsWord n) : '{' ∉ n.toList := by
  obtain ⟨c, more, heq, hc, hmore⟩ := h
  intro hmem
  rw [heq] at hmem
  rcases List.mem_cons.mp hmem with rfl | hmem
  · exact absurd hc (by decide)
  · exact absurd (hmore _ hmem) (by decide)

end Name

-- ---------------------------------------------------------------------------
-- Templates
-- ---------------------------------------------------------------------------

mutual

theorem Letter.nesting_mapNames (f g : String → String) (l : Letter) :
    (l.mapNames f g).nesting = l.nesting := by
  match l with
  | .done => rfl
  | .char _ l => exact l.nesting_mapNames f g
  | .reference _ l => exact l.nesting_mapNames f g
  | .condition _ yes no l =>
    simp only [Letter.mapNames, Letter.nesting, yes.nesting_mapNames, no.nesting_mapNames,
      l.nesting_mapNames]

theorem Otherwise.nesting_mapNames (f g : String → String) (o : Otherwise) :
    (o.mapNames f g).nesting = o.nesting := by
  match o with
  | .nothing => rfl
  | .always no => exact no.nesting_mapNames f g
  | .onlyIf _ yes no =>
    simp only [Otherwise.mapNames, Otherwise.nesting, yes.nesting_mapNames, no.nesting_mapNames]

end

/-- A letter with identifiers in the place of its names. -/
def Letter.identified (l : Letter) : Letter :=
  l.mapNames Render.referenceIdentifier Render.referenceIdentifier

namespace Letter

variable {l : Letter}

theorem All.isWord_identified (h : l.All Name.Ordinary Name.Ordinary) :
    l.identified.All Name.IsWord Name.IsWord :=
  All.mapNames l (All.imp (fun _ hn => hn.isWord_referenceIdentifier)
    (fun _ hn => hn.isWord_referenceIdentifier) l h)

theorem All.names_identified (h : l.All Name.Plain Name.Plain) :
    l.identified.All Expr.Reader.Names Expr.Reader.Names := by
  have hname : ∀ n, Name.Plain n → Expr.Reader.Names (Render.referenceIdentifier n) := by
    intro n hn
    rw [hn.ordinary.referenceIdentifier]
    exact hn.names_identifier
  exact All.mapNames l (All.imp hname hname l h)

theorem All.substitute_referenceIdentifier (h : l.All Name.Ordinary Name.Ordinary) :
    Reference.substitute Render.referenceIdentifier l.text = l.identified.text :=
  substitute_text Render.referenceIdentifier
    (fun _ hn => hn.isWord_referenceIdentifier.no_brace) l h

end Letter

namespace Render

variable (options : RenderOptions) (bound : List (String × Datum))

/-- What a template finds under a name. -/
def found (n : String) : Datum :=
  (RenderState.atStart options.html).find ⟨options.strictUndefined, bound, []⟩ (Name.identifier n)

def mode : Mode := ⟨options.strictUndefined, options.html⟩

/-- What is rendered for a letter whose names stand for data: what it says, unless its
conditions nest too deep to be read. -/
def letterWith (datum : String → Datum) (l : Letter) : Except RenderError String :=
  if l.nesting + 1 < Expr.Reader.maxDepth then
    ((l.ended options.keepTrailingNewline).writtenOr (fun n => (datum n).print (mode options))
      fun n => (datum n).truth (mode options)).map String.ofList
  else .error .malformed

theorem renderTemplate_text (l : Letter) (hwords : l.All Name.IsWord Name.IsWord)
    (hnames : l.All Expr.Reader.Names Expr.Reader.Names)
    (hd : l.nesting + 1 < Expr.Reader.maxDepth) :
    renderTemplate options bound l.text
      = ((l.ended options.keepTrailingNewline).saidIn ⟨options.strictUndefined, bound, []⟩
          (.atStart options.html)).map String.ofList := by
  have hread := (l.ended options.keepTrailingNewline).read_tokens (hnames.ended _)
    (by rw [Letter.nesting_ended]; exact hd)
  rw [renderTemplate, l.tokenize_text _ hwords, hread]
  exact Letter.render_nodes _ _ _ _

theorem renderTemplate_text_deep (l : Letter) (hwords : l.All Name.IsWord Name.IsWord)
    (hnames : l.All Expr.Reader.Names Expr.Reader.Names)
    (hd : Expr.Reader.maxDepth ≤ l.nesting + 1) :
    renderTemplate options bound l.text = .error .malformed := by
  have hread := (l.ended options.keepTrailingNewline).read_tokens_error (hnames.ended _)
    (by rw [Letter.nesting_ended]; exact hd)
  rw [renderTemplate, l.tokenize_text _ hwords, hread]
  rfl

/-- A letter of plain names is rendered as what it says, each name standing for what is found
under its identifier. -/
theorem renderTemplate_letter (l : Letter) (hl : l.All Name.Plain Name.Plain) :
    renderTemplate options bound (Reference.substitute referenceIdentifier l.text)
      = letterWith options (found options bound) l := by
  have hnesting : l.identified.nesting = l.nesting := l.nesting_mapNames _ _
  rw [hl.ordinary.substitute_referenceIdentifier, letterWith]
  split
  · next hd =>
    rw [renderTemplate_text options bound _ hl.ordinary.isWord_identified hl.names_identified
      (by rw [hnesting]; exact hd), Letter.identified, Letter.ended_mapNames, Letter.saidIn]
    congr 1
    have hfound : ∀ n, Name.Plain n → (RenderState.atStart options.html).find
        ⟨options.strictUndefined, bound, []⟩ (referenceIdentifier n) = found options bound n := by
      intro n hn
      rw [hn.ordinary.referenceIdentifier, found]
    refine Letter.writtenOr_mapNames _ (Letter.All.imp ?_ ?_ _ (hl.ended _))
    · intro n hn
      rw [hfound n hn]
      rfl
    · intro n hn
      rw [hfound n hn]
      rfl
  · next hd =>
    exact renderTemplate_text_deep options bound _ hl.ordinary.isWord_identified hl.names_identified
      (by rw [hnesting]; exact Nat.not_lt.mp hd)

/-- What a letter is rendered as hangs on the data its names stand for, and on nothing else
about the names. -/
theorem letterWith_mapNames {datum datum' : String → Datum} {f : String → String} {l : Letter}
    (h : l.All (fun n => datum' (f n) = datum n) fun n => datum' (f n) = datum n) :
    letterWith options datum' (l.mapNames f f) = letterWith options datum l := by
  have hprint : ∀ n, datum' (f n) = datum n →
      (datum' (f n)).print (mode options) = (datum n).print (mode options) :=
    fun n hn => by rw [hn]
  have htruth : ∀ n, datum' (f n) = datum n →
      (datum' (f n)).truth (mode options) = (datum n).truth (mode options) :=
    fun n hn => by rw [hn]
  have hwritten : ((l.ended options.keepTrailingNewline).mapNames f f).writtenOr
      (fun n => (datum' n).print (mode options)) (fun n => (datum' n).truth (mode options))
        = (l.ended options.keepTrailingNewline).writtenOr
          (fun n => (datum n).print (mode options)) (fun n => (datum n).truth (mode options)) :=
    Letter.writtenOr_mapNames _ (Letter.All.imp hprint htruth _ (h.ended _))
  rw [letterWith, Letter.nesting_mapNames, Letter.ended_mapNames, hwritten, letterWith]

-- ---------------------------------------------------------------------------
-- What is found
-- ---------------------------------------------------------------------------

theorem find_atStart (escape : Bool) (s : Surroundings) (n : String) :
    (RenderState.atStart escape).find s n =
      match s.bindings.lookup n with
      | some d => (RenderState.atStart escape).renew d
      | none => (Function.named? n).getD (.missing false) := by
  have hframe : (RenderState.atStart escape).frames.findSome?
      ((RenderState.atStart escape).frameLookup? s n) = s.bindings.lookup n := by
    simp [RenderState.atStart, RenderState.frameLookup?, RenderState.baseLookup?]
  rw [RenderState.find, RenderState.lookup?, hframe]
  cases s.bindings.lookup n <;> rfl

theorem renew_ofValue (st : RenderState) (v : Value) :
    st.renew (Datum.ofValue v) = Datum.ofValue v := by
  cases v <;> simp [RenderState.renew, Datum.ofValue, Datum.renew]

theorem identifier_functionName : ∀ f ∈ Function.names, Name.identifier f = f := by decide

theorem named?_identifier (n : String) : Function.named? (Name.identifier n) = Function.named? n := by
  by_cases hn : n ∈ Function.names
  · rw [identifier_functionName n hn]
  · have hidentifier : Name.identifier n ∉ Function.names := by
      intro hmem
      have heq : n = Name.identifier n :=
        Name.identifier_injective (identifier_functionName _ hmem).symm
      exact hn (heq ▸ hmem)
    simp [Function.named?, hn, hidentifier]

/-- What stands for a name in a text that is no HTML: the value it has in the context, or
the function of the engine that is called so. -/
def datumOf (c : Context) (n : String) : Datum :=
  match c.get? n with
  | some v => Datum.ofValue v
  | none => (Function.named? n).getD (.missing false)

theorem lookup_ofValue (n : String) (c : Context) :
    List.lookup n (c.map fun e => (e.1, Datum.ofValue e.2)) = (c.get? n).map Datum.ofValue := by
  induction c with
  | nil => rfl
  | cons e c ih =>
    rw [Context.get?, List.map_cons, List.lookup_cons, List.lookup_cons]
    cases n == e.1 with
    | true => rfl
    | false => exact ih

/-- Where the bindings hold the values of a context, a name is found as its value there. -/
theorem found_eq_datumOf {c : Context} {n : String}
    (h : List.lookup (Name.identifier n) bound = (c.get? n).map Datum.ofValue) :
    found options bound n = datumOf c n := by
  rw [found, find_atStart, h, named?_identifier, datumOf]
  cases c.get? n with
  | none => rfl
  | some v => exact renew_ofValue _ v

end Render

end MailMerge
