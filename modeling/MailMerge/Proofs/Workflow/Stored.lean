import MailMerge.Proofs.Letter.Renaming
import MailMerge.Proofs.Letter.Words
import MailMerge.Proofs.Name.Stored
import MailMerge.Proofs.Workflow.Names
import Mathlib.Data.List.Find

/-!
# Renaming in texts of an editor

An editor stores the names a text refers to with their special characters spelled out, and a row
binds its names in the same way; renaming looks for the name itself and puts the new one down as
it is. So it keeps what a text says if neither of the names has a special character, and else it
does not.
-/

namespace MailMerge

/-- A context beside the same with the value of one name under another. -/
structure Context.Moves (old new : String) (c c' : Context) : Prop where
  distinct : c.Distinct
  distinct' : c'.Distinct
  bound : c.contains old = true
  get? : ∀ n, c'.get? n = if n = new then c.get? old else if n = old then none else c.get? n

theorem Context.moves_renamed {old new : String} {c : Context} (hc : c.Distinct)
    (hold : c.contains old = true) (hnew : c.contains new = false) :
    Context.Moves old new c (c.renamed (Equiv.swap old new)) where
  distinct := hc
  distinct' := hc.map_names (Equiv.injective _)
  bound := hold
  get? n := by
    have hget := Context.get?_renamed (Equiv.injective (Equiv.swap old new)) c
      (Equiv.swap old new n)
    rw [Equiv.swap_apply_self] at hget
    rw [hget]
    by_cases hn : n = new
    · rw [if_pos hn, hn, Equiv.swap_apply_right]
    · rw [if_neg hn]
      by_cases ho : n = old
      · rw [if_pos ho, ho, Equiv.swap_apply_left]
        exact Option.not_isSome_iff_eq_none.mp (Bool.eq_false_iff.mp hnew)
      · rw [if_neg ho, Equiv.swap_apply_of_ne_of_ne ho hn]

/-- A letter as an editor stores it. -/
def Letter.stored (l : Letter) : Letter := l.mapNames Html.stored Html.stored

namespace Render

variable {old new : String} {options : RenderOptions} {bound bound' : List (String × Datum)}

-- ---------------------------------------------------------------------------
-- What is bound
-- ---------------------------------------------------------------------------

theorem exists_bindings (options : RenderOptions) {c : Context} (hc : c.Distinct)
    (action : Option Datum) :
    ∃ bound, bindings options c action = .ok bound ∧
      ∀ n, bound.lookup (contextIdentifier options n) = (c.get? n).map Datum.ofValue := by
  have hinjective := contextIdentifier_injective options
  have hnamed : ∀ n, ((c.map fun e => (contextIdentifier options e.1, e.2)).map
      fun e => (e.1, Datum.ofValue e.2)).lookup (contextIdentifier options n)
        = (c.get? n).map Datum.ofValue := by
    intro n
    rw [lookup_ofValue, Context.get?, Context.lookup_map_names hinjective]
    rfl
  cases action with
  | none =>
    refine ⟨_, ?_, hnamed⟩
    rw [bindings, Context.mapNames_eq_ok hinjective hc]
    rfl
  | some a =>
    refine ⟨_, bindings_action options hc a, fun n => ?_⟩
    refine (lookup_ownBindings_append a ?_ _).trans (hnamed n)
    unfold contextIdentifier
    split <;> exact Name.identifier_not_mem_reservedNames _

theorem means_eq (n : String) :
    means options bound n = (Expr.Reader.constant? n).getD (match bound.lookup n with
      | some d => (RenderState.atStart options.html).renew d
      | none => (Function.named? n).getD (.missing false)) :=
  congrArg (Expr.Reader.constant? n).getD (find_atStart options.html _ n)

/-- A word stands for the same where the same is bound to it. -/
theorem means_of_lookup {n : String} (h : bound.lookup n = bound'.lookup n) :
    means options bound n = means options bound' n := by
  rw [means_eq, means_eq, h]

theorem means_of_entry {n : String} {v : Value} (hn : Name.Plain n)
    (h : bound.lookup (Name.identifier n) = some (Datum.ofValue v)) :
    means options bound (Name.identifier n) = Datum.ofValue v := by
  rw [means_eq, hn.names_identifier.1, h]
  exact renew_ofValue _ v

-- ---------------------------------------------------------------------------
-- References as they are stored
-- ---------------------------------------------------------------------------

/-- Without special characters in the way a stored reference is followed. -/
theorem agree_follow (hold : Name.Plain old) (hnew : Name.Plain new)
    (hplain : old = new ∨ Name.Unescaped old ∧ Name.Unescaped new) {c c' : Context}
    (hmoves : Context.Moves old new c c')
    (hbound : ∀ n, bound.lookup (Name.storedIdentifier n) = (c.get? n).map Datum.ofValue)
    (hbound' : ∀ n, bound'.lookup (Name.storedIdentifier n) = (c'.get? n).map Datum.ofValue)
    {n : String} (hn : n ≠ new) (hstored : Name.Ordinary (Html.stored n)) :
    Agree options bound bound' (referenceIdentifier (Html.stored n))
      (referenceIdentifier (follow old new (Html.stored n))) := by
  by_cases h : n = old
  -- The reference that is renamed: neither name changes when it is stored, so both are found.
  · obtain ⟨holdSelf, hnewSelf⟩ := hplain.resolve_left fun heq => hn (h.trans heq)
    obtain ⟨v, hv⟩ := Option.isSome_iff_exists.mp hmoves.bound
    have hlookup : bound.lookup (Name.identifier old) = some (Datum.ofValue v) := by
      have hentry := hbound old
      rwa [Name.storedIdentifier, holdSelf.stored, hv] at hentry
    have hlookup' : bound'.lookup (Name.identifier new) = some (Datum.ofValue v) := by
      have hentry := hbound' new
      rwa [Name.storedIdentifier, hnewSelf.stored, hmoves.get?, if_pos rfl, hv] at hentry
    rw [h, holdSelf.stored, follow_self, hold.ordinary.referenceIdentifier,
      hnew.ordinary.referenceIdentifier]
    refine ⟨hold.ordinary.isWord_identifier, hnew.ordinary.isWord_identifier, ?_, ?_⟩
    · exact iff_of_false hold.names_identifier.2 hnew.names_identifier.2
    · rw [means_of_entry hold hlookup, means_of_entry hnew hlookup']
  · have hkept : follow old new (Html.stored n) = Html.stored n := by
      rcases hplain with rfl | ⟨holdSelf, -⟩
      · rw [follow_same, id]
      · exact follow_of_ne fun heq =>
          h (Html.stored_injective (heq.trans holdSelf.stored.symm))
    rw [hkept, hstored.referenceIdentifier]
    refine ⟨hstored.isWord_identifier, hstored.isWord_identifier, Iff.rfl, means_of_lookup ?_⟩
    have hentry := hbound n
    have hentry' := hbound' n
    rw [hmoves.get?, if_neg hn, if_neg h] at hentry'
    exact hentry.trans hentry'.symm

theorem substitute_stored {l : Letter} {f : String → String}
    (hl : l.Mentions fun n => Name.Ordinary (f (Html.stored n))) :
    Reference.substitute referenceIdentifier (l.stored.mapNames f f).text
      = (l.stored.mapNames (referenceIdentifier ∘ f) (referenceIdentifier ∘ f)).text := by
  have hstored : (l.stored.mapNames f f).Mentions Name.Ordinary :=
    Letter.Mentions.mapNames _ (Letter.Mentions.mapNames l hl)
  rw [hstored.substitute_text referenceIdentifier
    (fun _ hn => hn.isWord_referenceIdentifier.no_brace), Letter.mapNames_mapNames]

theorem find?_reserved_moved (hold : Name.Plain old) (hnew : Name.Plain new) {c c' : Context}
    (hmoves : Context.Moves old new c c') :
    reservedNames.find? c'.contains = reservedNames.find? c.contains := by
  refine List.find?_congr fun r hr => ?_
  rw [Context.contains, hmoves.get?, if_neg (ne_of_isReserved hnew.unreserved hr),
    if_neg (ne_of_isReserved hold.unreserved hr), Context.contains]

/-- A renamed text says of the row with the renamed name what the text said of the row. -/
theorem renderWith_moved (hold : Name.Plain old) (hnew : Name.Plain new)
    (hplain : old = new ∨ Name.Unescaped old ∧ Name.Unescaped new) (hhtml : options.html = true)
    {l : Letter} (hl : l.Mentions fun n => n ≠ new ∧ Name.Ordinary (Html.stored n))
    {c c' : Context} (hmoves : Context.Moves old new c c') {action action' : Option Datum}
    (haction : action'.isSome = action.isSome) :
    renderWith options (l.stored.mapNames (follow old new) (follow old new)).text c' action'
      = renderWith options l.stored.text c action := by
  obtain ⟨bound, hbindings, hbound⟩ := exists_bindings options hmoves.distinct action
  obtain ⟨bound', hbindings', hbound'⟩ := exists_bindings options hmoves.distinct' action'
  simp only [contextIdentifier, hhtml, if_true] at hbound hbound'
  have hfind := find?_reserved_moved hold hnew hmoves
  have hordinary : l.Mentions fun n => Name.Ordinary (id (Html.stored n)) :=
    Letter.Mentions.imp (fun _ hn => hn.2) l hl
  have hfollow : l.Mentions fun n => Name.Ordinary (follow old new (Html.stored n)) :=
    Letter.Mentions.imp (fun _ hn => follow_induction hn.2 hnew.ordinary) l hl
  have hname : ∀ n, n ≠ new ∧ Name.Ordinary (Html.stored n) →
      Agree options bound bound' ((referenceIdentifier ∘ id) (Html.stored n))
        ((referenceIdentifier ∘ follow old new) (Html.stored n)) := by
    intro n hn
    rw [Function.comp_apply, Function.comp_apply, id]
    exact agree_follow hold hnew hplain hmoves hbound hbound' hn.1 hn.2
  have hagree : l.stored.Mentions fun m => Agree options bound bound'
      ((referenceIdentifier ∘ id) m) ((referenceIdentifier ∘ follow old new) m) :=
    Letter.Mentions.mapNames l (Letter.Mentions.imp hname l hl)
  have hsame := renderTemplate_words_congr options hagree
  rw [← substitute_stored hordinary, ← substitute_stored hfollow, Letter.mapNames_id] at hsame
  rw [renderWith, renderWith, haction, hfind, hbindings, hbindings']
  split
  · rfl
  · simp only [bind, Except.bind]
    exact hsame.symm

-- ---------------------------------------------------------------------------
-- Texts of one reference
-- ---------------------------------------------------------------------------

theorem render_reference {n : String} (hn : Name.Plain n) {c : Context}
    (hbindings : bindings {} c none = .ok bound) :
    render {} (Letter.reference n .done).text c = (found {} bound n).print (mode {}) := by
  have hl : (Letter.reference n .done).All Name.Plain Name.Plain := ⟨hn, trivial⟩
  have hletter := renderTemplate_letter {} bound _ hl
  have hd : (Letter.reference n .done).nesting + 1 < Expr.Reader.maxDepth := by
    change 0 + 1 < Expr.Reader.maxDepth
    decide
  have hended : (Letter.reference n .done).ended ({} : RenderOptions).keepTrailingNewline
      = .reference n .done := rfl
  rw [letterWith, if_pos hd, hended] at hletter
  simp only [render, renderWith, Option.isSome_none, Bool.false_eq_true, if_false, hbindings, bind,
    Except.bind, hletter, Letter.writtenOr]
  cases (found {} bound n).print (mode {}) with
  | error e => rfl
  | ok t => simp [Except.map, pure, Except.pure]

theorem bindings_single (n : String) (v : Value) :
    bindings {} [(n, v)] none = .ok [(Name.storedIdentifier n, Datum.ofValue v)] := rfl

/-- A stored reference to what is bound prints it. -/
theorem render_stored_bound {n : String} (hn : Name.Plain n) :
    render {} (Letter.reference n .done).stored.text [(n, .text "x")] = .ok "x" := by
  have hfound : found {} [(Name.storedIdentifier n, Datum.ofValue (.text "x"))] (Html.stored n)
      = Datum.ofValue (.text "x") := by
    rw [found, find_atStart, Name.storedIdentifier, List.lookup_cons_self]
    exact renew_ofValue _ _
  refine (render_reference hn.stored (bindings_single n _)).trans ?_
  rw [hfound]
  rfl

/-- A reference that is not the stored form of what is bound prints nothing. -/
theorem render_unbound {n m : String} (hm : Name.Plain m) (hne : m ≠ Html.stored n)
    (hfunction : m ∉ Function.names) (v : Value) :
    render {} (Letter.reference m .done).text [(n, v)] = .ok "" := by
  have hidentifier : (Name.identifier m == Name.storedIdentifier n) = false :=
    beq_eq_false_iff_ne.mpr fun heq => hne (Name.identifier_injective heq)
  have hfound : found {} [(Name.storedIdentifier n, Datum.ofValue v)] m = .missing false := by
    rw [found, find_atStart, List.lookup_cons, hidentifier, named?_identifier]
    simp [Function.named?, hfunction]
  rw [render_reference hm (bindings_single n v), hfound]
  rfl

/-- With a special character in either name, the stored reference to the old name does not become
one to the new name. -/
theorem follow_stored_ne (hne : old ≠ new)
    (hspecial : ¬ (Name.Unescaped old ∧ Name.Unescaped new)) :
    follow old new (Html.stored old) ≠ Html.stored new ∧
      follow old new (Html.stored old) ∉ Function.names := by
  have hfunctions : ∀ f ∈ Function.names, Name.Unescaped f := by decide
  by_cases hold : Name.Unescaped old
  · have hnew : ¬ Name.Unescaped new := fun hnew => hspecial ⟨hold, hnew⟩
    rw [hold.stored, follow_self]
    exact ⟨fun heq => hnew (Name.stored_eq_self_iff.mp heq.symm),
      fun hmem => hnew (hfunctions new hmem)⟩
  · have hself : Html.stored old ≠ old := fun heq => hold (Name.stored_eq_self_iff.mp heq)
    rw [follow_of_ne hself]
    exact ⟨fun heq => hne (Html.stored_injective heq),
      fun hmem => hself (Html.stored_injective (hfunctions _ hmem).stored)⟩

end Render

-- ---------------------------------------------------------------------------
-- Workflows
-- ---------------------------------------------------------------------------

theorem Letter.Mentions.rename_text {old new : String} {l : Letter} (hl : l.Mentions Name.Ordinary)
    (hnew : Name.Ordinary new) :
    Reference.rename old new l.text
      = (l.mapNames (Render.follow old new) (Render.follow old new)).text :=
  hl.substitute_text (Render.follow old new) (Render.follow_no_brace hnew)

namespace Workflow

open Render

variable {w w' : Workflow} {old new : String}

theorem actions_of_rename (hne : old ≠ new) (h : w.rename old new = .ok w') :
    w'.actions = w.actions.map (Action.rename old new) := by
  cases renameStep_of_rename h with
  | same heq => exact absurd heq hne
  | column => rfl
  | constant => rfl

/-- The text of an action after a renaming that the workflow accepts. -/
theorem content_of_rename (hnew : Name.Plain new) (h : w.rename old new = .ok w') {i : Nat}
    {a a' : Action} (ha : w.actions[i]? = some a) (ha' : w'.actions[i]? = some a') {l : Letter}
    (hl : l.Mentions fun n => Name.Ordinary (Html.stored n))
    (hcontent : a.content = l.stored.text) :
    a'.content = (l.stored.mapNames (follow old new) (follow old new)).text := by
  by_cases hne : old = new
  · subst hne
    rw [rename, if_pos (beq_self_eq_true old)] at h
    cases h
    cases ha.symm.trans ha'
    rw [follow_same, Letter.mapNames_id, hcontent]
  · have hordinary : l.stored.Mentions Name.Ordinary := Letter.Mentions.mapNames l hl
    rw [actions_of_rename hne h, List.getElem?_map, ha] at ha'
    cases ha'
    rw [Action.rename, hcontent, hordinary.rename_text hnew.ordinary]

/-- A text that is kept as an editor stores it. -/
def note (l : Letter) : Action where
  name := "note"
  content := l.stored.text

/-- A text of a reference alone. -/
def mention (n : String) : Action := note (.reference n .done)

/-- A workflow with a column and a text that refers to it. -/
def referring (n : String) : Workflow where
  id := 1
  columns := [⟨n, .string, false⟩]
  actions := [mention n]

theorem moves_single (hne : old ≠ new) (v : Value) :
    Context.Moves old new [(old, v)] [(new, v)] := by
  have hbound : Context.contains [(old, v)] old = true := by simp [Context.contains, Context.get?]
  have hfree : Context.contains [(old, v)] new = false := by
    simp [Context.contains, Context.get?, List.lookup_cons, beq_eq_false_iff_ne.mpr hne.symm]
  have hdistinct : Context.Distinct [(old, v)] := List.nodup_singleton old
  have hmoves := Context.moves_renamed hdistinct hbound hfree
  rwa [Context.renamed, List.map_singleton, Equiv.swap_apply_left] at hmoves

/-- With a special character in either name, the renamed text no longer finds the value. -/
theorem render_renamed_mention (hold : Name.Plain old) (hnew : Name.Plain new) (hne : old ≠ new)
    (hspecial : ¬ (Name.Unescaped old ∧ Name.Unescaped new)) :
    render {} ((mention old).rename old new).content [(new, .text "x")] = .ok "" := by
  have hordinary : (Letter.reference old .done).stored.Mentions Name.Ordinary :=
    ⟨hold.stored.ordinary, trivial⟩
  have hcontent : ((mention old).rename old new).content
      = (Letter.reference (follow old new (Html.stored old)) .done).text :=
    hordinary.rename_text hnew.ordinary
  obtain ⟨hunbound, hfunction⟩ := follow_stored_ne hne hspecial
  rw [hcontent]
  exact render_unbound (follow_induction hold.stored hnew) hunbound hfunction (.text "x")

theorem exists_rename (hne : old ≠ new) (hfree : w.variableNames.contains new = false)
    (hcolumn : (w.column? old).isSome = true) :
    ∃ w', w.rename old new = .ok w' ∧ w'.actions = w.actions.map (Action.rename old new) := by
  have hrename : ∃ w', w.rename old new = .ok w' := by
    rw [rename, if_neg (mt beq_iff_eq.mp hne), hfree, hcolumn]
    exact ⟨_, rfl⟩
  obtain ⟨w', hrename⟩ := hrename
  exact ⟨w', hrename, actions_of_rename hne hrename⟩

theorem exists_rename_referring (hne : old ≠ new) :
    ∃ w', (referring old).rename old new = .ok w' ∧
      w'.actions = (referring old).actions.map (Action.rename old new) :=
  exists_rename hne (by simp [referring, variableNames, columnNames, hne.symm])
    (by simp [referring, column?])

/-- Renaming follows references as an editor stores them if nothing is renamed or neither name has
a special character, and only then: with one there is a workflow whose text loses the value. -/
theorem rename_follows_stored_iff (hold : Name.Plain old) (hnew : Name.Plain new) :
    (∀ (w w' : Workflow), w.rename old new = .ok w' →
      ∀ (i : Nat) (a a' : Action), w.actions[i]? = some a → w'.actions[i]? = some a' →
      ∀ l : Letter, (l.Mentions fun n => n ≠ new ∧ Name.Ordinary (Html.stored n)) →
        a.content = l.stored.text →
      ∀ options : RenderOptions, options.html = true →
      ∀ c c' : Context, c.Moves old new c' →
        render options a'.content c' = render options a.content c ∧
        ∀ d d', renderAction options a'.content c' d' = renderAction options a.content c d) ↔
      old = new ∨ Name.Unescaped old ∧ Name.Unescaped new := by
  constructor
  -- A text of one reference to the old name loses its value.
  · intro hfollows
    by_contra hspecial
    obtain ⟨hne, hspecial⟩ := not_or.mp hspecial
    obtain ⟨w', hrename, hactions⟩ := exists_rename_referring hne
    have hl : (Letter.reference old .done).Mentions
        fun n => n ≠ new ∧ Name.Ordinary (Html.stored n) :=
      ⟨⟨hne, hold.stored.ordinary⟩, trivial⟩
    have ha' : w'.actions[0]? = some ((mention old).rename old new) := by
      rw [hactions]
      rfl
    obtain ⟨hsame, -⟩ := hfollows _ w' hrename 0 (mention old) _ rfl ha' _ hl rfl {} rfl _ _
      (moves_single hne (.text "x"))
    have hlost := render_renamed_mention hold hnew hne hspecial
    have hkept : render {} (mention old).content [(old, .text "x")] = .ok "x" :=
      render_stored_bound hold
    exact absurd (Except.ok.inj (hlost.symm.trans (hsame.trans hkept))) (by decide)
  · intro hplain w w' hrename i a a' ha ha' l hl hcontent options hhtml c c' hmoves
    have hordinary : l.Mentions fun n => Name.Ordinary (Html.stored n) :=
      Letter.Mentions.imp (fun _ hn => hn.2) l hl
    rw [content_of_rename hnew hrename ha ha' hordinary hcontent, hcontent]
    exact ⟨renderWith_moved hold hnew hplain hhtml hl hmoves rfl,
      fun d d' => renderWith_moved hold hnew hplain hhtml hl hmoves rfl⟩

/-- A text with a brace that also refers to what is not renamed. -/
def inviting : Letter :=
  .ofText "Dear " (.reference "first name" (.ofText " \x7b " (.reference "Q&A" .done)))

def invitation : Workflow where
  id := 1
  columns := [⟨"first name", .string, false⟩, ⟨"Q&A", .string, false⟩]
  actions := [note inviting]

theorem rename_follows_stored_iff_inviting :
    (Name.Plain "first name" ∧ Name.Plain "given name") ∧
    (note inviting).content
      = "Dear \x7b\x7b first name \x7d\x7d \x7b \x7b\x7b Q&amp;A \x7d\x7d" ∧
    ∃ w', invitation.rename "first name" "given name" = .ok w' ∧
      w'.actions = [(note inviting).rename "first name" "given name"] ∧
      render {} ((note inviting).rename "first name" "given name").content
        [("given name", .text "Ann"), ("Q&A", .text "Law")] = .ok "Dear Ann \x7b Law" := by
  have hold : Name.Plain "first name" := by decide
  have hnew : Name.Plain "given name" := by decide
  have hl : inviting.Mentions fun n => n ≠ "given name" ∧ Name.Ordinary (Html.stored n) := by
    decide +kernel
  obtain ⟨w', hrename, hactions⟩ : ∃ w', invitation.rename "first name" "given name" = .ok w' ∧
      w'.actions = invitation.actions.map (Action.rename "first name" "given name") :=
    exists_rename (by decide) (by decide) (by decide)
  have ha' : w'.actions[0]? = some ((note inviting).rename "first name" "given name") := by
    rw [hactions]
    rfl
  have hmoves : Context.Moves "first name" "given name"
      [("first name", .text "Ann"), ("Q&A", .text "Law")] _ :=
    Context.moves_renamed (by decide) (by decide) (by decide)
  obtain ⟨hsame, -⟩ := (rename_follows_stored_iff hold hnew).mpr (.inr (by decide)) invitation w'
    hrename 0 (note inviting) _ rfl ha' inviting hl rfl {} rfl _ _ hmoves
  exact ⟨⟨hold, hnew⟩, by decide +kernel, w', hrename, hactions, hsame.trans (by decide +kernel)⟩

/-- A column with an ampersand in its name is renamed, and its value is gone from the text; the
same happens where a column takes such a name. -/
theorem loses_value_ampersand :
    let values (old new : String) := match (referring old).rename old new with
      | .ok w => w.actions.map fun a => render {} a.content [(new, .text "x")]
      | .error _ => []
    (mention "Q&A").content = "\x7b\x7b Q&amp;A \x7d\x7d" ∧
      render {} (mention "Q&A").content [("Q&A", .text "x")] = .ok "x" ∧
      values "Q&A" "new name" = [.ok ""] ∧
      render {} (mention "new name").content [("new name", .text "x")] = .ok "x" ∧
      values "new name" "Q&A" = [.ok ""] := by
  decide +kernel

end Workflow

end MailMerge
