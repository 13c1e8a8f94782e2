import MailMerge.Proofs.Letter.Bindings
import MailMerge.Proofs.Letter.Confined

/-!
# Rows beside an action

The action and the counter are bound under names no identifier equals, so they take nothing away
from what a row binds; and a letter, whose names become identifiers, is rendered with an action
as without one.
-/

namespace MailMerge

theorem Context.mapNamesFrom_ok {f : String → String} {before c out : Context}
    (h : mapNamesFrom f before c = .ok out) : out = c.map fun e => (f e.1, e.2) := by
  induction c generalizing before out with
  | nil => exact (Except.ok.inj h).symm
  | cons e rest ih =>
    rw [mapNamesFrom] at h
    split at h
    · cases h
    · obtain ⟨more, hmore, hout⟩ := exists_of_bind_eq_ok h
      cases hout
      rw [ih hmore, List.map_cons]

namespace Render

variable (options : RenderOptions)

theorem contextIdentifier_not_mem_reservedNames (n : String) :
    contextIdentifier options n ∉ reservedNames := by
  unfold contextIdentifier
  split
  · exact Name.identifier_not_mem_reservedNames _
  · exact Name.identifier_not_mem_reservedNames n

theorem bindings_some (c : Context) (a : Datum) :
    bindings options c (some a) = (bindings options c none).map (ownBindings a ++ ·) := by
  simp only [bindings, ownBindings]
  cases c.mapNames (contextIdentifier options) <;> rfl

/-- The names of a row are bound under no reserved name. -/
theorem lookup_reservedName {c : Context} {bound : List (String × Datum)}
    (h : bindings options c none = .ok bound) : ∀ r ∈ reservedNames, bound.lookup r = none := by
  intro r hr
  obtain ⟨named, hnamed, hbound⟩ := exists_of_bind_eq_ok h
  cases hbound
  rw [Context.mapNamesFrom_ok hnamed, List.nil_append, List.lookup_eq_none_iff]
  intro e he
  obtain ⟨e', he', rfl⟩ := List.mem_map.mp he
  obtain ⟨e'', -, rfl⟩ := List.mem_map.mp he'
  refine bne_iff_ne.mpr ?_
  rintro rfl
  exact contextIdentifier_not_mem_reservedNames options e''.1 hr

/-- A letter is rendered alike where all but reserved names are bound alike. -/
theorem renderTemplate_congr {bound bound' : List (String × Datum)}
    (hbound : ∀ n, n ∉ reservedNames → bound.lookup n = bound'.lookup n) {l : Letter}
    (hl : l.All Name.Ordinary Name.Ordinary) :
    renderTemplate options bound (Reference.substitute referenceIdentifier l.text)
      = renderTemplate options bound' (Reference.substitute referenceIdentifier l.text) := by
  have hfree : ∀ n, Name.Ordinary n → referenceIdentifier n ∉ reservedNames := by
    intro n hn
    rw [hn.referenceIdentifier]
    exact Name.identifier_not_mem_reservedNames n
  have hidentified : l.identified.All (· ∉ reservedNames) (· ∉ reservedNames) :=
    Letter.All.mapNames l (Letter.All.imp hfree hfree l hl)
  have hphrases := (l.identified.ended options.keepTrailingNewline).phrases_tokens_append
    (hidentified.ended _) .nil []
  rw [List.append_nil] at hphrases
  rw [hl.substitute_referenceIdentifier, renderTemplate, renderTemplate,
    l.identified.tokenize_text _ hl.isWord_identified]
  cases hread : Node.read ((l.identified.ended options.keepTrailingNewline).tokens []) with
  | error e => simp only [bind, Except.bind]
  | ok ns =>
    have hsame := Node.render_confined options.strictUndefined options.html
      (Node.confined_of_read hphrases hread) hbound
    simp only [bind, Except.bind, hsame]

/-- An action that is bound disturbs nothing of a row: no name is bound, or looked up, as one of
the reserved names, and every letter comes out as without the action, be it an error or a text. -/
theorem action_disturbs_nothing (c : Context) (action : Datum) :
    (∀ n, Name.identifier n ∉ reservedNames ∧ Name.storedIdentifier n ∉ reservedNames) ∧
      (∀ bound, bindings options c none = .ok bound →
        (∀ r ∈ reservedNames, bound.lookup r = none) ∧
          ∃ bound', bindings options c (some action) = .ok bound' ∧
            ∀ n, n ∉ reservedNames → bound'.lookup n = bound.lookup n) ∧
      ((∀ r ∈ reservedNames, c.contains r = false) →
        ∀ l : Letter, l.All Name.Ordinary Name.Ordinary →
          renderAction options l.text c action = render options l.text c) := by
  refine ⟨fun n => ?_, fun bound hbound => ?_, fun hc l hl => ?_⟩
  · exact ⟨Name.identifier_not_mem_reservedNames n, Name.identifier_not_mem_reservedNames _⟩
  · refine ⟨lookup_reservedName options hbound, ownBindings action ++ bound, ?_, fun n hn => ?_⟩
    · rw [bindings_some, hbound]
      rfl
    · exact lookup_ownBindings_append action hn bound
  · have hnone : reservedNames.find? c.contains = none := by
      rw [List.find?_eq_none]
      exact fun r hr => by simp [hc r hr]
    simp only [renderAction, render, renderWith, Option.isSome_some, Option.isSome_none, if_true,
      hnone, bindings_some]
    cases bindings options c none with
    | error e => rfl
    | ok bound =>
      have hsame := renderTemplate_congr options
        (fun n hn => lookup_ownBindings_append action hn bound) hl
      simp only [Except.map, bind, Except.bind, hsame]
      rfl

/-- A letter with a word of the engine in the place of a name, and a name that HTML would
escape. -/
def reminder : Letter :=
  .reference "first name" (.char ',' (.condition "R&D"
    (.reference "true" .done)
    (.onlyIf "none" .done (.always (.reference "due" .done)))
    .done))

theorem action_disturbs_nothing_reminder :
    let c : Context := [("first name", .text "Ann"), ("R&D", .bool false), ("due", .int 3)]
    (∀ r ∈ reservedNames, c.contains r = false) ∧ reminder.All Name.Ordinary Name.Ordinary ∧
      renderAction {} reminder.text c (.text "mail" false) = render {} reminder.text c := by
  intro c
  have hc : ∀ r ∈ reservedNames, c.contains r = false := by decide +kernel
  have hletter : reminder.All Name.Ordinary Name.Ordinary := by decide +kernel
  exact ⟨hc, hletter, (action_disturbs_nothing {} c (.text "mail" false)).2.2 hc _ hletter⟩

end Render

end MailMerge
