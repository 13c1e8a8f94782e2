import MailMerge.Proofs.Letter.Rendering
import MailMerge.Proofs.Name.Reserved

/-!
# What the text of an action finds

The action and the counter are bound beside the context of a row, under names that no
identifier equals. So a name of a letter stands for what the context says of it, and a
letter is rendered alike for two contexts that say the same of its names.
-/

namespace MailMerge

-- ---------------------------------------------------------------------------
-- Bindings
-- ---------------------------------------------------------------------------

namespace Render

variable (options : RenderOptions)

theorem contextIdentifier_of_unescaped {n : String} (h : Name.Unescaped n) :
    contextIdentifier options n = Name.identifier n := by
  unfold contextIdentifier
  split
  · rw [Name.storedIdentifier, h.stored]
  · rfl

/-- What is bound for an action beside the names of a row. -/
def ownBindings (a : Datum) : List (String × Datum) :=
  [(actionName, a), (counterName, Datum.int 0)]

theorem lookup_ownBindings_append (a : Datum) {n : String} (hn : n ∉ reservedNames)
    (bound : List (String × Datum)) : (ownBindings a ++ bound).lookup n = bound.lookup n := by
  simp only [reservedNames, List.mem_cons, List.not_mem_nil, or_false, not_or] at hn
  have haction : (n == actionName) = false := beq_eq_false_iff_ne.mpr hn.1
  have hcounter : (n == counterName) = false := beq_eq_false_iff_ne.mpr hn.2
  rw [ownBindings, List.cons_append, List.cons_append, List.nil_append, List.lookup_cons, haction,
    List.lookup_cons, hcounter]

/-- What is bound for an action and a row. -/
def boundFor (c : Context) (a : Datum) : List (String × Datum) :=
  [(actionName, a), (counterName, Datum.int 0)] ++
    (c.map fun e => (contextIdentifier options e.1, e.2)).map fun e => (e.1, Datum.ofValue e.2)

theorem bindings_action {c : Context} (hc : c.Distinct) (a : Datum) :
    bindings options c (some a) = .ok (boundFor options c a) := by
  rw [bindings, Context.mapNames_eq_ok (contextIdentifier_injective options) hc]
  rfl

theorem found_boundFor (c : Context) (a : Datum) {n : String} (hn : Name.Unescaped n) :
    found options (boundFor options c a) n = datumOf c n := by
  have hlookup : (boundFor options c a).lookup (Name.identifier n)
      = (c.get? n).map Datum.ofValue := by
    change (ownBindings a ++ _).lookup _ = _
    rw [lookup_ownBindings_append a (Name.identifier_not_mem_reservedNames n), lookup_ofValue,
      Context.get?, ← contextIdentifier_of_unescaped options hn,
      Context.lookup_map_names (contextIdentifier_injective options)]
    rfl
  exact found_eq_datumOf options _ hlookup

-- ---------------------------------------------------------------------------
-- Letters of an action
-- ---------------------------------------------------------------------------

/-- A name of a letter that may stand in HTML. -/
def Sendable (n : String) : Prop := Name.Plain n ∧ Name.Unescaped n

instance (n : String) : Decidable (Sendable n) := inferInstanceAs (Decidable (_ ∧ _))

theorem renderAction_letter (l : Letter) (hl : l.All Sendable Sendable) {c : Context}
    (hc : c.Distinct) (hreserved : reservedNames.find? c.contains = none) (a : Datum) :
    renderAction options l.text c a = letterWith options (datumOf c) l := by
  have hplain : l.All Name.Plain Name.Plain :=
    Letter.All.imp (fun _ hn => hn.1) (fun _ hn => hn.1) l hl
  have hfound : l.All (fun n => datumOf c (id n) = found options (boundFor options c a) n)
      (fun n => datumOf c (id n) = found options (boundFor options c a) n) :=
    Letter.All.imp (fun _ hn => (found_boundFor options c a hn.2).symm)
      (fun _ hn => (found_boundFor options c a hn.2).symm) l hl
  have hsame := letterWith_mapNames options hfound
  rw [Letter.mapNames_id] at hsame
  simp only [renderAction, renderWith, Option.isSome_some, if_true, hreserved,
    bindings_action options hc, bind, Except.bind, renderTemplate_letter options _ l hplain, hsame]

end Render

end MailMerge
