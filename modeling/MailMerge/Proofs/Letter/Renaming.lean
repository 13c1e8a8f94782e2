import MailMerge.Proofs.Letter.Bindings
import MailMerge.Proofs.Letter.Names
import MailMerge.Proofs.Name.Renaming
import Mathlib.Logic.Equiv.Basic

/-!
# Renaming a name of a letter

A letter in which one name is replaced by a new one, rendered for a context in which the name
is replaced too, comes out as before. What is bound as the action makes no difference.
-/

namespace MailMerge

namespace Render

/-- One name replaced by another. -/
def follow (old new n : String) : String := if n == old then new else n

variable {old new : String}

theorem follow_self : follow old new old = new := if_pos (beq_self_eq_true old)

theorem follow_of_ne {n : String} (h : n ≠ old) : follow old new n = n := if_neg (mt beq_iff_eq.mp h)

/-- Nothing changes where a name is replaced by itself. -/
theorem follow_same (old : String) : follow old old = id := by
  funext n
  unfold follow
  split
  · next heq => exact (beq_iff_eq.mp heq).symm
  · rfl

theorem follow_induction {P : String → Prop} {n : String} (hn : P n) (hnew : P new) :
    P (follow old new n) := by
  unfold follow
  split
  · exact hnew
  · exact hn

theorem follow_no_brace (hnew : Name.Ordinary new) (n : String) (hn : Name.Ordinary n) :
    '{' ∉ (follow old new n).toList :=
  follow_induction (P := fun n => '{' ∉ n.toList) hn.no_brace hnew.no_brace

theorem rename_text {l : Letter} (hl : l.All Name.Ordinary Name.Ordinary)
    (hnew : Name.Ordinary new) :
    Reference.rename old new l.text = (l.mapNames (follow old new) (follow old new)).text :=
  Letter.substitute_text (follow old new) (follow_no_brace hnew) l hl

theorem sendable_follow {n : String} (hn : Sendable n) (hnew : Sendable new) :
    Sendable (follow old new n) := follow_induction hn hnew

variable {c : Context}

/-- A name other than the new one stands for what it stood for. -/
theorem datumOf_follow (hold : c.contains old = true) {n : String} (hn : n ≠ new) :
    datumOf (c.renamed (Equiv.swap old new)) (follow old new n) = datumOf c n := by
  have hσ : Function.Injective (Equiv.swap old new) := Equiv.injective _
  by_cases h : n = old
  · rw [h, follow_self]
    have hget := Context.get?_renamed hσ c old
    rw [Equiv.swap_apply_left] at hget
    rw [datumOf, datumOf, hget]
    rw [Context.contains] at hold
    cases hv : c.get? old with
    | some v => rfl
    | none => rw [hv] at hold; cases hold
  · rw [follow_of_ne h]
    have hget := Context.get?_renamed hσ c n
    rw [Equiv.swap_apply_of_ne_of_ne h hn] at hget
    rw [datumOf, datumOf, hget]

theorem ne_of_isReserved {n r : String} (hn : isReserved n = false) (hr : r ∈ reservedNames) :
    r ≠ n := by
  have hreserved : ∀ r ∈ reservedNames, isReserved r = true := by decide +kernel
  rintro rfl
  rw [hreserved r hr] at hn
  cases hn

theorem no_reserved_renamed (hold : c.contains old = true) (hnew : isReserved new = false)
    (h : reservedNames.find? c.contains = none) :
    reservedNames.find? (c.renamed (Equiv.swap old new)).contains = none := by
  rw [List.find?_eq_none] at h ⊢
  intro r hr
  have hrOld : r ≠ old := fun heq => h r hr (heq ▸ hold)
  have hrNew : r ≠ new := ne_of_isReserved hnew hr
  have hcontains := c.contains_renamed (Equiv.injective (Equiv.swap old new)) r
  rw [Equiv.swap_apply_of_ne_of_ne hrOld hrNew] at hcontains
  rw [hcontains]
  exact h r hr

theorem renderAction_rename (options : RenderOptions) {l : Letter} (hl : l.All Sendable Sendable)
    (hunused : new ∉ Reference.names l.text) (hnew : Sendable new) (hc : c.Distinct)
    (hold : c.contains old = true) (a a' : Datum) {body : String}
    (h : renderAction options l.text c a = .ok body) :
    renderAction options (Reference.rename old new l.text) (c.renamed (Equiv.swap old new)) a'
      = .ok body := by
  have hplain : l.All Name.Plain Name.Plain :=
    Letter.All.imp (fun _ hn => hn.1) (fun _ hn => hn.1) l hl
  have hreserved : reservedNames.find? c.contains = none := by
    cases hfind : reservedNames.find? c.contains with
    | none => rfl
    | some r => simp [renderAction, renderWith, hfind] at h
  have hsendable : (l.mapNames (follow old new) (follow old new)).All Sendable Sendable :=
    Letter.All.mapNames l (Letter.All.imp (fun _ hn => sendable_follow hn hnew)
      (fun _ hn => sendable_follow hn hnew) l hl)
  have hdistinct : (c.renamed (Equiv.swap old new)).Distinct :=
    hc.map_names (Equiv.injective _)
  have hdatum : l.All
      (fun n => datumOf (c.renamed (Equiv.swap old new)) (follow old new n) = datumOf c n)
      (fun n => datumOf (c.renamed (Equiv.swap old new)) (follow old new n) = datumOf c n) :=
    Letter.All.imp (fun _ hn => datumOf_follow hold hn.2) (fun _ hn => datumOf_follow hold hn.2) l
      (Letter.all_ne_of_not_mem_names hplain hunused)
  rw [rename_text hplain.ordinary hnew.1.ordinary,
    renderAction_letter options _ hsendable hdistinct (no_reserved_renamed hold hnew.1.unreserved
      hreserved), letterWith_mapNames options hdatum,
    ← renderAction_letter options l hl hc hreserved a, h]

end Render

end MailMerge
