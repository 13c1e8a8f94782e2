import MailMerge.Proofs.Name.Identifier
import MailMerge.Template.Render
import Mathlib.Data.List.Nodup

/-!
# Identifiers for the names of a context

Since no two names have one identifier, the names of a context can always be replaced by
theirs: no two of them collide, and every name keeps its value.
-/

namespace MailMerge

namespace Context

/-- No name is bound twice. -/
def Distinct (c : Context) : Prop := (c.map (·.1)).Nodup

instance (c : Context) : Decidable c.Distinct := inferInstanceAs (Decidable (List.Nodup _))

variable {f : String → String}

theorem mapNamesFrom_eq_ok (hf : Function.Injective f) {c : Context} :
    ∀ {before : Context}, (∀ e ∈ c, ∀ b ∈ before, b.1 ≠ e.1) → c.Distinct →
      mapNamesFrom f before c = .ok (c.map fun e => (f e.1, e.2)) := by
  induction c with
  | nil => intro before _ _; rfl
  | cons e rest ih =>
    intro before hbefore hdistinct
    obtain ⟨hfresh, hrest⟩ := List.nodup_cons.mp hdistinct
    have hnone : (before.find? fun earlier => f earlier.1 == f e.1) = none := by
      rw [List.find?_eq_none]
      intro b hb
      simpa [hf.eq_iff] using hbefore e List.mem_cons_self b hb
    have hnext : ∀ e' ∈ rest, ∀ b ∈ e :: before, b.1 ≠ e'.1 := by
      intro e' he' b hb
      rcases List.mem_cons.mp hb with rfl | hb
      · exact fun heq => hfresh (List.mem_map.mpr ⟨e', he', heq.symm⟩)
      · exact hbefore e' (List.mem_cons_of_mem _ he') b hb
    simp only [mapNamesFrom, hnone, ih hnext hrest, List.map_cons]
    rfl

theorem mapNames_eq_ok (hf : Function.Injective f) {c : Context} (hc : c.Distinct) :
    c.mapNames f = .ok (c.map fun e => (f e.1, e.2)) :=
  mapNamesFrom_eq_ok hf (fun _ _ _ hb => absurd hb List.not_mem_nil) hc

theorem lookup_map_names {α : Type} (hf : Function.Injective f) (n : String) (c : List (String × α)) :
    List.lookup (f n) (c.map fun e => (f e.1, e.2)) = List.lookup n c := by
  induction c with
  | nil => rfl
  | cons e rest ih =>
    have hkey : (f n == f e.1) = (n == e.1) := by
      by_cases h : n = e.1
      · simp [h]
      · rw [beq_eq_false_iff_ne.mpr h, beq_eq_false_iff_ne.mpr (hf.ne h)]
    rw [List.map_cons, List.lookup_cons, List.lookup_cons, hkey, ih]

theorem Distinct.map_names (hf : Function.Injective f) {c : Context} (hc : c.Distinct) :
    Distinct (c.map fun e => (f e.1, e.2)) := by
  have hnames : (c.map fun e => (f e.1, e.2)).map (·.1) = (c.map (·.1)).map f := by
    simp [Function.comp_def]
  rw [Distinct, hnames]
  exact List.Nodup.map hf hc

end Context

namespace Render

/-- In a text of either kind no two names are bound under one identifier. -/
theorem contextIdentifier_injective (options : RenderOptions) :
    Function.Injective (contextIdentifier options) := by
  unfold contextIdentifier
  split
  · exact Name.storedIdentifier_injective
  · exact Name.identifier_injective

/-- No two names share an identifier, whether or not they are stored escaped first; so
replacing the names of a context never fails, and the outcome binds the identifiers of its
names, each once and to the value of the name. -/
theorem identifiers_lose_nothing :
    Function.Injective Name.identifier ∧ Function.Injective Name.storedIdentifier ∧
    ∀ (options : RenderOptions) (c : Context), c.Distinct →
      ∃ out, c.mapNames (contextIdentifier options) = .ok out ∧
        out.map (·.1) = c.map (fun e => contextIdentifier options e.1) ∧ out.Distinct ∧
        ∀ n, Context.get? out (contextIdentifier options n) = c.get? n := by
  refine ⟨Name.identifier_injective, Name.storedIdentifier_injective, ?_⟩
  intro options c hc
  have hf := contextIdentifier_injective options
  refine ⟨_, Context.mapNames_eq_ok hf hc, ?_, hc.map_names hf, ?_⟩
  · simp [Function.comp_def]
  · intro n
    exact Context.lookup_map_names hf n c

/-- Quoted names, names with the marker, and names that HTML would escape. -/
def trickyContext : Context :=
  [("", .null), ("'a b'", .int 1), ("OT_x", .bool true), ("x", .text "y"), ("Q&A", .int 3),
   ("Q&amp;A", .int 4), ("año", .int 5), ("a_7f1_8o", .int 6)]

theorem identifiers_lose_nothing_tricky :
    trickyContext.Distinct ∧
      ∃ out, trickyContext.mapNames (contextIdentifier {}) = .ok out ∧
        out.map (·.1) = trickyContext.map (fun e => contextIdentifier {} e.1) ∧ out.Distinct ∧
        ∀ n, Context.get? out (contextIdentifier {} n) = trickyContext.get? n :=
  ⟨by decide, identifiers_lose_nothing.2.2 {} trickyContext (by decide)⟩

end Render

end MailMerge
