import MailMerge.Formula.Describe
import MailMerge.Proofs.Formula.Fold
import MailMerge.Proofs.Text.Passages

/-!
# What a description tells

Groups put words around the descriptions of their members and between them, and change nothing in
them. So the phrases of all leaves stand in the description of a formula in the order of the leaves,
none over another, and with each phrase the variable it begins with. To negate a formula twice may
put it into a group of its own, which is described by its only member.
-/

namespace MailMerge

open Text (InOrder Passage)

namespace Comparison

variable {c : Comparison} {phrase : String}

theorem exists_eq_field_append (h : c.describe = .ok phrase) :
    ∃ rest, phrase = c.field ++ rest := by
  rw [describe] at h
  split at h
  · cases h
    exact ⟨_, rfl⟩
  · cases h
    exact ⟨_, String.append_assoc⟩
  · cases h
    exact ⟨_, rfl⟩
  · next low high _ _ _ =>
    cases h
    refine ⟨verb c.operator ++ c.displayConstant low ++ " and " ++ c.displayConstant high, ?_⟩
    simp only [String.append_assoc]
  · cases h

/-- A phrase begins with its variable. -/
theorem passage_of_describe (h : c.describe = .ok phrase) :
    ∃ p : Passage phrase, p.text = c.field := by
  obtain ⟨rest, rfl⟩ := exists_eq_field_append h
  exact ⟨(Passage.whole c.field).followed rest, rfl⟩

end Comparison

namespace Formula

variable {f : Formula} {t : String}

-- ---------------------------------------------------------------------------
-- Groups
-- ---------------------------------------------------------------------------

/-- What stands in the descriptions of members one by one stands in that of their group. -/
theorem inOrder_joinPhrases (kind : Conjunction) (negated : Bool) {partss : List (List String)}
    {members : List String} (h : List.Forall₂ InOrder partss members) :
    InOrder partss.flatten (joinPhrases kind negated members) := by
  have hnegated : ∀ {parts t}, InOrder parts t →
      InOrder parts (if negated then "NOT (" ++ t ++ ")" else t) := by
    intro parts t hparts
    split
    · exact hparts.enclosed "NOT (" ")"
    · exact hparts
  cases h with
  | nil => exact .nil ""
  | cons hfirst hrest =>
    cases hrest with
    | nil =>
      rw [List.flatten_singleton]
      exact hnegated hfirst
    | cons hsecond hrest =>
      have hjoined := InOrder.intercalate (") " ++ kind.name ++ " (")
        (.cons hfirst (.cons hsecond hrest))
      exact hnegated (hjoined.enclosed "(" ")")

theorem describe_single (kind : Conjunction) (f : Formula) :
    (Formula.group kind false [f]).describe = f.describe := by
  rw [describe, fold, foldEach, foldEach, ← describe]
  cases f.describe <;> rfl

theorem describe_negate_negate (f : Formula) : f.negate.negate.describe = f.describe := by
  cases f with
  | leaf c => exact describe_single .and (.leaf c)
  | group kind negated children => rw [negate, negate, Bool.not_not]

-- ---------------------------------------------------------------------------
-- Leaves
-- ---------------------------------------------------------------------------

/-- The phrases of the leaves are there, and stand in the description in order. -/
theorem phrases_of_describe (h : f.describe = .ok t) :
    ∃ phrases, List.Forall₂ (fun c phrase => c.describe = .ok phrase) f.leaves phrases ∧
      InOrder phrases t :=
  answers_of_fold_eq_ok InOrder.whole
    (fun kind negated _ _ => inOrder_joinPhrases kind negated) f h

/-- A description holds the phrases of its leaves, each as it describes the leaf alone, in the order
of the leaves and none over another, and so it names their variables, each as often as it is
compared. Negated twice a formula is described as before. -/
theorem describe_tells_leaves (f : Formula) :
    (∀ t, f.describe = .ok t →
      (∃ phrases, List.Forall₂ (fun c phrase => (Formula.leaf c).describe = .ok phrase)
          f.leaves phrases ∧ InOrder phrases t) ∧
      InOrder f.variableNames t ∧ ∀ n ∈ f.variableNames, n.toList <:+: t.toList) ∧
    f.negate.negate.describe = f.describe := by
  refine ⟨fun t h => ?_, describe_negate_negate f⟩
  obtain ⟨phrases, hphrases, horder⟩ := phrases_of_describe h
  have hfields : List.Forall₂ (fun phrase n => ∃ p : Passage phrase, p.text = n) phrases
      f.variableNames := by
    rw [variableNames, List.forall₂_map_right_iff]
    exact hphrases.flip.imp fun phrase c => Comparison.passage_of_describe
  have hnames : InOrder f.variableNames t := horder.narrow hfields
  exact ⟨⟨phrases, hphrases, horder⟩, hnames, fun n => hnames.infix_of_mem⟩

/-- A negated group, a group without members, one with a single member, and a variable that is
compared twice. -/
def seated : Formula :=
  .and [(Formula.or [.leaf ⟨"age", .greater, .integer, .single (.text "18")⟩,
      .leaf ⟨"first name", .beginsWith, .string, .single (.text "age")⟩]).negate,
    .leaf ⟨"row", .between, .integer, .range (.int 1) (.text "nine")⟩, .or [],
    .or [.leaf ⟨"age", .isNull, .integer, .none⟩]]

def seatedText : String :=
  "(NOT ((age is greater than 18) OR (first name starts with age))) AND " ++
    "(row is between 1 and nine) AND () AND (age is null)"

theorem describe_tells_leaves_seated :
    seated.describe = .ok seatedText ∧
      InOrder ["age is greater than 18", "first name starts with age",
        "row is between 1 and nine", "age is null"] seatedText ∧
      InOrder ["age", "first name", "row", "age"] seatedText ∧
      ("row" ∈ seated.variableNames ∧ "row".toList <:+: seatedText.toList) ∧
      seated.negate.negate.describe = .ok seatedText := by
  have htext : seated.describe = .ok seatedText := by decide +kernel
  obtain ⟨hleaves, htwice⟩ := describe_tells_leaves seated
  obtain ⟨⟨phrases, hphrases, horder⟩, hnames, hinfix⟩ := hleaves seatedText htext
  have heach : seated.leaves.mapM (fun c => (Formula.leaf c).describe)
      = .ok ["age is greater than 18", "first name starts with age",
        "row is between 1 and nine", "age is null"] := by
    decide +kernel
  have hlist := (mapM_eq_ok_iff.mpr hphrases).symm.trans heach
  have hrow : "row" ∈ seated.variableNames := by decide
  exact ⟨htext, Except.ok.inj hlist ▸ horder, hnames, ⟨hrow, hinfix "row" hrow⟩,
    htwice.trans htext⟩

end Formula

end MailMerge
