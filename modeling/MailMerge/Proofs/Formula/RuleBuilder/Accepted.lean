import MailMerge.Proofs.Formula.RuleBuilder.Written
import MailMerge.Proofs.Traversal

/-!
# Accepted documents

A document may spell a formula in more ways than it is written in. However it was spelled, the
formula has named leaves, as many constants as their operators take, and no instants, and it is
written at most one level deeper than the document. So it is read back, unless it compares with
a null that stood in a list.
-/

namespace MailMerge

-- ---------------------------------------------------------------------------
-- Constants
-- ---------------------------------------------------------------------------

/-- Whether a value is no instant. -/
def Value.Timeless (v : Value) : Prop := ∀ t, v ≠ .time t

instance (v : Value) : Decidable (∀ x, v ≠ .double x) :=
  decidable_of_iff (v.kindName ≠ "double") (by cases v <;> simp [Value.kindName])

/-- Documents hold no instants: these stand in them as texts. -/
theorem Document.timeless_of_value? {d : Document} {v : Value} (h : d.value? = some v) :
    v.Timeless := by
  obtain ⟨s, -, rfl⟩ := Option.map_eq_some_iff.mp h
  intro t ht
  cases s with
  | int i =>
    rw [Value.ofScalar] at ht
    split at ht <;> cases ht
  | _ => cases ht

theorem Document.timeless_of_mapM_value? {ds : List Document} {vs : List Value}
    (h : ds.mapM value? = some vs) : ∀ v ∈ vs, v.Timeless := by
  intro v hv
  obtain ⟨d, -, hd⟩ := exists_mem_of_forall₂ (mapM_eq_some_iff.mp h) hv
  exact timeless_of_value? hd

namespace RuleInput

/-- The constants of an input, in order. -/
def values : RuleInput → List Value
  | .one v => [v]
  | .many vs => vs

theorem timeless_of_ofDocument? {d : Document} {i : RuleInput} (h : ofDocument? d = some i) :
    ∀ v ∈ i.values, v.Timeless := by
  have hone (hd : d.value?.map .one = some i) : ∀ v ∈ i.values, v.Timeless := by
    obtain ⟨v, hv, rfl⟩ := Option.map_eq_some_iff.mp hd
    exact List.forall_mem_singleton.mpr (Document.timeless_of_value? hv)
  cases d with
  | list ds =>
    obtain ⟨vs, hvs, rfl⟩ := Option.map_eq_some_iff.mp h
    exact Document.timeless_of_mapM_value? hvs
  | _ => exact hone h

end RuleInput

theorem Document.Fields.of_optional?_eq_some {α : Type} {fs : Document.Fields} {name : String}
    {default x : α} {read : Document → Option α} (h : fs.optional? name default read = some x) :
    x = default ∨ ∃ d, read d = some x := by
  rw [optional?] at h
  split at h
  · exact .inl (Option.some.inj h.symm)
  · exact .inr ⟨_, h⟩

namespace Rule

variable {r : Rule}

/-- Whether no constant of a rule is an instant. -/
def Timeless (r : Rule) : Prop := ∀ i ∈ r.input, ∀ v ∈ i.values, v.Timeless

theorem timeless_of_ofDocument? {d : Document} (h : Rule.ofDocument? d = some r) :
    r.Timeless := by
  simp only [Rule.ofDocument?, Option.bind_eq_bind, Option.bind_eq_some_iff] at h
  obtain ⟨fs, -, id, -, field, -, dataType, -, -, -, operator, -, input, hinput, hr⟩ := h
  obtain rfl := Option.some.inj hr
  intro i hi
  change input = some i at hi
  rw [hi] at hinput
  rcases Document.Fields.of_optional?_eq_some hinput with hnone | ⟨d, hd⟩
  · cases hnone
  · rw [RuleInput.optional?] at hd
    split at hd
    · cases hd
    · obtain ⟨_, hread, hsame⟩ := Option.map_eq_some_iff.mp hd
      cases hsame
      exact RuleInput.timeless_of_ofDocument? hread

theorem values_of_operand?_eq_some {o : Operand} (h : r.operand? = some o) :
    o.values.length = r.operator.arity ∧ ∀ v ∈ o.values, ∃ i ∈ r.input, v ∈ i.values := by
  rw [operand?] at h
  split at h <;> cases h <;> simp_all [Operand.values, RuleInput.values]

end Rule

/-- What is known of a leaf that was read: it has a name, as many constants as its operator
takes, and none of them is an instant. -/
structure Comparison.Accepted (c : Comparison) : Prop where
  named : c.field ≠ ""
  arity : c.operand.values.length = c.operator.arity
  timeless : ∀ v ∈ c.operand.values, v.Timeless

theorem Rule.Timeless.accepted {r : Rule} (hr : r.Timeless) {c : Comparison}
    (h : r.toComparison = .ok c) : c.Accepted := by
  unfold toComparison at h
  extract_lets field at h
  split at h
  next => cases h
  next hnamed =>
    split at h
    next o ho =>
      obtain ⟨harity, hvalues⟩ := values_of_operand?_eq_some ho
      cases h
      refine ⟨by simpa using hnamed, harity, fun v hv => ?_⟩
      obtain ⟨i, hi, hvi⟩ := hvalues v hv
      exact hr i hi v hvi
    next => cases h

theorem Comparison.Accepted.storable {c : Comparison} (h : c.Accepted)
    (hdouble : ∀ v ∈ c.operand.values, ∀ x, v ≠ .double x) : c.Storable where
  named := h.named
  arity := h.arity
  kept v hv := by
    cases v with
    | double x => exact (hdouble _ hv x rfl).elim
    | time t => exact (h.timeless _ hv t rfl).elim
    | _ => trivial

theorem Comparison.depth_toDocument_le (c : Comparison) : c.toDocument.depth ≤ 2 := by
  obtain ⟨field, operator, dataType, operand⟩ := c
  cases operand <;> exact Nat.le_of_ble_eq_true rfl

-- ---------------------------------------------------------------------------
-- Nodes
-- ---------------------------------------------------------------------------

namespace RuleNode

/-- Whether a node holds no instant and is written with at most so many levels. -/
inductive Within : Nat → RuleNode → Prop
  | rule {m : Nat} {r : Rule} (h : r.Timeless) : Within (m + 2) (.rule r)
  | group {m : Nat} {condition : String} {negated : Bool} {members : List RuleNode}
      (h : ∀ n ∈ members, Within m n) : Within (m + 2) (.group condition negated members)

theorem Within.mono {m m' : Nat} {n : RuleNode} (h : Within m n) (hm : m ≤ m') :
    Within m' n := by
  induction h generalizing m' with
  | rule h =>
    obtain ⟨k, rfl⟩ := Nat.exists_eq_add_of_le' (Nat.le_trans (Nat.le_add_left 2 _) hm)
    exact .rule h
  | group _ ih =>
    obtain ⟨k, rfl⟩ := Nat.exists_eq_add_of_le' (Nat.le_trans (Nat.le_add_left 2 _) hm)
    exact .group fun n hn => ih n hn (Nat.le_of_add_le_add_right hm)

/-- What makes a group has a list of nodes, or no members at all. -/
theorem of_group?_eq_some {d : Document} {rules : List (Option (List RuleNode))} {n : RuleNode}
    (h : group? d rules = some n) : ∃ condition negated members,
      n = .group condition negated members ∧ (members = [] ∨ some members ∈ rules) := by
  simp only [group?, Option.bind_eq_bind, Option.bind_eq_some_iff] at h
  obtain ⟨fs, -, condition, -, negated, -, h⟩ := h
  split at h
  next =>
    simp only [Option.bind_some, Option.bind_eq_some_iff] at h
    obtain ⟨-, -, hn⟩ := h
    exact ⟨condition, negated, [], (Option.some.inj hn).symm, .inl rfl⟩
  next found hlookup =>
    simp only [Option.bind_eq_some_iff] at h
    obtain ⟨members, rfl, -, -, hn⟩ := h
    refine ⟨condition, negated, members, (Option.some.inj hn).symm, .inr ?_⟩
    obtain ⟨before, behind, hzip, -⟩ := List.lookup_eq_some_iff.mp hlookup
    have hmem : ("rules", some members) ∈ before ++ ("rules", some members) :: behind :=
      List.mem_append_right before List.mem_cons_self
    rw [← hzip] at hmem
    exact (List.of_mem_zip hmem).2

/-- A list or record is a group of what its items hold, or else a rule. -/
theorem within_of_orElse {d : Document} {rules : List (Option (List RuleNode))} {m : Nat}
    {n : RuleNode} (hrules : ∀ members, some members ∈ rules → ∀ n ∈ members, Within m n)
    (h : ((group? d rules).orElse fun _ => (Rule.ofDocument? d).map .rule) = some n) :
    Within (m + 2) n := by
  cases hgroup : group? d rules with
  | some n' =>
    rw [hgroup] at h
    obtain rfl := Option.some.inj h
    obtain ⟨condition, negated, members, rfl, hmembers⟩ := of_group?_eq_some hgroup
    refine .group fun n hn => ?_
    rcases hmembers with rfl | hmembers
    · exact absurd hn List.not_mem_nil
    · exact hrules members hmembers n hn
  | none =>
    rw [hgroup] at h
    obtain ⟨r, hr, rfl⟩ := Option.map_eq_some_iff.mp h
    exact .rule (Rule.timeless_of_ofDocument? hr)

mutual

theorem within_of_ofDocument? (d : Document) {n : RuleNode} (h : ofDocument? d = some n) :
    Within (d.depth + 1) n := by
  match d with
  | .scalar _ => cases h
  | .plain _ => cases h
  | .tagged _ _ => cases h
  | .list ds =>
    rw [ofDocument?] at h
    exact within_of_orElse (within_of_mem_listsOf ds) h
  | .record fs =>
    rw [ofDocument?] at h
    exact within_of_orElse (within_of_mem_fieldLists fs) h

theorem within_of_list? (d : Document) {ns : List RuleNode} (h : list? d = some ns) :
    ∀ n ∈ ns, Within d.depth n := by
  match d with
  | .scalar _ => cases h
  | .plain _ => cases h
  | .tagged _ _ => cases h
  | .list ds =>
    rw [list?] at h
    exact within_of_each? ds h
  | .record _ => cases h

theorem within_of_each? (ds : List Document) {ns : List RuleNode} (h : each? ds = some ns) :
    ∀ n ∈ ns, Within (Document.depthItems ds + 1) n := by
  match ds with
  | [] =>
    obtain rfl : ns = [] := by rw [each?] at h; exact (Option.some.inj h).symm
    exact List.forall_mem_nil _
  | d :: ds =>
    rw [each?] at h
    split at h
    next n ns' hn hns =>
      obtain rfl := Option.some.inj h
      have hd := within_of_ofDocument? d hn
      have hds := within_of_each? ds hns
      rw [Document.depthItems]
      exact List.forall_mem_cons.mpr
        ⟨hd.mono (by omega), fun k hk => (hds k hk).mono (by omega)⟩
    next => cases h

theorem within_of_mem_listsOf (ds : List Document) (ns : List RuleNode)
    (h : some ns ∈ listsOf ds) : ∀ n ∈ ns, Within (Document.depthItems ds) n := by
  match ds with
  | [] => rw [listsOf] at h; exact absurd h List.not_mem_nil
  | d :: ds =>
    rw [listsOf, List.mem_cons] at h
    intro n hn
    rw [Document.depthItems]
    rcases h with h | h
    · exact (within_of_list? d h.symm n hn).mono (Nat.le_max_left _ _)
    · exact (within_of_mem_listsOf ds ns h n hn).mono (Nat.le_max_right _ _)

theorem within_of_mem_fieldLists (fs : List (String × Document)) (ns : List RuleNode)
    (h : some ns ∈ fieldLists fs) : ∀ n ∈ ns, Within (Document.depthFields fs) n := by
  match fs with
  | [] => rw [fieldLists] at h; exact absurd h List.not_mem_nil
  | (_, d) :: fs =>
    rw [fieldLists, List.mem_cons] at h
    intro n hn
    rw [Document.depthFields]
    rcases h with h | h
    · exact (within_of_list? d h.symm n hn).mono (Nat.le_max_left _ _)
    · exact (within_of_mem_fieldLists fs ns h n hn).mono (Nat.le_max_right _ _)

end

-- ---------------------------------------------------------------------------
-- Formulas
-- ---------------------------------------------------------------------------

/-- Whether a formula is written with at most so many levels, and its leaves are as leaves that
were read are. -/
def Gives (m : Nat) (f : Formula) : Prop :=
  f.toDocument.depth ≤ m ∧ ∀ c ∈ f.leaves, c.Accepted

theorem gives_of_toFormulas {m : Nat} {ns : List RuleNode}
    (hns : ∀ n ∈ ns, ∀ f, n.toFormula = .ok f → Gives m f) {fs : List Formula}
    (h : toFormulas ns = .ok fs) :
    Document.depthItems (Formula.toDocuments fs) ≤ m ∧
      ∀ c ∈ Formula.leavesEach fs, c.Accepted := by
  induction ns generalizing fs with
  | nil =>
    cases h
    exact ⟨Nat.zero_le m, List.forall_mem_nil _⟩
  | cons n ns ih =>
    rw [toFormulas] at h
    cases hn : n.toFormula with
    | error e => rw [hn] at h; cases h
    | ok f =>
      cases hfs : toFormulas ns with
      | error e => rw [hn, hfs] at h; cases h
      | ok fs' =>
        rw [hn, hfs] at h
        cases h
        obtain ⟨hdepth, hleaves⟩ := hns n List.mem_cons_self f hn
        obtain ⟨hdepths, hleavesEach⟩ := ih (fun k hk => hns k (List.mem_cons_of_mem n hk)) hfs
        refine ⟨Nat.max_le.mpr ⟨hdepth, hdepths⟩, fun c hc => ?_⟩
        rw [Formula.leavesEach, List.mem_append] at hc
        exact hc.elim (hleaves c) (hleavesEach c)

theorem Within.gives {m : Nat} {n : RuleNode} (h : Within m n) {f : Formula}
    (hf : n.toFormula = .ok f) : Gives m f := by
  induction h generalizing f with
  | @rule m r hr =>
    rw [toFormula] at hf
    cases hc : r.toComparison with
    | error e => rw [hc] at hf; cases hf
    | ok c =>
      rw [hc] at hf
      cases hf
      exact ⟨Nat.le_trans c.depth_toDocument_le (Nat.le_add_left 2 m),
        List.forall_mem_singleton.mpr (hr.accepted hc)⟩
  | @group m condition negated members _ ih =>
    rw [toFormula] at hf
    split at hf
    next => cases hf
    next kind _ =>
      cases hfs : toFormulas members with
      | error e => rw [hfs] at hf; cases hf
      | ok fs =>
        rw [hfs] at hf
        cases hf
        obtain ⟨hdepth, hleaves⟩ := gives_of_toFormulas (fun n hn f hf => ih n hn hf) hfs
        refine ⟨?_, hleaves⟩
        simp only [Formula.toDocument, Document.depth, Document.depthFields, Document.text,
          Document.bool]
        omega

end RuleNode

namespace Formula

/-- The formula of a document is written at most one level deeper. -/
theorem gives_of_ofDocument {d : Document} {f : Formula} (h : ofDocument d = .ok f) :
    RuleNode.Gives (d.depth + 1) f := by
  rw [ofDocument] at h
  split at h
  next n hn => exact (RuleNode.within_of_ofDocument? d hn).gives h
  next => cases h

/-- A formula that was read from a text, and holds no doubles, is read back from the text it is
written as, unless a leaf compares with null alone. -/
theorem ofText_toText_of_ofText {s : String} {d : Document} {f : Formula}
    (hread : Json.read? s = some d) (hs : ofText s = .ok f) (hdepth : d.depth + 4 ≤ Json.maxDepth)
    (hdouble : ∀ c ∈ f.leaves, ∀ v ∈ c.operand.values, ∀ x, v ≠ .double x) :
    ofText f.toText = unlessNull f.leaves f := by
  rw [ofText, hread] at hs
  obtain ⟨hwritten, hleaves⟩ := gives_of_ofDocument hs
  exact ofText_toText_eq (fun c hc => (hleaves c hc).storable (hdouble c hc)) (by omega)

/-- Rules that are spelled in another way than they are written: lists instead of records, an
`id` instead of a field, a constant in a list, and one that is left over. -/
def looseRules : Document :=
  .list [.text "AND", .bool true, .list
    [.record [("id", .text "age"), ("type", .text "integer"), ("operator", .text "less"),
        ("value", .list [.scalar (.int 18)])],
      .list [.text "", .text "name", .text "string", .scalar .null, .text "is_null",
        .text "left over"]]]

def looseText : String :=
  "[\"AND\",true,[\x7b\"id\":\"age\",\"type\":\"integer\",\"operator\":\"less\",\"value\":[18]\x7d,"
    ++ "[\"\",\"name\",\"string\",null,\"is_null\",\"left over\"]]]"

def looseFormula : Formula :=
  .group .and true
    [.leaf ⟨"age", .less, .integer, .single (.int 18)⟩, .leaf ⟨"name", .isNull, .string, .none⟩]

theorem ofText_toText_looseText :
    Json.read? looseText = some looseRules ∧ looseRules.depth + 4 ≤ Json.maxDepth ∧
      ofText looseText = .ok looseFormula ∧
      (∀ c ∈ looseFormula.leaves, ∀ v ∈ c.operand.values, ∀ x, v ≠ .double x) ∧
      ofText looseFormula.toText = .ok looseFormula := by
  have hread : Json.read? looseText = some looseRules := by
    have hwrite : looseText = Json.write looseRules := by decide +kernel
    rw [hwrite]
    exact Json.read?_write (by decide) (by decide)
  have hs : ofText looseText = .ok looseFormula := by
    rw [ofText, hread]
    rfl
  refine ⟨hread, by decide, hs, by decide, ?_⟩
  rw [ofText_toText_of_ofText hread hs (by decide) (by decide)]
  rfl

/-- A comparison with a null that stands in a list. -/
def nullRule : Document :=
  .record [("field", .text "a"), ("type", .text "string"), ("operator", .text "equal"),
    ("value", .list [.scalar .null])]

def nullText : String :=
  "\x7b\"field\":\"a\",\"type\":\"string\",\"operator\":\"equal\",\"value\":[null]\x7d"

def nullFormula : Formula := .leaf ⟨"a", .equal, .string, .single .null⟩

/-- The null is written without its list, and then it is no constant. -/
theorem ofText_toText_nullText :
    Json.read? nullText = some nullRule ∧ nullRule.depth + 4 ≤ Json.maxDepth ∧
      ofText nullText = .ok nullFormula ∧
      (∀ c ∈ nullFormula.leaves, ∀ v ∈ c.operand.values, ∀ x, v ≠ .double x) ∧
      ofText nullFormula.toText = .error (.ruleArity "a" .equal) := by
  have hread : Json.read? nullText = some nullRule := by
    have hwrite : nullText = Json.write nullRule := by decide +kernel
    rw [hwrite]
    exact Json.read?_write (by decide) (by decide)
  have hs : ofText nullText = .ok nullFormula := by
    rw [ofText, hread]
    rfl
  have hleaves : ∀ c ∈ nullFormula.leaves, c.Storable := by decide
  refine ⟨hread, by decide, hs, by decide, ?_⟩
  rw [ofText_toText_eq hleaves (by decide)]
  rfl

end Formula

end MailMerge
