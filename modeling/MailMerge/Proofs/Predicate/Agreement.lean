import MailMerge.Proofs.Predicate.Comparison
import Mathlib.Data.List.Sort

/-!
# Formulas as predicates

The rows that a formula selects from a table as a predicate are those of whose values it is
true. A predicate may have no answer where a cell is null; what keeps this from showing is
that the leaf stands beneath an even number of negations, so that no answer and the answer
no select alike.
-/

namespace MailMerge

namespace Verdict

variable {odd : Bool} {v w : Verdict} {a b : Bool}

-- ---------------------------------------------------------------------------
-- Connectives
-- ---------------------------------------------------------------------------

theorem and_eq_some_true : v.and w = some true ↔ v = some true ∧ w = some true := by
  rcases v with _ | _ | _ <;> rcases w with _ | _ | _ <;> decide

theorem and_eq_some_false : v.and w = some false ↔ v = some false ∨ w = some false := by
  rcases v with _ | _ | _ <;> rcases w with _ | _ | _ <;> decide

theorem or_eq_some_true : v.or w = some true ↔ v = some true ∨ w = some true := by
  rcases v with _ | _ | _ <;> rcases w with _ | _ | _ <;> decide

theorem or_eq_some_false : v.or w = some false ↔ v = some false ∧ w = some false := by
  rcases v with _ | _ | _ <;> rcases w with _ | _ | _ <;> decide

theorem not_eq_some {x : Bool} : v.not = some (!x) ↔ v = some x := by
  rcases v with _ | _ | _ <;> cases x <;> decide

theorem Agrees.and (hv : v.Agrees odd a) (hw : w.Agrees odd b) : (v.and w).Agrees odd (a && b) := by
  cases odd with
  | false => exact and_eq_some_true.trans ((and_congr hv hw).trans Bool.and_eq_true_iff.symm)
  | true => exact and_eq_some_false.trans ((or_congr hv hw).trans Bool.and_eq_false_iff.symm)

theorem Agrees.or (hv : v.Agrees odd a) (hw : w.Agrees odd b) : (v.or w).Agrees odd (a || b) := by
  cases odd with
  | false => exact or_eq_some_true.trans ((or_congr hv hw).trans (Bool.or_eq_true_iff ..).symm)
  | true => exact or_eq_some_false.trans ((and_congr hv hw).trans Bool.or_eq_false_iff.symm)

/-- A negation turns what was selected beneath an odd number of negations into what is
selected beneath an even number, and back. -/
theorem Agrees.negateIf {negated : Bool} (hv : v.Agrees (odd != negated) a) :
    (v.negateIf negated).Agrees odd (a != negated) := by
  cases negated with
  | false => rwa [Bool.bne_false] at hv ⊢
  | true =>
    rw [Bool.bne_true, Agrees, Bool.not_not] at hv
    rw [Bool.bne_true, Agrees, Bool.not_inj_iff, ← hv]
    exact not_eq_some

theorem Agrees.join {kind : Conjunction} {vs : List Verdict} {bs : List Bool}
    (h : List.Forall₂ (Agrees odd) vs bs) :
    (Verdict.join kind vs).Agrees odd (Formula.joinTruth kind false bs) := by
  cases kind with
  | and =>
    change Agrees odd _ (bs.all (fun b => b) != false)
    rw [Bool.bne_false]
    induction h with
    | nil => exact agrees_some odd true
    | cons hv _ ih => exact hv.and ih
  | or =>
    change Agrees odd _ (bs.any (fun b => b) != false)
    rw [Bool.bne_false]
    induction h with
    | nil => exact agrees_some odd false
    | cons hv _ ih => exact hv.or ih

end Verdict

namespace Formula

mutual

/-- Whether no group of a formula is empty. -/
def grouped : Formula → Bool
  | .leaf _ => true
  | .group _ _ children => !children.isEmpty && groupedEach children

def groupedEach : List Formula → Bool
  | [] => true
  | f :: fs => grouped f && groupedEach fs

end

mutual

/-- Whether every leaf, beneath an odd or even number of negated groups, either has a cell or
may meet a null cell there. -/
def nullSafe (isNull : String → Bool) (odd : Bool) : Formula → Bool
  | .leaf c => !isNull c.field || c.operator.nullSafe odd
  | .group _ negated children => nullSafeEach isNull (odd != negated) children

def nullSafeEach (isNull : String → Bool) (odd : Bool) : List Formula → Bool
  | [] => true
  | f :: fs => nullSafe isNull odd f && nullSafeEach isNull odd fs

end

/-- A row of a table with the given columns, and what it is read back as. -/
def ReadsAs (columns : List Column) (row : String → Slot) (ctx : Context) : Prop :=
  ∀ d ∈ columns, ∃ cell v, row d.name = (d.dataType, cell) ∧
    Comparison.Meets d.dataType cell v ∧ ctx.get? d.name = some (v.getD .null)

/-- The predicate of a formula agrees with its truth on a row, where every leaf is safe. -/
def AgreesOn (f : Formula) (row : String → Slot) (ctx : Context) (p : Predicate) : Prop :=
  ∃ b, f.isTrue (some ctx) = .ok b ∧
    ∀ odd, f.nullSafe (fun n => (row n).isNull) odd = true → (p.truth row).Agrees odd b

variable {columns : List Column}

theorem cell_eq {c : Comparison} {ctx : Context} {t : DataType} {cell : Cell} {v : Option Value}
    (hmeets : Comparison.Meets t cell v) (hget : ctx.get? c.field = some (v.getD .null)) :
    c.cell (some ctx) = .ok v := by
  rw [Comparison.cell, hget]
  cases hmeets with
  | null => rfl
  | value h => cases h <;> rfl

theorem isNull_eq {t : DataType} {cell : Cell} {v : Option Value}
    (hmeets : Comparison.Meets t cell v) : Slot.isNull (t, cell) = !v.isSome := by
  cases hmeets with
  | null => rfl
  | value h => exact Comparison.slot_isNull h.reads

theorem leaf_agrees {c : Comparison} (h : c.Fits columns) :
    ∃ p, (leaf c).compile (some (columns.map (·.name))) = .ok (some p) ∧
      ∀ row ctx, ReadsAs columns row ctx → (leaf c).AgreesOn row ctx p := by
  obtain ⟨p, hcompile, hagrees⟩ := h.agrees
  obtain ⟨d, hd, hname, htype⟩ := h.column
  refine ⟨p, ?_, fun row ctx hreads => ?_⟩
  · rw [compile, fold, hcompile]
    rfl
  · obtain ⟨cell, v, hrow, hmeets, hget⟩ := hreads d hd
    rw [hname, htype] at hrow
    rw [htype] at hmeets
    rw [hname] at hget
    obtain ⟨b, hb, hsafe⟩ := hagrees row ctx cell v hrow (cell_eq hmeets hget) hmeets
    refine ⟨b, hb, fun odd h => hsafe odd ?_⟩
    rwa [nullSafe, hrow, isNull_eq hmeets, Bool.not_not] at h

theorem joinPredicates_some (kind : Conjunction) (negated : Bool) {ps : List Predicate}
    (h : ps ≠ []) : joinPredicates kind negated (ps.map some)
      = some (if negated then .not (.group kind ps) else .group kind ps) := by
  have hmembers : (ps.map some).filterMap id = ps := by
    rw [List.filterMap_map]
    exact List.filterMap_some
  rw [joinPredicates, Predicate.combine?, hmembers]
  cases ps with
  | nil => exact absurd rfl h
  | cons p ps => rfl

theorem joinTruth_eq (kind : Conjunction) (negated : Bool) (bs : List Bool) :
    joinTruth kind negated bs = (joinTruth kind false bs != negated) := by
  cases kind <;> simp [joinTruth]

theorem truth_group (kind : Conjunction) (negated : Bool) (ps : List Predicate)
    (row : String → Slot) :
    (if negated then Predicate.not (.group kind ps) else .group kind ps).truth row
      = (Verdict.join kind (Predicate.truthEach row ps)).negateIf negated := by
  cases negated <;> rfl

-- By induction on the formula, for both parities at once: the members of a negated group are
-- asked at the other one.
mutual

theorem agrees (f : Formula) (hgrouped : f.grouped = true)
    (hfits : ∀ c ∈ f.leaves, c.Fits columns) :
    ∃ p, f.compile (some (columns.map (·.name))) = .ok (some p) ∧
      ∀ row ctx, ReadsAs columns row ctx → f.AgreesOn row ctx p := by
  match f with
  | .leaf c => exact leaf_agrees (hfits c (List.mem_singleton.mpr rfl))
  | .group kind negated children =>
    rw [grouped, Bool.and_eq_true, Bool.not_eq_true'] at hgrouped
    obtain ⟨hne, hgrouped⟩ := hgrouped
    obtain ⟨ps, hps, hlength, hagrees⟩ := agreesEach children hgrouped hfits
    have hps' : ps ≠ [] := by
      rintro rfl
      rw [List.eq_nil_of_length_eq_zero hlength.symm] at hne
      cases hne
    refine ⟨if negated then .not (.group kind ps) else .group kind ps, ?_,
      fun row ctx hreads => ?_⟩
    · rw [compile, fold, hps, Except.map, joinPredicates_some kind negated hps']
    · obtain ⟨bs, hbs, hsafe⟩ := hagrees row ctx hreads
      refine ⟨joinTruth kind negated bs, ?_, fun odd h => ?_⟩
      · rw [isTrue, fold, hbs]
        rfl
      · rw [truth_group, joinTruth_eq]
        exact (Verdict.Agrees.join (hsafe _ h)).negateIf

theorem agreesEach (fs : List Formula) (hgrouped : groupedEach fs = true)
    (hfits : ∀ c ∈ leavesEach fs, c.Fits columns) :
    ∃ ps : List Predicate,
      foldEach (fun c => (c.compile (some (columns.map (·.name)))).map some) joinPredicates fs
        = .ok (ps.map some) ∧ ps.length = fs.length ∧
      ∀ row ctx, ReadsAs columns row ctx →
        ∃ bs, foldEach (Comparison.isTrue (some ctx)) joinTruth fs = .ok bs ∧
          ∀ odd, nullSafeEach (fun n => (row n).isNull) odd fs = true →
            List.Forall₂ (Verdict.Agrees odd) (Predicate.truthEach row ps) bs := by
  match fs with
  | [] => exact ⟨[], rfl, rfl, fun row ctx _ => ⟨[], rfl, fun odd _ => .nil⟩⟩
  | f :: fs =>
    rw [groupedEach, Bool.and_eq_true] at hgrouped
    rw [leavesEach] at hfits
    obtain ⟨p, hp, hagrees⟩ :=
      agrees f hgrouped.1 fun c hc => hfits c (List.mem_append_left _ hc)
    obtain ⟨ps, hps, hlength, hagreesEach⟩ :=
      agreesEach fs hgrouped.2 fun c hc => hfits c (List.mem_append_right _ hc)
    rw [compile] at hp
    refine ⟨p :: ps, ?_, congrArg (· + 1) hlength, fun row ctx hreads => ?_⟩
    · rw [foldEach, hp, hps]
      rfl
    · obtain ⟨b, hb, hsafe⟩ := hagrees row ctx hreads
      obtain ⟨bs, hbs, hsafeEach⟩ := hagreesEach row ctx hreads
      rw [isTrue] at hb
      refine ⟨b :: bs, ?_, fun odd h => ?_⟩
      · rw [foldEach, hb, hbs]
        rfl
      · rw [nullSafeEach, Bool.and_eq_true] at h
        exact .cons (hsafe odd h.1) (hsafeEach odd h.2)

end

end Formula

-- ---------------------------------------------------------------------------
-- Tables
-- ---------------------------------------------------------------------------

/-- A stored row is read back as what its cells show. -/
theorem Table.Sound.readsAs {columns : List Column} {t : Table} (hsound : t.Sound columns)
    {cells : List Cell} (hcells : cells ∈ t.rows) :
    Formula.ReadsAs columns (t.slot cells) (t.context cells) := by
  intro d hd
  obtain ⟨cell, hslot, hheld⟩ := hsound.slot hcells hd
  have hname : d.name ∈ t.names := by
    rw [Table.names, hsound.shape]
    exact List.mem_map_of_mem hd
  have hget := t.get?_context cells hname
  rw [hslot] at hget
  rcases hheld with rfl | ⟨v, hshows⟩
  · exact ⟨.null, none, hslot, .null, hget⟩
  · exact ⟨cell, some v, hslot, .value hshows, by rw [hget, hshows.toValue]; rfl⟩

theorem Table.ordered_perm (t : Table) : t.ordered.Perm t.rows := by
  rw [Table.ordered]
  split
  · exact .refl _
  · exact List.mergeSort_perm ..

namespace Store

variable {s : Store} {id : Int64} {columns : List Column} {t : Table}

theorem checkColumns_eq_ok {ns : List String} (h : ∀ n ∈ ns, n ∈ t.names) :
    checkColumns t ns = .ok () := by
  have hnone : ns.find? (fun n => !t.names.contains n) = none := by
    simpa using h
  rw [checkColumns, hnone]

/-- What is read when everything that is asked for is there. -/
theorem rows_of_compileFilter (ht : s.find? id = some t) {filter : Option Formula}
    {p : Option Predicate} (hp : compileFilter t filter = .ok p) {ns : List String} (hne : ns ≠ [])
    (hns : ∀ n ∈ ns, n ∈ t.names) :
    s.rows id filter ns = .ok ((t.selected p).map (t.project ns)) := by
  have hempty : ¬ns.isEmpty = true := mt List.isEmpty_iff.mp hne
  rw [rows, table, ht]
  simp only [bind, Except.bind, checkColumns_eq_ok hns, hp, readRows]
  rw [if_neg hempty]

/-- A filter on a filled table keeps, of the rows in which no null cell stands in the way, those
of whose values the formula is true. -/
theorem rows_keep_iff_isTrue (hs : s.Filled id columns) {f : Formula} (hgrouped : f.grouped = true)
    (hfits : ∀ c ∈ f.leaves, c.Fits columns) :
    ∃ t keep, s.find? id = some t ∧ t.columns = columns ∧ t.ordered.Perm t.rows ∧
      (∀ ns, ns ≠ [] → (∀ n ∈ ns, n ∈ t.names) →
        s.rows id none ns = .ok (t.ordered.map (t.project ns)) ∧
        s.rows id (some f) ns = .ok ((t.ordered.filter keep).map (t.project ns))) ∧
      ∀ cells ∈ t.rows, f.nullSafe (fun n => (t.slot cells n).isNull) false = true →
        (keep cells = true ↔ f.isTrue (some (t.context cells)) = .ok true) := by
  obtain ⟨t, ht, hsound⟩ := hs.sound
  obtain ⟨p, hcompile, hagrees⟩ := f.agrees hgrouped hfits
  have hp : compileFilter t (some f) = .ok (some p) := by
    rw [compileFilter, Table.names, hsound.shape, hcompile]
    rfl
  refine ⟨t, fun cells => Predicate.selects (some p) (t.slot cells), ht, hsound.shape,
    t.ordered_perm, fun ns hne hns => ⟨?_, rows_of_compileFilter ht hp hne hns⟩,
    fun cells hcells hsafe => ?_⟩
  · have hall : t.selected none = t.ordered := List.filter_eq_self.mpr fun _ _ => rfl
    rw [rows_of_compileFilter ht (p := none) rfl hne hns, hall]
  · obtain ⟨b, hb, hverdict⟩ := hagrees _ _ (hsound.readsAs hcells)
    have hkeep : p.truth (t.slot cells) = some true ↔ b = true := hverdict false hsafe
    change (p.truth (t.slot cells) == some true) = true ↔ _
    rw [beq_iff_eq, hkeep, hb, Except.ok.injEq]

def guestColumns : List Column :=
  [⟨"name", .string, true⟩, ⟨"age", .integer, false⟩, ⟨"weight", .double, false⟩,
   ⟨"member", .boolean, false⟩, ⟨"joined", .datetime, false⟩]

def guestRows : List Row :=
  [[.text "Ada", .int 36, .double (.ofInt 60), .bool true, .time ⟨1709283600, 5⟩],
   [.text "Bob", .null, .double .nan, .bool false, .null]]

def guestTable : Table where
  columns := guestColumns
  rows :=
    [[.text "Ada", .int 36, .real (.ofInt 60), .int 1, .text "2024-03-01T09:00:00Z"],
     [.text "Bob", .null, .null, .int 0, .null]]

def guestStore : Store := ⟨[(1, guestTable)]⟩

/-- Members whose name starts otherwise, of some weight and age, who joined early or never. -/
def guestFilter : Formula :=
  .group .and false
    [.group .or true
      [.leaf ⟨"name", .beginsWith, .string, .single (.text "B")⟩,
       .leaf ⟨"member", .equal, .boolean, .single (.text "false")⟩],
     .leaf ⟨"weight", .between, .double, .range (.int 50) (.text "61.5")⟩,
     .group .or false
      [.leaf ⟨"joined", .isNull, .datetime, .none⟩,
       .leaf ⟨"joined", .less, .datetime, .single (.text "2024-03-02")⟩],
     .leaf ⟨"age", .greater, .integer, .single (.int 18)⟩]

theorem rows_keep_iff_isTrue_guests :
    (guestStore.Filled 1 guestColumns ∧ guestFilter.grouped = true ∧
      ∀ c ∈ guestFilter.leaves, c.Fits guestColumns) ∧
    ∃ keep,
      guestStore.rows 1 (some guestFilter) ["name"]
        = .ok ((guestTable.ordered.filter keep).map (guestTable.project ["name"])) ∧
      ∀ cells ∈ guestTable.rows,
        (keep cells = true ↔ guestFilter.isTrue (some (guestTable.context cells)) = .ok true) := by
  have hcreated : empty.create 1 guestColumns = .ok (empty.put 1 { columns := guestColumns }) := by
    decide +kernel
  have hrows : ∀ row ∈ guestRows, Table.TakesRow guestColumns row := by decide +kernel
  have hinserted : (empty.put 1 { columns := guestColumns }).insert 1 guestRows
      = .ok guestStore := by decide +kernel
  have hfilled : guestStore.Filled 1 guestColumns := .inserted (.created hcreated) hrows hinserted
  have hgrouped : guestFilter.grouped = true := by decide +kernel
  have hfits : ∀ c ∈ guestFilter.leaves, c.Fits guestColumns := by decide +kernel
  have hsafe : ∀ cells ∈ guestTable.rows,
      guestFilter.nullSafe (fun n => (guestTable.slot cells n).isNull) false = true := by
    decide +kernel
  obtain ⟨t, keep, ht, -, -, hread, hkeep⟩ := rows_keep_iff_isTrue hfilled hgrouped hfits
  have htable : guestStore.find? 1 = some guestTable := rfl
  cases htable.symm.trans ht
  refine ⟨⟨hfilled, hgrouped, hfits⟩, keep, (hread ["name"] (by decide) (by decide)).2, ?_⟩
  exact fun cells hcells => hkeep cells hcells (hsafe cells hcells)

end Store

end MailMerge
