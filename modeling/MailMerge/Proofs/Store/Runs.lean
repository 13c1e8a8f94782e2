import MailMerge.Proofs.Store.Lawful

/-!
# Runs of calls

Calls on a store follow each other, those that fail among them. Whatever was called, every table
is lawful, its columns are those it was made with under the names they were given since, and what
was a key then is one now. A call leaves all tables but one alone.
-/

namespace MailMerge

/-- The database that is left behind, whether what is done on it fails or not. -/
def Database.Session.leaves {α : Type} (x : Session α) (db : Database) : Database :=
  match x.run db with
  | .ok _ db' => db'
  | .error _ db' => db'

namespace Store

variable {s : Store} {id : Int64} {t : Table}

theorem find?_of_create {s' : Store} {id' : Int64} {columns : List Column}
    (h : s.create id' columns = .ok s') (hid : id ≠ id') : s'.find? id = s.find? id := by
  obtain ⟨rfl, -⟩ := create_eq_ok h
  exact find?_put_of_ne s _ hid

theorem find?_of_insert {s' : Store} {id' : Int64} {rows : List Row}
    (h : s.insert id' rows = .ok s') (hid : id ≠ id') : s'.find? id = s.find? id := by
  obtain ⟨t, -, rfl⟩ := insert_eq_ok h
  exact find?_put_of_ne s _ hid

theorem columns_of_create {s' : Store} {columns : List Column}
    (h : s.create id columns = .ok s') (ht : s'.find? id = some t) : t.columns = columns := by
  obtain ⟨rfl, -⟩ := create_eq_ok h
  rw [find?_put] at ht
  cases ht
  rfl

theorem columns_of_insert {s' : Store} {rows : List Row} (h : s.insert id rows = .ok s')
    (ht : s'.find? id = some t) : ∃ t₀, s.find? id = some t₀ ∧ t.columns = t₀.columns := by
  obtain ⟨t₀, ht₀, rfl⟩ := insert_eq_ok h
  rw [find?_put] at ht
  cases ht
  exact ⟨t₀, ht₀, rfl⟩

-- ---------------------------------------------------------------------------
-- Calls
-- ---------------------------------------------------------------------------

/-- A call that may change a store. -/
inductive Call where
  | create (id : Int64) (columns : List Column)
  | drop (id : Int64)
  | insert (id : Int64) (rows : List Row)
  | importText (id : Int64) (columns : List Column) (text : String)
  | renameColumn (id : Int64) (old new : String)

/-- The store after an operation, which leaves it if it fails. -/
def settled (s : Store) : Except StoreError Store → Store
  | .ok s' => s'
  | .error _ => s

/-- What holds of a store, and of the one an operation gives, holds of the store after it. -/
theorem settled_of {P : Store → Prop} {x : Except StoreError Store} (hs : P s)
    (h : ∀ s', x = .ok s' → P s') : P (s.settled x) := by
  cases x with
  | ok s' => exact h s' rfl
  | error e => exact hs

namespace Call

/-- The workflow whose table a call is about. -/
def workflow : Call → Int64
  | .create id _ | .drop id | .insert id _ | .importText id _ _ | .renameColumn id _ _ => id

/-- The store after a call. -/
def after (s : Store) : Call → Store
  | .create id columns => s.settled (s.create id columns)
  | .drop id => s.drop id
  | .insert id rows => s.settled (s.insert id rows)
  | .importText id columns text => (s.importText id columns text).1
  | .renameColumn id old new => s.settled (s.renameColumn id old new)

/-- The database after a call. -/
def leaves (db : Database) : Call → Database
  | .create id columns => (Database.create id columns).leaves db
  | .drop id => (Database.drop id).leaves db
  | .insert id rows => (Database.insert id rows).leaves db
  | .importText id columns text => (Database.importText id columns text).leaves db
  | .renameColumn id old new => (Database.renameColumn id old new).leaves db

/-- A call on the database of a store leaves the database of the store after the call. -/
theorem leaves_ofStore (s : Store) (c : Call) : c.leaves (.ofStore s) = .ofStore (c.after s) := by
  cases c with
  | create id columns =>
    simp only [leaves, Database.Session.leaves, after, Database.run_create_ofStore]
    cases s.create id columns <;> rfl
  | drop id =>
    simp only [leaves, Database.Session.leaves, after, Database.run_drop_ofStore]
  | insert id rows =>
    simp only [leaves, Database.Session.leaves, after, Database.run_insert_ofStore]
    cases s.insert id rows <;> rfl
  | importText id columns text =>
    simp only [leaves, Database.Session.leaves, after, Database.run_importText_ofStore]
    rcases s.importText id columns text with ⟨s', _ | _⟩ <;> rfl
  | renameColumn id old new =>
    simp only [leaves, Database.Session.leaves, after, Database.run_renameColumn_ofStore]
    cases s.renameColumn id old new <;> rfl

/-- A call leaves the tables of other workflows alone. -/
theorem find?_after_of_ne (s : Store) (c : Call) (h : id ≠ c.workflow) :
    (c.after s).find? id = s.find? id := by
  cases c with
  | create id' columns =>
    apply settled_of (P := fun s' => s'.find? id = s.find? id) rfl
    intro s' hcreate
    exact find?_of_create hcreate h
  | drop id' =>
    simp only [after, find?_drop]
    exact if_neg h
  | insert id' rows =>
    apply settled_of (P := fun s' => s'.find? id = s.find? id) rfl
    intro s' hinsert
    exact find?_of_insert hinsert h
  | importText id' columns text =>
    obtain ⟨made, hmade, hfilled⟩ := importText_eq (Eq.refl (s.importText id' columns text))
    have hfirst : made.find? id = s.find? id := by
      rcases hmade with rfl | hcreate
      · rfl
      · exact find?_of_create hcreate h
    rcases hfilled with heq | ⟨rows, hinsert⟩
    · exact (congrArg (find? · id) heq).trans hfirst
    · exact (find?_of_insert hinsert h).trans hfirst
  | renameColumn id' old new =>
    apply settled_of (P := fun s' => s'.find? id = s.find? id) rfl
    intro s' hrename
    obtain ⟨t, -, -, -, rfl⟩ := renameColumn_eq_ok hrename
    exact find?_put_of_ne s _ h

theorem lawful_after (hs : s.Lawful) (c : Call) : (c.after s).Lawful := by
  cases c with
  | create id columns => exact settled_of hs fun s' h => hs.create h
  | drop id => exact Every.drop hs id
  | insert id rows => exact settled_of hs fun s' h => hs.insert h
  | importText id columns text => exact hs.importText rfl
  | renameColumn id old new => exact settled_of hs fun s' h => hs.renameColumn h

end Call

-- ---------------------------------------------------------------------------
-- Origins
-- ---------------------------------------------------------------------------

/-- How a table came to be: the columns it was made with, and how columns were renamed since. -/
structure Origin where
  columns : List Column
  renamings : List (String × String) := []
deriving DecidableEq

namespace Origin

/-- What a column that the table was made with is called now. -/
def nameOf (o : Origin) (c : Column) : String :=
  o.renamings.foldl (fun n r => if n = r.1 then r.2 else n) c.name

/-- The columns the table was made with, as they are called now. -/
def current (o : Origin) : List Column := o.columns.map fun c => { c with name := o.nameOf c }

/-- The origin of a table that is made of columns if it was not there before. -/
def made (before after : Option Table) (columns : List Column) (o : Option Origin) :
    Option Origin :=
  if before.isNone && after.isSome then some { columns } else o

def renamed (o : Origin) (old new : String) : Origin :=
  { o with renamings := o.renamings ++ [(old, new)] }

theorem made_of_some (before : Table) (after : Option Table) (columns : List Column)
    (o : Option Origin) : made (some before) after columns o = o := rfl

theorem made_of_none (after : Table) (columns : List Column) (o : Option Origin) :
    made none (some after) columns o = some { columns } := rfl

theorem current_made (columns : List Column) : ({ columns } : Origin).current = columns := by
  simp [current, nameOf]

theorem nameOf_renamed (o : Origin) (old new : String) (c : Column) :
    (o.renamed old new).nameOf c = if o.nameOf c = old then new else o.nameOf c := by
  unfold nameOf renamed
  rw [List.foldl_append]
  rfl

theorem columns_renameColumn {o : Origin} (h : t.columns = o.current) (old new : String) :
    (t.renameColumn old new).columns = (o.renamed old new).current := by
  simp only [Table.renameColumn, h, current, List.map_map]
  refine List.map_congr_left fun c _ => ?_
  rw [nameOf_renamed, Function.comp_apply]
  by_cases hname : o.nameOf c = old
  · simp [hname]
  · simp [hname]

end Origin

/-- How the table of a workflow came to be, after a call about it. -/
def Call.origin? (s : Store) (o : Option Origin) (c : Call) : Option Origin :=
  match c with
  | .create id columns | .importText id columns _ =>
    Origin.made (s.find? id) ((c.after s).find? id) columns o
  | .drop _ => none
  | .insert _ _ => o
  | .renameColumn id old new =>
    match s.renameColumn id old new with
    | .ok _ => o.map (·.renamed old new)
    | .error _ => o

/-- A table that was made has the columns it was made of, whatever the origin was before. -/
theorem Origin.made_of_create {s' : Store} {columns : List Column} {t' : Table}
    (h : s.create id columns = .ok s') (ht : s'.find? id = some t) (o : Option Origin) :
    ∃ o', made (s.find? id) (some t') columns o = some o' ∧ t.columns = o'.current := by
  rw [find?_eq_none_of_create h, made_of_none]
  exact ⟨{ columns }, rfl, by rw [columns_of_create h ht, current_made]⟩

/-- A call keeps track of where the columns of its table are from. -/
theorem Call.columns_after {o : Option Origin} (c : Call)
    (horigin : ∀ t, s.find? c.workflow = some t → ∃ o', o = some o' ∧ t.columns = o'.current)
    (ht : (c.after s).find? c.workflow = some t) :
    ∃ o', c.origin? s o = some o' ∧ t.columns = o'.current := by
  cases c with
  | create id columns =>
    rw [workflow] at horigin ht
    cases h : s.create id columns with
    | error e =>
      simp only [after, h, settled] at ht
      rw [origin?, ht, Origin.made_of_some]
      exact horigin t ht
    | ok s' =>
      rw [origin?, ht]
      simp only [after, h, settled] at ht
      exact Origin.made_of_create h ht o
  | drop id =>
    simp [after, workflow, find?_drop] at ht
  | insert id rows =>
    cases h : s.insert id rows with
    | error e => exact horigin t (by simpa only [after, h, settled] using ht)
    | ok s' =>
      simp only [after, h, settled] at ht
      obtain ⟨t₀, ht₀, hcolumns⟩ := columns_of_insert h ht
      rw [hcolumns]
      exact horigin t₀ ht₀
  | importText id columns text =>
    rw [workflow] at horigin ht
    obtain ⟨made, hmade, hfilled⟩ := importText_eq (Eq.refl (s.importText id columns text))
    have hfirst : ∃ t₀, made.find? id = some t₀ ∧ t.columns = t₀.columns := by
      rcases hfilled with heq | ⟨rows, hinsert⟩
      · exact ⟨t, by rw [← heq]; exact ht, rfl⟩
      · exact columns_of_insert hinsert ht
    obtain ⟨t₀, ht₀, hcolumns⟩ := hfirst
    rcases hmade with rfl | hcreate
    · rw [hcolumns, origin?, ht₀, Origin.made_of_some]
      exact horigin t₀ ht₀
    · rw [origin?, ht, hcolumns]
      exact Origin.made_of_create hcreate ht₀ o
  | renameColumn id old new =>
    cases h : s.renameColumn id old new with
    | error e =>
      simp only [after, h, settled] at ht
      simp only [origin?, h]
      exact horigin t ht
    | ok s' =>
      simp only [after, h, settled] at ht
      obtain ⟨t₀, ht₀, -, hnew, rfl⟩ := renameColumn_eq_ok h
      obtain ⟨o', ho', hcolumns⟩ := horigin t₀ (table_eq_ok_iff.mp ht₀)
      simp only [workflow, find?_put, Option.some.injEq] at ht
      refine ⟨o'.renamed old new, ?_, ?_⟩
      · simp only [origin?, h, ho', Option.map_some]
      · rw [← ht, ← t₀.renameColumn_eq_renamed hnew]
        exact Origin.columns_renameColumn hcolumns old new

/-- A store and how its tables came to be. -/
structure History where
  store : Store := .empty
  origin? : Int64 → Option Origin := fun _ => none

namespace History

def next (h : History) (c : Call) : History where
  store := c.after h.store
  origin? id := if id = c.workflow then c.origin? h.store (h.origin? id) else h.origin? id

/-- What comes of calls on an empty store. -/
def of (calls : List Call) : History := calls.foldl next {}

/-- Every table is lawful, and its columns are those of its origin. -/
def Sound (h : History) : Prop :=
  h.store.Lawful ∧ ∀ id t, h.store.find? id = some t →
    ∃ o, h.origin? id = some o ∧ t.columns = o.current

theorem Sound.next {h : History} (hs : h.Sound) (c : Call) : (h.next c).Sound := by
  obtain ⟨hlawful, horigin⟩ := hs
  refine ⟨Call.lawful_after hlawful c, ?_⟩
  intro id t ht
  by_cases hid : id = c.workflow
  · simp only [History.next, if_pos hid]
    subst hid
    exact c.columns_after (horigin _) ht
  · have hkept : h.store.find? id = some t := by
      rw [← Call.find?_after_of_ne h.store c hid]
      exact ht
    obtain ⟨o, ho, hcolumns⟩ := horigin id t hkept
    refine ⟨o, ?_, hcolumns⟩
    simpa only [History.next, if_neg hid] using ho

theorem sound_of (calls : List Call) : (History.of calls).Sound := by
  suffices h : ∀ h : History, h.Sound → (calls.foldl History.next h).Sound by
    refine h {} ⟨?_, ?_⟩
    · exact fun id t ht => nomatch ht
    · exact fun id t ht => nomatch ht
  induction calls with
  | nil => exact fun h hs => hs
  | cons c calls ih => exact fun h hs => ih (h.next c) (hs.next c)

/-- The database of a history is the one that the calls leave. -/
theorem leaves_of (calls : List Call) :
    calls.foldl (fun db c => c.leaves db) {} = Database.ofStore (History.of calls).store := by
  suffices h : ∀ h : History, calls.foldl (fun db c => c.leaves db) (.ofStore h.store)
      = Database.ofStore (calls.foldl History.next h).store by
    exact h {}
  induction calls with
  | nil => exact fun h => rfl
  | cons c calls ih =>
    intro h
    rw [List.foldl_cons, List.foldl_cons, Call.leaves_ofStore]
    exact ih (h.next c)

end History

-- ---------------------------------------------------------------------------
-- Reads
-- ---------------------------------------------------------------------------

/-- Two stores that answer everything about the table of a workflow alike. -/
structure ReadsAlike (id : Int64) (s s' : Store) : Prop where
  columnNames : s.columnNames id = s'.columnNames id
  rows : s.rows id = s'.rows id
  rowAt : s.rowAt id = s'.rowAt id
  rowByKey : s.rowByKey id = s'.rowByKey id
  countRows : s.countRows id = s'.countRows id

theorem readsAlike_of_find? {s' : Store} (h : s.find? id = s'.find? id) : ReadsAlike id s s' := by
  have htable : s.table id = s'.table id := by simp only [table, h]
  constructor
  · simp only [columnNames, htable]
  · funext filter columns
    simp only [rows, htable]
  · funext filter index columns
    simp only [rowAt, htable]
  · funext filter keyColumn key columns
    simp only [rowByKey, htable]
  · funext filter
    simp only [countRows, htable]

/-- Whatever was called, the database has lawful tables and no others, what was made a key is
one under its present name, and the next call is seen by no read on another workflow. -/
theorem tables_of_calls (calls : List Call) :
    (calls.foldl (fun db c => c.leaves db) {} = Database.ofStore (History.of calls).store) ∧
    (∀ id t, (History.of calls).store.find? id = some t → t.Lawful ∧
      ∃ o, (History.of calls).origin? id = some o ∧ t.columns = o.current ∧
        ∀ c ∈ o.columns, c.isKey = true → t.rows.Pairwise (t.Apart (o.nameOf c))) ∧
    ∀ c : Call, ∀ id ≠ c.workflow,
      ReadsAlike id (c.after (History.of calls).store) (History.of calls).store := by
  obtain ⟨hlawful, horigin⟩ := History.sound_of calls
  refine ⟨History.leaves_of calls, ?_, ?_⟩
  · intro id t ht
    obtain ⟨o, ho, hcolumns⟩ := horigin id t ht
    refine ⟨hlawful id t ht, o, ho, hcolumns, ?_⟩
    intro c hc hkey
    have hcurrent : { c with name := o.nameOf c } ∈ t.columns := by
      rw [hcolumns]
      exact List.mem_map_of_mem hc
    exact (hlawful id t ht).keys _ hcurrent hkey
  · intro c id hid
    exact readsAlike_of_find? (c.find?_after_of_ne _ hid)

def markColumns : List Column := [⟨"email", .string, true⟩, ⟨"mark", .integer, false⟩]

/-- Calls of which the third, the fourth and the sixth fail. -/
def markCalls : List Call :=
  [.create 1 markColumns,
    .insert 1 [[.text "ann", .text " 7 "]],
    .insert 1 [[.text "bob", .int 5], [.text "ann", .null]],
    .renameColumn 1 "email" "mark",
    .renameColumn 1 "email" "login",
    .importText 2 markColumns "[\x7b\"email\":\"eve\"\x7d,\x7b\"email\":\"eve\"\x7d]",
    .insert 1 [[.null, .int 4], [.text "eve", .null]]]

theorem tables_of_calls_marks :
    ∃ t t' : Table, (History.of markCalls).store.find? 1 = some t ∧
      (History.of markCalls).store.find? 2 = some t' ∧ t'.rows = [] ∧
      t.names = ["login", "mark"] ∧
      t.rows = [[.text "ann", .int 7], [.null, .int 4], [.text "eve", .null]] ∧ t.Lawful ∧
      t.rows.Pairwise (t.Apart "login") ∧
      ReadsAlike 1 ((History.of markCalls).store.drop 2) (History.of markCalls).store := by
  obtain ⟨-, htables, hreads⟩ := tables_of_calls markCalls
  have hfind : (History.of markCalls).store.find? 1 = some
      ⟨[⟨"login", .string, true⟩, ⟨"mark", .integer, false⟩],
        [[.text "ann", .int 7], [.null, .int 4], [.text "eve", .null]]⟩ := by decide +kernel
  have horigin : (History.of markCalls).origin? 1
      = some ⟨markColumns, [("email", "login")]⟩ := by decide +kernel
  have hother : (History.of markCalls).store.find? 2 = some ⟨markColumns, []⟩ := by
    decide +kernel
  obtain ⟨hlawful, o, ho, -, hkeys⟩ := htables 1 _ hfind
  cases horigin.symm.trans ho
  have hkey := hkeys ⟨"email", .string, true⟩ List.mem_cons_self rfl
  exact ⟨_, _, hfind, hother, rfl, rfl, rfl, hlawful, hkey,
    hreads (.drop 2) 1 (by decide)⟩

end Store

end MailMerge
