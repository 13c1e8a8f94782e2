import MailMerge.Proofs.Letter.Reading

/-!
# The output of a letter

Running the nodes of a letter writes what the letter says, each name standing for what is
found under it, and changes nothing else of the state.
-/

namespace MailMerge

namespace RenderState

/-- The state after more output. -/
def wrote (st : RenderState) (cs : List Char) : RenderState :=
  { st with output := st.output ++ String.ofList cs }

/-- What is found under a name. -/
def find (st : RenderState) (s : Surroundings) (n : String) : Datum :=
  (st.lookup? s n).getD (.missing false)

variable (st : RenderState)

@[simp] theorem wrote_nil : st.wrote [] = st := by
  simp [wrote]

@[simp] theorem wrote_wrote (cs ds : List Char) : (st.wrote cs).wrote ds = st.wrote (cs ++ ds) := by
  simp [wrote, String.append_assoc]

@[simp] theorem wrote_escape (cs : List Char) : (st.wrote cs).escape = st.escape := rfl

theorem wrote_entriesNow (cs : List Char) (depth : Nat) :
    (st.wrote cs).entriesNow depth = st.entriesNow depth := by
  induction depth with
  | zero => rfl
  | succ depth ih =>
    funext form
    simp only [entriesNow, ih]
    rfl

theorem wrote_lookup? (cs : List Char) (s : Surroundings) (n : String) :
    (st.wrote cs).lookup? s n = st.lookup? s n := by
  have hrenew : (st.wrote cs).renew = st.renew := by
    funext d
    simp only [renew, wrote_entriesNow]
    rfl
  simp only [lookup?, hrenew]
  rfl

@[simp] theorem wrote_find (cs : List Char) (s : Surroundings) (n : String) :
    (st.wrote cs).find s n = st.find s n := by
  simp only [find, wrote_lookup?]

end RenderState

-- ---------------------------------------------------------------------------
-- Steps
-- ---------------------------------------------------------------------------

namespace Rendering

variable {α β : Type} (s : Surroundings) (st : RenderState)

theorem pure_apply (a : α) : (pure a : Rendering α) st = .ok (a, st) := rfl

theorem bind_apply (step : Rendering α) (next : α → Rendering β) :
    (step >>= next) st = step st >>= fun r => next r.1 r.2 := rfl

theorem lift_apply (x : Except RenderError α) :
    (liftM x : Rendering α) st = x.map fun a => (a, st) := by
  cases x <;> rfl

theorem write_apply (t : String) : write t st = .ok ((), st.wrote t.toList) := by
  rw [RenderState.wrote, String.ofList_toList]
  rfl

theorem print_apply (d : Datum) :
    print s d st = (d.print ⟨s.strict, st.escape⟩).map fun t => ((), st.wrote t.toList) := by
  have hsteps : print s d st = (liftM (d.print ⟨s.strict, st.escape⟩) : Rendering String) st >>=
      fun r => write r.1 r.2 := rfl
  rw [hsteps, lift_apply]
  cases d.print ⟨s.strict, st.escape⟩ with
  | error e => rfl
  | ok t => exact write_apply st t

end Rendering

namespace Node

variable (s : Surroundings) (answer : Answer) (st : RenderState)

theorem runAll_nil : runAll s answer [] st = .ok ((), st) := by
  rw [runAll, Rendering.pure_apply]

theorem runAll_cons (n : Node) (ns : List Node) :
    runAll s answer (n :: ns) st = run s answer n st >>= fun r => runAll s answer ns r.2 := by
  rw [runAll, Rendering.bind_apply]

theorem run_text (t : String) : run s answer (.text t) st = .ok ((), st.wrote t.toList) := by
  rw [run, Rendering.write_apply]

theorem eval_const (d : Datum) : Expr.eval s answer (.const d) st = .ok (d, st) := by
  rw [Expr.eval, Rendering.pure_apply]

theorem eval_var (n : String) : Expr.eval s answer (.var n) st = .ok (st.find s n, st) := by
  rw [Expr.eval]
  rfl

variable {s answer st} in
theorem run_print_of_eval {e : Expr} {d : Datum} (h : Expr.eval s answer e st = .ok (d, st)) :
    run s answer (.print e) st
      = (d.print ⟨s.strict, st.escape⟩).map fun t => ((), st.wrote t.toList) := by
  rw [run, Rendering.bind_apply, h]
  exact Rendering.print_apply s st d

theorem run_print (n : String) :
    run s answer (.print (.var n)) st
      = ((st.find s n).print ⟨s.strict, st.escape⟩).map fun t => ((), st.wrote t.toList) :=
  run_print_of_eval (eval_var s answer st n)

variable {s answer st} in
theorem run_branch_of_eval {test : Expr} {d : Datum}
    (h : Expr.eval s answer test st = .ok (d, st)) (yes no : List Node) :
    run s answer (.branch test yes no) st
      = d.truth ⟨s.strict, st.escape⟩ >>= fun b =>
          if b then runAll s answer yes st else runAll s answer no st := by
  have hsteps : run s answer (.branch test yes no) st
      = (liftM (d.truth ⟨s.strict, st.escape⟩) : Rendering Bool) st >>= fun r =>
          (if r.1 then runAll s answer yes else runAll s answer no) r.2 := by
    rw [run, Rendering.bind_apply, h]
    rfl
  rw [hsteps, Rendering.lift_apply]
  cases d.truth ⟨s.strict, st.escape⟩ with
  | error e => rfl
  | ok b => cases b <;> rfl

theorem run_branch (n : String) (yes no : List Node) :
    run s answer (.branch (.var n) yes no) st
      = (st.find s n).truth ⟨s.strict, st.escape⟩ >>= fun b =>
          if b then runAll s answer yes st else runAll s answer no st :=
  run_branch_of_eval (eval_var s answer st n) yes no

end Node

-- ---------------------------------------------------------------------------
-- Letters
-- ---------------------------------------------------------------------------

open Node.Reader

/-- What a letter says where names are looked up in a state. -/
def Letter.saidIn (s : Surroundings) (st : RenderState) (l : Letter) :
    Except RenderError (List Char) :=
  l.writtenOr (fun n => (st.find s n).print ⟨s.strict, st.escape⟩)
    fun n => (st.find s n).truth ⟨s.strict, st.escape⟩

def Otherwise.saidIn (s : Surroundings) (st : RenderState) (o : Otherwise) :
    Except RenderError (List Char) :=
  o.writtenOr (fun n => (st.find s n).print ⟨s.strict, st.escape⟩)
    fun n => (st.find s n).truth ⟨s.strict, st.escape⟩

section

variable (s : Surroundings) (st : RenderState) (n : String) (yes l : Letter) (no : Otherwise)

theorem Letter.saidIn_char (c : Char) :
    (Letter.char c l).saidIn s st = l.saidIn s st >>= fun cs => pure (c :: cs) := by
  simp only [saidIn, writtenOr]

theorem Letter.saidIn_reference :
    (Letter.reference n l).saidIn s st
      = (st.find s n).print ⟨s.strict, st.escape⟩ >>= fun t =>
          l.saidIn s st >>= fun cs => pure (t.toList ++ cs) := by
  simp only [saidIn, writtenOr]

theorem Letter.saidIn_condition :
    (Letter.condition n yes no l).saidIn s st
      = (st.find s n).truth ⟨s.strict, st.escape⟩ >>= fun b =>
          (if b then yes.saidIn s st else no.saidIn s st) >>= fun cs =>
            l.saidIn s st >>= fun ds => pure (cs ++ ds) := by
  simp only [saidIn, Otherwise.saidIn, writtenOr]

theorem Otherwise.saidIn_onlyIf :
    (Otherwise.onlyIf n yes no).saidIn s st
      = (st.find s n).truth ⟨s.strict, st.escape⟩ >>= fun b =>
          if b then yes.saidIn s st else no.saidIn s st := by
  simp only [Letter.saidIn, saidIn, writtenOr]

end

@[simp] theorem Letter.saidIn_wrote (s : Surroundings) (st : RenderState) (cs : List Char)
    (l : Letter) : l.saidIn s (st.wrote cs) = l.saidIn s st := by
  simp [saidIn]

@[simp] theorem Otherwise.saidIn_wrote (s : Surroundings) (st : RenderState) (cs : List Char)
    (o : Otherwise) : o.saidIn s (st.wrote cs) = o.saidIn s st := by
  simp [saidIn]

theorem Node.runAll_textNodes_append (s : Surroundings) (answer : Answer) (st : RenderState)
    (p : List Char) (ns : List Node) :
    runAll s answer (textNodes p ++ ns) st = runAll s answer ns (st.wrote p) := by
  unfold textNodes
  split
  · next hp =>
    rw [List.isEmpty_iff.mp hp, RenderState.wrote_nil]
    rfl
  · rw [List.cons_append, runAll_cons, run_text, String.toList_ofList]
    rfl

mutual

theorem Letter.runAll_nodes (s : Surroundings) (answer : Answer) (l : Letter) (p : List Char)
    (st : RenderState) :
    Node.runAll s answer (l.nodes p) st
      = (l.saidIn s st).map fun cs => ((), st.wrote (p ++ cs)) := by
  match l with
  | .done =>
    have hall := Node.runAll_textNodes_append s answer st p []
    rw [List.append_nil, Node.runAll_nil] at hall
    simp [Letter.nodes, hall, Letter.saidIn, Letter.writtenOr, Except.map]
  | .char c l =>
    rw [Letter.nodes, l.runAll_nodes s answer (p ++ [c]) st, Letter.saidIn_char]
    cases l.saidIn s st with
    | error e => rfl
    | ok cs => simp [Except.map, bind, Except.bind, pure, Except.pure]
  | .reference n l =>
    rw [Letter.nodes, Node.runAll_textNodes_append, Node.runAll_cons, Node.run_print,
      Letter.saidIn_reference, RenderState.wrote_find, RenderState.wrote_escape]
    cases (st.find s n).print ⟨s.strict, st.escape⟩ with
    | error e => rfl
    | ok t =>
      simp only [Except.map, bind, Except.bind, l.runAll_nodes, Letter.saidIn_wrote]
      cases l.saidIn s st with
      | error e => rfl
      | ok cs => simp [pure, Except.pure]
  | .condition n yes no l =>
    rw [Letter.nodes, Node.runAll_textNodes_append, Node.runAll_cons, Node.run_branch,
      Letter.saidIn_condition, RenderState.wrote_find, RenderState.wrote_escape]
    cases (st.find s n).truth ⟨s.strict, st.escape⟩ with
    | error e => rfl
    | ok b =>
      have hbranch : (if b then Node.runAll s answer (yes.nodes []) (st.wrote p)
          else Node.runAll s answer no.nodes (st.wrote p))
            = (if b then yes.saidIn s st else no.saidIn s st).map
                fun cs => ((), st.wrote (p ++ cs)) := by
        cases b with
        | true => simp [yes.runAll_nodes s answer [] (st.wrote p)]
        | false => simp [no.runAll_nodes s answer (st.wrote p)]
      simp only [bind, Except.bind, hbranch]
      cases (if b then yes.saidIn s st else no.saidIn s st) with
      | error e => rfl
      | ok cs =>
        simp only [Except.map, l.runAll_nodes, Letter.saidIn_wrote]
        cases l.saidIn s st with
        | error e => rfl
        | ok ds => simp [pure, Except.pure]

theorem Otherwise.runAll_nodes (s : Surroundings) (answer : Answer) (o : Otherwise)
    (st : RenderState) :
    Node.runAll s answer o.nodes st = (o.saidIn s st).map fun cs => ((), st.wrote cs) := by
  match o with
  | .nothing => simp [Otherwise.nodes, Otherwise.saidIn, Otherwise.writtenOr, Node.runAll_nil,
      Except.map]
  | .always no => exact no.runAll_nodes s answer [] st
  | .onlyIf n yes no =>
    rw [Otherwise.nodes, Node.runAll_cons, Node.run_branch, Otherwise.saidIn_onlyIf]
    cases (st.find s n).truth ⟨s.strict, st.escape⟩ with
    | error e => rfl
    | ok b =>
      simp only [bind, Except.bind]
      cases b with
      | true =>
        simp only [if_true, yes.runAll_nodes s answer [] st]
        cases yes.saidIn s st with
        | error e => rfl
        | ok cs => simp [Except.map, Node.runAll_nil]
      | false =>
        simp only [Bool.false_eq_true, if_false, no.runAll_nodes s answer st]
        cases no.saidIn s st with
        | error e => rfl
        | ok cs => simp [Except.map, Node.runAll_nil]

end

/-- What a template sees before anything has run. -/
def RenderState.atStart (escape : Bool) : RenderState := { frames := [{ base := .bindings }], escape }

/-- A template that prints one expression comes to what is printed for it. -/
theorem Node.render_print {strict escape : Bool} {bound : List (String × Datum)} {e : Expr}
    {d : Datum} (h : ∀ answer, Expr.eval ⟨strict, bound, []⟩ answer e (.atStart escape)
      = .ok (d, .atStart escape)) :
    render strict escape bound [.print e] = d.print ⟨strict, escape⟩ := by
  rw [RenderState.atStart] at h
  simp only [render, blocksOf, blocks, List.append_nil, StateT.run, runAll_cons,
    run_print_of_eval (h _)]
  cases d.print ⟨strict, escape⟩ with
  | error e => rfl
  | ok t => simp [runAll_nil, RenderState.wrote, Except.map, bind, Except.bind, pure, Except.pure]

/-- A rendered letter is what it says. -/
theorem Letter.render_nodes (strict escape : Bool) (bound : List (String × Datum)) (l : Letter) :
    Node.render strict escape bound (l.nodes [])
      = (l.saidIn ⟨strict, bound, []⟩ (.atStart escape)).map String.ofList := by
  simp only [Node.render, l.blocksOf_nodes, StateT.run, l.runAll_nodes]
  rw [RenderState.atStart]
  cases l.saidIn ⟨strict, bound, []⟩ { frames := [{ base := .bindings }], escape } with
  | error e => rfl
  | ok cs => simp [Except.map, bind, Except.bind, RenderState.wrote, pure, Except.pure]

end MailMerge
