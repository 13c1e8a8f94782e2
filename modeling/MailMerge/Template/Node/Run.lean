import MailMerge.Template.Expr.Evaluate
import MailMerge.Template.Node.Reader

/-!
# Running nodes

Nodes are run in order on the state of a rendering. A loop, a scope and a block bind names
in a frame of their own; a condition does not. Calls that nodes make are answered by
running further nodes, so deep that frames may be nested.
-/

namespace MailMerge

-- ---------------------------------------------------------------------------
-- Output
-- ---------------------------------------------------------------------------

namespace Datum

/-- What is printed for a datum. Nothing is for none, and for a missing datum where that
is no error. -/
def print (mode : Mode) (d : Datum) : Except RenderError String := do
  d.present mode
  match d with
  | .none => return ""
  | .text s safe => return if mode.escape && !safe then Html.safe s else s
  | d =>
    let plain := d.kind == .missing || d.kind == .bool || d.kind == .number
    return if mode.escape && !plain then Html.safe d.display else d.display

/-- Whether a mode of escaping makes output safe for HTML. -/
def escapeMode (d : Datum) : Except RenderError Bool :=
  match d with
  | .text "html" _ => .ok true
  | .text "none" _ => .ok false
  | .text _ _ => .error .failed
  | d => .ok (d.alike (.bool true))

/-- The names of the templates a datum asks for, one of which is enough. -/
def templateNames (d : Datum) : Except RenderError (List String) :=
  match d with
  | .text s _ => .ok [s]
  | .function _ => .ok []
  | d => do (← orFail d.members?).mapM fun x => orFail x.text?

end Datum

namespace Rendering

/-- Prints a datum. -/
def print (s : Surroundings) (d : Datum) : Rendering Unit := do
  write (← d.print (← mode s))

/-- The datum with filters applied in turn. -/
def applyFilters (s : Surroundings) (answer : Answer) (filters : List FilterCall) (d : Datum) :
    Rendering Datum :=
  filters.foldlM (fun d f => do
    let args := Given.collect (← Expr.evalArguments s answer f.2)
    Filter.apply (← mode s) f.1 (d :: args)) d

/-- Looks for other templates. There are none, so that it fails unless they are optional
or none is asked for. -/
def requireTemplates (optional : Bool) (d : Datum) : Rendering Unit := do
  let names ← d.templateNames
  require (optional || names.isEmpty)

end Rendering

-- ---------------------------------------------------------------------------
-- Targets
-- ---------------------------------------------------------------------------

namespace Target

mutual

/-- Binds a target to a datum. Several targets need as many items. -/
def bind (s : Surroundings) (answer : Answer) : Target → Datum → Rendering Unit
  | .name n, d => Rendering.bind n d
  | .attribute owner n, d => do Rendering.bindIn (← owner.eval s answer) n d
  | .tuple ts, d => do
    let items ← orFail d.members?
    require (items.length == ts.length)
    bindEach s answer ts items

def bindEach (s : Surroundings) (answer : Answer) : List Target → List Datum → Rendering Unit
  | t :: ts, x :: xs => do
    bind s answer t x
    bindEach s answer ts xs
  | _, _ => return

end

end Target

-- ---------------------------------------------------------------------------
-- Loops
-- ---------------------------------------------------------------------------

/-- How a loop runs: over which items, and what it shows of itself. -/
structure LoopPlan where
  items : List Datum
  sized : Bool
  visible : Bool
  again : Option (Target × List Node)

namespace Rendering

/-- A loop that is about to start, with its frame. It counts as nested in a loop around it
that can be run again. -/
def startLoop (plan : LoopPlan) : Rendering Nat := do
  let st ← get
  let depth := match st.innermostLoop? with
    | some l => if l.again.isSome then l.depth + 1 else 0
    | none => 0
  let id := st.loops.size
  set { st with loops := st.loops.push ⟨plan.items, plan.sized, depth, 0, none⟩ }
  pushFrame { loop := some ⟨id, plan.visible, depth, plan.again⟩ }
  return id

/-- Moves a loop to one of its items. -/
def moveLoop (id place : Nat) : Rendering Unit :=
  modify fun st => { st with loops := st.loops.modify id fun l => { l with place } }

/-- Runs a step for each item, from a place on. -/
def eachItem (id : Nat) (bindItem : Datum → Rendering Unit) (step : Datum → Rendering Unit) :
    Nat → List Datum → Rendering Unit
  | place, [] => moveLoop id place
  | place, x :: xs => do
    moveLoop id place
    require (x.kind != .invalid)
    bindItem x
    step x
    eachItem id bindItem step (place + 1) xs

/-- Runs a loop. -/
def runLoop (plan : LoopPlan) (bindItem : Datum → Rendering Unit)
    (step : Datum → Rendering Unit) : Rendering Unit := do
  let id ← startLoop plan
  eachItem id bindItem step 0 plan.items
  popFrame

/-- The items of a loop for which its condition holds. -/
def chooseItems (s : Surroundings) (answer : Answer) (target : Target) (condition : Expr)
    (items : List Datum) (sized : Bool) : Rendering (List Datum) := do
  let id ← startLoop ⟨items, sized, false, none⟩
  let chosen ← items.filterM fun x => do
    require (x.kind != .invalid)
    target.bind s answer x
    (← condition.eval s answer).truth (← mode s)
  moveLoop id items.length
  popFrame
  return chosen

/-- The items a loop runs over, and whether their number is known beforehand. -/
def loopSource (s : Surroundings) (answer : Answer) (target : Target) (only : Option Expr)
    (source : Datum) : Rendering (List Datum × Bool) := do
  let items ← source.loopItems (← mode s)
  let sized := match source with
    | .list form _ => form.isSized
    | _ => true
  match only with
  | none => return (items, sized)
  | some condition => return (← chooseItems s answer target condition items sized, true)

end Rendering

-- ---------------------------------------------------------------------------
-- Nodes
-- ---------------------------------------------------------------------------

namespace Node

mutual

/-- Runs a node. -/
def run (s : Surroundings) (answer : Answer) : Node → Rendering Unit
  | .text t => Rendering.write t
  | .print e => do Rendering.print s (← e.eval s answer)
  | .branch test yes no => do
    let d ← test.eval s answer
    if ← d.truth (← Rendering.mode s) then runAll s answer yes else runAll s answer no
  | .loop target source only recursive body otherwise => do
    let (items, sized) ← Rendering.loopSource s answer target only (← source.eval s answer)
    let again := if recursive then some (target, body) else none
    Rendering.runLoop ⟨items, sized, true, again⟩ (target.bind s answer)
      fun _ => runAll s answer body
    if items.isEmpty then runAll s answer otherwise
  | .set target e => do target.bind s answer (← e.eval s answer)
  | .capture target filters body => do
    let d ← Rendering.capture (runAll s answer body)
    target.bind s answer (← Rendering.applyFilters s answer filters d)
  | .scope bindings body => do
    Rendering.inFrame { } do
      bindings.forM fun b => do b.1.bind s answer (← b.2.eval s answer)
      runAll s answer body
  | .filtered filters body => do
    let d ← Rendering.capture (runAll s answer body)
    Rendering.print s (← Rendering.applyFilters s answer filters d)
  | .escaping mode body => do
    let before := (← get).escape
    let escape ← (← mode.eval s answer).escapeMode
    modify fun st => { st with escape }
    runAll s answer body
    modify fun st => { st with escape := before }
  | .block _ required body => do
    require !required
    Rendering.inFrame { } (runAll s answer body)
  | .routine name params defaults body => do
    Rendering.bind name (← Rendering.declare s ⟨name, params, defaults, body⟩)
  | .callWith call params defaults body => do
    let caller : Rendering Given := do
      let d ← Rendering.declare s ⟨"caller", params, defaults, body⟩
      return .names [(Datum.ofText "caller", d)]
    Rendering.print s (← call.evalCall s answer caller)
  | .discard e => do
    let _ ← e.eval s answer
    return
  | .insert e optional => do Rendering.requireTemplates optional (← e.eval s answer)
  | .extend e => do
    let _ ← e.eval s answer
    Rendering.fail
  | .use e target => do
    Rendering.requireTemplates false (← e.eval s answer)
    target.bind s answer (.record .stored [])
  | .useNames e names => do
    Rendering.requireTemplates false (← e.eval s answer)
    names.forM fun name => Rendering.bind name (.missing false)

/-- Runs nodes in order. -/
def runAll (s : Surroundings) (answer : Answer) : List Node → Rendering Unit
  | [] => return
  | n :: ns => do
    run s answer n
    runAll s answer ns

end

end Node

-- ---------------------------------------------------------------------------
-- Requests
-- ---------------------------------------------------------------------------

namespace Routine

/-- The default value of each parameter, if it has one. -/
def defaultFor (r : Routine) : List (String × Option Expr) :=
  let plain := r.params.length - r.defaults.length
  r.params.zip (List.replicate plain none ++ r.defaults.map some)

/-- What each parameter is given, by place or by name, but not both. -/
def valuesGiven (places : List Datum) (ks : ArgumentList.Keywords) :
    List (String × Option Expr) → Except RenderError (List (String × Option Expr × Datum))
  | [] => if places.isEmpty then .ok [] else .error .failed
  | (name, value) :: params =>
    match places, Datum.lookup? (Datum.ofText name) ks with
    | _ :: _, some _ => .error .failed
    | d :: places, none => do return (name, value, d) :: (← valuesGiven places ks params)
    | [], some d => do return (name, value, d) :: (← valuesGiven [] ks params)
    | [], none => do return (name, value, .missing false) :: (← valuesGiven [] ks params)

/-- Names under which a routine can be given arguments. -/
def keywords (r : Routine) : List String :=
  if r.usesCaller then "caller" :: r.params else r.params

end Routine

namespace Rendering

/-- Binds the parameters of a routine, the last one first. A missing one gets its default
value, which cannot refer to those before it. -/
def bindParams (s : Surroundings) (answer : Answer) :
    List (String × Option Expr × Datum) → Rendering Unit
  | [] => return
  | (name, value, d) :: params => do
    bindParams s answer params
    match value with
    | some e => if d.isMissing then bind name (← e.eval s answer) else bind name d
    | none => bind name d

/-- Runs a step on the frames of a routine. What the step changes of shared things stays
changed. -/
def inRoutine {α : Type} (kept : Option Nat) (step : Rendering α) : Rendering α := do
  let st ← get
  let base := match kept with
    | some id => FrameBase.kept id
    | none => .nothing
  let inside := { st with
    frames := [{ base }, { base := .bindings }]
    outerDepth := st.depth + RenderState.callCost
    inRoutine := true }
  require (inside.depth ≤ RenderState.mostDepth)
  set inside
  let x ← step
  modify fun after => { after with
    frames := st.frames, outerDepth := st.outerDepth, inRoutine := st.inRoutine }
  return x

/-- The output of a routine. -/
def runRoutine (s : Surroundings) (answer : Answer) (id : Nat) (args : ArgumentList) :
    Rendering Datum := do
  let declared ← orFail (← get).routines[id]?
  let r := declared.routine
  let (places, ks) := args.splitKeywords
  let values ← Routine.valuesGiven places ks r.defaultFor
  ks.only r.keywords
  inRoutine declared.kept do
    if r.usesCaller then
      bind "caller" ((Datum.lookup? (Datum.ofText "caller") ks).getD (.missing false))
    bindParams s answer values
    capture (Node.runAll s answer r.body)

/-- The output of a block. -/
def runBlock (s : Surroundings) (answer : Answer) (name : String) : Rendering Datum := do
  require !(← get).inRoutine
  let b ← orFail (s.blocks.find? fun b => b.name == name)
  require !b.required
  inFrame { } (capture (Node.runAll s answer b.body))

/-- The output of the innermost loop over something else. Its condition and what stands
for an empty loop do not count. -/
def runAgain (s : Surroundings) (answer : Answer) (source : Datum) : Rendering Datum := do
  let loop ← orFail (← get).innermostLoop?
  let (target, body) ← orFail loop.again
  let (items, sized) ← loopSource s answer target none source
  capture (runLoop ⟨items, sized, true, some (target, body)⟩ (target.bind s answer)
    fun _ => Node.runAll s answer body)

/-- Answers requests that lead to others so deep at most. -/
def answerWithin (s : Surroundings) : Nat → Answer
  | 0, _ => fail
  | depth + 1, .routine id args => runRoutine s (answerWithin s depth) id args
  | depth + 1, .block name => runBlock s (answerWithin s depth) name
  | depth + 1, .again source => runAgain s (answerWithin s depth) source

/-- Answers requests. Each needs a frame at least, so that they cannot be nested deeper than
frames. -/
def answer (s : Surroundings) : Answer := answerWithin s (RenderState.mostDepth + 2)

end Rendering

namespace Node

/-- The output of a template with the given names bound from outside. -/
def render (strict escape : Bool) (bindings : List (String × Datum)) (ns : List Node) :
    Except RenderError String := do
  let s : Surroundings := ⟨strict, bindings, blocksOf ns⟩
  let (_, st) ← (runAll s (Rendering.answer s) ns).run { frames := [{ base := .bindings }], escape }
  return st.output

end Node

end MailMerge
