import MailMerge.Template.Function
import MailMerge.Template.Node.Names
import MailMerge.Text.Html

/-!
# The state of a rendering

Names are looked up in frames, innermost first: statements bind them in the innermost
one. A loop has a frame, a routine runs on frames of its own. What is shared between
frames is kept once and referred to by number: the states of loops, namespaces, routines,
and what routines keep of the place where they are declared.
-/

namespace MailMerge

/-- What a template is rendered with. -/
structure Surroundings where
  /-- Whether the use of a missing datum is an error. -/
  strict : Bool
  bindings : List (String × Datum)
  blocks : List Block

/-- What a frame is put upon. -/
inductive FrameBase where
  | nothing
  /-- The names bound from outside. -/
  | bindings
  /-- What a routine keeps. -/
  | kept (id : Nat)
deriving DecidableEq, Repr

/-- A loop that runs. -/
structure LoopFrame where
  id : Nat
  /-- Whether its state can be looked up. -/
  visible : Bool
  depth : Nat
  /-- What runs again where the loop is called. -/
  again : Option (Target × List Node)

structure Frame where
  locals : List (String × Datum) := []
  base : FrameBase := .nothing
  loop : Option LoopFrame := none
  /-- Where routines declared here keep what they take from outside. -/
  kept : Option Nat := none

/-- The state of a loop. -/
structure LoopState where
  items : List Datum
  /-- Whether the number of items is known beforehand. -/
  sized : Bool
  depth : Nat
  place : Nat
  /-- The arguments of the last look for changes. -/
  seen : Option (List Datum)

/-- A routine, and where it finds what it keeps. -/
structure Declared where
  routine : Routine
  kept : Option Nat

structure RenderState where
  frames : List Frame
  /-- The frames of the calls around this one, and what calls cost beside them. -/
  outerDepth : Nat := 0
  escape : Bool
  output : String := ""
  /-- Whether a routine runs, from which blocks cannot be called. -/
  inRoutine : Bool := false
  loops : Array LoopState := #[]
  spaces : Array (List (Datum × Datum)) := #[]
  kept : Array (List (String × Datum)) := #[]
  routines : Array Declared := #[]

/-- A step of a rendering. -/
abbrev Rendering := StateT RenderState (Except RenderError)

/-- Ends the rendering. -/
def Rendering.fail {α : Type} : Rendering α := fun _ => .error .failed

-- ---------------------------------------------------------------------------
-- Bound names
-- ---------------------------------------------------------------------------

/-- A name bound once more. -/
def rebind (name : String) (d : Datum) : List (String × Datum) → List (String × Datum)
  | [] => [(name, d)]
  | e :: es => if e.1 == name then (name, d) :: es else e :: rebind name d es

namespace LoopState

/-- What the state of a loop shows. -/
def entries (l : LoopState) : List (Datum × Datum) :=
  let n := l.items.length
  let sized (d : Datum) : Datum := if l.sized then d else .missing false
  let neighbour (i : Nat) : Datum := (l.items[i]?).getD (.missing false)
  let entries : List (String × Datum) :=
    [("index0", .int l.place),
     ("index", .int (l.place + 1)),
     ("length", sized (.int n)),
     ("revindex", sized (.int (n - l.place : Nat))),
     ("revindex0", sized (.int (n - l.place - 1 : Nat))),
     ("first", .bool (l.place == 0)),
     ("last", sized (.bool (n == 0 || l.place + 1 == n))),
     ("depth", .int (l.depth + 1)),
     ("depth0", .int l.depth),
     ("previtem", if l.place == 0 then .missing false else neighbour (l.place - 1)),
     ("nextitem", neighbour (l.place + 1))]
  entries.map fun e => (Datum.ofText e.1, e.2)

end LoopState

namespace Declared

/-- What a routine shows. -/
def entries (d : Declared) : List (Datum × Datum) :=
  [(Datum.ofText "name", Datum.ofText d.routine.name),
   (Datum.ofText "arguments", Datum.ofList (d.routine.params.map Datum.ofText)),
   (Datum.ofText "caller", .bool d.routine.usesCaller)]

end Declared

mutual

/-- A datum with what is shared in it as it is now. -/
def Datum.renew (now : RecordForm → Option (List (Datum × Datum))) : Datum → Datum
  | .list form xs => .list form (Datum.renewItems now xs)
  | .record form es => .record form ((now form).getD (Datum.renewEntries now es))
  | d => d

def Datum.renewItems (now : RecordForm → Option (List (Datum × Datum))) : List Datum → List Datum
  | [] => []
  | x :: xs => Datum.renew now x :: Datum.renewItems now xs

def Datum.renewEntries (now : RecordForm → Option (List (Datum × Datum))) :
    List (Datum × Datum) → List (Datum × Datum)
  | [] => []
  | e :: es => (e.1, Datum.renew now e.2) :: Datum.renewEntries now es

end

namespace RenderState

/-- The entries of something shared as they are now, and of what they hold in turn up to
some depth. -/
def entriesNow (st : RenderState) : Nat → RecordForm → Option (List (Datum × Datum))
  | 0, _ => none
  | depth + 1, form =>
    let renewAll (es : List (Datum × Datum)) := es.map fun e => (e.1, e.2.renew (st.entriesNow depth))
    match form with
    | .loop id => (st.loops[id]?).map fun l => renewAll l.entries
    | .space id => (st.spaces[id]?).map renewAll
    | _ => none

/-- A datum with what is shared in it as it is now. -/
def renew (st : RenderState) (d : Datum) : Datum := d.renew (st.entriesNow (st.spaces.size + 2))

/-- What the base of a frame binds a name to. -/
def baseLookup? (st : RenderState) (s : Surroundings) (name : String) : FrameBase → Option Datum
  | .nothing => none
  | .bindings => s.bindings.lookup name
  | .kept id => (st.kept[id]?).bind (List.lookup name)

/-- What a frame binds a name to: a statement, a loop, or what the frame is put upon. -/
def frameLookup? (st : RenderState) (s : Surroundings) (name : String) (f : Frame) :
    Option Datum :=
  match f.locals.lookup name with
  | some d => some d
  | none =>
    match (if name == "loop" then f.loop.filter LoopFrame.visible else none) with
    | some l => some (.record (.loop l.id) [])
    | none => st.baseLookup? s name f.base

/-- The datum a name is bound to. -/
def lookup? (st : RenderState) (s : Surroundings) (name : String) : Option Datum :=
  match st.frames.findSome? (st.frameLookup? s name) with
  | some d => some (st.renew d)
  | none => Function.named? name

/-- The innermost loop that runs. -/
def innermostLoop? (st : RenderState) : Option LoopFrame := st.frames.findSome? Frame.loop

/-- How deep frames and calls are nested. -/
def depth (st : RenderState) : Nat := st.outerDepth + st.frames.length

/-- How deep frames and calls may be nested. -/
def mostDepth : Nat := 500

/-- What a call costs beside the frames it needs. -/
def callCost : Nat := 4

/-- Binds a name in the innermost frame, and in what is kept of it. -/
def bind (st : RenderState) (name : String) (d : Datum) : RenderState :=
  match st.frames with
  | [] => st
  | f :: fs =>
    let kept := match f.kept with
      | some id => st.kept.modify id (rebind name d)
      | none => st.kept
    { st with frames := { f with locals := rebind name d f.locals } :: fs, kept }

/-- Keeps what a name is bound to here, unless it is kept already. -/
def keep (s : Surroundings) (id : Nat) (st : RenderState) (name : String) : RenderState :=
  let d := (st.lookup? s name).getD (.missing false)
  { st with
    kept := st.kept.modify id fun es => if (es.lookup name).isSome then es else (name, d) :: es }

/-- The state with a place in the innermost frame for what routines keep, if there was
none. -/
def withKept (st : RenderState) : RenderState × Option Nat :=
  match st.frames with
  | [] => (st, none)
  | f :: fs =>
    match f.kept with
    | some id => (st, some id)
    | none =>
      let id := st.kept.size
      ({ st with frames := { f with kept := some id } :: fs, kept := st.kept.push [] }, some id)

end RenderState

namespace Rendering

/-- How filters and tests are applied here. -/
def mode (s : Surroundings) : Rendering Mode := do
  return ⟨s.strict, (← get).escape⟩

/-- Puts a frame on the others. -/
def pushFrame (f : Frame) : Rendering Unit := do
  let st ← get
  if RenderState.mostDepth < st.depth then fail
  else set { st with frames := f :: st.frames }

/-- Takes the innermost frame away. -/
def popFrame : Rendering Unit := modify fun st => { st with frames := st.frames.tail }

/-- Runs a step in a frame of its own. -/
def inFrame {α : Type} (f : Frame) (step : Rendering α) : Rendering α := do
  pushFrame f
  let x ← step
  popFrame
  return x

def write (text : String) : Rendering Unit :=
  modify fun st => { st with output := st.output ++ text }

/-- The output of a step as a datum. -/
def capture (step : Rendering Unit) : Rendering Datum := do
  let before := (← get).output
  modify fun st => { st with output := "" }
  step
  let st ← get
  set { st with output := before }
  return .text st.output st.escape

/-- Binds a name in the innermost frame. -/
def bind (name : String) (d : Datum) : Rendering Unit := modify fun st => st.bind name d

-- ---------------------------------------------------------------------------
-- Namespaces
-- ---------------------------------------------------------------------------

/-- A namespace with some entries. -/
def newSpace (entries : List (Datum × Datum)) : Rendering Datum := do
  let st ← get
  set { st with spaces := st.spaces.push entries }
  return .record (.space st.spaces.size) entries

/-- Binds a name in a namespace. -/
def bindIn (owner : Datum) (name : String) (d : Datum) : Rendering Unit :=
  match owner with
  | .record (.space id) _ => modify fun st =>
    { st with spaces := st.spaces.modify id (Datum.insertEntry (Datum.ofText name) d) }
  | _ => fail

-- ---------------------------------------------------------------------------
-- Routines
-- ---------------------------------------------------------------------------

/-- Declares a routine, which keeps what it takes from outside as it is here. -/
def declare (s : Surroundings) (r : Routine) : Rendering Datum := do
  let st ← get
  let (st, kept) :=
    match st.frames.head?.bind Frame.kept, r.kept with
    | none, [] => (st, none)
    | some id, [] => (st, some id)
    | _, names =>
      match st.withKept with
      | (st, some id) => (names.foldl (RenderState.keep s id) st, some id)
      | (st, none) => (st, none)
  let declared : Declared := ⟨r, kept⟩
  set { st with routines := st.routines.push declared }
  return .record (.routine st.routines.size) declared.entries

end Rendering

end MailMerge
