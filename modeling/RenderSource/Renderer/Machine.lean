import RenderSource.Renderer.Evaluate
import RenderSource.Renderer.Exceptions
import RenderSource.Renderer.Installation
import RenderSource.Renderer.Plainness
import RenderSource.Library.PercentQuote
/-!
Running generated source. Statements run in order with the names of a frame; calling a render function
makes a new frame around its body. Calls go at most so many deep.
-/
namespace RenderSource

structure Program where
  rows : List Placed
  globals : Nat
  /-- No name of the source gets in the way of the library's own. -/
  isPlain : Bool

abbrev Calling := Value → List Value → List (Text × Value) → Run Value

namespace Placed

/-- The statements of the function whose head is at `level`, without those of functions inside it. -/
def bodyOf (level : Nat) (after : List Placed) : List Placed :=
  (after.takeWhile fun p => decide (level < p.level)).filter fun p => p.level = level + 1

structure Definition where
  name : Text
  parameter : Text
  body : List Placed

def definitionAt? (row : Nat) : List Placed → Option Definition
  | [] => none
  | p :: rest =>
    if p.row = row then match p.statement with
      | .define name parameter => some ⟨name.normalName, parameter.normalName, bodyOf p.level rest⟩
      | _ => none
    else definitionAt? row rest

end Placed

namespace Program

def ofRows (rows : List Placed) (globals : Nat) : Program :=
  { rows, globals, isPlain := rows.all (Placed.keepsClear (Placed.libraryInside rows)) }

def envIn (p : Program) (call : Calling) (i : Nat) : Env :=
  { read := fun n => Run.look fun st => st.readIn p.globals i n.normalName, call }

def envAround (p : Program) (call : Calling) (i : Nat) : Env :=
  { read := fun n => Run.look fun st => st.readAround p.globals n (st.frames.size + 1) (some i), call }

def envOutside (p : Program) (call : Calling) : Env :=
  { read := fun n => Run.look fun st => st.readOutside p.globals n.normalName, call }

/-- Runs a statement in frame `i`; a function made there has the frame `around` around it. The result
is the value that is given back, if one is. -/
def execute (p : Program) (e : Env) (i : Nat) (around : Option Nat) (q : Placed) :
    Run (Option Value) := do
  match q.statement with
  | .define n _ =>
    Run.update fun st => st.bind i n.normalName (.entity (.renderer q.row around))
    return none
  | .library version =>
    if p.isPlain then Installation.bindPlainly i version
    else Installation.run p.globals i e version
    return none
  | .assign n t =>
    let v ← t.evaluate e
    Run.update fun st => st.bind i n.normalName v
    return none
  | .augment n t =>
    let before ← e.read n
    let more ← t.evaluate e
    let after ← before.plus more
    Run.update fun st => st.bind i n.normalName after
    return none
  | .give t => return some (← t.evaluate e)

def executeAll (p : Program) (e : Env) (i : Nat) (around : Option Nat) : List Placed → Run Value
  | [] => pure .none
  | q :: rest => do
    match ← p.execute e i around q with
    | some v => return v
    | none => executeAll p e i around rest

def argument? (parameter : Text) : List Value → List (Text × Value) → Option Value
  | [v], [] => some v
  | [], [(n, v)] => if n.normalName = parameter then some v else none
  | _, _ => none

/-- Calls the render function whose head is in a row. One that hands out values does not run until it
is asked for them. -/
def callRenderer (p : Program) (call : Calling) (row : Nat) (outer : Option Nat) (args : List Value)
    (named : List (Text × Value)) : Run Value := do
  match Placed.definitionAt? row p.rows with
  | none => throw .wrongType
  | some d => match argument? d.parameter args named with
    | none => throw .wrongType
    | some v =>
      if d.body.any fun q => q.statement.term?.any Term.handsOut then
        Run.allocate (.series (wording "generator") none [] true)
      else
        let i ← Run.change fun st =>
          let around := (outer.bind fun o => st.frames[o]?).elim [] Frame.place
          let (i, st) := st.addFrame {
            own := d.parameter :: d.body.flatMap fun q => q.statement.names
            bound := [(d.parameter, v)]
            outer
            place := around ++ d.name ++ wording ".<locals>." }
          (.ok i, st)
        p.executeAll (p.envIn call i) i (some i) d.body

def instantiate (p : Program) (call : Calling) (a : Address) (name : Text) (home : Nat)
    (bases args : List Value) (named : List (Text × Value)) : Run Value := do
  if !named.isEmpty then throw .wrongType
  if bases.isEmpty then
    if args.isEmpty then return .absent (.copied a) else throw .wrongType
  let (args, attributes) ← Exceptions.about (p.envAround call home) name args
  Run.allocate (.exception (.ref a) name args attributes)

def respond (p : Program) (call : Calling) (f : Value) (args : List Value)
    (named : List (Text × Value)) : Run Value := do
  match f with
  | .entity (.function (.library h) none) =>
    if named.isEmpty then h.apply (fun g vs => call g vs []) args else throw .wrongType
  | .entity (.function r (some i)) =>
    if named.isEmpty then ByName.run (p.envAround call i) r args else throw .wrongType
  | .entity (.renderer row outer) => p.callRenderer call row outer args named
  | .entity .percentQuote => Library.percentQuote args named
  | .builtin name isClass => Builtin.apply (fun g vs => call g vs []) name isClass args named
  | .ref a => match ← Run.look fun st => .ok (st.get? a) with
    | some (.madeClass name _ home bases) => p.instantiate call a name home bases args named
    | _ => throw .wrongType
  | _ => throw .wrongType

/-- Calls inside one another go no deeper than the fuel. -/
def call (p : Program) : Nat → Calling
  | 0, _, _, _ => throw .tooDeep
  | fuel + 1, f, args, named => p.respond (p.call fuel) f args named

def callLimit : Nat := 1000

def start (p : Program) : Run Unit := do
  let e := p.envOutside (p.call callLimit)
  let _ ← p.executeAll e p.globals none (p.rows.filter fun q => q.level = 0)

end Program

end RenderSource
