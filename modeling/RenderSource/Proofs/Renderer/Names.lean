import RenderSource.Proofs.Renderer.Body
import RenderSource.Renderer.Machine
/-!
Names while a renderer runs. With names that are clear of those of the library, every name that an expression
of a body uses has its value in the frame of the function, whatever the output is by then.
-/
namespace RenderSource

def Text.IsUnused (n : Text) : Prop := ∀ m ∈ Placed.usedByLibrary, wording m ≠ n.normalName

instance (n : Text) : Decidable n.IsUnused :=
  inferInstanceAs (Decidable (∀ m ∈ Placed.usedByLibrary, wording m ≠ n.normalName))

/-- A name that the library neither binds nor uses, by its normal form. -/
structure Text.IsClear (n : Text) : Prop where
  unbound : Library.binds n.normalName = false
  unused : n.IsUnused

/-- A configuration whose names, compared in normal form, are clear of the library and of each other. The
name of the function may be one that the library binds. -/
structure Config.Clear (c : Config) : Prop extends c.Accepted where
  functionName' : c.functionName.IsUnused
  dataName' : c.dataName.IsClear
  accumulator' : c.accumulator.IsClear
  apart : c.dataName.normalName ≠ c.accumulator.normalName

namespace Installation

def functionNames : List (Text × Value) :=
  LibraryFunction.all.map fun f => (wording f.name, .entity (.function (.library f) none))

def plainNames (version : Text) : List (Text × Value) :=
  functionNames ++
    [ (wording "DEFAULT_FILTERS", .entity .filters),
      (wording "RENDERER_VERSION", .ofText version),
      (wording "datetime", .entity (.module (wording "datetime"))) ]

theorem bindPlainly_eq (i : Nat) (version : Text) :
    bindPlainly i version = Run.update fun st => st.bindAll i (plainNames version) := rfl

theorem functionNames_bound : ∀ p ∈ functionNames, Library.binds p.1 = true := by decide +kernel

theorem plainNames_bound (version : Text) : ∀ p ∈ plainNames version, Library.binds p.1 = true := by
  refine List.forall_mem_append.mpr ⟨functionNames_bound, ?_⟩
  simp only [List.forall_mem_cons, List.not_mem_nil, false_implies, implies_true, and_true]
  decide

theorem plainNames_unbound {n : Text} (unbound : Library.binds n = false) (version : Text) :
    (plainNames version).lookup n = none := by
  rw [List.lookup_eq_none_iff]
  intro p member
  have bound := plainNames_bound version p member
  rw [bne_iff_ne]
  rintro rfl
  rw [bound] at unbound
  cases unbound

theorem lookup_function : ∀ h ∈ LibraryFunction.emitted, functionNames.lookup (wording h.name) =
    some (.entity (.function (.library h) none)) := by decide

theorem lookup_plainNames (version : Text) :
    (∀ h ∈ LibraryFunction.emitted, (plainNames version).lookup (wording h.name) =
        some (.entity (.function (.library h) none))) ∧
      (plainNames version).lookup (wording "DEFAULT_FILTERS") = some (.entity .filters) ∧
      (plainNames version).lookup (wording "RENDERER_VERSION") = some (.ofText version) ∧
      (plainNames version).lookup (wording "datetime") = some (.entity (.module (wording "datetime"))) := by
  have others : ∀ n ∈ ["DEFAULT_FILTERS", "RENDERER_VERSION", "datetime"],
      functionNames.lookup (wording n) = none := by decide
  refine ⟨fun h member => ?_, ?_, ?_, ?_⟩
  · rw [plainNames, List.lookup_append, lookup_function h member]
    rfl
  · rw [plainNames, List.lookup_append, others "DEFAULT_FILTERS" (by decide)]
    rfl
  · rw [plainNames, List.lookup_append, others "RENDERER_VERSION" (by decide)]
    rfl
  · rw [plainNames, List.lookup_append, others "datetime" (by decide)]
    rfl

theorem lookup_filter {n a : Text} (other : n ≠ a) (l : List (Text × Value)) :
    (l.filter fun (m, _) => m != a).lookup n = l.lookup n := by
  induction l with
  | nil => rfl
  | cons p l ih =>
    obtain ⟨m, v⟩ := p
    by_cases same : m = a
    · have apart : (n == m) = false := by
        rw [same]
        exact beq_eq_false_iff_ne.mpr other
      rw [List.filter_cons_of_neg (by simp [same]), ih, List.lookup_cons, apart]
    · rw [List.filter_cons_of_pos (by simpa using same), List.lookup_cons, List.lookup_cons, ih]

end Installation

namespace Config

open Installation (plainNames lookup_plainNames plainNames_unbound)

variable (c : Config) (value : Value) (output : Text)

def libraryVersion : Text := c.version.getD Library.placeholder

def namesBefore : List (Text × Value) := plainNames c.libraryVersion ++ [(c.dataName.normalName, value)]

def namesWith : List (Text × Value) :=
  (c.accumulator.normalName, .ofText output) ::
    (c.namesBefore value).filter fun (n, _) => n != c.accumulator.normalName

variable {c}

theorem lookup_output : (c.namesWith value output).lookup c.accumulator.normalName = some (.ofText output) := by
  rw [namesWith, List.lookup_cons, beq_self_eq_true]

theorem lookup_other {n : Text} (other : n ≠ c.accumulator.normalName) :
    (c.namesWith value output).lookup n = (c.namesBefore value).lookup n := by
  rw [namesWith, List.lookup_cons, beq_eq_false_iff_ne.mpr other]
  exact Installation.lookup_filter other _

theorem lookup_library (clear : c.Clear) {n : Text} (bound : Library.binds n = true) {v : Value}
    (found : (plainNames c.libraryVersion).lookup n = some v) :
    (c.namesWith value output).lookup n = some v := by
  have other : n ≠ c.accumulator.normalName := by
    rintro rfl
    rw [clear.accumulator'.unbound] at bound
    cases bound
  rw [lookup_other value output other, namesBefore, List.lookup_append, found, Option.some_or]

theorem lookup_data (clear : c.Clear) :
    (c.namesWith value output).lookup c.dataName.normalName = some value := by
  rw [lookup_other value output clear.apart, namesBefore, List.lookup_append,
    plainNames_unbound clear.dataName'.unbound, Option.none_or, List.lookup_cons, beq_self_eq_true]

end Config

namespace Program

variable {p : Program} {i fuel : Nat} {fs : Array Frame} {f : Frame}

theorem read_bound {call : Calling} (here : fs[i]? = some f) {n : Text} {v : Value}
    (bound : f.bound.lookup n.normalName = some v) {st : Store} (frames : st.frames = fs) :
    (p.envIn call i).read n st = (.ok v, st) := by
  have found : st.frames[i]? = some f := by rw [frames, here]
  have read : (p.envIn call i).read n st = (st.readIn p.globals i n.normalName, st) := rfl
  rw [read, Store.readIn, found]
  simp only [bound]

theorem call_function {h : LibraryFunction} (member : h ∈ LibraryFunction.emitted) (args : List Value) :
    p.call (fuel + 1) (.entity (.function (.library h) none)) args [] = h.answer args := by
  rw [call, respond]
  exact LibraryFunction.apply_answer member _ args

theorem call_calendar {name : String} {isClass : Bool} {args : List Value} {named : List (Text × Value)}
    {r : Except Fault Value} (answer : Builtin.calendar? name args named = some r) :
    p.call (fuel + 1) (.builtin (wording name) isClass) args named = Run.ofExcept r := by
  rw [call, respond]
  exact Builtin.apply_calendar answer

/-- In the frame of a renderer the library and the data are known, whatever the output is. -/
theorem knows_names {c : Config} (clear : c.Clear) {value : Value} {output : Text} (here : fs[i]? = some f)
    (bound : f.bound = c.namesWith value output) :
    (p.envIn (p.call (fuel + 1)) i).KnowsLibrary c.dataName value c.libraryVersion fs := by
  obtain ⟨functions, filters, version, calendar⟩ := Installation.lookup_plainNames c.libraryVersion
  have read : ∀ {n : Text} {v : Value} {st : Store}, n.normalName = n → Library.binds n = true →
      (Installation.plainNames c.libraryVersion).lookup n = some v → st.frames = fs →
        (p.envIn (p.call (fuel + 1)) i).read n st = (.ok v, st) := by
    intro n v st normal library found frames
    refine read_bound here ?_ frames
    rw [bound, normal]
    exact Config.lookup_library value output clear library found
  have normal : ∀ n ∈ ["DEFAULT_FILTERS", "RENDERER_VERSION", "datetime"] ++
      LibraryFunction.emitted.map LibraryFunction.name,
        (wording n).normalName = wording n ∧ Library.binds (wording n) = true := by decide
  constructor
  · constructor
    · intro st frames
      obtain ⟨same, library⟩ := normal "datetime" (by decide)
      exact read same library calendar frames
    · intro name isClass args named r st _ answer
      exact congrFun (call_calendar answer) st
  · intro st frames
    refine read_bound here ?_ frames
    rw [bound]
    exact Config.lookup_data value output clear
  · intro st frames
    obtain ⟨same, library⟩ := normal "RENDERER_VERSION" (by decide)
    exact read same library version frames
  · intro st frames
    obtain ⟨same, library⟩ := normal "DEFAULT_FILTERS" (by decide)
    exact read same library filters frames
  · intro h member st frames
    obtain ⟨same, library⟩ := normal h.name (List.mem_append_right _ (List.mem_map_of_mem member))
    exact read same library (functions h member) frames
  · intro h member args st _
    exact congrFun (call_function member args) st

end Program

end RenderSource
