import RenderSource.Proofs.Renderer.Installing
/-!
Renderers whose output variable bears a name of the library's. The statement that empties the output then takes away
what the library has put there: with the table of marks gone nothing is escaped, and with the version gone nothing is
shown of it.
-/
namespace RenderSource

namespace Program

/-- The library has run in frame `i`, and one of its names has been emptied since. -/
structure Emptied (globals i : Nat) (n : String) (st : Store) : Prop where
  housed : ∃ f, st.Houses globals i f
  grounded : Grounded globals i st
  own : ∀ p ∈ ownNames i, p.1 ≠ n → st.Finds globals i (wording p.1) p.2
  emptied : st.Finds globals i (wording n) (.ofText [])

variable {p : Program} {globals i fuel : Nat} {st₀ st : Store} {n : String} {v : Value}

theorem emptied_of_ends (ends : Installation.Ends globals i st₀ st) (bound : n ∈ Library.names)
    (apart : n ≠ "Mapping" ∧ n ≠ "is_undefined") : Emptied globals i n (st.bind i (wording n) (.ofText [])) := by
  obtain ⟨f, houses⟩ := ends.housed
  have others : ∀ p ∈ Library.usedValues, p.1 ∉ Library.names := by decide
  have grounded := ends.installed.grounded
  have other {m : String} {w : Value} (finds : st.Finds globals i (wording m) w) (different : m ≠ n) :
      (st.bind i (wording n) (.ofText [])).Finds globals i (wording m) w :=
    finds.bind_other houses.here fun same => different (wording_inj.mp same)
  constructor
  · exact ⟨_, houses.bind _ _⟩
  · constructor
    · intro p member
      refine other (grounded.used p member) ?_
      rintro rfl
      exact others p member bound
    · exact other grounded.mapping apart.1.symm
    · exact other grounded.undefined apart.2.symm
  · exact fun p member different => other (ends.installed.own p member) different
  · exact houses.finds bound _

/-- Without its table, escaping a value gives the text of the value. -/
theorem escapeHtml_emptied (emptied : Emptied p.globals i "_HTML_ESCAPES" st) (told : v.Told st) :
    ByName.escapeHtml (p.envAround (p.call (fuel + 2)) i) v st = ((v.toText st).map .ofText, st) := by
  have replaced : ∀ c, ByName.replacement (.ofText []) c st = (.ok [c], st) := by
    intro c
    have none : Value.itemAtKey st (.ofText []) (.ofInt c.val) = .error .badIndex := by
      have outside : Value.placeOf? 0 (c.val : Int) = none := by
        rw [Value.placeOf?]
        split <;> simp
      simp [Value.itemAtKey, Value.ofText, Value.itemIn, Value.ofInt, Value.asInt?, outside]
    rw [ByName.replacement, Run.look_apply, none]
  rw [tells_grounded.escapeHtml_table emptied.grounded told (named_eq emptied.emptied) replaced]
  simp

end Program

namespace Config

variable {c : Config}

/-- Statements that give one value to a function of the library and join the answer to the output. -/
def askingStatements (c : Config) (f : LibraryFunction) (n : Text) : List Statement :=
  [ .assign c.accumulator (.text []), .augment c.accumulator (.call (.name (wording f.name)) [.name n] []),
    .give (.name c.accumulator) ]

/-- The output variable bears a name of the library's, and the parameter bears no name that the library binds or
reads. -/
structure Empties (c : Config) (n : String) : Prop where
  same : c.accumulator.normalName = wording n
  bound : n ∈ Library.names
  apart : n ≠ "Mapping" ∧ n ≠ "is_undefined"
  data : c.dataName.IsClear

theorem Empties.namesFree {n : String} (empties : c.Empties n) (apart : n ≠ "__debug__")
    (function : c.functionName.normalName ≠ wording "__debug__") (data : c.dataName.normalName ≠ wording "__debug__") :
    Placed.NamesFree c where
  functionName := function
  dataName := data
  accumulator := by
    rw [empties.same]
    exact fun same => apart (wording_inj.mp same)

end Config

namespace Renderer

open Program (Emptied enteredFrame)

def askingRenderer (c : Config) (k : Nat) (f : LibraryFunction) (m : Text) (globals : Nat) : Renderer :=
  ofStatements c k (c.askingStatements f m) globals

def enteredStore (c : Config) (k : Nat) (f : LibraryFunction) (m : Text) (value : Value) (st : Store) : Store :=
  st.withFrames (st.frames.push (enteredFrame c k (c.askingStatements f m) value))

variable {c : Config} {n : String} {f : LibraryFunction} {m : Text} {k globals : Nat} {value v : Value} {st : Store}

theorem byName_empties (empties : c.Empties n) :
    (askingRenderer c k f m globals).program.isPlain = false := by
  have bound : Library.binds c.accumulator.normalName = true := by
    rw [empties.same]
    exact List.any_eq_true.mpr ⟨n, empties.bound, decide_eq_true rfl⟩
  rw [askingRenderer, ofStatements, Program.ofRows, List.all_eq_false]
  let q : Placed := ⟨Placed.bodyRow c k, 1, k, Text.blanks k ++ (Statement.assign c.accumulator (.text [])).spelled,
    .assign c.accumulator (.text [])⟩
  refine ⟨q, List.mem_cons_of_mem _ (List.mem_cons_of_mem _ List.mem_cons_self), ?_⟩
  simp [q, Placed.keepsClear, Placed.hidingNames, Placed.ownNames, Statement.names, bound]

theorem entered_own : (enteredFrame c k (c.askingStatements f m) value).own =
    c.dataName.normalName :: (Library.names.map wording ++ [c.accumulator.normalName, c.accumulator.normalName]) := rfl

theorem entered_houses : (enteredStore c k f m value st).Houses globals st.frames.size
    (enteredFrame c k (c.askingStatements f m) value) where
  here := Array.getElem?_push_size
  outer _ := rfl
  own := .inr fun n member => by
    rw [entered_own]
    exact List.mem_cons_of_mem _ (List.mem_append_left _ (List.mem_map_of_mem member))

theorem entered_data :
    (enteredStore c k f m value st).Finds globals st.frames.size c.dataName.normalName value := by
  have here : (enteredStore c k f m value st).frames[st.frames.size]? =
      some (enteredFrame c k (c.askingStatements f m) value) := Array.getElem?_push_size
  have bound : (enteredFrame c k (c.askingStatements f m) value).bound.lookup c.dataName.normalName = some value := by
    rw [enteredFrame, List.lookup_cons, beq_self_eq_true]
  have own : c.dataName.normalName ∈ (enteredFrame c k (c.askingStatements f m) value).own := List.mem_cons_self
  constructor
  · rw [Store.readIn, here]
    dsimp only
    rw [bound]
  · rw [Store.readAround, here]
    dsimp only
    rw [if_pos own, bound]

theorem entered_free (empties : c.Empties n) (free : ∀ n ∈ Placed.usedByLibrary, st.LeavesFree (wording n)) :
    ∀ n ∈ Placed.usedByLibrary, (enteredStore c k f m value st).LeavesFree (wording n) := by
  intro s member j g here
  have there : (st.frames.push (enteredFrame c k (c.askingStatements f m) value))[j]? = some g := here
  have data := empties.data.unused s member
  have unbound : ∀ b ∈ Library.names, wording s ≠ wording b := by
    intro b bound same
    have binds := List.any_eq_false.mp (Library.scope_unbound s (List.mem_append_left _ member)) b bound
    exact binds (decide_eq_true same.symm)
  rw [Array.getElem?_push] at there
  split at there
  · cases there
    constructor
    · rw [entered_own]
      simp only [List.mem_cons, List.mem_append, List.mem_map, List.not_mem_nil, or_false, not_or]
      refine ⟨data, ?_, ?_, ?_⟩
      · rintro ⟨b, bound, same⟩
        exact unbound b bound same.symm
      · rw [empties.same]
        exact unbound n empties.bound
      · rw [empties.same]
        exact unbound n empties.bound
    · rw [enteredFrame, List.lookup_cons, beq_eq_false_iff_ne.mpr data]
      rfl
  · exact free s member j g there

/-- Asked after one of its names is emptied, a function of the library answers by what is left. -/
theorem render_empties (empties : c.Empties n) (other : f.name ≠ n)
    (free : ∀ n ∈ Placed.usedByLibrary, st.LeavesFree (wording n)) {t : Text}
    (given : ∀ st', Emptied globals st.frames.size n st' →
      st'.Finds globals st.frames.size c.dataName.normalName value → st'.Finds globals st.frames.size m.normalName v)
    (answered : ∀ (p : Program) st', p.globals = globals → Emptied globals st.frames.size n st' →
      ByName.run (p.envAround (p.call 998) st.frames.size) (.library f) [v] st' = (.ok (.ofText t), st')) :
    ((askingRenderer c k f m globals).render value st).1 = .ok (.ofText t) := by
  let p := (askingRenderer c k f m globals).program
  let i := st.frames.size
  have settled : ∀ s ∈ c.askingStatements f m, s.term?.any Term.handsOut = false := by
    intro s member
    simp only [Config.askingStatements, List.mem_cons, List.not_mem_nil, or_false] at member
    rcases member with rfl | rfl | rfl <;> rfl
  obtain ⟨st₁, ran, ends⟩ := @Program.execute_library p (Placed.library c k) i (enteredStore c k f m value st) _ _ rfl
    (byName_empties empties) entered_houses (entered_free empties free) (p.call 999) (some i)
  have emptied := Program.emptied_of_ends ends empties.bound empties.apart
  have reads {x : Text} {w : Value} {st' : Store} (finds : st'.Finds globals i x.normalName w) :
      (p.envIn (p.call 999) i).read x st' = (.ok w, st') := congrArg (·, st') finds.inside
  have data : (st₁.bind i (wording n) (.ofText [])).Finds globals i c.dataName.normalName value := by
    obtain ⟨g, houses⟩ := ends.housed
    have other : ∀ b ∈ Library.names, c.dataName.normalName ≠ wording b := fun b bound same =>
      List.any_eq_false.mp empties.data.unbound b bound (decide_eq_true same.symm)
    exact (ends.spares _ _ other entered_data).bind_other houses.here (other n empties.bound)
  obtain ⟨g, houses⟩ := emptied.housed
  let st₂ := st₁.bind i (wording n) (.ofText [])
  let st₃ := st₂.bind i (wording n) (.ofText t)
  let asking : Term := .call (.name (wording f.name)) [.name m] []
  let placed (row : Nat) (s : Statement) : Placed := ⟨row, 1, k, Text.blanks k ++ s.spelled, s⟩
  have normal : (wording f.name).normalName = wording f.name :=
    Library.normalName_names f.name (List.mem_append_left _ (by cases f <;> decide))
  have evaluated : asking.evaluate (p.envIn (p.call 999) i) st₂ = (.ok (.ofText t), st₂) := by
    have found : st₂.Finds globals i (wording f.name).normalName (.entity (.function (.library f) (some i))) := by
      rw [normal]
      exact emptied.own (f.name, _) (Program.function_own f) other
    have function : (Term.name (wording f.name)).evaluate (p.envIn (p.call 999) i) st₂ =
        (.ok (.entity (.function (.library f) (some i))), st₂) := reads found
    have argument : (Term.name m).evaluate (p.envIn (p.call 999) i) st₂ = (.ok v, st₂) := reads (given st₂ emptied data)
    have arguments : Term.evaluateAll (p.envIn (p.call 999) i) [.name m] st₂ = (.ok [v], st₂) := by
      rw [Term.evaluateAll, Run.bind_ok argument]
      rfl
    rw [Term.evaluate, Run.bind_ok function, Run.bind_ok arguments]
    exact answered p st₂ rfl emptied
  have output {st' : Store} {w : Value} (finds : st'.Finds globals i (wording n) w) :
      (p.envIn (p.call 999) i).read c.accumulator st' = (.ok w, st') := reads (empties.same ▸ finds)
  have assigned (row : Nat) : p.execute (p.envIn (p.call 999) i) i (some i)
      (placed row (.assign c.accumulator (.text []))) st₁ = (.ok none, st₂) := by
    have bound : (.ok none, st₁.bind i c.accumulator.normalName (.ofText [])) =
        ((.ok none, st₂) : Except Fault (Option Value) × Store) := by rw [empties.same]
    exact bound
  have joined (row : Nat) : p.execute (p.envIn (p.call 999) i) i (some i)
      (placed row (.augment c.accumulator asking)) st₂ = (.ok none, st₃) := by
    have sum : (Value.ofText []).plus (.ofText t) st₂ = (.ok (.ofText t), st₂) := rfl
    rw [Program.execute]
    dsimp only [placed]
    rw [Run.bind_ok (output emptied.emptied), Run.bind_ok evaluated, Run.bind_ok sum, empties.same]
    rfl
  have returned (row : Nat) : p.execute (p.envIn (p.call 999) i) i (some i)
      (placed row (.give (.name c.accumulator))) st₃ = (.ok (some (.ofText t)), st₃) :=
    Run.bind_ok (output (houses.finds empties.bound _))
  have called : (askingRenderer c k f m globals).render value st = (.ok (.ofText t), st₃) := by
    refine (@Program.call_enters p c k (c.askingStatements f m) settled rfl value st).trans ?_
    rw [Program.enteredBody, Program.executeAll]
    refine (Run.bind_ok ran).trans ?_
    rw [Config.askingStatements, Placed.placedFrom, Placed.placedFrom, Placed.placedFrom, Placed.placedFrom]
    refine (Run.bind_ok (assigned _)).trans ?_
    refine (Run.bind_ok (joined _)).trans ?_
    exact Run.bind_ok (returned _)
  rw [called]

/-- With an output variable that is the table of marks, a renderer shows a text without any mark replaced. -/
theorem render_unescaped (empties : c.Empties "_HTML_ESCAPES")
    (free : ∀ n ∈ Placed.usedByLibrary, st.LeavesFree (wording n)) (t : Text) :
    ((askingRenderer c k .escapeHtml c.dataName globals).render (.ofText t) st).1 = .ok (.ofText t) := by
  refine render_empties empties (by decide) free (fun _ _ data => data) ?_
  rintro p st' rfl emptied
  exact Program.escapeHtml_emptied emptied (Value.IsData.text t).told

/-- With an output variable that is the version, a renderer shows no version. -/
theorem render_unversioned (empties : c.Empties "RENDERER_VERSION")
    (free : ∀ n ∈ Placed.usedByLibrary, st.LeavesFree (wording n)) (value : Value) :
    ((askingRenderer c k .toText (wording "RENDERER_VERSION") globals).render value st).1 = .ok (.ofText []) := by
  have normal := Library.normalName_names "RENDERER_VERSION" (by decide)
  refine render_empties empties (by decide) free (fun st' emptied _ => normal ▸ emptied.emptied) ?_
  rintro p st' rfl emptied
  exact Program.tells_grounded.toText_eq emptied.grounded (Value.IsData.text []).told

theorem loaded_free (other : c.functionName.IsUnused) (name : Text) :
    ∀ n ∈ Placed.usedByLibrary, (⟨#[], #[Program.loadedFrame c name]⟩ : Store).LeavesFree (wording n) := by
  intro n member i f here
  obtain ⟨rfl, rfl⟩ : i = 0 ∧ Program.loadedFrame c name = f := by
    cases i with
    | zero => exact ⟨rfl, Option.some.inj here⟩
    | succ i => cases here
  have plain : wording n ≠ wording "__name__" := by
    intro same
    have apart : ∀ n ∈ Placed.usedByLibrary, n ≠ "__name__" := by decide
    exact apart n member (wording_inj.mp same)
  refine ⟨List.not_mem_nil, ?_⟩
  rw [Program.loadedFrame, List.lookup_cons, beq_eq_false_iff_ne.mpr (other n member)]
  dsimp only
  rw [Installation.lookup_filter (other n member), Store.outermost, List.lookup_cons, beq_eq_false_iff_ne.mpr plain]
  rfl

end Renderer

end RenderSource
