import RenderSource.Proofs.Renderer.Blocks
import RenderSource.Proofs.Renderer.Loading
/-!
What a source of portions does outside of functions. Heads bind the name of the function, and any other
statement stops the source, since the output is not bound there.
-/
namespace RenderSource

structure Config.OutputHidden (c : Config) : Prop where
  apart : c.accumulator.normalName ≠ c.functionName.normalName
  module : c.accumulator.normalName ≠ wording "__name__"
  scope : Builtin.find? c.accumulator.normalName = none

def Placed.IsOuter (c : Config) (q : Placed) : Prop :=
  q.statement = .define c.functionName c.dataName ∨ ∃ t, q.statement = .augment c.accumulator t

namespace Portion

open Placed (IsSound IsOuter)

variable {c : Config} {st : Store} {width row : Nat} {ps : List Portion} {q : Placed}

theorem placed_sound (accepted : c.Accepted) (names : Placed.NamesFree c) {p : Portion} (stated : Stated c st p)
    (member : q ∈ p.placed c st width row) : q.IsSound := by
  have output : ∀ n ∈ [c.accumulator.normalName], n ≠ wording "__debug__" :=
    List.forall_mem_singleton.mpr names.accumulator
  cases p with
  | opening n =>
    simp only [placed, List.mem_cons, List.not_mem_nil, or_false] at member
    rcases member with rfl | rfl | rfl
    · exact ⟨Placed.fixedFault_none names.dataName, Placed.fixedFault_none names.functionName⟩
    · exact ⟨rfl, rfl⟩
    · exact ⟨Placed.ownFault_none accepted.spells_init (fun t same => by cases same) rfl output, rfl⟩
  | piece n p =>
    obtain rfl := List.mem_singleton.mp member
    exact ⟨Placed.ownFault_none (stated.spells accepted) (fun t same => by cases same) rfl output, rfl⟩
  | closing n =>
    obtain rfl := List.mem_singleton.mp member
    exact ⟨Placed.ownFault_none accepted.spells_end (fun t _ => stated.inside n rfl) rfl (List.forall_mem_nil _), rfl⟩

theorem placed_outer {p : Portion} (stated : Stated c st p) (member : q ∈ p.placed c st width row)
    (outside : q.level = 0) : q.IsOuter c := by
  cases p with
  | opening n =>
    simp only [placed, List.mem_cons, List.not_mem_nil, or_false] at member
    rcases member with rfl | rfl | rfl
    · exact .inl rfl
    · cases outside
    · cases outside
  | piece n p =>
    obtain rfl := List.mem_singleton.mp member
    exact .inr ⟨_, rfl⟩
  | closing n =>
    obtain rfl := List.mem_singleton.mp member
    exact absurd outside (stated.inside n rfl)

end Portion

def Frame.rebind (f : Frame) (n : Text) (v : Value) : Frame :=
  let others := f.bound.filter fun (m, _) => m != n
  { f with bound := (n, v) :: others }

theorem Frame.lookup_rebind (f : Frame) (n m : Text) (v : Value) :
    (f.rebind n v).bound.lookup m = if m = n then some v else f.bound.lookup m := by
  rw [rebind, List.lookup_cons]
  by_cases same : m = n
  · rw [if_pos same, beq_iff_eq.mpr same]
  · rw [if_neg same, beq_eq_false_iff_ne.mpr same]
    exact Installation.lookup_filter same _

namespace Program

open Placed (IsOuter isDefine)

/-- A frame outside of functions in which nothing is bound but the name of the module and the function's. -/
def BindsFunction (c : Config) (name : Text) (f : Frame) : Prop :=
  ∀ n, n ≠ c.functionName.normalName → f.bound.lookup n = (Store.outermost (Renderer.moduleName name)).bound.lookup n

variable {p : Program} {c : Config} {st : Store} {fs : Array Frame} {f : Frame} {q : Placed} {qs : List Placed}
variable {name : Text}

theorem execute_head (head : q.statement = .define c.functionName c.dataName) (e : Env)
    (here : st.frames = fs.push f) : p.execute e fs.size none q st =
      (.ok none, st.withFrames (fs.push (f.rebind c.functionName.normalName (.entity (.renderer q.row none))))) := by
  have bound := Store.bind_last here c.functionName.normalName (.entity (.renderer q.row none))
  rw [execute, head]
  exact congrArg (Except.ok (none : Option Value), ·) bound

theorem BindsFunction.rebind (binds : BindsFunction c name f) (v : Value) :
    BindsFunction c name (f.rebind c.functionName.normalName v) := by
  intro n other
  rw [Frame.lookup_rebind, if_neg other]
  exact binds n other

theorem heads_of_outer (outer : ∀ q ∈ qs, q.IsOuter c) (opens : ¬∃ q ∈ qs, isDefine q.statement = false) :
    ∀ q ∈ qs, q.statement = .define c.functionName c.dataName := by
  intro q member
  rcases outer q member with head | ⟨t, join⟩
  · exact head
  · exact absurd ⟨q, member, by rw [join]; rfl⟩ opens

theorem execute_join (hidden : c.OutputHidden) {t : Term} (join : q.statement = .augment c.accumulator t)
    (call : Calling) (here : st.frames = fs.push f) (globals : p.globals = fs.size) (binds : BindsFunction c name f) :
    p.execute (p.envOutside call) fs.size none q st = (.error .unknownName, st) := by
  have unbound : f.bound.lookup c.accumulator.normalName = none := by
    rw [binds _ hidden.apart, Store.outermost, List.lookup_cons, beq_eq_false_iff_ne.mpr hidden.module]
    rfl
  have unknown : st.readOutside p.globals c.accumulator.normalName = .error .unknownName := by
    rw [Store.readOutside, globals, here, Array.getElem?_push_size, Option.bind_some, unbound, hidden.scope]
    rfl
  have read : (p.envOutside call).read c.accumulator st = (.error .unknownName, st) := congrArg (·, st) unknown
  rw [execute, join]
  exact Run.bind_error read

theorem executeAll_heads (heads : ∀ q ∈ qs, q.statement = .define c.functionName c.dataName) (e : Env)
    (here : st.frames = fs.push f) (binds : BindsFunction c name f) :
    ∃ g, p.executeAll e fs.size none qs st = (.ok .none, st.withFrames (fs.push g)) ∧ BindsFunction c name g ∧
      g.bound.lookup c.functionName.normalName = match qs.getLast? with
        | some q => some (.entity (.renderer q.row none))
        | none => f.bound.lookup c.functionName.normalName := by
  -- the frame is general, since each head binds the function anew in it
  induction qs generalizing st f with
  | nil =>
    refine ⟨f, ?_, binds, rfl⟩
    rw [executeAll, ← here]
    rfl
  | cons q qs ih =>
    obtain ⟨head, later⟩ := List.forall_mem_cons.mp heads
    obtain ⟨g, done, kept, found⟩ := @ih (st.withFrames (fs.push _)) _ later rfl (binds.rebind (.entity (.renderer q.row none)))
    refine ⟨g, ?_, kept, ?_⟩
    · rw [executeAll, Run.bind_ok (execute_head head e here)]
      exact done
    · rw [found]
      cases qs with
      | nil =>
        rw [List.getLast?_nil, List.getLast?_singleton, Frame.lookup_rebind, if_pos rfl]
      | cons r rs =>
        rw [List.getLast?_cons_cons, List.getLast?_cons]

theorem executeAll_stray (hidden : c.OutputHidden) (outer : ∀ q ∈ qs, q.IsOuter c)
    (stray : ∃ q ∈ qs, isDefine q.statement = false) (call : Calling) (here : st.frames = fs.push f)
    (globals : p.globals = fs.size) (binds : BindsFunction c name f) :
    ∃ st', p.executeAll (p.envOutside call) fs.size none qs st = (.error .unknownName, st') := by
  induction qs generalizing st f with
  | nil =>
    obtain ⟨q, member, _⟩ := stray
    cases member
  | cons q qs ih =>
    obtain ⟨first, later⟩ := List.forall_mem_cons.mp outer
    rcases first with head | ⟨t, join⟩
    · have behind : ∃ q ∈ qs, isDefine q.statement = false := by
        obtain ⟨r, member, flat⟩ := stray
        rcases List.mem_cons.mp member with rfl | inside
        · rw [head] at flat
          cases flat
        · exact ⟨r, inside, flat⟩
      rw [executeAll, Run.bind_ok (execute_head head _ here)]
      exact ih later behind rfl (binds.rebind _)
    · rw [executeAll, Run.bind_error (execute_join hidden join call here globals binds)]
      exact ⟨st, rfl⟩

end Program

end RenderSource
