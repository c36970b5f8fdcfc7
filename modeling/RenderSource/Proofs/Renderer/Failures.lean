import RenderSource.Proofs.Library.Failures
import RenderSource.Proofs.Renderer.Loading
/-!
Running generated source is contained: whatever the source and the values it is run with, it fails with a failure of
running, and never with a report about a configuration, a buffer or a source. The functions in scope everywhere come
first, then expressions, statements and calls; calls are contained by induction on how deep they go.
-/
namespace RenderSource

open Failing

namespace Builtin

variable {st : Store} {vs : List Value}

@[grind ←] theorem contained_once (kind : String) : Contained (once kind vs) := by grind [once]

@[grind ←] theorem contained_pairOf (a b : Value) : Contained (pairOf a b) := by grind [pairOf]

@[grind ←] theorem contained_numbered (start : Int) : Contained (numbered start vs) := by
  induction vs generalizing start with
  | nil => exact Failing.pure []
  | cons v vs ih => unfold numbered; grind

@[grind ←] theorem contained_distinct : Contained (distinct st vs) := by grind [distinct]

@[grind ←] theorem contained_entriesFrom (pairs : List (List Value)) : Contained (entriesFrom st pairs) := by
  grind [entriesFrom]

@[grind ←] theorem contained_insertSorted (v : Value) : Contained (insertSorted st v vs) := by
  induction vs with
  | nil => exact contained_ok _
  | cons w ws ih => unfold insertSorted; grind

@[grind ←] theorem contained_sortValues : Contained (sortValues st vs) := by grind [sortValues]

@[grind ←] theorem contained_best {goesBefore : Value → Value → Except Fault Bool}
    (asked : ∀ v w, Contained (goesBefore v w)) (v : Value) : Contained (best goesBefore v vs) := by grind [best]

@[grind ←] theorem contained_rangeOf (start stop step : Int) : Contained (rangeOf start stop step) := by grind [rangeOf]

@[grind ←] theorem contained_total (start : Value) : Contained (total start vs) := by grind [total]

@[grind ←] theorem contained_length (v : Value) : Contained (length st v) := by grind [length]

@[grind ←] theorem contained_next (v : Value) (otherwise : Option Value) : Contained (next v otherwise) := by
  intro st
  unfold next
  split <;> grind

@[grind ←] theorem contained_zip : Contained (zip vs) := by grind [zip]

@[grind ←] theorem contained_reversed (v : Value) : Contained (reversed v) := by grind [reversed]

@[grind ←] theorem contained_frozen : Contained (frozen vs) := by grind [frozen]

@[grind ←] theorem contained_readInt (base : Nat) (t : Text) : Contained (readInt base t) := by grind [readInt]

@[grind ←] theorem contained_readFloat (t : Text) : Contained (readFloat t) := by grind [readFloat]

@[grind ←] theorem contained_toInt (v : Value) : Contained (toInt v) := by unfold toInt; split <;> grind

@[grind ←] theorem contained_toFloat (v : Value) : Contained (toFloat v) := by unfold toFloat; split <;> grind

@[grind ←] theorem contained_absolute (v : Value) : Contained (absolute v) := by unfold absolute; split <;> grind

@[grind ←] theorem contained_power (a b : Value) : Contained (power a b) := by unfold power; split <;> grind

@[grind ←] theorem contained_round (v : Value) : Contained (round v) := by unfold round; split <;> grind

@[grind ←] theorem contained_roundTo (v places : Value) : Contained (roundTo v places) := by
  unfold roundTo; split <;> grind

@[grind ←] theorem contained_makeText : Contained (makeText vs) := by unfold makeText; split <;> grind

@[grind ←] theorem contained_makeInt : Contained (makeInt vs) := by unfold makeInt; split <;> grind

@[grind ←] theorem contained_makeFloat : Contained (makeFloat vs) := by unfold makeFloat; split <;> grind

@[grind ←] theorem contained_makeDict : Contained (makeDict vs) := by unfold makeDict; split <;> grind

@[grind ←] theorem contained_makeBytes : Contained (makeBytes vs) := by unfold makeBytes; split <;> grind

@[grind ←] theorem contained_makeRange : Contained (makeRange vs) := by unfold makeRange; split <;> grind

@[grind ←] theorem contained_makeException (name : Text) : Contained (makeException name vs) := by grind [makeException]

variable {call : Value → List Value → Run Value}

@[grind ←] theorem contained_construct (calls : ∀ f vs, Contained (call f vs)) (name : String) :
    Contained (construct call name vs) := by
  unfold construct; split <;> grind

@[grind ←] theorem contained_partOf (v name : Value) (otherwise : Option Value) : Contained (partOf v name otherwise) := by
  grind [partOf]

@[grind ←] theorem contained_codePointOf (v : Value) : Contained (codePointOf v) := by unfold codePointOf; split <;> grind

@[grind ←] theorem contained_characterOf (v : Value) : Contained (characterOf v) := by grind [characterOf]

@[grind ←] theorem contained_divMod (a b : Value) : Contained (divMod a b) := by grind [divMod]

@[grind ←] theorem contained_answerItems (name : String) : Contained (answerItems name vs) := by
  unfold answerItems; split <;> grind

@[grind ←] theorem contained_answer (name : String) : Contained (answer name vs) := by
  unfold answer; split <;> grind

@[grind →] theorem contained_calendar? {name : String} {named : List (Text × Value)} {r : Except Fault Value}
    (known : calendar? name vs named = some r) : Contained r := by
  unfold calendar? at known
  split at known <;> grind [Option.map_eq_some_iff]

@[grind ←] theorem contained_apply (calls : ∀ f vs, Contained (call f vs)) (name : Text) (isClass : Bool)
    (named : List (Text × Value)) : Contained (apply call name isClass vs named) := by grind [apply]

end Builtin

namespace Exceptions

variable {e : Env} (reach : e.IsContained)
include reach

@[grind ←] theorem contained_shownFor (v kind : Value) : Contained (shownFor e v kind) := by
  unfold shownFor
  refine bind (contained_recover ?_ ?_) fun shown => ?_ <;> grind

@[grind ←] theorem contained_kindOf (v : Value) : Contained (kindOf e v) := by grind [kindOf]

@[grind ←] theorem contained_reachesBase : Contained (reachesBase e) := by grind [reachesBase]

@[grind ←] theorem contained_aboutUnsupported (v reason : Value) (args : List Value) :
    Contained (aboutUnsupported e v reason args) := by
  unfold aboutUnsupported
  refine bind (by grind) fun kind => bind (by grind) fun shown => bind (by grind) fun known => ?_
  grind

@[grind ←] theorem contained_about (cls : Text) (args : List Value) : Contained (about e cls args) := by
  unfold about; grind

end Exceptions

namespace Installation

@[grind ←] theorem contained_bindPlainly (i : Nat) (version : Text) : Contained (bindPlainly i version) := by
  grind [bindPlainly]

@[grind ←] theorem contained_set (i : Nat) (n : String) (v : Value) : Contained (set i n v) := by grind [set]

@[grind ←] theorem contained_setFunction (i : Nat) (r : Routine) : Contained (setFunction i r) := by grind [setFunction]

@[grind ←] theorem contained_setFunctions (i : Nat) (fs : List LibraryFunction) : Contained (setFunctions i fs) := by
  grind [setFunctions]

@[grind ←] theorem contained_makeClass (globals i : Nat) (n : String) (bases : List Value) :
    Contained (makeClass globals i n bases) := by grind [makeClass]

variable {e : Env} (reach : e.IsContained)
include reach

@[grind ←] theorem contained_markupTable : Contained (markupTable e) := by grind [markupTable]

theorem contained_opening (globals i : Nat) (version : Text) : Contained (opening globals i e version) := by
  unfold opening
  repeat refine bind (by grind) fun _ => ?_
  grind

theorem contained_errorClasses (globals i : Nat) : Contained (errorClasses globals i e) := by
  unfold errorClasses
  repeat refine bind (by grind) fun _ => ?_
  grind

omit reach in
theorem contained_literals (i : Nat) : Contained (literals i) := by
  unfold literals
  repeat refine bind (by grind) fun _ => ?_
  grind

@[grind ←] theorem contained_run (globals i : Nat) (version : Text) : Contained (run globals i e version) :=
  bind (contained_opening reach globals i version) fun _ =>
    bind (contained_errorClasses reach globals i) fun _ => contained_literals i

end Installation

namespace Value

variable {st : Store}

@[grind ←] theorem contained_entriesOf (es : List (Value × Value)) : Contained (entriesOf st es) := by grind [entriesOf]

end Value

namespace Term

variable {e : Env}

mutual

@[grind ←] theorem contained_evaluate (reach : e.IsContained) : ∀ t : Term, Contained (t.evaluate e)
  | name n => reach.read n
  | text _ | nat _ | float _ | truth _ | none => Failing.pure _
  | list ts | tuple ts => by
    have items := contained_evaluateAll reach ts
    unfold evaluate
    grind
  | dict es => by
    have entries := contained_evaluateEntries reach es
    unfold evaluate
    grind
  | call f args named => by
    have called := contained_evaluate reach f
    have given := contained_evaluateAll reach args
    have chosen := contained_evaluateNamed reach named
    unfold evaluate
    grind
  | item a b | sum a b => by
    have first := contained_evaluate reach a
    have second := contained_evaluate reach b
    unfold evaluate
    grind
  | negative a | attr a _ | denial a | awaited _ a | yielded _ a => by
    have inner := contained_evaluate reach a
    unfold evaluate
    grind

theorem contained_evaluateAll (reach : e.IsContained) : ∀ ts : List Term, Contained (evaluateAll e ts)
  | [] => Failing.pure []
  | t :: ts => by
    have first := contained_evaluate reach t
    have others := contained_evaluateAll reach ts
    unfold evaluateAll
    grind

theorem contained_evaluateEntries (reach : e.IsContained) : ∀ es : List (Term × Term), Contained (evaluateEntries e es)
  | [] => Failing.pure []
  | (k, t) :: es => by
    have key := contained_evaluate reach k
    have value := contained_evaluate reach t
    have others := contained_evaluateEntries reach es
    unfold evaluateEntries
    grind

theorem contained_evaluateNamed (reach : e.IsContained) : ∀ ts : List (Text × Term), Contained (evaluateNamed e ts)
  | [] => Failing.pure []
  | (n, t) :: ts => by
    have first := contained_evaluate reach t
    have others := contained_evaluateNamed reach ts
    unfold evaluateNamed
    grind

end

end Term

namespace Store

variable {st : Store}

@[grind ←] theorem contained_readOutside (globals : Nat) (n : Text) : Contained (st.readOutside globals n) := by
  grind [readOutside]

@[grind ←] theorem contained_readAround (globals : Nat) (n : Text) (fuel : Nat) (i : Option Nat) :
    Contained (st.readAround globals n fuel i) := by
  fun_induction readAround <;> grind

@[grind ←] theorem contained_readIn (globals i : Nat) (n : Text) : Contained (st.readIn globals i n) := by
  grind [readIn]

end Store

namespace Program

variable {p : Program} {call : Calling}

@[grind ←] theorem contained_execute {e : Env} (reach : e.IsContained) (i : Nat) (around : Option Nat) (q : Placed) :
    Contained (p.execute e i around q) := by
  unfold execute; split <;> grind

@[grind ←] theorem contained_executeAll {e : Env} (reach : e.IsContained) (i : Nat) (around : Option Nat)
    (qs : List Placed) : Contained (p.executeAll e i around qs) := by
  induction qs with
  | nil => exact Failing.pure _
  | cons q qs ih => unfold executeAll; grind

section

variable (calls : ∀ f args named, Contained (call f args named))
include calls

@[grind ←] theorem envIn_isContained (i : Nat) : (p.envIn call i).IsContained :=
  ⟨fun _ => contained_look fun _ => Store.contained_readIn _ _ _, calls⟩

@[grind ←] theorem envAround_isContained (i : Nat) : (p.envAround call i).IsContained :=
  ⟨fun _ => contained_look fun _ => Store.contained_readAround _ _ _ _, calls⟩

@[grind ←] theorem envOutside_isContained : (p.envOutside call).IsContained :=
  ⟨fun _ => contained_look fun _ => Store.contained_readOutside _ _, calls⟩

@[grind ←] theorem contained_callRenderer (row : Nat) (outer : Option Nat) (args : List Value)
    (named : List (Text × Value)) : Contained (p.callRenderer call row outer args named) := by
  unfold callRenderer
  split
  · grind
  · split
    · grind
    · split
      · grind
      · refine bind (contained_change fun st => contained_ok _) fun i => ?_
        grind

@[grind ←] theorem contained_instantiate (a : Address) (name : Text) (home : Nat) (bases args : List Value)
    (named : List (Text × Value)) : Contained (p.instantiate call a name home bases args named) := by
  grind [instantiate]

@[grind ←] theorem contained_respond (f : Value) (args : List Value) (named : List (Text × Value)) :
    Contained (p.respond call f args named) := by
  unfold respond; split <;> grind

end

/-- Calling a value fails only as running does, however deep the calls go. -/
@[grind ←] theorem contained_call (fuel : Nat) (f : Value) (args : List Value) (named : List (Text × Value)) :
    Contained (p.call fuel f args named) := by
  induction fuel generalizing f args named with
  | zero => unfold call; grind
  | succ fuel ih => exact contained_respond ih f args named

@[grind ←] theorem contained_start (p : Program) : Contained p.start := by grind [start]

end Program

namespace Renderer

theorem contained_render (r : Renderer) (data : Value) : Contained (r.render data) :=
  Program.contained_call _ _ _ _

variable {source name filename : Text} {ps : List Placed} {st : Store}

theorem load_fails {e : Fault} (read : statements source filename = .ok ps)
    (failed : (load source name filename st).1 = .error e) :
    e.ofRunning = true ∨ e = .load ⟨.missingFunction name, filename, none, none⟩ := by
  cases run : (Program.ofRows ps st.frames.size).start
      (st.withFrames (st.frames.push (Store.outermost (moduleName name)))) with
  | mk result after =>
    cases result with
    | error e' =>
      rw [load_stopped read name run] at failed
      cases failed
      exact .inl (Program.contained_start _ _ e (congrArg Prod.fst run))
    | ok _ =>
      rw [load_started read name run] at failed
      dsimp only at failed
      split at failed
      · cases failed
      · cases failed
        exact .inr rfl

theorem load_silent {f : LoadFailure} (read : statements source filename = .ok ps)
    (failed : (load source name filename st).1 = .error (.load f)) : f.line = none := by
  rcases load_fails read failed with running | missing
  · cases running
  · cases missing
    rfl

end Renderer

end RenderSource
