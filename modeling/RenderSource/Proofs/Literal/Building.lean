import RenderSource.Proofs.Calendar.Clock
import RenderSource.Proofs.Code.Reading
import RenderSource.Proofs.Literal.Plain
import RenderSource.Proofs.Run.Steps
import RenderSource.Proofs.Value.Cells
import RenderSource.Renderer.Builtin.Functions
import RenderSource.Renderer.Evaluate
/-!
What the expression of a literal evaluates to: the values it stands for are made from left to right, a
container after what it holds. All that evaluation needs of its surroundings is the calendar module.
-/
namespace RenderSource

/-- The calendar module has its name where these frames are, and its classes answer as they should. -/
structure Env.KnowsCalendar (e : Env) (frames : Array Frame) : Prop where
  module : ∀ st : Store, st.frames = frames →
    e.read (wording "datetime") st = (.ok (.entity (.module (wording "datetime"))), st)
  answers : ∀ name isClass args named r (st : Store), st.frames = frames →
    Builtin.calendar? name args named = some r →
      e.call (.builtin (wording name) isClass) args named st = (r, st)

theorem Text.characters_ofString (s : String) : (Text.ofString s).characters? = some s.toList := by
  unfold Text.characters? Text.ofString
  induction s.toList with
  | nil => rfl
  | cons c cs ih =>
    rw [List.map_cons, List.mapM_cons, ih]
    rfl

theorem Builtin.apply_calendar {call : Value → List Value → Run Value} {name : String} {isClass : Bool}
    {args : List Value} {named : List (Text × Value)} {r : Except Fault Value}
    (answer : calendar? name args named = some r) :
    apply call (wording name) isClass args named = Run.ofExcept r := by
  unfold apply
  rw [Text.characters_ofString]
  simp only [String.ofList_toList, answer]

def Env.calendar : Env where
  read n := Run.look fun _ =>
    if n = wording "datetime" then .ok (.entity (.module n)) else .error .unknownName
  call f args named := match f with
    | .builtin name isClass => Builtin.apply (fun _ _ => throw .wrongType) name isClass args named
    | _ => throw .wrongType

theorem Env.calendar_knows (frames : Array Frame) : Env.calendar.KnowsCalendar frames where
  module _ _ := rfl
  answers name isClass args named r st _ answer := by
    simp only [Env.calendar, Builtin.apply_calendar answer]
    rfl

namespace Plain

mutual

def build : Plain → Run Value
  | none => pure .none
  | bool b => pure (.bool b)
  | int n => pure (.ofInt n)
  | float x => pure (.float x Option.none 0)
  | text t => pure (.ofText t)
  | date n => Run.ofExcept (match Date.ofOrdinal? n with
    | some d => .ok (.date d)
    | Option.none => .error .badValue)
  | moment inUtc n =>
    Run.ofExcept (match Moment.ofClockMicros? (if inUtc then .fixed 0 else .naive) (n * 1000) with
      | some m => .ok (.moment m)
      | Option.none => .error .outOfRange)
  | list items => do Run.allocate (.list (← buildAll items) Option.none)
  | dict entries => do
    let es ← buildEntries entries
    Run.allocate (.dict (← Run.look fun st => Value.entriesOf st es) Option.none)

def buildAll : List Plain → Run (List Value)
  | [] => pure []
  | p :: ps => do
    let v ← build p
    return v :: (← buildAll ps)

def buildEntries : List (Text × Plain) → Run (List (Value × Value))
  | [] => pure []
  | (t, p) :: es => do
    let v ← build p
    return (.ofText t, v) :: (← buildEntries es)

end

mutual

theorem build_frameless : ∀ p : Plain, Run.Frameless (build p)
  | none | bool _ | int _ | float _ | text _ => Run.frameless_pure _
  | date _ | moment _ _ => Run.frameless_ofExcept _
  | list items => Run.frameless_bind (buildAll_frameless items) fun _ => Run.frameless_allocate _
  | dict entries => Run.frameless_bind (buildEntries_frameless entries) fun es =>
    Run.frameless_bind (Run.frameless_look fun _ _ same => Value.entriesOf_same same es) fun _ =>
      Run.frameless_allocate _

theorem buildAll_frameless : ∀ ps : List Plain, Run.Frameless (buildAll ps)
  | [] => Run.frameless_pure _
  | p :: ps => Run.frameless_bind (build_frameless p) fun _ =>
    Run.frameless_bind (buildAll_frameless ps) fun _ => Run.frameless_pure _

theorem buildEntries_frameless : ∀ es : List (Text × Plain), Run.Frameless (buildEntries es)
  | [] => Run.frameless_pure _
  | (_, p) :: es => Run.frameless_bind (build_frameless p) fun _ =>
    Run.frameless_bind (buildEntries_frameless es) fun _ => Run.frameless_pure _

end

section

variable {e : Env} {frames : Array Frame} (knows : e.KnowsCalendar frames) {st : Store}
  (here : st.frames = frames)

include knows here

theorem evaluate_calendarTerm {n : String} {v : Value}
    (part : Value.memberOf st (.entity (.module (wording "datetime"))) (wording n) = .ok v) :
    (calendarTerm n).evaluate e st = (.ok v, st) := by
  rw [calendarTerm, Term.evaluate, Term.evaluate, Run.bind_ok (knows.module st here), Run.look_apply, part]

theorem evaluate_class {n : String} {part : String} {v w : Value}
    (outer : Value.memberOf st (.entity (.module (wording "datetime"))) (wording n) = .ok v)
    (inner : Value.memberOf st v (wording part) = .ok w) :
    (Term.attr (calendarTerm n) (wording part)).evaluate e st = (.ok w, st) := by
  rw [Term.evaluate, Run.bind_ok (evaluate_calendarTerm knows here outer), Run.look_apply, inner]

theorem evaluate_call {f : Term} {args : List Term} {named : List (Text × Term)} {name : String}
    {isClass : Bool} {vs : List Value} {ns : List (Text × Value)} {r : Except Fault Value}
    (called : f.evaluate e st = (.ok (.builtin (wording name) isClass), st))
    (given : Term.evaluateAll e args st = (.ok vs, st))
    (givenNamed : Term.evaluateNamed e named st = (.ok ns, st))
    (answer : Builtin.calendar? name vs ns = some r) :
    (Term.call f args named).evaluate e st = (r, st) := by
  rw [Term.evaluate, Run.bind_ok called, Run.bind_ok given, Run.bind_ok givenNamed]
  exact knows.answers name isClass vs ns r st here answer

theorem evaluate_dateTerm (n : Nat) : (dateTerm n).evaluate e st = (build (.date n)) st := by
  have answer : Builtin.calendar? "datetime.date.fromordinal" [.ofInt n] [] =
      some (match Date.ofOrdinal? n with
        | some d => .ok (.date d)
        | Option.none => .error .badValue) := by
    have natural : ¬ ((n : Int) < 0) := by omega
    change some (match if (n : Int) < 0 then Option.none else Date.ofOrdinal? (n : Int).toNat with
      | some d => .ok (.date d)
      | Option.none => .error .badValue : Except Fault Value) = _
    rw [if_neg natural, Int.toNat_natCast]
  exact evaluate_call knows here (evaluate_class knows here rfl rfl) rfl rfl answer

theorem evaluate_epochTerm (inUtc : Bool) : (epochTerm inUtc).evaluate e st =
    (.ok (.moment ⟨⟨1970, 1, 1⟩, 0, 0, 0, 0, if inUtc then .fixed 0 else .naive⟩), st) := by
  cases inUtc with
  | false =>
    exact evaluate_call knows here (evaluate_calendarTerm knows here rfl) rfl rfl (by rfl)
  | true =>
    have zone : Term.evaluateNamed e
        [(wording "tzinfo", Term.attr (calendarTerm "timezone") (wording "utc"))] st =
          (.ok [(wording "tzinfo", .zone (.fixed 0))], st) := by
      rw [Term.evaluateNamed, Run.bind_ok (evaluate_class knows here rfl rfl)]
      rfl
    exact evaluate_call knows here (evaluate_calendarTerm knows here rfl) rfl zone (by rfl)

omit knows here in
theorem evaluate_intTerm (n : Int) : (intTerm n).evaluate e st = (.ok (.ofInt n), st) := by
  cases n with
  | ofNat n => rfl
  | negSucc n => rfl

theorem evaluate_spanTerm (n : Int) : (spanTerm n).evaluate e st =
    (if n.natAbs ≤ Builtin.durationLimit then .ok (.duration (n * 1000)) else .error .outOfRange,
      st) := by
  have given : Term.evaluateNamed e [(wording "milliseconds", intTerm n)] st =
      (.ok [(wording "milliseconds", .ofInt n)], st) := by
    rw [Term.evaluateNamed, Run.bind_ok (evaluate_intTerm n)]
    rfl
  exact evaluate_call knows here (evaluate_calendarTerm knows here rfl) rfl given (by
    simp [Builtin.calendar?, Value.ofInt])

theorem evaluate_moment (inUtc : Bool) (n : Int) :
    (Term.sum (epochTerm inUtc) (spanTerm n)).evaluate e st = build (.moment inUtc n) st := by
  rw [Term.evaluate, Run.bind_ok (evaluate_epochTerm knows here inUtc)]
  have span := evaluate_spanTerm knows here n
  split at span
  · rw [Run.bind_ok span]
    have day : (⟨1970, 1, 1⟩ : Date).ordinal = Moment.epochOrdinal := by decide
    have epoch : ∀ zone, (⟨⟨1970, 1, 1⟩, 0, 0, 0, 0, zone⟩ : Moment).clockMicros = 0 := by
      intro zone
      simp [Moment.clockMicros, Moment.secondOfDay, day]
    unfold Value.plus
    simp only [epoch, Int.zero_add, build]
    rw [Run.ofExcept, Run.look_apply]
    cases Moment.ofClockMicros? (if inUtc then Zone.fixed 0 else Zone.naive) (n * 1000) <;> rfl
  · rename_i long
    have outside : ¬ Moment.InYears (n * 1000) := by
      simp only [Builtin.durationLimit] at long
      simp only [Moment.InYears, Moment.dayMicros, Moment.epochOrdinal, Date.lastOrdinal]
      omega
    rw [Run.bind_error span, build, Moment.ofClockMicros_outside _ outside]
    rfl

end

variable {e : Env} {frames : Array Frame}

mutual

theorem evaluate_term (knows : e.KnowsCalendar frames) (p : Plain) {st : Store}
    (here : st.frames = frames) : p.term.evaluate e st = p.build st := by
  cases p with
  | none | bool b | text t => rfl
  | int n => exact evaluate_intTerm n
  | float x =>
    rw [term, floatTerm]
    split
    · rename_i negative
      have back : x.negate.negate = x := by simp [Binary64.negate]
      have made : (Term.negative (.float x.negate)).evaluate e st =
          (.ok (.float x.negate.negate Option.none 0), st) := rfl
      rw [made, back]
      rfl
    · rfl
  | date n => exact evaluate_dateTerm knows here n
  | moment inUtc n => exact evaluate_moment knows here inUtc n
  | list items => exact Run.bind_congr (evaluateAll_terms knows items here) fun _ _ _ => rfl
  | dict entries => exact Run.bind_congr (evaluateEntries_terms knows entries here) fun _ _ _ => rfl

theorem evaluateAll_terms (knows : e.KnowsCalendar frames) (ps : List Plain) {st : Store}
    (here : st.frames = frames) : Term.evaluateAll e (terms ps) st = buildAll ps st := by
  cases ps with
  | nil => rfl
  | cons p ps =>
    rw [terms, Term.evaluateAll, buildAll]
    refine Run.bind_congr (evaluate_term knows p here) fun v st' made => ?_
    have here' := ((build_frameless p).keeps.apply made).trans here
    exact Run.bind_congr (evaluateAll_terms knows ps here') fun _ _ _ => rfl

theorem evaluateEntries_terms (knows : e.KnowsCalendar frames) (es : List (Text × Plain)) {st : Store}
    (here : st.frames = frames) :
    Term.evaluateEntries e (entryTerms es) st = buildEntries es st := by
  cases es with
  | nil => rfl
  | cons entry es =>
    obtain ⟨t, p⟩ := entry
    rw [entryTerms, Term.evaluateEntries, buildEntries]
    rw [Run.bind_ok (show (Term.text t).evaluate e st = (.ok (.ofText t), st) from rfl)]
    refine Run.bind_congr (evaluate_term knows p here) fun v st' made => ?_
    have here' := ((build_frameless p).keeps.apply made).trans here
    exact Run.bind_congr (evaluateEntries_terms knows es here') fun _ _ _ => rfl

end

end Plain

end RenderSource
