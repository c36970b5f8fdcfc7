import RenderSource.Proofs.Expression.ReadBack
import RenderSource.Proofs.Literal.Building
/-!
What a descriptor means, by recursion on its tree and without source in between. The expression of a
descriptor evaluates to its meaning wherever the names of the library are known.
-/
namespace RenderSource

namespace LibraryFunction

def emitted : List LibraryFunction :=
  [lookup, escapeHtml, toText, filterUrl, filterClass, filterStyle, filterSep, markupAttribute, markupFlag,
    literal]

def answer (h : LibraryFunction) (args : List Value) : Run Value :=
  h.apply (fun _ _ => throw .wrongType) args

theorem apply_answer {h : LibraryFunction} (member : h ∈ emitted)
    (call : Value → List Value → Run Value) (args : List Value) : h.apply call args = h.answer args := by
  simp only [emitted, List.mem_cons, List.not_mem_nil, or_false] at member
  rcases member with rfl | rfl | rfl | rfl | rfl | rfl | rfl | rfl | rfl | rfl <;>
    rcases args with _ | ⟨a, _ | ⟨b, _ | ⟨c, args⟩⟩⟩ <;> rfl

def Looks (r : Run Value) : Prop :=
  ∃ f : Store → Except Fault Value, r = Run.look f ∧ ∀ st st' : Store, st.cells = st'.cells → f st = f st'

theorem looks_wrongType : Looks (throw .wrongType) := ⟨fun _ => .error .wrongType, rfl, fun _ _ _ => rfl⟩

theorem looks_ofText {f : Store → Except Fault Text}
    (same : ∀ st st' : Store, st.cells = st'.cells → f st = f st') :
    Looks (Run.look fun st => return .ofText (← f st)) :=
  ⟨_, rfl, fun st st' cells => by rw [same st st' cells]⟩

theorem boundedLiteral_same {st st' : Store} (same : st.cells = st'.cells) (v : Value) :
    boundedLiteral st v = boundedLiteral st' v := congrArg _ (Value.literalIn_same same callRoom v)

theorem answer_looks {h : LibraryFunction} (member : h ∈ emitted) (args : List Value) :
    Looks (h.answer args) := by
  simp only [emitted, List.mem_cons, List.not_mem_nil, or_false] at member
  rcases member with rfl | rfl | rfl | rfl | rfl | rfl | rfl | rfl | rfl | rfl <;>
    rcases args with _ | ⟨a, _ | ⟨b, _ | ⟨c, args⟩⟩⟩
  all_goals first
    | exact looks_wrongType
    | exact ⟨_, rfl, fun _ _ same => Value.lookup_same same _ _⟩
    | exact looks_ofText fun _ _ same => Value.escapeHtml_same same _
    | exact looks_ofText fun _ _ same => Value.toText_same same _
    | exact ⟨_, rfl, fun _ _ same => Value.filterUrl_same same _⟩
    | exact ⟨_, rfl, fun _ _ same => Value.filterClass_same same _⟩
    | exact ⟨_, rfl, fun _ _ same => Value.filterStyle_same same _⟩
    | exact ⟨_, rfl, fun _ _ same => Value.filterSep_same same _ _⟩
    | exact ⟨_, rfl, fun _ _ same => Value.markupAttribute_same same _ _⟩
    | exact ⟨_, rfl, fun _ _ same => Value.markupFlag_same same _ _⟩
    | exact looks_ofText fun _ _ same => boundedLiteral_same same _

theorem answer_frameless {h : LibraryFunction} (member : h ∈ emitted) (args : List Value) :
    Run.Frameless (h.answer args) := by
  obtain ⟨f, looks, same⟩ := answer_looks member args
  rw [looks]
  exact Run.frameless_look same

theorem filter_emitted {name : Text} {h : LibraryFunction} (known : filter? name = some h) :
    h ∈ emitted := by
  obtain ⟨pair, found, rfl⟩ := Option.map_eq_some_iff.mp known
  have each : ∀ p ∈ filters, p.2 ∈ emitted := by decide
  exact each pair (List.mem_of_find?_eq_some found)

end LibraryFunction

namespace Descriptor

def stepMeaning (nested : Run Value) : Descriptor → Run Value
  | plain (.text t _) => pure (.ofText t)
  | plain (.int n _) => pure (.ofInt n)
  | _ => nested

section

variable (st : Store) (data : Value)

mutual

/-- The value of a descriptor for `data`. A constant was written when the store was `st`, and is what its
literal rebuilds. -/
def meaning : Descriptor → Run Value
  | const v => match v.data st with
    | .ok p => p.build
    | .error o => throw (.offence o)
  | accessor [] => pure data
  | accessor (step :: path) => do
    let first ← stepMeaning (meaning step) step
    let more ← stepMeanings path
    LibraryFunction.lookup.answer (data :: first :: more)
  | filter name value args => do
    let v ← meaning value
    let vs ← meanings args
    match LibraryFunction.filter? name with
    | some h => h.answer (v :: vs)
    | none => throw (.unknownFilter name)
  | markup name value flag => do
    let v ← meaning value
    (if flag then LibraryFunction.markupFlag else .markupAttribute).answer [.ofText name, v]
  | output expr escape => do
    let v ← meaning expr
    (if escape then LibraryFunction.escapeHtml else .toText).answer [v]
  | call _ _ | other _ | plain _ => throw .wrongType

def meanings : List Descriptor → Run (List Value)
  | [] => pure []
  | d :: ds => do
    let v ← meaning d
    return v :: (← meanings ds)

def stepMeanings : List Descriptor → Run (List Value)
  | [] => pure []
  | d :: ds => do
    let v ← stepMeaning (meaning d) d
    return v :: (← stepMeanings ds)

end

def text (d : Descriptor) : Run Text :=
  match d with
  | output expr true => do
    let v ← expr.meaning st data
    Run.look fun st => v.escapeHtml st
  | output expr false => do
    let v ← expr.meaning st data
    Run.look fun st => v.toText st
  | d => do
    let v ← d.meaning st data
    Run.look fun st => v.toText st

theorem meanings_eq (ds : List Descriptor) : meanings st data ds = ds.mapM (meaning st data) := by
  induction ds with
  | nil => rfl
  | cons d ds ih => rw [meanings, ih, List.mapM_cons]

theorem stepMeanings_eq (ds : List Descriptor) :
    stepMeanings st data ds = ds.mapM fun d => stepMeaning (meaning st data d) d := by
  induction ds with
  | nil => rfl
  | cons d ds ih => rw [stepMeanings, ih, List.mapM_cons]

def Place.meaning : Place → Descriptor → Run Value
  | expression, d => Descriptor.meaning st data d
  | step, d => stepMeaning (Descriptor.meaning st data d) d

end

section

open Run (Frameless frameless_bind frameless_pure frameless_look)
open LibraryFunction (answer_frameless)

variable (st : Store) (data : Value)

theorem stepMeaning_frameless {nested : Run Value} (frameless : Frameless nested) (d : Descriptor) :
    Frameless (stepMeaning nested d) := by
  unfold stepMeaning
  split
  · exact frameless_pure _
  · exact frameless_pure _
  · exact frameless

mutual

theorem meaning_frameless : ∀ d : Descriptor, Frameless (meaning st data d)
  | const v => by
    rw [meaning]
    split
    · exact Plain.build_frameless _
    · exact Run.frameless_ofExcept _
  | accessor [] => by
    rw [meaning]
    exact frameless_pure _
  | accessor (step :: path) => by
    rw [meaning]
    exact frameless_bind (stepMeaning_frameless (meaning_frameless step) step) fun _ =>
      frameless_bind (stepMeanings_frameless path) fun _ => answer_frameless (by decide) _
  | filter name value args => by
    rw [meaning]
    refine frameless_bind (meaning_frameless value) fun _ =>
      frameless_bind (meanings_frameless args) fun _ => ?_
    split
    · rename_i known
      exact answer_frameless (LibraryFunction.filter_emitted known) _
    · exact Run.frameless_ofExcept _
  | markup name value flag => by
    rw [meaning]
    exact frameless_bind (meaning_frameless value) fun _ => answer_frameless (by cases flag <;> decide) _
  | output expr escape => by
    rw [meaning]
    exact frameless_bind (meaning_frameless expr) fun _ => answer_frameless (by cases escape <;> decide) _
  | call _ _ | other _ | plain _ => by
    rw [meaning]
    exact Run.frameless_ofExcept _

theorem meanings_frameless : ∀ ds : List Descriptor, Frameless (meanings st data ds)
  | [] => frameless_pure _
  | d :: ds => by
    rw [meanings]
    exact frameless_bind (meaning_frameless d) fun _ =>
      frameless_bind (meanings_frameless ds) fun _ => frameless_pure _

theorem stepMeanings_frameless : ∀ ds : List Descriptor, Frameless (stepMeanings st data ds)
  | [] => frameless_pure _
  | d :: ds => by
    rw [stepMeanings]
    exact frameless_bind (stepMeaning_frameless (meaning_frameless d) d) fun _ =>
      frameless_bind (stepMeanings_frameless ds) fun _ => frameless_pure _

end

theorem placeMeaning_frameless (place : Place) (d : Descriptor) :
    Frameless (place.meaning st data d) := by
  cases place with
  | expression => exact meaning_frameless st data d
  | step => exact stepMeaning_frameless (meaning_frameless st data d) d

theorem text_frameless (d : Descriptor) : Frameless (d.text st data) := by
  unfold text
  split
  · exact frameless_bind (meaning_frameless st data _) fun _ =>
      frameless_look fun _ _ same => Value.escapeHtml_same same _
  · exact frameless_bind (meaning_frameless st data _) fun _ =>
      frameless_look fun _ _ same => Value.toText_same same _
  · exact frameless_bind (meaning_frameless st data _) fun _ =>
      frameless_look fun _ _ same => Value.toText_same same _

end

end Descriptor

/-- The names of the library and of the data have their values where these frames are. -/
structure Env.KnowsLibrary (e : Env) (dataName : Text) (data : Value) (version : Text)
    (frames : Array Frame) : Prop extends e.KnowsCalendar frames where
  data : ∀ st : Store, st.frames = frames → e.read dataName st = (.ok data, st)
  version : ∀ st : Store, st.frames = frames →
    e.read (wording "RENDERER_VERSION") st = (.ok (.ofText version), st)
  filters : ∀ st : Store, st.frames = frames →
    e.read (wording "DEFAULT_FILTERS") st = (.ok (.entity .filters), st)
  function : ∀ h ∈ LibraryFunction.emitted, ∀ st : Store, st.frames = frames →
    e.read (wording h.name) st = (.ok (.entity (.function (.library h) none)), st)
  apply : ∀ h ∈ LibraryFunction.emitted, ∀ (args : List Value) (st : Store), st.frames = frames →
    e.call (.entity (.function (.library h) none)) args [] st = h.answer args st

namespace Descriptor

theorem frameless_mapM {α β : Type} {f : α → Run β} (each : ∀ a, Run.Frameless (f a)) (as : List α) :
    Run.Frameless (as.mapM f) := by
  induction as with
  | nil => exact Run.frameless_pure _
  | cons a as ih =>
    rw [List.mapM_cons]
    exact Run.frameless_bind (each a) fun _ => Run.frameless_bind ih fun _ => Run.frameless_pure _

theorem stepMeaning_nested {d : Descriptor} (nested : ∀ v, d ≠ plain v) (r : Run Value) :
    stepMeaning r d = r := by
  cases d with
  | plain v => exact absurd rfl (nested v)
  | _ => rfl

section

variable {e : Env} {dataName version : Text} {data : Value} {frames : Array Frame} {st st₀ : Store}
  (knows : e.KnowsLibrary dataName data version frames) (here : st.frames = frames)

include knows here

theorem evaluate_answer {h : LibraryFunction} (member : h ∈ LibraryFunction.emitted) {f : Term}
    {args : List Term} {given : Run (List Value)} (keeps : Run.KeepsFrames given)
    (called : f.evaluate e st = (.ok (.entity (.function (.library h) none)), st))
    (evaluated : Term.evaluateAll e args st = given st) :
    (Term.call f args []).evaluate e st = (given >>= h.answer) st := by
  rw [Term.evaluate, Run.bind_ok called]
  refine Run.bind_congr evaluated fun vs st' made => ?_
  have here' := (keeps.apply made).trans here
  rw [Run.bind_ok (show Term.evaluateNamed e [] st' = (.ok [], st') from rfl)]
  exact knows.apply h member vs st' here'

theorem evaluate_named (h : LibraryFunction) (member : h ∈ LibraryFunction.emitted) {args : List Term}
    {given : Run (List Value)} (frameless : Run.Frameless given)
    (evaluated : Term.evaluateAll e args st = given st) :
    (Term.call (.name (wording h.name)) args []).evaluate e st = (given >>= h.answer) st :=
  evaluate_answer knows here member frameless.keeps (knows.function h member st here) evaluated

theorem evaluate_picked {name : Text} {h : LibraryFunction}
    (known : LibraryFunction.filter? name = some h) :
    (Term.item (.name (wording "DEFAULT_FILTERS")) (.text name)).evaluate e st =
      (.ok (.entity (.function (.library h) none)), st) := by
  obtain ⟨pair, found, rfl⟩ := Option.map_eq_some_iff.mp known
  have read : (Term.name (wording "DEFAULT_FILTERS")).evaluate e st = (.ok (.entity .filters), st) :=
    knows.filters st here
  have key : (Term.text name).evaluate e st = (.ok (.ofText name), st) := rfl
  rw [Term.evaluate, Run.bind_ok read, Run.bind_ok key, Run.look_apply, Value.ofText, Value.itemAtKey]
  simp only [found]

omit knows in
theorem evaluateAll_places {place : Place} {ds : List Descriptor}
    (each : ∀ d ∈ ds, ∀ st : Store, st.frames = frames →
      (place.tree st₀ dataName d).evaluate e st = place.meaning st₀ data d st) :
    Term.evaluateAll e (ds.map (place.tree st₀ dataName)) st = ds.mapM (place.meaning st₀ data) st := by
  induction ds generalizing st with
  | nil => rfl
  | cons d ds ih =>
    obtain ⟨first, later⟩ := List.forall_mem_cons.mp each
    rw [List.map_cons, Term.evaluateAll, List.mapM_cons]
    refine Run.bind_congr (first st here) fun v st' made => ?_
    have here' := ((placeMeaning_frameless st₀ data place d).keeps.apply made).trans here
    exact Run.bind_congr (ih here' later) fun _ _ _ => rfl

theorem evaluate_accessor {step : Descriptor} {path : List Descriptor}
    (steps : ∀ d ∈ step :: path, ∀ st : Store, st.frames = frames →
      (Place.step.tree st₀ dataName d).evaluate e st = Place.step.meaning st₀ data d st) :
    ((accessor (step :: path)).tree st₀ dataName).evaluate e st =
      (accessor (step :: path)).meaning st₀ data st := by
  let given : Run (List Value) := do
    let vs ← (step :: path).mapM (Place.step.meaning st₀ data)
    return data :: vs
  have frameless : Run.Frameless given :=
    Run.frameless_bind (frameless_mapM (placeMeaning_frameless st₀ data .step) _) fun _ =>
      Run.frameless_pure _
  have first : (Term.name dataName).evaluate e st = (.ok data, st) := knows.data st here
  have evaluated : Term.evaluateAll e (.name dataName :: (step :: path).map (Place.step.tree st₀ dataName)) st =
      given st := by
    rw [Term.evaluateAll, Run.bind_ok first]
    exact Run.bind_congr (evaluateAll_places here steps) fun _ _ _ => rfl
  have meant : (accessor (step :: path)).meaning st₀ data = given >>= LibraryFunction.lookup.answer := by
    rw [meaning, stepMeanings_eq]
    simp only [given, List.mapM_cons, bind_assoc, pure_bind]
    rfl
  rw [meant, tree, stepTrees_eq]
  exact evaluate_named knows here .lookup (by decide) frameless evaluated

theorem evaluate_filter {name : Text} {h : LibraryFunction} (known : LibraryFunction.filter? name = some h)
    {value : Descriptor} {args : List Descriptor}
    (each : ∀ d ∈ value :: args, ∀ st : Store, st.frames = frames →
      (Place.expression.tree st₀ dataName d).evaluate e st = Place.expression.meaning st₀ data d st) :
    ((filter name value args).tree st₀ dataName).evaluate e st =
      (filter name value args).meaning st₀ data st := by
  have frameless := frameless_mapM (placeMeaning_frameless st₀ data .expression) (value :: args)
  have meant : (filter name value args).meaning st₀ data =
      (value :: args).mapM (Place.expression.meaning st₀ data) >>= h.answer := by
    rw [meaning, meanings_eq, known]
    simp only [List.mapM_cons, bind_assoc, pure_bind]
    rfl
  rw [meant, tree, trees_eq]
  exact evaluate_answer knows here (LibraryFunction.filter_emitted known) frameless.keeps
    (evaluate_picked knows here known) (evaluateAll_places here each)

theorem evaluate_markup {name : Text} {value : Descriptor} (flag : Bool)
    (inner : (value.tree st₀ dataName).evaluate e st = value.meaning st₀ data st) :
    ((markup name value flag).tree st₀ dataName).evaluate e st =
      (markup name value flag).meaning st₀ data st := by
  let given : Run (List Value) := do
    let v ← value.meaning st₀ data
    return [.ofText name, v]
  have frameless : Run.Frameless given :=
    Run.frameless_bind (meaning_frameless st₀ data value) fun _ => Run.frameless_pure _
  have first : (Term.text name).evaluate e st = (.ok (.ofText name), st) := rfl
  have second : Term.evaluateAll e [value.tree st₀ dataName] st =
      (do
        let v ← value.meaning st₀ data
        return [v] : Run (List Value)) st := Run.bind_congr inner fun _ _ _ => rfl
  have evaluated : Term.evaluateAll e [.text name, value.tree st₀ dataName] st = given st := by
    rw [Term.evaluateAll, Run.bind_ok first, Run.bind_congr second fun _ _ _ => rfl]
    simp only [given, bind_assoc, pure_bind]
  have meant : (markup name value flag).meaning st₀ data =
      given >>= (if flag then LibraryFunction.markupFlag else .markupAttribute).answer := by
    rw [meaning]
    simp [given]
  rw [meant, tree]
  cases flag with
  | false =>
    exact evaluate_named knows here .markupAttribute (by decide) frameless evaluated
  | true =>
    exact evaluate_named knows here .markupFlag (by decide) frameless evaluated

theorem evaluate_output {expr : Descriptor} (escape : Bool)
    (inner : (expr.tree st₀ dataName).evaluate e st = expr.meaning st₀ data st) :
    ((output expr escape).tree st₀ dataName).evaluate e st = (output expr escape).meaning st₀ data st := by
  let given : Run (List Value) := do
    let v ← expr.meaning st₀ data
    return [v]
  have frameless : Run.Frameless given :=
    Run.frameless_bind (meaning_frameless st₀ data expr) fun _ => Run.frameless_pure _
  have evaluated : Term.evaluateAll e [expr.tree st₀ dataName] st = given st :=
    Run.bind_congr inner fun _ _ _ => rfl
  have meant : (output expr escape).meaning st₀ data =
      given >>= (if escape then LibraryFunction.escapeHtml else .toText).answer := by
    rw [meaning]
    simp [given]
  rw [meant, tree]
  cases escape with
  | false =>
    exact evaluate_named knows here .toText (by decide) frameless evaluated
  | true =>
    exact evaluate_named knows here .escapeHtml (by decide) frameless evaluated

end

variable {e : Env} {dataName version : Text} {data : Value} {frames : Array Frame} {st₀ : Store}

/-- The expression of a descriptor evaluates to its meaning. The induction is on how the source was
written. -/
theorem Written.evaluate {place : Place} {d : Descriptor} {t : Text}
    (written : Written st₀ dataName place d t) (knows : e.KnowsLibrary dataName data version frames)
    (free : ∀ g ∈ d.borrowed, False) : ∀ st : Store, st.frames = frames →
      (place.tree st₀ dataName d).evaluate e st = place.meaning st₀ data d st := by
  induction written with
  | @const v t literal =>
    intro st here
    rw [Value.literal_eq] at literal
    obtain ⟨p, collected, _⟩ := ok_of_map literal
    rw [Place.tree, Place.meaning, tree, meaning, collected]
    exact Plain.evaluate_term knows.toKnowsCalendar p here
  | data =>
    intro st here
    rw [Place.tree, Place.meaning, tree, meaning]
    exact knows.data st here
  | @lookup step path ts length _ ih =>
    intro st here
    exact evaluate_accessor knows here (forall_mem_of_borrowed (P := fun d => ∀ st : Store, st.frames = frames →
      (Place.step.tree st₀ dataName d).evaluate e st = Place.step.meaning st₀ data d st) length ih free)
  | @filter name value args t ts h known _ length _ ih ihArgs =>
    intro st here
    rw [borrowed] at free
    obtain ⟨first, more⟩ := List.forall_mem_append.mp free
    have each := forall_mem_of_borrowed (P := fun d => ∀ st : Store, st.frames = frames →
      (Place.expression.tree st₀ dataName d).evaluate e st = Place.expression.meaning st₀ data d st)
        length ihArgs more
    exact evaluate_filter knows here known (List.forall_mem_cons.mpr ⟨ih first, each⟩)
  | @markup name value flag t _ ih => exact fun st here => evaluate_markup knows here flag (ih free st here)
  | @call renderer args ts named length _ ih =>
    rw [borrowed] at free
    exact (free (.name renderer) (by simp)).elim
  | @output expr escape t _ ih => exact fun st here => evaluate_output knows here escape (ih free st here)
  | key t cls => exact fun st here => rfl
  | index plainly _ =>
    intro st here
    rw [Place.tree, stepTerm, plainly]
    exact Plain.evaluate_intTerm _
  | form own => exact (free _ (form_borrowed own)).elim
  | nested inner ih =>
    intro st here
    rw [Place.tree, Place.meaning, stepTerm_nested inner.not_plain, stepMeaning_nested inner.not_plain]
    exact ih free st here

theorem output_meaning (data : Value) (expr : Descriptor) (escape : Bool) :
    (output expr escape).meaning st₀ data = (do return .ofText (← (output expr escape).text st₀ data)) := by
  rw [meaning, text.eq_def]
  cases escape with
  | false =>
    simp only [bind_assoc, Run.look_map]
    rfl
  | true =>
    simp only [bind_assoc, Run.look_map]
    rfl

theorem evaluate_textTree {d : Descriptor} {t : Text} (done : d.textSource st₀ dataName = .ok t)
    (knows : e.KnowsLibrary dataName data version frames) (free : ∀ g ∈ d.borrowed, False) (st : Store)
    (here : st.frames = frames) : (d.textTree st₀ dataName).evaluate e st =
      (do return .ofText (← d.text st₀ data) : Run Value) st := by
  rw [textSource] at done
  obtain ⟨u, inner, done⟩ := ok_of_bind done
  have written := source_written d inner
  cases d with
  | output expr escape =>
    rw [← output_meaning]
    exact written.evaluate knows free st here
  | _ =>
    have outer := evaluate_output knows here false (written.evaluate knows free st here)
    rw [output_meaning] at outer
    exact outer

end Descriptor

end RenderSource
