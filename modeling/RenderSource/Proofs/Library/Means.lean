import RenderSource.Library.ByName
import RenderSource.Proofs.Run.Steps
import RenderSource.Proofs.Value.Told
/-!
Names in scope everywhere, where they lead to what is built in. What the library asks of them by name is then what
is asked of the values themselves.
-/
namespace RenderSource

theorem Run.mapM_eq {st : Store} {α β : Type} {f : α → Run β} {g : α → Except Fault β} (each : ∀ x, f x st = (g x, st))
    (xs : List α) : xs.mapM f st = (xs.mapM g, st) := by
  induction xs with
  | nil => rfl
  | cons x xs ih =>
    rw [List.mapM_cons, List.mapM_cons]
    have first := each x
    cases here : g x with
    | error f =>
      rw [here] at first
      rw [Run.bind_error first]
      rfl
    | ok y =>
      rw [here] at first
      rw [Run.bind_ok first, Run.map_apply, ih]
      cases xs.mapM g <;> rfl

namespace Builtin

variable {call : Value → List Value → Run Value} {name : String} {args : List Value}

theorem apply_function (plain : calendar? name args [] = none) :
    apply call (wording name) false args [] = answer name args := by
  unfold apply
  rw [Text.characters_ofString]
  simp only [String.ofList_toList, plain]
  rfl

theorem apply_class (plain : calendar? name args [] = none) (particular : name ∉ particularExceptions)
    (other : (name = "BaseException" || exceptionParents.any fun (n, _) => n = name) = false) :
    apply call (wording name) true args [] = construct call name args := by
  unfold apply
  rw [Text.characters_ofString]
  simp only [String.ofList_toList, plain]
  simp [particular, other]

end Builtin

/-- The store behind a comparison with lists and tuples. -/
def Store.withPair (st : Store) : Store := (st.add (.tuple [Value.builtinClass "list", Value.builtinClass "tuple"])).2

def Library.usedFunctions : List String := ["getattr", "isinstance", "len", "ord"]

def Library.usedClasses : List String := ["type", "int", "list", "tuple", "str"]

/-- Where the library runs, names in scope everywhere stand for what is built in, which answers as it does, and new
cells change nothing of that. -/
structure Env.Means (e : Env) (I : Store → Prop) : Prop where
  functions : ∀ n ∈ Library.usedFunctions, ∀ st, I st → e.named n st = (.ok (.builtin (wording n) false), st)
  classes : ∀ n ∈ Library.usedClasses, ∀ st, I st → e.named n st = (.ok (Value.builtinClass n), st)
  mapping : ∀ st, I st → e.named "Mapping" st = (.ok Value.mappingClass, st)
  answers : ∀ name isClass args, ∃ call,
    e.call (.builtin (wording name) isClass) args [] = Builtin.apply call (wording name) isClass args []
  kept : ∀ st c, I st → I (st.add c).2

namespace Env.Means

variable {e : Env} {I : Store → Prop} {st : Store} {v c : Value} {args : List Value}

theorem callNamed_function (means : e.Means I) (here : I st) {n : String} (member : n ∈ Library.usedFunctions) :
    e.callNamed n args st = Builtin.answer n args st := by
  obtain ⟨call, answered⟩ := means.answers n false args
  have plain : Builtin.calendar? n args [] = none := by
    simp only [Library.usedFunctions, List.mem_cons, List.not_mem_nil, or_false] at member
    rcases member with rfl | rfl | rfl | rfl <;> rfl
  rw [callNamed, Run.bind_ok (means.functions n member st here), answered, Builtin.apply_function plain]

theorem usedClasses_plain : ∀ n ∈ Library.usedClasses, n ∉ Builtin.particularExceptions ∧
    (n = "BaseException" || exceptionParents.any fun (m, _) => m = n) = false := by decide

theorem callNamed_class (means : e.Means I) (here : I st) {n : String} (member : n ∈ Library.usedClasses) :
    ∃ call, e.callNamed n args st = Builtin.construct call n args st := by
  obtain ⟨call, answered⟩ := means.answers n true args
  have plain : Builtin.calendar? n args [] = none := by
    simp only [Library.usedClasses, List.mem_cons, List.not_mem_nil, or_false] at member
    rcases member with rfl | rfl | rfl | rfl | rfl <;> rfl
  obtain ⟨particular, other⟩ := usedClasses_plain n member
  refine ⟨call, ?_⟩
  rw [callNamed, Run.bind_ok (means.classes n member st here), Value.builtinClass, answered,
    Builtin.apply_class plain particular other]

theorem type_eq (means : e.Means I) (here : I st) : e.callNamed "type" [v] st = (.ok (v.classOf st), st) := by
  obtain ⟨call, made⟩ := @callNamed_class e I st [v] means here "type" (by decide)
  rw [made]
  rfl

theorem str_eq (means : e.Means I) (here : I st) :
    e.callNamed "str" [v] st = ((v.plainText st).map .ofText, st) := by
  obtain ⟨call, made⟩ := @callNamed_class e I st [v] means here "str" (by decide)
  rw [made]
  exact Run.map_apply (textOf v) Value.ofText st

theorem isinstance_eq (means : e.Means I) (v c : Value) (st : Store) :
    (do truth (← e.call (.builtin (wording "isinstance") false) [v, c] [])) st = (v.isInstance st c, st) := by
  obtain ⟨call, answered⟩ := means.answers "isinstance" false [v, c]
  rw [answered, Builtin.apply_function rfl]
  have asked : Builtin.answer "isinstance" [v, c] st = ((v.isInstance st c).map .bool, st) := by
    show (Run.look fun st => return Value.bool (← v.isInstance st c)) st = _
    rw [Run.look_apply]
    cases v.isInstance st c <;> rfl
  cases found : v.isInstance st c with
  | error f => rw [Run.bind_error (asked.trans (by rw [found]; rfl))]
  | ok b => rw [Run.bind_ok (asked.trans (by rw [found]; rfl))]; rfl

theorem isOf_eq (means : e.Means I) (here : I st) {n : String} (named : e.named n st = (.ok c, st)) :
    e.isOf v n st = (v.isInstance st c, st) := by
  rw [isOf, Run.bind_ok (means.functions "isinstance" (by decide) st here), Run.bind_ok named,
    means.isinstance_eq]

theorem isOf_class (means : e.Means I) (here : I st) {n : String} (member : n ∈ Library.usedClasses) :
    e.isOf v n st = (.ok (v.isOfClass st (Value.builtinClass n)), st) := by
  have other : ∀ n ∈ Library.usedClasses, Value.builtinClass n ≠ Value.mappingClass := by decide
  rw [means.isOf_eq here (means.classes n member st here), Value.isInstance,
    Value.isInstanceWithin_class (other n member)]

theorem isOf_mapping (means : e.Means I) (here : I st) (told : v.Told st) :
    e.isOf v "Mapping" st = (.ok (v.entries? st).isSome, st) := by
  rw [means.isOf_eq here (means.mapping st here), Value.isInstance_mapping told]

theorem isInstance_pair (v : Value) (st : Store) : v.isInstance st.withPair (.ref st.size) =
    .ok (v.isOfClass st.withPair (Value.builtinClass "list") ||
      v.isOfClass st.withPair (Value.builtinClass "tuple")) := by
  have pair : (Value.ref st.size).cell? st.withPair =
      some (.tuple [Value.builtinClass "list", Value.builtinClass "tuple"]) := Store.get_add st _
  have size : st.withPair.size = st.size + 1 := Store.size_add st _
  rw [Value.isInstance, size, Value.isInstanceWithin, pair]
  dsimp only
  rw [List.anyM, Value.isInstanceWithin_class (by decide), List.anyM, Value.isInstanceWithin_class (by decide)]
  cases v.isOfClass st.withPair (Value.builtinClass "list") <;>
    cases v.isOfClass st.withPair (Value.builtinClass "tuple") <;> rfl

theorem isSequence_eq (means : e.Means I) (here : I st) (told : v.Told st.withPair) :
    e.isSequence v st = (.ok (v.items? st.withPair).isSome, st.withPair) := by
  rw [isSequence, Run.bind_ok (means.functions "isinstance" (by decide) st here),
    Run.bind_ok (means.classes "list" (by decide) st here),
    Run.bind_ok (means.classes "tuple" (by decide) st here),
    Run.bind_ok (Run.allocate_apply (.tuple [Value.builtinClass "list", Value.builtinClass "tuple"])),
    means.isinstance_eq]
  show (v.isInstance st.withPair (.ref st.size), st.withPair) = _
  rw [isInstance_pair, told.sequence]

theorem partOf_undefined (told : v.Told st) : Builtin.partOf (v.classOf st) (ByName.text "__undefined__")
    (some (.bool false)) st = (.ok (.bool v.isAbsent), st) := by
  have whole := Value.isAbsent_class told.classes
  have others : ¬wording "__undefined__" = wording "__name__" ∧ ¬wording "__undefined__" = wording "__class__" := by
    decide
  unfold Builtin.partOf
  dsimp only [ByName.text, Value.ofText, Value.asText?]
  rw [Run.look_bind, if_neg others.1, if_neg others.2, whole, told.absence, Value.member?_undefined told.classes]
  cases v.isAbsent <;> rfl

theorem partOf_member {t : Text} (cls : Derived) (shown : t.isPrivate = false) :
    Builtin.partOf v (.text t cls) (some .none) st = ((v.member? st t).map fun found => found.getD .none, st) := by
  have others : ∀ n ∈ ["__name__", "__undefined__", "__class__"], ¬t = wording n := by
    rintro n member rfl
    revert n
    decide
  unfold Builtin.partOf
  dsimp only [Value.asText?]
  rw [Run.look_bind, if_neg (others _ (by decide)), decide_eq_false (others "__undefined__" (by decide)),
    Bool.false_and, if_neg (by decide), if_neg (others _ (by decide))]
  cases v.member? st t with
  | error f => rfl
  | ok found => cases found <;> rfl

theorem isUndefined_run (means : e.Means I) (here : I st) (told : v.Told st) :
    ByName.isUndefined e v st = (.ok (.bool v.isAbsent), st) := by
  have asked : e.callNamed "getattr" [v.classOf st, ByName.text "__undefined__", .bool false] st =
      (.ok (.bool v.isAbsent), st) := by
    rw [means.callNamed_function here (by decide)]
    exact partOf_undefined told
  rw [ByName.isUndefined, Run.bind_ok (means.type_eq here), Run.bind_ok asked]
  cases v.isAbsent <;> rfl

theorem restrict (means : e.Means I) {J : Store → Prop} (within : ∀ st, J st → I st)
    (kept : ∀ st c, J st → J (st.add c).2) : e.Means J where
  functions n member st here := means.functions n member st (within st here)
  classes n member st here := means.classes n member st (within st here)
  mapping st here := means.mapping st (within st here)
  answers := means.answers
  kept := kept

end Env.Means

/-- Also what the library asks of absence by name is then told of values. -/
structure Env.Tells (e : Env) (I : Store → Prop) : Prop extends e.Means I where
  absent : ∀ v st, I st → v.Told st → e.callNamed "is_undefined" [v] st = (.ok (.bool v.isAbsent), st)

namespace Env.Tells

variable {e : Env} {I : Store → Prop} {st : Store} {v : Value}

theorem isUndefined_eq (tells : e.Tells I) (here : I st) (told : v.Told st) :
    e.isUndefined v st = (.ok v.isAbsent, st) := by
  rw [isUndefined, Run.bind_ok (tells.absent v st here told)]
  rfl

theorem isMissing_eq (tells : e.Tells I) (here : I st) (told : v.Told st) :
    e.isMissing v st = (.ok v.isMissing, st) := by
  unfold isMissing
  split
  · subst v
    rfl
  · rename_i present
    rw [tells.isUndefined_eq here told]
    cases v with
    | none => exact absurd rfl present
    | _ => rfl

theorem toText_eq (tells : e.Tells I) (here : I st) (told : v.Told st) :
    ByName.toText e v st = ((v.toText st).map .ofText, st) := by
  rw [ByName.toText, Run.bind_ok (tells.isMissing_eq here told), Value.toText]
  cases v.isMissing with
  | true => rfl
  | false => exact tells.str_eq here

/-- Escaping is replacing by what the table of marks then is. -/
theorem escapeHtml_table (tells : e.Tells I) (here : I st) (told : v.Told st) {table : Value} {f : CodePoint → Text}
    (named : e.named "_HTML_ESCAPES" st = (.ok table, st))
    (replaced : ∀ c, ByName.replacement table c st = (.ok (f c), st)) :
    ByName.escapeHtml e v st = ((v.toText st).map fun t => .ofText (t.flatMap f), st) := by
  rw [ByName.escapeHtml, Run.bind_ok (tells.isMissing_eq here told), Value.toText]
  cases v.isMissing with
  | true => rfl
  | false =>
    have text : e.callNamed "str" [v] st = ((v.plainText st).map .ofText, st) := tells.str_eq here
    cases shown : v.plainText st with
    | error f =>
      rw [shown] at text
      exact Run.bind_error text
    | ok t =>
      rw [shown] at text
      have written : t.mapM (ByName.replacement table) st = (.ok (t.map f), st) := by
        rw [@Run.mapM_eq st _ _ (ByName.replacement table) (fun c => pure (f c)) replaced, List.mapM_pure]
        rfl
      rw [if_neg (by decide), Run.bind_ok text]
      show (do
        let table ← e.named "_HTML_ESCAPES"
        return Value.ofText (← t.mapM (ByName.replacement table)).flatten : Run Value) st = _
      rw [Run.bind_ok named, Run.bind_ok written]
      rfl

end Env.Tells

end RenderSource
