import RenderSource.Proofs.Expression.Writing
import RenderSource.Proofs.Literal.RoundTrip
/-!
The expression that the source of a descriptor is: a call for each node, with a literal or the data at the
ends. It is made by recursion on the descriptor, and its spelling is the source.
-/
namespace RenderSource.Descriptor

section

variable (st : Store) (dataName : Text)

def stepTerm (nested : Term) : Descriptor → Term
  | plain (.text t _) => .text t
  | plain (.int n cls) => ((cls.bind IntClass.shown).map .name).getD (Plain.intTerm n)
  | _ => nested

mutual

/-- Descriptors without source have no expression; any term stands for them. -/
def tree : Descriptor → Term
  | const v => match v.data st with
    | .ok p => p.term
    | .error _ => .none
  | accessor [] => .name dataName
  | accessor (step :: path) =>
    .call (.name (wording "lookup")) (.name dataName :: stepTerm (tree step) step :: stepTrees path) []
  | filter name value args =>
    .call (.item (.name (wording "DEFAULT_FILTERS")) (.text name)) (tree value :: trees args) []
  | markup name value flag =>
    .call (.name (wording (if flag then "bool_attr_filter" else "attr_filter")))
      [.text name, tree value] []
  | call renderer args => .call (.name renderer) (trees args) []
  | output expr escape =>
    .call (.name (wording (if escape then "escape_html" else "to_text"))) [tree expr] []
  | other _ | plain _ => .none

def trees : List Descriptor → List Term
  | [] => []
  | d :: ds => tree d :: trees ds

def stepTrees : List Descriptor → List Term
  | [] => []
  | d :: ds => stepTerm (tree d) d :: stepTrees ds

end

def textTree (d : Descriptor) : Term :=
  match d with
  | output _ _ => tree st dataName d
  | _ => .call (.name (wording "to_text")) [tree st dataName d] []

theorem trees_eq (ds : List Descriptor) : trees st dataName ds = ds.map (tree st dataName) := by
  induction ds with
  | nil => rfl
  | cons d ds ih => rw [trees, ih, List.map_cons]

theorem stepTrees_eq (ds : List Descriptor) :
    stepTrees st dataName ds = ds.map fun d => stepTerm (tree st dataName d) d := by
  induction ds with
  | nil => rfl
  | cons d ds ih => rw [stepTrees, ih, List.map_cons]

def Place.tree : Place → Descriptor → Term
  | expression, d => Descriptor.tree st dataName d
  | step, d => stepTerm (Descriptor.tree st dataName d) d

end

/-- What source takes over as it is: the name of a renderer, or the form that a class gives a step. -/
inductive Borrowed
  | name (n : Text)
  | form (t : Text)
  deriving DecidableEq, Repr

mutual

def borrowed : Descriptor → List Borrowed
  | accessor path => borrowedOfAll path
  | filter _ value args => borrowed value ++ borrowedOfAll args
  | markup _ value _ => borrowed value
  | call renderer args => .name renderer :: borrowedOfAll args
  | output expr _ => borrowed expr
  | plain (.int _ cls) => (cls.bind IntClass.shown).toList.map .form
  | const _ | other _ | plain _ => []

def borrowedOfAll : List Descriptor → List Borrowed
  | [] => []
  | d :: ds => borrowed d ++ borrowedOfAll ds

end

def Borrowed.IsName : Borrowed → Prop
  | name n => n.isReserved = false
  | form _ => False

instance : DecidablePred Borrowed.IsName := fun g => by
  cases g <;> unfold Borrowed.IsName <;> infer_instance

theorem borrowed_subset {d : Descriptor} {ds : List Descriptor} (member : d ∈ ds) {g : Borrowed}
    (taken : g ∈ borrowed d) : g ∈ borrowedOfAll ds := by
  induction ds with
  | nil => cases member
  | cons e ds ih =>
    rw [borrowedOfAll, List.mem_append]
    rcases List.mem_cons.mp member with rfl | later
    · exact .inl taken
    · exact .inr (ih later)

theorem form_borrowed {n : Int} {cls : Option IntClass} {t : Text} (own : cls.bind IntClass.shown = some t) :
    .form t ∈ borrowed (plain (.int n cls)) := by
  rw [borrowed, own]
  exact List.mem_singleton_self _

def namedNumber : Value :=
  .int 3 (some
    { name := wording "Level", shown := some (wording "<Level.HIGH: 3>"), text := some (wording "3") })

variable {st : Store} {dataName : Text}

theorem eq_map_of_zip (place : Place) {ds : List Descriptor} {ts : List Text}
    (length : ds.length = ts.length)
    (each : ∀ q ∈ ds.zip ts, q.2 = (place.tree st dataName q.1).spelled) :
    ts = ds.map fun d => (place.tree st dataName d).spelled := by
  induction ds generalizing ts with
  | nil => cases ts with
    | nil => rfl
    | cons t ts => cases length
  | cons d ds ih => cases ts with
    | nil => cases length
    | cons t ts =>
      have first := each (d, t) (by simp)
      have later := ih (Nat.succ.inj length) fun q member => each q (by simp [member])
      rw [List.map_cons, ← first, ← later]

theorem forall_mem_of_zip_left {P : Descriptor → Prop} {ds : List Descriptor} {ts : List Text}
    (length : ds.length = ts.length) (each : ∀ q ∈ ds.zip ts, P q.1) : ∀ d ∈ ds, P d := by
  intro d member
  rw [← List.map_fst_zip (Nat.le_of_eq length), List.mem_map] at member
  obtain ⟨q, inside, rfl⟩ := member
  exact each q inside

theorem forall_mem_of_borrowed {Q : Borrowed → Prop} {P : Descriptor → Prop} {ds : List Descriptor}
    {ts : List Text} (length : ds.length = ts.length)
    (each : ∀ q ∈ ds.zip ts, (∀ g ∈ q.1.borrowed, Q g) → P q.1)
    (all : ∀ g ∈ borrowedOfAll ds, Q g) : ∀ d ∈ ds, P d := fun d member =>
  forall_mem_of_zip_left length (P := fun d => (∀ g ∈ d.borrowed, Q g) → P d) each d member
    fun g taken => all g (borrowed_subset member taken)

theorem spelled_calling (f : Term) (args : List Term) :
    (Term.call f args []).spelled = calling f.spelled (args.map Term.spelled) := by
  rw [Term.spelled, Term.spelledNamed, List.append_nil, Term.spelledAll_eq, calling]

/-- Only steps of a path are values without a node around them. -/
theorem Written.not_plain {d : Descriptor} {t : Text} (written : Written st dataName .expression d t)
    (v : Value) : d ≠ plain v := by
  rintro rfl
  cases written

theorem stepTerm_nested {d : Descriptor} (nested : ∀ v, d ≠ plain v) (t : Term) : stepTerm t d = t := by
  cases d with
  | plain v => exact absurd rfl (nested v)
  | _ => rfl

theorem Written.spelled {place : Place} {d : Descriptor} {t : Text}
    (written : Written st dataName place d t) : t = (place.tree st dataName d).spelled := by
  induction written with
  | @const v t literal =>
    rw [Value.literal_eq] at literal
    obtain ⟨p, collected, rfl⟩ := ok_of_map literal
    rw [Place.tree, tree, collected]
  | data => rfl
  | @lookup step path ts length _ ih =>
    have steps := eq_map_of_zip .step length ih
    rw [Place.tree, tree, spelled_calling, stepTrees_eq, steps]
    simp [Term.spelled, Place.tree, Function.comp_def]
  | @filter name value args t ts h _ _ length _ ih ihArgs =>
    have more := eq_map_of_zip .expression length ihArgs
    have item : Term.spelled (.item (.name (wording "DEFAULT_FILTERS")) (.text name)) =
        wording "DEFAULT_FILTERS[" ++ name.quote ++ wording "]" := rfl
    rw [Place.tree, tree, spelled_calling, item, trees_eq, more, ih]
    simp [Place.tree, Function.comp_def]
  | markup _ ih =>
    rw [Place.tree, tree, spelled_calling, ih]
    rfl
  | @call renderer args ts _ length _ ih =>
    have more := eq_map_of_zip .expression length ih
    rw [Place.tree, tree, spelled_calling, trees_eq, more]
    simp [Term.spelled, Place.tree, Function.comp_def]
  | output _ ih =>
    rw [Place.tree, tree, spelled_calling, ih]
    rfl
  | key t cls => rfl
  | form own =>
    rw [Place.tree, stepTerm, own]
    rfl
  | @index n cls t plainly figures =>
    rw [Place.tree, stepTerm, plainly, Option.map_none, Option.getD_none, Plain.spelled_intTerm]
    rcases Decimal.ofInt_cases n with written | long
    · rw [written] at figures
      exact (Option.some.inj figures).symm
    · rw [long] at figures
      cases figures
  | nested inner ih => rw [Place.tree, stepTerm_nested inner.not_plain, ih, Place.tree]

end RenderSource.Descriptor
