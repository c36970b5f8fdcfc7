import RenderSource.Proofs.Expression.Writing
import RenderSource.Proofs.Literal.Walk
/-!
The first offender of a descriptor. The places of a tree are listed as they are come to, a node before its
parts and the parts from left to right; what offends at a place is seen from that place alone, and the
first place at which something does decides what writing fails with.
-/
namespace RenderSource

inductive Offender
  /-- An object that is no node, by its class. -/
  | stranger (kind : Text)
  /-- A truth value as a step of a path. -/
  | truth (b : Bool)
  | filterName (name : Text)
  | rendererName (name : Text)
  /-- A constant that has no literal. -/
  | constant (o : Offence)
  /-- An integer as a step of a path, with too many figures for a text. -/
  | index (n : Int)
  deriving DecidableEq, Repr

namespace Offender

def fault : Offender → Fault
  | stranger kind => .unknownDescriptor kind
  | truth b => .badStep (wording (if b then "True" else "False"))
  | filterName name => .unknownFilter name
  | rendererName name => .badRenderer name.shown
  | constant o => .offence o
  | index _ => .badValue

end Offender

/-- The reports that writing a descriptor has of its own, and those of the literals in it. -/
def Fault.ofWriting : Fault → Bool
  | .unknownDescriptor _ | .badStep _ | .badRenderer _ | .unknownFilter _ | .offence _ => true
  | _ => false

/-- A result is decided by the first offender: it is that one's fault, or there is none and it is no failure. -/
def Offender.Decides {α : Type} (first : Option Offender) (r : Except Fault α) : Prop :=
  match first with
  | some o => r = .error o.fault
  | none => ∃ a, r = .ok a

namespace Offender.Decides

variable {α β : Type} {first later : Option Offender} {x : Except Fault α} {f : α → Except Fault β}

theorem bind (here : Decides first x) (next : ∀ a, Decides later (f a)) : Decides (first.or later) (x >>= f) := by
  cases first with
  | some o =>
    have failed : x = .error o.fault := here
    rw [failed]
    exact rfl
  | none =>
    obtain ⟨a, done⟩ := here
    rw [done, Option.none_or]
    exact next a

theorem ok (a : α) : Decides none (.ok a : Except Fault α) := ⟨a, rfl⟩

theorem map (here : Decides first x) (g : α → β) : Decides first (x >>= fun a => .ok (g a)) := by
  have whole := here.bind fun a => ok (g a)
  rwa [Option.or_none] at whole

end Offender.Decides

namespace Descriptor

mutual

/-- The places of a tree in the order in which they are come to. -/
def places : Descriptor → List (Place × Descriptor)
  | const v => [(.expression, const v)]
  | accessor path => (.expression, accessor path) :: stepPlaces path
  | filter name value args => (.expression, filter name value args) :: (places value ++ argumentPlaces args)
  | markup name value flag => (.expression, markup name value flag) :: places value
  | call renderer args => (.expression, call renderer args) :: argumentPlaces args
  | output expr escape => (.expression, output expr escape) :: places expr
  | other kind => [(.expression, other kind)]
  | plain v => [(.expression, plain v)]

def argumentPlaces : List Descriptor → List (Place × Descriptor)
  | [] => []
  | d :: ds => places d ++ argumentPlaces ds

def stepPlaces : List Descriptor → List (Place × Descriptor)
  | [] => []
  | plain v :: ds => (.step, plain v) :: stepPlaces ds
  | d :: ds => places d ++ stepPlaces ds

end

def stepOffender? (st : Store) : Value → Option Offender
  | .bool b => some (.truth b)
  | .text _ _ => none
  | .int n cls =>
    if (cls.bind IntClass.shown).isNone ∧ Decimal.figureLimit < (Decimal.ofNat n.natAbs).length then
      some (.index n)
    else none
  | v => some (.stranger (v.kind st))

def offender? (st : Store) (q : Place × Descriptor) : Option Offender :=
  match q.2 with
  | const v => match v.literal st with
    | .ok _ => none
    | .error o => some (.constant o)
  | filter name _ _ => if (LibraryFunction.filter? name).isNone then some (.filterName name) else none
  | call renderer _ => if renderer.isIdentifier then none else some (.rendererName renderer)
  | other kind => some (.stranger kind)
  | plain v => match q.1 with
    | .step => stepOffender? st v
    | .expression => some (.stranger (v.kind st))
  | accessor _ | markup _ _ _ | output _ _ => none

def firstOffender (st : Store) (places : List (Place × Descriptor)) : Option Offender :=
  places.findSome? (offender? st)

variable {st : Store} {dataName : Text}

theorem firstOffender_append (front behind : List (Place × Descriptor)) :
    firstOffender st (front ++ behind) = (firstOffender st front).or (firstOffender st behind) :=
  List.findSome?_append

theorem firstOffender_cons (q : Place × Descriptor) (behind : List (Place × Descriptor)) :
    firstOffender st (q :: behind) = (offender? st q).or (firstOffender st behind) := by
  unfold firstOffender
  rw [List.findSome?_cons]
  cases offender? st q <;> rfl

theorem shown_figures {n : Int} {cls : Option IntClass} (plainly : cls.bind IntClass.shown = none) :
    (Value.int n cls).shown st =
      if Decimal.figureLimit < (Decimal.ofNat n.natAbs).length then .error .badValue
      else .ok (Decimal.ofInt n) := by
  rw [shown_int, plainly]
  unfold Decimal.ofInt?
  simp only [Decimal.tooLong_iff]
  by_cases beyond : Decimal.figureLimit < (Decimal.ofNat n.natAbs).length
  · simp only [if_pos beyond]
  · simp only [if_neg beyond]

theorem stepSource_decided (v : Value) :
    Offender.Decides (offender? st (.step, plain v)) (stepSource st dataName (plain v)) := by
  cases v with
  | int n cls =>
    rw [stepSource_int, offender?]
    dsimp only
    rw [stepOffender?]
    cases own : cls.bind IntClass.shown with
    | some t =>
      rw [shown_int, own]
      exact ⟨t, rfl⟩
    | none =>
      rw [shown_figures own]
      simp only [Option.isNone_none, true_and]
      split
      · exact rfl
      · exact ⟨_, rfl⟩
  | bool b =>
    rw [stepSource.eq_def, offender?]
    cases b <;> exact rfl
  | text t cls =>
    rw [stepSource.eq_def, offender?]
    exact ⟨_, rfl⟩
  | _ =>
    rw [stepSource.eq_def, offender?]
    exact rfl

mutual

theorem source_decided (d : Descriptor) :
    Offender.Decides (firstOffender st d.places) (source st dataName d) := by
  cases d with
  | const v =>
    rw [source, LibraryFunction.literalOf, places, firstOffender_cons, offender?]
    dsimp only
    cases v.literal st with
    | error o => exact rfl
    | ok t => exact ⟨t, rfl⟩
  | accessor path =>
    rw [places, firstOffender_cons]
    cases path with
    | nil => exact ⟨dataName, by rw [source]⟩
    | cons step path =>
      rw [source]
      exact (stepSources_decided (step :: path)).map _
  | filter name value args =>
    rw [source, places, firstOffender_cons, firstOffender_append, offender?]
    dsimp only
    cases known : (LibraryFunction.filter? name).isNone with
    | true => exact rfl
    | false =>
      exact (source_decided value).bind fun first => (sources_decided args).map _
  | markup name value flag =>
    rw [source, places, firstOffender_cons]
    exact (source_decided value).map _
  | call renderer args =>
    rw [source, places, firstOffender_cons, offender?]
    dsimp only
    cases named : renderer.isIdentifier with
    | false => exact rfl
    | true => exact (sources_decided args).map _
  | output expr escape =>
    rw [source, places, firstOffender_cons]
    exact (source_decided expr).map _
  | other kind =>
    rw [source, places, firstOffender_cons]
    exact rfl
  | plain v =>
    rw [source, places, firstOffender_cons]
    exact rfl

theorem sources_decided (ds : List Descriptor) :
    Offender.Decides (firstOffender st (argumentPlaces ds)) (sources st dataName ds) := by
  cases ds with
  | nil => exact ⟨[], by rw [sources]⟩
  | cons d ds =>
    rw [sources, argumentPlaces, firstOffender_append]
    exact (source_decided d).bind fun first => (sources_decided ds).map _

theorem stepSources_decided (ds : List Descriptor) :
    Offender.Decides (firstOffender st (stepPlaces ds)) (stepSources st dataName ds) := by
  cases ds with
  | nil => exact ⟨[], by rw [stepSources]⟩
  | cons d ds =>
    rw [stepSources]
    by_cases value : ∃ v, d = plain v
    · obtain ⟨v, rfl⟩ := value
      rw [stepPlaces, firstOffender_cons]
      exact (stepSource_decided v).bind fun first => (stepSources_decided ds).map _
    · have nested : ∀ v, d ≠ plain v := fun v same => value ⟨v, same⟩
      rw [stepSource_nested nested, stepPlaces, firstOffender_append]
      · exact (source_decided d).bind fun first => (stepSources_decided ds).map _
      · exact nested

end

theorem textSource_decided (d : Descriptor) :
    Offender.Decides (firstOffender st d.places) (d.textSource st dataName) := by
  unfold textSource
  cases d with
  | output expr escape => exact (source_decided (output expr escape)).map id
  | _ => exact (source_decided _).map _

theorem stepOffender?_fault {v : Value} {o : Offender} (here : stepOffender? st v = some o) :
    o.fault.ofWriting = true ∨ ∃ n, o = .index n ∧ Decimal.figureLimit < (Decimal.ofNat n.natAbs).length := by
  cases v with
  | text t cls => cases here
  | int n cls =>
    rw [stepOffender?] at here
    split at here
    · rename_i beyond
      cases here
      exact .inr ⟨n, rfl, beyond.2⟩
    · cases here
  | _ =>
    cases here
    exact .inl rfl

theorem offender?_fault {q : Place × Descriptor} {o : Offender} (here : offender? st q = some o) :
    o.fault.ofWriting = true ∨ ∃ n, o = .index n ∧ Decimal.figureLimit < (Decimal.ofNat n.natAbs).length := by
  obtain ⟨place, d⟩ := q
  unfold offender? at here
  cases d with
  | plain v =>
    cases place with
    | step => exact stepOffender?_fault here
    | expression =>
      cases here
      exact .inl rfl
  | const v =>
    dsimp only at here
    split at here
    · cases here
    · cases here
      exact .inl rfl
  | filter name value args =>
    dsimp only at here
    split at here
    · cases here
      exact .inl rfl
    · cases here
  | call renderer args =>
    dsimp only at here
    split at here
    · cases here
    · cases here
      exact .inl rfl
  | other kind =>
    cases here
    exact .inl rfl
  | _ => cases here

theorem source_long_index {n : Int} (beyond : Decimal.figureLimit < (Decimal.ofNat n.natAbs).length) :
    (accessor [plain (.ofInt n)]).source st dataName = .error .badValue := by
  have decided := @source_decided st dataName (accessor [plain (.ofInt n)])
  have offends : offender? st (.step, plain (.ofInt n)) = some (.index n) := if_pos ⟨rfl, beyond⟩
  rw [places, stepPlaces, firstOffender_cons, firstOffender_cons, offends] at decided
  exact decided

end Descriptor

end RenderSource
