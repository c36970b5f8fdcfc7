import RenderSource.Code.Term
/-!
How expressions are spelled in emitted source, and which expressions are emitted: paths of names,
attributes, items and calls, literals, displays, and sums of two paths. None of them needs brackets
of its own.
-/
namespace RenderSource

def Text.IsName (n : Text) : Prop := n.isIdentifier = true ∧ n.isReserved = false

instance (n : Text) : Decidable n.IsName := inferInstanceAs (Decidable (_ ∧ _))

theorem Text.IsName.not_reserved {n : Text} (fit : n.IsName) {w : String} (word : w ∈ reservedWords) :
    n ≠ wording w := by
  rintro rfl
  have : (wording w).isReserved = true := List.any_eq_true.mpr ⟨w, word, by simp⟩
  rw [fit.2] at this
  cases this

namespace Text

section

variable {n : Text} (identifier : n.isIdentifier = true)

include identifier

theorem exists_cons_of_isIdentifier :
    ∃ c w, n = c :: w ∧ c.startsName = true ∧ ∀ d ∈ w, d.continuesName = true := by
  cases n with
  | nil => cases identifier
  | cons c w =>
    obtain ⟨starts, parts⟩ := Bool.and_eq_true_iff.mp identifier
    exact ⟨c, w, rfl, starts, List.all_eq_true.mp parts⟩

theorem continuesName_of_isIdentifier : ∀ c ∈ n, c.continuesName = true := by
  obtain ⟨c, w, rfl, starts, parts⟩ := exists_cons_of_isIdentifier identifier
  exact List.forall_mem_cons.mpr ⟨Bool.or_eq_true_iff.mpr (.inl starts), parts⟩

theorem isEmpty_of_isIdentifier : n.isEmpty = false := by
  obtain ⟨c, w, rfl, _⟩ := exists_cons_of_isIdentifier identifier
  rfl

theorem length_of_isIdentifier : 0 < n.length := by
  obtain ⟨c, w, rfl, _⟩ := exists_cons_of_isIdentifier identifier
  exact Nat.succ_pos w.length

theorem head?_ne_of_isIdentifier {m : Char} (mark : (CodePoint.scalar m).startsName = false) (u : Text) :
    (n ++ u).head? ≠ some (.scalar m) := by
  obtain ⟨c, w, rfl, starts, _⟩ := exists_cons_of_isIdentifier identifier
  intro same
  cases same
  rw [mark] at starts
  cases starts

end

end Text

namespace Term

mutual

/-- Items of displays stand side by side, arguments with a blank between them. Terms that no source
needs are not spelled. -/
def spelled : Term → Text
  | name n => n
  | text t => t.quote
  | nat n => Decimal.ofNat n
  | float x => x.text
  | truth b => wording (if b then "True" else "False")
  | none => wording "None"
  | negative t => wording "-" ++ spelled t
  | list items => wording "[" ++ Text.joinWith (wording ",") (spelledAll items) ++ wording "]"
  | dict entries =>
    wording "\x7b" ++ Text.joinWith (wording ",") (spelledEntries entries) ++ wording "\x7d"
  | call f args named =>
    spelled f ++ wording "(" ++
      Text.joinWith (wording ", ") (spelledAll args ++ spelledNamed named) ++ wording ")"
  | item t key => spelled t ++ wording "[" ++ spelled key ++ wording "]"
  | attr t n => spelled t ++ wording "." ++ n
  | sum a b => spelled a ++ wording " + " ++ spelled b
  | _ => []

def spelledAll : List Term → List Text
  | [] => []
  | t :: ts => spelled t :: spelledAll ts

def spelledEntries : List (Term × Term) → List Text
  | [] => []
  | (k, t) :: es => (spelled k ++ wording ":" ++ spelled t) :: spelledEntries es

def spelledNamed : List (Text × Term) → List Text
  | [] => []
  | (n, t) :: ts => (n ++ wording "=" ++ spelled t) :: spelledNamed ts

end

theorem spelledAll_eq (ts : List Term) : spelledAll ts = ts.map spelled := by
  induction ts with
  | nil => rfl
  | cons t ts ih => rw [spelledAll, ih, List.map_cons]

theorem spelledEntries_eq (es : List (Term × Term)) :
    spelledEntries es = es.map fun e => spelled e.1 ++ wording ":" ++ spelled e.2 := by
  induction es with
  | nil => rfl
  | cons e es ih => rw [spelledEntries, ih, List.map_cons]

theorem spelledNamed_eq (ts : List (Text × Term)) :
    spelledNamed ts = ts.map fun e => e.1 ++ wording "=" ++ spelled e.2 := by
  induction ts with
  | nil => rfl
  | cons e ts ih => rw [spelledNamed, ih, List.map_cons]

/-- Paths begin with a name and may be called, indexed and asked for attributes; whole terms may stand
where an expression is expected. -/
inductive Rank
  | path
  | whole

inductive Emitted : Rank → Term → Prop
  | name {n : Text} (fit : n.IsName) : Emitted .path (.name n)
  | attr {t : Term} {n : Text} (base : Emitted .path t) (fit : n.IsName) : Emitted .path (.attr t n)
  | item {t key : Term} (base : Emitted .path t) (inner : Emitted .whole key) :
      Emitted .path (.item t key)
  | call {f : Term} {args : List Term} {named : List (Text × Term)} (base : Emitted .path f)
      (fits : ∀ e ∈ named, e.1.IsName) (inner : ∀ a ∈ args, Emitted .whole a)
      (innerNamed : ∀ e ∈ named, Emitted .whole e.2) : Emitted .path (.call f args named)
  | path {t : Term} (path : Emitted .path t) : Emitted .whole t
  | text (t : Text) : Emitted .whole (.text t)
  | nat (n : Nat) : Emitted .whole (.nat n)
  | float {x : Binary64} (plain : x.negative = false) (finite : x.isFinite = true) :
      Emitted .whole (.float x)
  | truth (b : Bool) : Emitted .whole (.truth b)
  | none : Emitted .whole .none
  | negativeNat (n : Nat) : Emitted .whole (.negative (.nat n))
  | negativeFloat {x : Binary64} (plain : x.negative = false) (finite : x.isFinite = true) :
      Emitted .whole (.negative (.float x))
  | list {items : List Term} (inner : ∀ t ∈ items, Emitted .whole t) : Emitted .whole (.list items)
  | dict {entries : List (Term × Term)} (keys : ∀ e ∈ entries, Emitted .whole e.1)
      (inner : ∀ e ∈ entries, Emitted .whole e.2) : Emitted .whole (.dict entries)
  | sum {a b : Term} (first : Emitted .path a) (second : Emitted .path b) : Emitted .whole (.sum a b)

end Term

end RenderSource
