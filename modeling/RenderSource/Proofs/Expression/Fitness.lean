import RenderSource.Proofs.Expression.Tree
import RenderSource.Proofs.Text.Fitness
/-!
The source of an expression stands in one row: nothing in it ends the row or is unfit for it, whatever
texts, keys and names the expression is made of.
-/
namespace RenderSource

open Text (Fit fit_append fit_joinWith)

theorem Text.IsName.fit {n : Text} (named : n.IsName) : n.Fit := fit_of_isIdentifier named.1

theorem Term.Emitted.fit {r : Rank} {t : Term} (emitted : Emitted r t) : t.spelled.Fit := by
  induction emitted with
  | name named => exact named.fit
  | attr _ named ih => exact fit_append (fit_append ih (by decide)) named.fit
  | item _ _ ih ihKey => exact fit_append (fit_append (fit_append ih (by decide)) ihKey) (by decide)
  | @call f args named _ fits _ _ ih ihArgs ihNamed =>
    have inner : Fit (Text.joinWith (wording ", ") (spelledAll args ++ spelledNamed named)) := by
      refine fit_joinWith (by decide) fun t member => ?_
      rw [spelledAll_eq, spelledNamed_eq, List.mem_append, List.mem_map, List.mem_map] at member
      rcases member with ⟨a, inside, rfl⟩ | ⟨e, inside, rfl⟩
      · exact ihArgs a inside
      · exact fit_append (fit_append (fits e inside).fit (by decide)) (ihNamed e inside)
    exact fit_append (fit_append (fit_append ih (by decide)) inner) (by decide)
  | path _ ih => exact ih
  | text t => exact Text.quote_fit t
  | nat n => exact Text.fit_ofNat n
  | float _ _ => exact Text.fit_float _
  | truth b => cases b <;> decide
  | none => decide
  | negativeNat n => exact fit_append (by decide) (Text.fit_ofNat n)
  | negativeFloat _ _ => exact fit_append (by decide) (Text.fit_float _)
  | @list items _ ih =>
    refine fit_append (fit_append (by decide) (fit_joinWith (by decide) fun t member => ?_)) (by decide)
    rw [spelledAll_eq, List.mem_map] at member
    obtain ⟨a, inside, rfl⟩ := member
    exact ih a inside
  | @dict entries _ _ ihKeys ih =>
    refine fit_append (fit_append (by decide) (fit_joinWith (by decide) fun t member => ?_)) (by decide)
    rw [spelledEntries_eq, List.mem_map] at member
    obtain ⟨e, inside, rfl⟩ := member
    exact fit_append (fit_append (ihKeys e inside) (by decide)) (ih e inside)
  | sum _ _ ih ihSecond => exact fit_append (fit_append ih (by decide)) ihSecond

theorem Value.literal_fit {st : Store} {v : Value} {t : Text} (written : v.literal st = .ok t) :
    t.Fit := by
  rw [literal_eq] at written
  cases collected : v.data st with
  | error o => rw [collected] at written; cases written
  | ok p =>
    rw [collected] at written
    cases written
    exact (data_emitted collected).fit

namespace Descriptor

theorem fit_calling {f : Text} {args : List Text} (head : f.Fit) (each : ∀ a ∈ args, a.Fit) :
    (calling f args).Fit :=
  fit_append (fit_append (fit_append head (by decide)) (fit_joinWith (by decide) each)) (by decide)

def Borrowed.Fit : Borrowed → Prop
  | name _ => True
  | form t => t.Fit

theorem forall_texts_of_borrowed {Q : Borrowed → Prop} {P : Text → Prop} {ds : List Descriptor}
    {ts : List Text} (length : ds.length = ts.length)
    (each : ∀ q ∈ ds.zip ts, (∀ g ∈ q.1.borrowed, Q g) → P q.2) (all : ∀ g ∈ borrowedOfAll ds, Q g) :
    ∀ t ∈ ts, P t := by
  intro t member
  rw [← List.map_snd_zip (Nat.le_of_eq length.symm), List.mem_map] at member
  obtain ⟨q, inside, rfl⟩ := member
  exact each q inside fun g taken => all g (borrowed_subset (List.of_mem_zip inside).1 taken)

variable {st : Store} {dataName : Text}

theorem Written.fit {place : Place} {d : Descriptor} {t : Text} (named : dataName.Fit)
    (written : Written st dataName place d t) (forms : ∀ g ∈ d.borrowed, g.Fit) : t.Fit := by
  induction written with
  | const literal => exact Value.literal_fit literal
  | data => exact named
  | lookup length _ ih =>
    exact fit_calling (by decide)
      (List.forall_mem_cons.mpr ⟨named, forall_texts_of_borrowed length ih forms⟩)
  | @filter name value args t ts h _ _ length _ ih ihArgs =>
    have head : Fit (wording "DEFAULT_FILTERS[" ++ name.quote ++ wording "]") :=
      fit_append (fit_append (by decide) (Text.quote_fit name)) (by decide)
    rw [borrowed] at forms
    obtain ⟨first, more⟩ := List.forall_mem_append.mp forms
    exact fit_calling head
      (List.forall_mem_cons.mpr ⟨ih first, forall_texts_of_borrowed length ihArgs more⟩)
  | @markup name value flag t _ ih =>
    refine fit_calling (by cases flag <;> decide) fun a member => ?_
    simp only [List.mem_cons, List.not_mem_nil, or_false] at member
    rcases member with rfl | rfl
    · exact Text.quote_fit name
    · exact ih forms
  | call identifier length _ ih =>
    rw [borrowed] at forms
    exact fit_calling (Text.fit_of_isIdentifier identifier)
      (forall_texts_of_borrowed length ih (List.forall_mem_cons.mp forms).2)
  | @output expr escape t _ ih =>
    exact fit_calling (by cases escape <;> decide) (List.forall_mem_singleton.mpr (ih forms))
  | key t cls => exact Text.quote_fit t
  | @index n cls t _ figures =>
    rcases Decimal.ofInt_cases n with written | long
    · rw [written] at figures
      cases figures
      exact Text.fit_ofInt n
    · rw [long] at figures
      cases figures
  | form own => exact forms _ (form_borrowed own)
  | nested _ ih => exact ih forms

theorem textSource_fit (named : dataName.Fit) {d : Descriptor} {t : Text} (forms : ∀ g ∈ d.borrowed, g.Fit)
    (done : d.textSource st dataName = .ok t) : t.Fit ∧ t.head? ≠ some (.scalar '"') := by
  rcases textSource_written done with ⟨expr, escape, rfl, written⟩ | ⟨u, written, rfl⟩
  · refine ⟨written.fit named forms, ?_⟩
    cases written
    cases escape <;> simp [calling, wording, Text.ofString]
  · refine ⟨fit_calling (by decide) (List.forall_mem_singleton.mpr (written.fit named forms)), ?_⟩
    simp [calling, wording, Text.ofString]

end Descriptor

end RenderSource
