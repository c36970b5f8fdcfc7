import RenderSource.Proofs.Expression.Tree
import RenderSource.Renderer.Plainness
/-!
The expression of a descriptor can be emitted, nothing in it waits for a value or hands one out, and it
uses the names of the library in the plainest way unless a renderer is called.
-/
namespace RenderSource

open Term (Emitted Rank)

namespace Term

def Settled : Term → Prop
  | awaited _ _ | yielded _ _ => False
  | _ => True

theorem forall_partsOfAll {P : Term → Prop} {ts : List Term} (each : ∀ t ∈ ts, ∀ u ∈ t.parts, P u) :
    ∀ u ∈ partsOfAll ts, P u := by
  induction ts with
  | nil => exact List.forall_mem_nil _
  | cons t ts ih =>
    obtain ⟨first, later⟩ := List.forall_mem_cons.mp each
    rw [partsOfAll]
    exact List.forall_mem_append.mpr ⟨first, ih later⟩

theorem forall_partsOfEntries {P : Term → Prop} {es : List (Term × Term)}
    (keys : ∀ e ∈ es, ∀ u ∈ e.1.parts, P u) (each : ∀ e ∈ es, ∀ u ∈ e.2.parts, P u) :
    ∀ u ∈ partsOfEntries es, P u := by
  induction es with
  | nil => exact List.forall_mem_nil _
  | cons e es ih =>
    obtain ⟨key, laterKeys⟩ := List.forall_mem_cons.mp keys
    obtain ⟨value, later⟩ := List.forall_mem_cons.mp each
    rw [partsOfEntries]
    exact List.forall_mem_append.mpr ⟨List.forall_mem_append.mpr ⟨key, value⟩, ih laterKeys later⟩

theorem forall_partsOfNamed {P : Term → Prop} {es : List (Text × Term)}
    (each : ∀ e ∈ es, ∀ u ∈ e.2.parts, P u) : ∀ u ∈ partsOfNamed es, P u := by
  induction es with
  | nil => exact List.forall_mem_nil _
  | cons e es ih =>
    obtain ⟨first, later⟩ := List.forall_mem_cons.mp each
    rw [partsOfNamed]
    exact List.forall_mem_append.mpr ⟨first, ih later⟩

theorem Emitted.settled {r : Rank} {t : Term} (emitted : Emitted r t) : ∀ u ∈ t.parts, u.Settled := by
  induction emitted with
  | name _ | text _ | nat _ | float _ _ | truth _ | none =>
    exact List.forall_mem_singleton.mpr trivial
  | attr _ _ ih => exact List.forall_mem_cons.mpr ⟨trivial, ih⟩
  | item _ _ ih ihKey => exact List.forall_mem_cons.mpr ⟨trivial, List.forall_mem_append.mpr ⟨ih, ihKey⟩⟩
  | call _ _ _ _ ih ihArgs ihNamed =>
    exact List.forall_mem_cons.mpr ⟨trivial, List.forall_mem_append.mpr
      ⟨List.forall_mem_append.mpr ⟨ih, forall_partsOfAll ihArgs⟩, forall_partsOfNamed ihNamed⟩⟩
  | path _ ih => exact ih
  | negativeNat _ | negativeFloat _ _ =>
    exact List.forall_mem_cons.mpr ⟨trivial, List.forall_mem_singleton.mpr trivial⟩
  | list _ ih => exact List.forall_mem_cons.mpr ⟨trivial, forall_partsOfAll ih⟩
  | dict _ _ ihKeys ih => exact List.forall_mem_cons.mpr ⟨trivial, forall_partsOfEntries ihKeys ih⟩
  | sum _ _ ih ihSecond => exact List.forall_mem_cons.mpr ⟨trivial, List.forall_mem_append.mpr ⟨ih, ihSecond⟩⟩

theorem Emitted.not_handsOut {r : Rank} {t : Term} (emitted : Emitted r t) : t.handsOut = false := by
  rw [handsOut, List.any_eq_false]
  intro u member
  have settled := emitted.settled u member
  cases u <;> first | exact Bool.false_ne_true | exact settled.elim

end Term

namespace Descriptor

def usedNames : List String :=
  ["lookup", "DEFAULT_FILTERS", "attr_filter", "bool_attr_filter", "escape_html", "to_text"]

theorem usedNames_fit : ∀ n ∈ usedNames, (wording n).IsName := by decide

variable {st : Store} {dataName : Text}

theorem emitted_call {n : String} (used : n ∈ usedNames) {args : List Term}
    (each : ∀ t ∈ args, Emitted .whole t) : Emitted .whole (.call (.name (wording n)) args []) :=
  .path (.call (.name (usedNames_fit n used)) (List.forall_mem_nil _) each (List.forall_mem_nil _))

theorem Written.emitted {place : Place} {d : Descriptor} {t : Text}
    (written : Written st dataName place d t) (data : dataName.IsName)
    (names : ∀ g ∈ d.borrowed, g.IsName) :
    Emitted .whole (place.tree st dataName d) := by
  induction written with
  | @const v t literal =>
    rw [Value.literal_eq] at literal
    obtain ⟨p, collected, _⟩ := ok_of_map literal
    rw [Place.tree, tree, collected]
    exact data_emitted collected
  | data => exact .path (.name data)
  | @lookup step path ts length _ ih =>
    have each := forall_mem_of_borrowed (P := fun d => Emitted .whole (Place.step.tree st dataName d))
      length ih names
    rw [Place.tree, tree, stepTrees_eq]
    refine emitted_call (n := "lookup") (by decide) (List.forall_mem_cons.mpr ⟨.path (.name data), ?_⟩)
    exact List.forall_mem_map.mpr each
  | @filter name value args t ts h _ _ length _ ih ihArgs =>
    rw [borrowed] at names
    obtain ⟨first, more⟩ := List.forall_mem_append.mp names
    have each := forall_mem_of_borrowed (P := fun d => Emitted .whole (d.tree st dataName))
      length ihArgs more
    rw [Place.tree, tree, trees_eq]
    have filters := usedNames_fit "DEFAULT_FILTERS" (by decide)
    exact .path (.call (.item (.name filters) (.text name)) (List.forall_mem_nil _)
      (List.forall_mem_cons.mpr ⟨ih first, List.forall_mem_map.mpr each⟩) (List.forall_mem_nil _))
  | @markup name value flag t _ ih =>
    have used : (if flag then "bool_attr_filter" else "attr_filter") ∈ usedNames := by
      cases flag <;> decide
    exact emitted_call used (List.forall_mem_cons.mpr ⟨.text name, List.forall_mem_singleton.mpr (ih names)⟩)
  | @call renderer args ts named length _ ih =>
    rw [borrowed] at names
    obtain ⟨free, more⟩ := List.forall_mem_cons.mp names
    have each := forall_mem_of_borrowed (P := fun d => Emitted .whole (d.tree st dataName))
      length ih more
    rw [Place.tree, tree, trees_eq]
    exact .path (.call (.name ⟨named, free⟩) (List.forall_mem_nil _) (List.forall_mem_map.mpr each)
      (List.forall_mem_nil _))
  | @output expr escape t _ ih =>
    have used : (if escape then "escape_html" else "to_text") ∈ usedNames := by cases escape <;> decide
    exact emitted_call used (List.forall_mem_singleton.mpr (ih names))
  | key t cls => exact .text t
  | index plainly _ =>
    rw [Place.tree, stepTerm, plainly]
    exact Plain.emitted_intTerm _
  | form own => exact (names _ (form_borrowed own)).elim
  | nested inner ih =>
    rw [Place.tree, stepTerm_nested inner.not_plain]
    exact ih names

theorem textSource_tree {d : Descriptor} {t : Text} (done : d.textSource st dataName = .ok t)
    (data : dataName.IsName) (names : ∀ g ∈ d.borrowed, g.IsName) :
    t = (d.textTree st dataName).spelled ∧ Emitted .whole (d.textTree st dataName) := by
  rw [textSource] at done
  obtain ⟨u, inner, done⟩ := ok_of_bind done
  have written := source_written d inner
  have spelled : u = (d.tree st dataName).spelled := written.spelled
  have emitted : Emitted .whole (d.tree st dataName) := written.emitted data names
  have wrapped : calling (wording "to_text") [u] =
        (Term.call (.name (wording "to_text")) [d.tree st dataName] []).spelled ∧
      Emitted .whole (.call (.name (wording "to_text")) [d.tree st dataName] []) :=
    ⟨by rw [spelled_calling, spelled]; rfl, emitted_call (n := "to_text") (by decide)
      (List.forall_mem_singleton.mpr emitted)⟩
  cases d with
  | output expr escape =>
    cases done
    exact ⟨spelled, emitted⟩
  | _ =>
    cases done
    exact wrapped

end Descriptor

namespace Term

theorem allUsePlainly_of {ts : List Term} (each : ∀ t ∈ ts, t.usesLibraryPlainly = true) :
    allUsePlainly ts = true := by
  induction ts with
  | nil => rfl
  | cons t ts ih =>
    obtain ⟨first, later⟩ := List.forall_mem_cons.mp each
    rw [allUsePlainly, first, ih later]
    rfl

theorem usesPlainly_call {n : Text} (free : isFreeToCall n = true) {args : List Term}
    (each : ∀ t ∈ args, t.usesLibraryPlainly = true) :
    (Term.call (.name n) args []).usesLibraryPlainly = true := by
  rw [usesLibraryPlainly, allUsePlainly_of each]
  simp only [free]
  rfl

end Term

namespace Plain

theorem intTerm_usesPlainly (n : Int) : (intTerm n).usesLibraryPlainly = true := by
  cases n <;> rfl

theorem floatTerm_usesPlainly (x : Binary64) : (floatTerm x).usesLibraryPlainly = true := by
  unfold floatTerm
  split <;> rfl

mutual

/-- The only name in a literal is that of the calendar module, which is asked for its parts. -/
theorem term_usesPlainly : ∀ p : Plain, p.term.usesLibraryPlainly = true
  | none | bool _ | text _ => rfl
  | int n => intTerm_usesPlainly n
  | float x => floatTerm_usesPlainly x
  | date n => rfl
  | moment inUtc n => by
    have epoch : (epochTerm inUtc).usesLibraryPlainly = true := by cases inUtc <;> rfl
    have span : (spanTerm n).usesLibraryPlainly = true := by cases n <;> rfl
    rw [term, Term.usesLibraryPlainly, epoch, span]
    rfl
  | list items => terms_usePlainly items
  | dict entries => entryTerms_usePlainly entries

theorem terms_usePlainly : ∀ ps : List Plain, Term.allUsePlainly (terms ps) = true
  | [] => rfl
  | p :: ps => by
    rw [terms, Term.allUsePlainly, term_usesPlainly p, terms_usePlainly ps]
    rfl

theorem entryTerms_usePlainly : ∀ es : List (Text × Plain), Term.entriesUsePlainly (entryTerms es) = true
  | [] => rfl
  | (t, p) :: es => by
    rw [entryTerms, Term.entriesUsePlainly, term_usesPlainly p, entryTerms_usePlainly es]
    rfl

end

end Plain

namespace Descriptor

theorem usedNames_free : ∀ n ∈ ["lookup", "attr_filter", "bool_attr_filter", "escape_html", "to_text"],
    Term.isFreeToCall (wording n) = true := by decide

variable {st : Store} {dataName : Text}

theorem Written.usesPlainly {place : Place} {d : Descriptor} {t : Text}
    (written : Written st dataName place d t) (data : Term.isFree dataName = true)
    (free : ∀ g ∈ d.borrowed, False) : (place.tree st dataName d).usesLibraryPlainly = true := by
  have dataPlain : (Term.name dataName).usesLibraryPlainly = true := data
  induction written with
  | @const v t literal =>
    rw [Value.literal_eq] at literal
    obtain ⟨p, collected, _⟩ := ok_of_map literal
    rw [Place.tree, tree, collected]
    exact p.term_usesPlainly
  | data => exact dataPlain
  | @lookup step path ts length _ ih =>
    have each := forall_mem_of_borrowed
      (P := fun d => (Place.step.tree st dataName d).usesLibraryPlainly = true) length ih free
    have steps : ∀ t ∈ (step :: path).map (Place.step.tree st dataName), t.usesLibraryPlainly = true :=
      List.forall_mem_map.mpr each
    rw [Place.tree, tree, stepTrees_eq]
    exact Term.usesPlainly_call (usedNames_free "lookup" (by decide))
      (List.forall_mem_cons.mpr ⟨dataPlain, steps⟩)
  | @filter name value args t ts h _ _ length _ ih ihArgs =>
    rw [borrowed] at free
    obtain ⟨first, more⟩ := List.forall_mem_append.mp free
    have each := forall_mem_of_borrowed (P := fun d => (d.tree st dataName).usesLibraryPlainly = true)
      length ihArgs more
    have item : (Term.item (.name (wording "DEFAULT_FILTERS")) (.text name)).usesLibraryPlainly = true := rfl
    have args : Term.allUsePlainly (value.tree st dataName :: trees st dataName args) = true := by
      rw [trees_eq]
      exact Term.allUsePlainly_of (List.forall_mem_cons.mpr ⟨ih first, List.forall_mem_map.mpr each⟩)
    rw [Place.tree, tree, Term.usesLibraryPlainly, args]
    · simp only [item]
      rfl
    · exact fun n same => by cases same
  | @markup name value flag t _ ih =>
    have callable : Term.isFreeToCall (wording (if flag then "bool_attr_filter" else "attr_filter")) = true := by
      cases flag
      · exact usedNames_free "attr_filter" (by decide)
      · exact usedNames_free "bool_attr_filter" (by decide)
    exact Term.usesPlainly_call callable (List.forall_mem_cons.mpr ⟨rfl, List.forall_mem_singleton.mpr (ih free)⟩)
  | @call renderer args ts named length _ ih =>
    rw [borrowed] at free
    exact (free (.name renderer) (by simp)).elim
  | @output expr escape t _ ih =>
    have callable : Term.isFreeToCall (wording (if escape then "escape_html" else "to_text")) = true := by
      cases escape
      · exact usedNames_free "to_text" (by decide)
      · exact usedNames_free "escape_html" (by decide)
    exact Term.usesPlainly_call callable (List.forall_mem_singleton.mpr (ih free))
  | key t cls => rfl
  | index plainly _ =>
    rw [Place.tree, stepTerm, plainly]
    exact Plain.intTerm_usesPlainly _
  | form own => exact (free _ (form_borrowed own)).elim
  | nested inner ih =>
    rw [Place.tree, stepTerm_nested inner.not_plain]
    exact ih free

theorem textTree_usesPlainly {d : Descriptor} {t : Text} (done : d.textSource st dataName = .ok t)
    (data : Term.isFree dataName = true) (free : ∀ g ∈ d.borrowed, False) :
    (d.textTree st dataName).usesLibraryPlainly = true := by
  rw [textSource] at done
  obtain ⟨u, inner, done⟩ := ok_of_bind done
  have plain : (d.tree st dataName).usesLibraryPlainly = true :=
    (source_written d inner).usesPlainly data free
  cases d with
  | output expr escape => exact plain
  | _ => exact Term.usesPlainly_call (usedNames_free "to_text" (by decide)) (List.forall_mem_singleton.mpr plain)

end Descriptor

end RenderSource
