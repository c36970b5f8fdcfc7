import RenderSource.Proofs.Run.Failures
import RenderSource.Library.PercentQuote
/-!
Operations on values and functions of the library are contained: what they fail with is what running fails with. Each
function has one lemma, by the lemmas of the functions that it calls. Those of the library that look names up are
contained if reading a name and calling a value are.
-/
namespace RenderSource

open Failing

variable {st : Store} {es : List (Value × Value)} {vs : List Value}

namespace Value

@[grind ←] theorem contained_plainShown (v : Value) : Contained v.plainShown := by unfold plainShown; split <;> grind

@[grind ←] theorem contained_entriesShown {inner : Value → Except Fault Text} (each : ∀ v, Contained (inner v))
    (es : List (Value × Value)) : Contained (entriesShown inner es) := by
  grind [entriesShown]

@[grind ←] theorem contained_shownWithin (fuel : Nat) (opened : List Address) (v : Value) :
    Contained (shownWithin st fuel opened v) := by
  induction fuel generalizing opened v with
  | zero => cases v <;> unfold shownWithin <;> grind
  | succ fuel ih =>
    cases v with
    | ref a =>
      unfold shownWithin
      cases st.get? a with
      | none => grind
      | some c =>
        cases c with
        | tuple vs => rcases vs with _ | ⟨v, _ | ⟨w, vs⟩⟩ <;> grind
        | set vs => cases vs <;> grind
        | _ => grind
    | _ => unfold shownWithin; grind

@[grind ←] theorem contained_shown (v : Value) : Contained (v.shown st) := contained_shownWithin _ _ v

@[grind ←] theorem contained_plainWording (v : Value) : Contained (v.plainWording st) := by
  unfold plainWording
  split
  all_goals first | exact contained_ok _ | exact contained_shown v

@[grind ←] theorem contained_exceptionText (fuel : Nat) (v : Value) : Contained (exceptionText st fuel v) := by
  induction fuel generalizing v with
  | zero => exact contained_error.mpr rfl
  | succ fuel ih =>
    cases v with
    | ref a =>
      unfold exceptionText
      split
      · split
        · exact contained_ok _
        · split
          · exact contained_shown _
          · exact ih _
        · exact bind (contained_mapM contained_shown) fun _ => Failing.pure _
      · exact contained_entriesShown (contained_shownWithin _ _) _
      · exact contained_shown _
    | _ => exact contained_plainWording _

@[grind ←] theorem contained_plainText (v : Value) : Contained (v.plainText st) := by
  unfold plainText
  split
  · split
    · exact contained_entriesShown (contained_shownWithin _ _) _
    · exact contained_exceptionText _ _
    · exact contained_shown _
  · exact contained_plainWording v

@[grind ←] theorem contained_equalWithin (fuel : Nat) (v w : Value) : Contained (equalWithin st fuel v w) := by
  induction fuel generalizing v w with
  | zero => grind [equalWithin]
  | succ fuel ih =>
    unfold equalWithin
    extract_lets agree allAgree sameEntries
    have agrees : ∀ x y, Contained (agree x y) := by grind
    have all : ∀ xs ys, Contained (allAgree xs ys) := by grind
    have same : ∀ es fs, Contained (sameEntries es fs) := by grind
    clear_value agree allAgree sameEntries
    split <;> grind

@[grind ←] theorem contained_equal (v w : Value) : Contained (v.equal st w) := contained_equalWithin _ v w

@[grind ←] theorem contained_agrees (v w : Value) : Contained (v.agrees st w) := by grind [agrees]

@[grind ←] theorem contained_iterate (v : Value) : Contained (v.iterate st) := by unfold iterate; split <;> grind

@[grind ←] theorem contained_contains (v x : Value) : Contained (v.contains st x) := by grind [contains]

end Value

namespace Entries

@[grind ←] theorem contained_find? (key : Value) : Contained (find? st es key) := by grind [find?]

@[grind ←] theorem contained_put (key v : Value) : Contained (put st key v es) := by
  induction es with
  | nil => exact contained_ok _
  | cons e es ih => unfold put; grind

end Entries

namespace Value

@[grind ←] theorem contained_assign (target key v : Value) : Contained (assign st target key v) := by
  unfold assign; grind

@[grind ←] theorem contained_assignAll (target : Value) (st : Store) : Contained (assignAll target es st).1 := by
  induction es generalizing st with
  | nil => exact contained_ok _
  | cons e es ih =>
    have here : Contained (assign st target e.1 e.2) := contained_assign target e.1 e.2
    unfold assignAll
    split <;> grind

@[grind ←] theorem contained_attribute? (attributes : List (Text × Attribute)) (name : Text) :
    Contained (attribute? attributes name) := by unfold attribute?; split <;> grind

@[grind ←] theorem contained_member? (v : Value) (name : Text) : Contained (v.member? st name) := by
  unfold member?; split <;> grind

@[grind ←] theorem contained_memberOf (v : Value) (name : Text) : Contained (v.memberOf st name) := by
  grind [memberOf]

@[grind ←] theorem methodFault_ofRunning (v : Value) (name : String) : (v.methodFault st name).ofRunning = true := by
  unfold methodFault
  split
  · rfl
  · rfl
  · exact contained_member? v _ _ ‹_›

@[grind ←] theorem contained_extend (target source : Value) (st : Store) : Contained (extend target source st).1 := by
  unfold extend; grind

@[grind ←] theorem contained_toText (v : Value) : Contained (v.toText st) := by grind [toText]

@[grind ←] theorem contained_escapeHtml (v : Value) : Contained (v.escapeHtml st) := by grind [escapeHtml]

@[grind ←] theorem contained_filterUrl (v : Value) : Contained (v.filterUrl st) := by grind [filterUrl]

@[grind ←] theorem contained_filterClass (v : Value) : Contained (v.filterClass st) := by grind [filterClass]

@[grind ←] theorem contained_filterStyle (v : Value) : Contained (v.filterStyle st) := by
  unfold filterStyle; split <;> grind

@[grind ←] theorem contained_filterSep (v sep : Value) : Contained (v.filterSep st sep) := by grind [filterSep]

@[grind ←] theorem contained_markupAttribute (name v : Value) : Contained (name.markupAttribute st v) := by
  grind [markupAttribute]

@[grind ←] theorem contained_markupFlag (name v : Value) : Contained (name.markupFlag st v) := by grind [markupFlag]

@[grind ←] theorem contained_step (v key : Value) : Contained (v.step st key) := by
  unfold step stepBy; split <;> grind

@[grind ←] theorem contained_lookup (v : Value) (path : List Value) : Contained (v.lookup st path) := by
  induction path generalizing v with
  | nil => exact contained_ok _
  | cons key path ih => rw [lookup_next]; grind

@[grind ←] theorem contained_itemIn (key : Value) : Contained (itemIn vs key) := by grind [itemIn]

@[grind ←] theorem contained_itemAtKey (v key : Value) : Contained (v.itemAtKey st key) := by
  unfold itemAtKey; split <;> grind

@[grind ←] theorem contained_holds (v x : Value) : Contained (v.holds st x) := by unfold holds; split <;> grind

@[grind ←] theorem contained_lessWithin (fuel : Nat) (a b : Value) : Contained (lessWithin st fuel a b) := by
  induction fuel generalizing a b with
  | zero => unfold lessWithin; grind
  | succ fuel ih => unfold lessWithin; split <;> grind

@[grind ←] theorem contained_less (a b : Value) : Contained (less st a b) := contained_lessWithin _ a b

@[grind ←] theorem contained_atMost (a b : Value) : Contained (atMost st a b) := by grind [atMost]

@[grind ←] theorem contained_negated (v : Value) : Contained v.negated := by unfold negated; split <;> grind

@[grind ←] theorem contained_plus (a b : Value) : Contained (a.plus b) := by
  intro st
  unfold plus
  split <;> grind [Run.allocate, Run.change]

@[grind ←] theorem contained_isInstanceWithin (v : Value) (fuel : Nat) (c : Value) :
    Contained (isInstanceWithin st v fuel c) := by
  induction fuel generalizing c with
  | zero => unfold isInstanceWithin; grind
  | succ fuel ih => unfold isInstanceWithin; grind

@[grind ←] theorem contained_isInstance (v c : Value) : Contained (v.isInstance st c) := contained_isInstanceWithin v _ c

end Value

namespace LibraryFunction

@[grind ←] theorem contained_boundedLiteral (v : Value) : Contained (boundedLiteral st v) := by
  intro e failed
  unfold boundedLiteral at failed
  cases done : v.literalIn callRoom st with
  | ok t => rw [done] at failed; cases failed
  | error o => rw [done] at failed; cases failed; cases o <;> rfl

@[grind ←] theorem contained_callEach {call : List Value → Run Value} (calls : ∀ vs, Contained (call vs)) (i : Nat) :
    Contained (callEach call i vs) := by
  induction vs generalizing i with
  | nil => exact Failing.pure ()
  | cons v vs ih => unfold callEach; grind

@[grind ←] theorem contained_apply {call : Value → List Value → Run Value} (calls : ∀ f vs, Contained (call f vs))
    (h : LibraryFunction) (args : List Value) : Contained (h.apply call args) := by
  unfold apply; split <;> grind

end LibraryFunction

/-- Code that can be reached fails only as running does, when a name is read and when a value is called. -/
structure Env.IsContained (e : Env) : Prop where
  read (n : Text) : Contained (e.read n)
  call (f : Value) (args : List Value) (named : List (Text × Value)) : Contained (e.call f args named)

attribute [grind ←] Env.IsContained.read Env.IsContained.call

namespace Env

variable {e : Env} {α : Type}

@[grind ←] theorem contained_truth (v : Value) : Contained (truth v) := by grind [truth]

@[grind ←] theorem contained_textOf (v : Value) : Contained (textOf v) := by grind [textOf]

@[grind ←] theorem contained_itemsOf (v : Value) : Contained (itemsOf v) := by grind [itemsOf]

@[grind ←] theorem contained_part (v : Value) (name : String) : Contained (part v name) := by grind [part]

@[grind ←] theorem contained_joined (sep : String) : Contained (joined sep vs) := by grind [joined]

variable (reach : e.IsContained)
include reach

@[grind ←] theorem contained_named (name : String) : Contained (e.named name) := reach.read _

@[grind ←] theorem contained_callNamed (name : String) (args : List Value) : Contained (e.callNamed name args) := by
  grind [callNamed]

@[grind ←] theorem contained_callMember (v : Value) (name : String) (args : List Value) :
    Contained (e.callMember v name args) := by grind [callMember]

@[grind ←] theorem contained_isUndefined (v : Value) : Contained (e.isUndefined v) := by grind [isUndefined]

@[grind ←] theorem contained_isMissing (v : Value) : Contained (e.isMissing v) := by grind [isMissing]

@[grind ←] theorem contained_isOf (v : Value) (cls : String) : Contained (e.isOf v cls) := by grind [isOf]

@[grind ←] theorem contained_isSequence (v : Value) : Contained (e.isSequence v) := by grind [isSequence]

@[grind ←] theorem contained_isOfCalendar (v : Value) (cls : String) : Contained (e.isOfCalendar v cls) := by
  grind [isOfCalendar]

@[grind ←] theorem contained_entriesOf (v : Value) : Contained (e.entriesOf v) := by
  unfold entriesOf
  refine bind (by grind) fun found => ?_
  cases found <;> grind

@[grind ←] theorem contained_raiseNamed (name : String) (args : List Value) :
    Contained (e.raiseNamed name args : Run α) := by grind [raiseNamed]

end Env

namespace ByName

open Env

variable {e : Env}

@[grind ←] theorem contained_replacement (table : Value) (c : CodePoint) : Contained (replacement table c) := by
  unfold replacement
  refine contained_look fun st => ?_
  have here : Contained (table.itemAtKey st (.ofInt c.val)) := Value.contained_itemAtKey _ _
  split <;> grind

@[grind ←] theorem contained_template (t : Text) : Contained (template t) := by
  fun_induction template t <;> grind

variable (reach : e.IsContained)
include reach

@[grind ←] theorem contained_isUndefined (v : Value) : Contained (isUndefined e v) := by grind [isUndefined]

@[grind ←] theorem contained_visitAll (f : Value) : Contained (visitAll e f vs) := by
  induction vs with
  | nil => exact Failing.pure ()
  | cons v vs ih => unfold visitAll; grind

@[grind ←] theorem contained_each (items f : Value) : Contained (each e items f) := by grind [each]

@[grind ←] theorem contained_extendAll (target : Value) : Contained (extendAll e target es) := by
  induction es with
  | nil => exact Failing.pure ()
  | cons entry es ih =>
    have written (st : Store) : Contained (Value.assign st target entry.1 entry.2) := Value.contained_assign _ _ _
    unfold extendAll
    grind

@[grind ←] theorem contained_extend (target source : Value) : Contained (extend e target source) := by grind [extend]

@[grind ←] theorem contained_getFrom (v key : Value) : Contained (getFrom e v key) := by grind [getFrom]

@[grind ←] theorem contained_beginsLow (key : Value) : Contained (beginsLow e key) := by
  unfold beginsLow; split <;> grind

@[grind ←] theorem contained_isInside (v key : Value) : Contained (isInside e v key) := by grind [isInside]

@[grind ←] theorem contained_step (v key : Value) : Contained (step e v key) := by
  unfold step
  refine bind (by grind) fun isMapping => ?_
  split
  · grind
  · refine bind (by grind) fun isWhole => ?_
    split <;> refine bind (by grind) fun indexed => ?_ <;> grind

@[grind ←] theorem contained_lookup (v : Value) (path : List Value) : Contained (lookup e v path) := by
  induction path generalizing v with
  | nil => unfold lookup; grind
  | cons key path ih => unfold lookup; grind

@[grind ←] theorem contained_escapeHtml (v : Value) : Contained (escapeHtml e v) := by
  unfold escapeHtml
  refine bind (by grind) fun missing => ?_
  grind

@[grind ←] theorem contained_toText (v : Value) : Contained (toText e v) := by grind [toText]

@[grind ←] theorem contained_filterUrl (v : Value) : Contained (filterUrl e v) := by grind [filterUrl]

@[grind ←] theorem contained_filterClass (v : Value) : Contained (filterClass e v) := by grind [filterClass]

@[grind ←] theorem contained_filterStyle (v : Value) : Contained (filterStyle e v) := by
  unfold filterStyle
  refine bind (by grind) fun isMapping => ?_
  split
  · refine bind (by grind) fun entries => ?_
    grind
  · grind

@[grind ←] theorem contained_matched (v : Value) : Contained (matched e v) := by unfold matched; split <;> grind

@[grind ←] theorem contained_escapeMatch (m : Value) : Contained (escapeMatch e m) := by
  unfold escapeMatch
  refine bind (by grind) fun c => bind (by grind) fun table => bind (by grind) fun known => ?_
  grind

@[grind ←] theorem contained_replaceUnsafe (f : Value) (place : Nat) (t : Text) :
    Contained (replaceUnsafe e f place t) := by
  induction t generalizing place with
  | nil => exact Failing.pure []
  | cons c t ih => unfold replaceUnsafe; grind

@[grind ←] theorem contained_quote (source : Value) : Contained (quote e source) := by
  unfold quote
  refine bind (by grind) fun pattern => ?_
  split
  · grind
  · refine bind (by grind) fun writer => bind (by grind) fun fixed => ?_
    split <;> grind

@[grind ←] theorem contained_millisSince (m : Moment) (epoch : String) : Contained (millisSince e m epoch) := by
  grind [millisSince]

@[grind ←] theorem contained_momentLiteral (v : Value) : Contained (momentLiteral e v) := by
  unfold momentLiteral
  split
  · refine bind (by grind) fun n => ?_
    grind
  · grind
  · grind

@[grind ←] theorem contained_dateLiteral (v : Value) : Contained (dateLiteral e v) := by
  unfold dateLiteral; split <;> grind

@[grind ←] theorem contained_literal (v : Value) : Contained (literal e v) := by grind [literal]

@[grind ←] theorem contained_intLiteral (v : Value) : Contained (intLiteral e v) := by
  unfold intLiteral
  refine contained_recover (by grind) fun st f h handled => ?_
  grind

@[grind ←] theorem contained_floatLiteral (v : Value) : Contained (floatLiteral e v) := by
  unfold floatLiteral
  refine bind (by grind) fun m => bind (by grind) fun test => ?_
  grind

@[grind ←] theorem contained_literalInside (v opened : Value) : Contained (literalInside e v opened) := by
  unfold literalInside
  repeat refine contained_choice (by grind) (by grind) ?_
  grind

@[grind ←] theorem contained_addMark (opened mark : Value) : Contained (addMark e opened mark) := by
  unfold addMark
  refine bind (by grind) fun cell => ?_
  split
  · next a vs =>
    refine contained_change fun st => ?_
    have among : Contained (vs.anyM fun w => w.agrees st mark) := by grind
    grind
  · grind

@[grind ←] theorem contained_dropMark (opened mark : Value) : Contained (dropMark e opened mark) := by
  unfold dropMark
  refine bind (by grind) fun cell => ?_
  split
  · next a vs =>
    refine contained_change fun st => ?_
    have others : Contained (vs.filterM fun w => do return !(← w.agrees st mark)) := by grind
    grind
  · grind

@[grind ←] theorem contained_whileOpen (source opened : Value) {inner : Run Text} (contained : Contained inner) :
    Contained (whileOpen e source opened inner) := by grind [whileOpen]

@[grind ←] theorem contained_listLiteral (source opened : Value) : Contained (listLiteral e source opened) := by
  grind [listLiteral]

@[grind ←] theorem contained_entryLiteral (opened k v : Value) : Contained (entryLiteral e opened k v) := by
  grind [entryLiteral]

@[grind ←] theorem contained_mappingLiteral (source opened : Value) : Contained (mappingLiteral e source opened) := by
  grind [mappingLiteral]

@[grind ←] theorem contained_run (r : Routine) (args : List Value) : Contained (run e r args) := by
  unfold run; split <;> grind

end ByName

@[grind ←] theorem Library.contained_percentQuote (args : List Value) (named : List (Text × Value)) :
    Contained (percentQuote args named) := by
  unfold percentQuote
  extract_lets encode
  -- what is done with the source and the marks, however they are given
  have encoded : ∀ parts, Contained (encode parts) := by
    rintro ⟨source, safe⟩
    unfold encode
    clear encode
    dsimp only
    cases source with
    | text t cls =>
      dsimp only
      cases utf8Bytes? t with
      | some bs => simp only [pure_bind]; grind
      | none => grind
    | bytes bs => simp only [pure_bind]; grind
    | _ => grind
  clear_value encode
  split <;> grind

end RenderSource
