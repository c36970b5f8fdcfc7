import RenderSource.Library.Function
import RenderSource.Renderer.Evaluate
/-!
What is told of a value depends on the cells of a store alone: the frames of running functions make no
difference.
-/
namespace RenderSource

variable {st st' : Store}

theorem Store.get?_same (same : st.cells = st'.cells) : st.get? = st'.get? := by
  funext a
  rw [get?, same, get?]

theorem Store.size_same (same : st.cells = st'.cells) : st.size = st'.size := congrArg Array.size same

namespace Value

theorem cell?_same (same : st.cells = st'.cells) (v : Value) : v.cell? st = v.cell? st' := by
  cases v with
  | ref a => exact congrFun (Store.get?_same same) a
  | _ => rfl

theorem items?_same (same : st.cells = st'.cells) (v : Value) : v.items? st = v.items? st' := by
  rw [items?, cell?_same same, items?]

theorem entries?_same (same : st.cells = st'.cells) (v : Value) : v.entries? st = v.entries? st' := by
  rw [entries?, cell?_same same, entries?]

theorem isTrue_same (same : st.cells = st'.cells) (v : Value) : v.isTrue st = v.isTrue st' := by
  cases v with
  | ref a => rw [isTrue, Store.get?_same same, isTrue]
  | _ => rfl

theorem kind_same (same : st.cells = st'.cells) (v : Value) : v.kind st = v.kind st' := by
  unfold kind
  rw [Store.get?_same same]

theorem methods_same (same : st.cells = st'.cells) (v : Value) : v.methods st = v.methods st' := by
  unfold methods
  rw [Store.get?_same same]

theorem member?_same (same : st.cells = st'.cells) : member? st = member? st' := by
  funext v n
  simp only [member?, cell?_same same, methods_same same, kind_same same]

theorem shownWithin_same (same : st.cells = st'.cells) (fuel : Nat) (opened : List Address) (v : Value) :
    shownWithin st fuel opened v = shownWithin st' fuel opened v := by
  induction fuel generalizing opened v with
  | zero =>
    cases v with
    | ref a => rw [shownWithin.eq_def, Store.get?_same same, shownWithin.eq_def]
    | _ => rfl
  | succ fuel ih =>
    cases v with
    | ref a =>
      have inner : shownWithin st fuel = shownWithin st' fuel := funext fun opened => funext (ih opened)
      rw [shownWithin.eq_def, shownWithin.eq_def, Store.get?_same same]
      dsimp only
      cases st'.get? a with
      | none => rfl
      | some c => cases c with
        | object cls shown attributes => cases shown <;> rfl
        | _ => first | rfl | simp only [inner]
    | _ => rfl

theorem shown_same (same : st.cells = st'.cells) (v : Value) : v.shown st = v.shown st' := by
  rw [shown, shownWithin_same same, Store.size_same same, shown]

theorem plainWording_same (same : st.cells = st'.cells) (v : Value) :
    plainWording st v = plainWording st' v := by
  have shown : Value.shown st = Value.shown st' := funext (shown_same same)
  simp only [plainWording, shown]

theorem exceptionText_same (same : st.cells = st'.cells) (fuel : Nat) (v : Value) :
    exceptionText st fuel v = exceptionText st' fuel v := by
  have shown : Value.shown st = Value.shown st' := funext (shown_same same)
  have inner : ∀ opened, shownWithin st st.size opened = shownWithin st' st'.size opened := fun opened =>
    funext fun v => by rw [shownWithin_same same, Store.size_same same]
  induction fuel generalizing v with
  | zero => cases v <;> rfl
  | succ fuel ih =>
    cases v with
    | ref a => simp only [exceptionText, Store.get?_same same, shown, inner, ih]
    | _ => exact plainWording_same same _

theorem plainText_same (same : st.cells = st'.cells) (v : Value) : v.plainText st = v.plainText st' := by
  have inner : shownWithin st = shownWithin st' :=
    funext fun fuel => funext fun opened => funext (shownWithin_same same fuel opened)
  cases v with
  | ref a =>
    simp only [plainText, Store.get?_same same, shown_same same, inner, Store.size_same same,
      exceptionText_same same]
  | _ => simp only [plainText, plainWording_same same]

theorem hashableWithin_same (same : st.cells = st'.cells) (fuel : Nat) (v : Value) :
    hashableWithin st fuel v = hashableWithin st' fuel v := by
  induction fuel generalizing v with
  | zero => rfl
  | succ fuel ih =>
    have inner : hashableWithin st fuel = hashableWithin st' fuel := funext ih
    rw [hashableWithin, cell?_same same, inner, hashableWithin]

theorem isHashable_same (same : st.cells = st'.cells) (v : Value) : v.isHashable st = v.isHashable st' := by
  rw [isHashable, hashableWithin_same same, Store.size_same same, isHashable]

theorem equalWithin_same (same : st.cells = st'.cells) (fuel : Nat) (v w : Value) :
    equalWithin st fuel v w = equalWithin st' fuel v w := by
  induction fuel generalizing v w with
  | zero => rfl
  | succ fuel ih =>
    have inner : equalWithin st fuel = equalWithin st' fuel := funext fun v => funext (ih v)
    rw [equalWithin.eq_def, equalWithin.eq_def, Store.get?_same same]
    simp only [inner]

theorem agrees_same (same : st.cells = st'.cells) (v w : Value) : v.agrees st w = v.agrees st' w := by
  rw [agrees, equal, equalWithin_same same, Store.size_same same, agrees, equal]

theorem find?_same (same : st.cells = st'.cells) (es : List (Value × Value)) (key : Value) :
    Entries.find? st es key = Entries.find? st' es key := by
  have inner : agrees st = agrees st' := funext fun v => funext (agrees_same same v)
  rw [Entries.find?, inner, Entries.find?]

theorem put_same (same : st.cells = st'.cells) (key v : Value) (es : List (Value × Value)) :
    Entries.put st key v es = Entries.put st' key v es := by
  induction es with
  | nil => rfl
  | cons e es ih => rw [Entries.put, agrees_same same, ih, Entries.put]

theorem entriesOf_same (same : st.cells = st'.cells) (es : List (Value × Value)) :
    entriesOf st es = entriesOf st' es := by
  have keys : isHashable st = isHashable st' := funext (isHashable_same same)
  have writes : Entries.put st = Entries.put st' := funext fun k => funext fun v => funext (put_same same k v)
  rw [entriesOf, keys, writes, entriesOf]

theorem lookup_same (same : st.cells = st'.cells) (v : Value) (path : List Value) :
    v.lookup st path = v.lookup st' path := by
  have taken : ∀ u key, stepBy st (member? st) u key = stepBy st' (member? st') u key := by
    intro u key
    have found : ∀ es, Entries.find? st es key = Entries.find? st' es key := fun es => find?_same same es key
    simp only [stepBy, entries?_same same, isHashable_same same, found, items?_same same, member?_same same]
  unfold lookup
  induction path generalizing v with
  | nil => rfl
  | cons key path ih => simp only [lookupBy, taken, ih]

theorem toText_same (same : st.cells = st'.cells) (v : Value) : v.toText st = v.toText st' := by
  rw [toText, plainText_same same, toText]

theorem escapeHtml_same (same : st.cells = st'.cells) (v : Value) : v.escapeHtml st = v.escapeHtml st' := by
  rw [escapeHtml, toText_same same, escapeHtml]

theorem openCalls_same (same : st.cells = st'.cells) (opened : List Address) :
    openCalls st opened = openCalls st' opened := by
  induction opened with
  | nil => rfl
  | cons a opened ih => rw [openCalls, openCalls, Store.get?_same same, ih]

theorem overruns_same (same : st.cells = st'.cells) (room : Option Nat) (opened : List Address) :
    overruns st room opened = overruns st' room opened := by
  rw [overruns, openCalls_same same, overruns]

theorem literalWithin_same (same : st.cells = st'.cells) (room : Option Nat) (fuel : Nat) (opened : List Address)
    (v : Value) : literalWithin st room fuel opened v = literalWithin st' room fuel opened v := by
  induction fuel generalizing opened v with
  | zero =>
    cases v with
    | ref a => rw [literalWithin.eq_def, Store.get?_same same, literalWithin.eq_def]
    | _ => rfl
  | succ fuel ih =>
    cases v with
    | ref a =>
      have inner : literalWithin st room fuel = literalWithin st' room fuel :=
        funext fun opened => funext (ih opened)
      rw [literalWithin.eq_def, literalWithin.eq_def, Store.get?_same same]
      dsimp only
      cases st'.get? a with
      | none => rfl
      | some c => cases c <;> simp only [inner, overruns_same same]
    | _ => rfl

theorem literalIn_same (same : st.cells = st'.cells) (room : Nat) (v : Value) :
    v.literalIn room st = v.literalIn room st' := by
  rw [literalIn, literalWithin_same same, Store.size_same same, literalIn]

theorem filterUrl_same (same : st.cells = st'.cells) (v : Value) : v.filterUrl st = v.filterUrl st' := by
  rw [filterUrl, toText_same same, filterUrl]

theorem filterClass_same (same : st.cells = st'.cells) (v : Value) :
    v.filterClass st = v.filterClass st' := by
  have texts : plainText st = plainText st' := funext (plainText_same same)
  rw [filterClass, items?_same same, texts, filterClass]

theorem filterStyle_same (same : st.cells = st'.cells) (v : Value) :
    v.filterStyle st = v.filterStyle st' := by
  have texts : plainText st = plainText st' := funext (plainText_same same)
  rw [filterStyle, entries?_same same, isTrue_same same, texts, filterStyle]

theorem filterSep_same (same : st.cells = st'.cells) (v sep : Value) :
    v.filterSep st sep = v.filterSep st' sep := by
  rw [filterSep, isTrue_same same, plainText_same same, plainText_same same v, filterSep]

theorem markupAttribute_same (same : st.cells = st'.cells) (name v : Value) :
    name.markupAttribute st v = name.markupAttribute st' v := by
  rw [markupAttribute, isTrue_same same, plainText_same same, plainText_same same v, markupAttribute]

theorem markupFlag_same (same : st.cells = st'.cells) (name v : Value) :
    name.markupFlag st v = name.markupFlag st' v := by
  rw [markupFlag, isTrue_same same, plainText_same same, markupFlag]

end Value

end RenderSource
