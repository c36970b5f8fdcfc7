import RenderSource.Proofs.Library.Means
import RenderSource.Proofs.Text.Component
import RenderSource.Renderer.Installation
/-!
The library by its names and the library as it is meant. Where the names that its functions read lead where they
are meant to, a function that is run by them gives what it gives on values. On the way it makes cells that nothing
refers to afterwards: the tuple of classes that a value is compared with. Two functions are left out: `each` acts by
what it is given, and `literal` goes into containers by calls, as deep as those can go.
-/
namespace RenderSource

/-- The names of the library's own lead where it put them, and calls of what is found there end as they should. -/
structure Env.Usual (e : Env) (I : Store → Prop) : Prop extends e.Tells I where
  component : ∀ st, I st → e.named "_quote_component" st = (.ok (.entity .percentQuote), st)
  quoting : ∀ args named, e.call (.entity .percentQuote) args named = Library.percentQuote args named
  markup : ∀ st, I st → ∃ table, e.named "_HTML_ESCAPES" st = (.ok table, st) ∧
    ∀ c, ByName.replacement table c st = (.ok (escapeMarkup c), st)
  pattern : ∀ st, I st → e.named "_LITERAL_UNSAFE" st = (.ok (.entity .unsafePattern), st)
  escape : ∀ st, I st → ∃ writer, e.named "_escape_literal_char" st = (.ok writer, st) ∧ writer.asText? = none ∧
    ∀ c place, Text.unsafeInLiteral c = true →
      e.call writer [.entity (.found c place)] [] st = (.ok (.ofText (Text.escapeInLiteral c)), st)
  naive : ∀ st, I st → e.named "_EPOCH" st = (.ok (Installation.epoch .naive), st)
  aware : ∀ st, I st → e.named "_EPOCH_UTC" st = (.ok (Installation.epoch (.fixed 0)), st)
  millisecond : ∀ st, I st → e.named "_MILLISECOND" st = (.ok (.duration 1000), st)

namespace Env.Usual

variable {e : Env} {I : Store → Prop} {st : Store} {v key : Value}

theorem escapeHtml_eq (usual : e.Usual I) (here : I st) (told : v.Told st) :
    ByName.escapeHtml e v st = ((v.escapeHtml st).map .ofText, st) := by
  obtain ⟨table, named, replaced⟩ := usual.markup st here
  rw [usual.escapeHtml_table here told named replaced, Value.escapeHtml]
  cases v.toText st <;> rfl

theorem filterUrl_eq (usual : e.Usual I) (here : I st) (told : v.Told st) :
    ByName.filterUrl e v st = (v.filterUrl st, st) := by
  rw [ByName.filterUrl, Run.bind_ok (usual.isMissing_eq here told), Value.filterUrl, Value.toText]
  cases v.isMissing with
  | true => rfl
  | false =>
    have text := usual.str_eq (v := v) here
    rw [if_neg (by decide), if_neg (by decide), Run.bind_ok (usual.component st here)]
    cases shown : v.plainText st with
    | error f =>
      rw [shown] at text
      rw [Run.bind_error text]
      rfl
    | ok t =>
      rw [shown] at text
      rw [Run.bind_ok text, usual.quoting]
      exact (percentQuote_eq (fun _ _ => throw .wrongType) st t none).trans (apply_filterUrl _ _ _ _)

theorem entriesOf_eq {es : List (Value × Value)} (mapping : v.entries? st = some es) :
    e.entriesOf v st = (.ok es, st) := by
  rw [entriesOf, Run.look_bind, mapping]
  rfl

theorem filterStyle_eq (usual : e.Usual I) (here : I st) (told : v.Told st) :
    ByName.filterStyle e v st = (v.filterStyle st, st) := by
  rw [ByName.filterStyle, Run.bind_ok (usual.isOf_mapping here told), Value.filterStyle]
  cases mapping : v.entries? st with
  | some es =>
    have entry : ∀ q : Value × Value, (do
        return (← textOf q.1) ++ wording ":" ++ (← textOf q.2) ++ wording ";" : Run Text) st =
          ((do return (← q.1.plainText st) ++ wording ":" ++ (← q.2.plainText st) ++ wording ";"), st) := by
      intro q
      rw [textOf, Run.look_bind]
      cases q.1.plainText st with
      | error f => rfl
      | ok s =>
        dsimp only
        rw [textOf, Run.look_bind]
        cases q.2.plainText st <;> rfl
    rw [Option.isSome_some, if_pos rfl, Run.bind_ok (entriesOf_eq mapping), Run.map_apply, Run.mapM_eq entry]
    rfl
  | none =>
    rw [Option.isSome_none, if_neg (by decide), Run.bind_ok (usual.isMissing_eq here told)]
    cases missing : v.isMissing with
    | true =>
      have untrue : v.isTrue st = false := by
        cases v with
        | none | absent => rfl
        | _ => cases missing
      rw [untrue]
      rfl
    | false => rfl

theorem filterClass_eq (usual : e.Usual I) (here : I st) (told : v.Told st.withPair) :
    ByName.filterClass e v st = (v.filterClass st.withPair, st.withPair) := by
  rw [ByName.filterClass, Run.bind_ok (usual.isSequence_eq here told), Value.filterClass]
  have inside : I st.withPair := usual.kept st _ here
  cases items : v.items? st.withPair with
  | none => rfl
  | some vs =>
    have gone : itemsOf v st.withPair = (.ok vs, st.withPair) :=
      congrArg (·, st.withPair) (Value.iterate_items items)
    let text (w : Value) : Except Fault Text := if w = .none then pure [] else w.plainText st.withPair
    have part : ∀ w : Value, (if w = .none then pure (ByName.text "") else e.callNamed "str" [w] : Run Value)
        st.withPair = ((text w).map Value.ofText, st.withPair) := by
      intro w
      dsimp only [text]
      split
      · rfl
      · exact usual.str_eq inside
    have parts := Run.mapM_eq part vs
    rw [Value.mapM_image (f := text) (g := Value.ofText) vs fun _ _ => rfl] at parts
    rw [Option.isSome_some, if_pos rfl, Run.bind_ok gone]
    show _ = (vs.mapM text >>= fun ts => .ok (Value.ofText (Text.joinWith (wording " ") ts)), st.withPair)
    cases done : vs.mapM text with
    | error f =>
      rw [done] at parts
      exact Run.bind_error parts
    | ok ts =>
      rw [done] at parts
      have texts : (ts.map Value.ofText).mapM Value.asText? = some ts := by
        rw [List.mapM_map]
        exact (List.mapM_pure ..).trans (congrArg some (List.map_id' ts))
      have put : joined " " (ts.map Value.ofText) = pure (Text.joinWith (wording " ") ts) := by
        rw [joined, texts]
      exact (Run.bind_ok parts).trans (by rw [put]; rfl)

theorem replaceUnsafe_eq {writer : Value}
    (written : ∀ c place, Text.unsafeInLiteral c = true →
      e.call writer [.entity (.found c place)] [] st = (.ok (.ofText (Text.escapeInLiteral c)), st))
    (place : Nat) (t : Text) : ByName.replaceUnsafe e writer place t st = (.ok t.quoteBody, st) := by
  induction t generalizing place with
  | nil => rfl
  | cons c t ih =>
    have rest (front : Text) : (do return front ++ (← ByName.replaceUnsafe e writer (place + 1) t) : Run Text) st =
        (.ok (front ++ Text.quoteBody t), st) := by
      rw [Run.map_apply, ih]
      rfl
    rw [ByName.replaceUnsafe]
    cases unfit : Text.unsafeInLiteral c with
    | true =>
      rw [if_pos rfl]
      exact (Run.bind_ok (written c place unfit)).trans (rest _)
    | false =>
      have body : Text.quoteBody (c :: t) = [c] ++ Text.quoteBody t := by
        rw [Text.quoteBody, List.flatMap_cons, Text.escape_safe unfit]
        rfl
      rw [if_neg (by decide), body]
      exact rest [c]

theorem quote_eq (usual : e.Usual I) (here : I st) (t : Text) (cls : Derived) :
    ByName.quote e (.text t cls) st = (.ok (.ofText t.quote), st) := by
  obtain ⟨writer, named, noText, written⟩ := usual.escape st here
  have fixed : Run.ofExcept (writer.asText?.mapM ByName.template) st = (.ok none, st) := by
    rw [noText]
    rfl
  rw [ByName.quote, Run.bind_ok (usual.pattern st here), if_neg (by decide)]
  refine (Run.bind_ok named).trans ((Run.bind_ok fixed).trans ?_)
  show (do
    return Value.ofText (wording "\"" ++ (← ByName.replaceUnsafe e writer 0 t) ++ wording "\"") : Run Value) st = _
  rw [Run.map_apply, replaceUnsafe_eq written]
  rfl

theorem millisSince_eq {m : Moment} {z : Zone} {epoch : String} (usual : e.Usual I) (here : I st)
    (named : e.named epoch st = (.ok (Installation.epoch z), st))
    (start : (⟨⟨1970, 1, 1⟩, 0, 0, 0, 0, z⟩ : Moment).micros = 0) :
    ByName.millisSince e m epoch st = (.ok m.millis, st) := by
  rw [ByName.millisSince, Run.bind_ok named]
  refine (Run.bind_ok (usual.millisecond st here)).trans ?_
  show (Except.ok ((m.micros - (⟨⟨1970, 1, 1⟩, 0, 0, 0, 0, z⟩ : Moment).micros).fdiv 1000), st) = _
  rw [start, Int.sub_zero, Moment.millis]

theorem momentLiteral_eq (usual : e.Usual I) (here : I st) (m : Moment) :
    ByName.momentLiteral e (.moment m) st = (.ok (.ofText m.literal), st) := by
  rw [ByName.momentLiteral, Moment.literal]
  cases m.zone.offset? with
  | none => exact Run.bind_ok (usual.millisSince_eq here (usual.naive st here) (by decide))
  | some n => exact Run.bind_ok (usual.millisSince_eq here (usual.aware st here) (by decide))

section

variable {J : Store → Prop} {target source : Value} {es : List (Value × Value)}

theorem assign_ok {k w : Value} {st' : Store} (assigned : Value.assign st target k w = .ok st') :
    (Run.change fun st => match Value.assign st target k w with
      | .ok st' => (.ok (), st')
      | .error f => (.error f, st) : Run Unit) st = (.ok (), st') := by
  rw [Run.change, assigned]

theorem assign_error {k w : Value} {f : Fault} (assigned : Value.assign st target k w = .error f) :
    (Run.change fun st => match Value.assign st target k w with
      | .ok st' => (.ok (), st')
      | .error f => (.error f, st) : Run Unit) st = (.error f, st) := by
  rw [Run.change, assigned]

theorem extendAll_eq (usual : e.Usual I) (within : ∀ st, J st → I st)
    (steady : ∀ st st' k w, J st → Value.assign st target k w = .ok st' → J st')
    (told : ∀ st, J st → ∀ p ∈ es, p.2.Told st) (here : J st) : ByName.extendAll e target es st =
      Value.assignAll target (es.filter fun (_, w) => !w.isAbsent) st := by
  induction es generalizing st with
  | nil => rfl
  | cons p es ih =>
    obtain ⟨k, w⟩ := p
    have later (st : Store) := @ih st fun st here p member => told st here p (List.mem_cons_of_mem _ member)
    rw [ByName.extendAll,
      Run.bind_ok (usual.isUndefined_eq (within st here) (told st here (k, w) List.mem_cons_self))]
    cases absent : w.isAbsent with
    | true =>
      rw [List.filter_cons_of_neg (by
        show ¬(!w.isAbsent) = true
        rw [absent]
        decide)]
      exact later st here
    | false =>
      rw [List.filter_cons_of_pos (by
        show (!w.isAbsent) = true
        rw [absent]
        decide), Value.assignAll]
      cases assigned : Value.assign st target k w with
      | ok st' => exact (Run.bind_ok (assign_ok assigned)).trans (later st' (steady st st' k w here assigned))
      | error f => exact Run.bind_error (assign_error assigned)

theorem extend_eq (usual : e.Usual I) (within : ∀ st, J st → I st)
    (steady : ∀ st st' k w, J st → Value.assign st target k w = .ok st' → J st')
    (told : ∀ st, J st → ∀ p ∈ es, p.2.Told st) (here : J st)
    (mapping : source.isTrue st = true → source.entries? st = some es) :
    ByName.extend e target source st = target.extend source st := by
  have asked : truth source st = (.ok (source.isTrue st), st) := rfl
  rw [ByName.extend, Run.bind_ok asked, Value.extend]
  cases full : source.isTrue st with
  | false => rfl
  | true =>
    have entries := mapping full
    rw [if_pos rfl, if_pos rfl, entries]
    have spread := extendAll_eq usual within steady told here
    dsimp only
    rw [Run.bind_ok (entriesOf_eq entries)]
    rcases wrote : Value.assignAll target (es.filter fun (_, w) => !w.isAbsent) st with ⟨f | _, st'⟩
    · exact Run.bind_error (spread.trans wrote)
    · exact Run.bind_ok (spread.trans wrote)

end

/-! One step of a path, and the path. -/

theorem isInside_eq (usual : e.Usual I) (here : I st) {vs : List Value} (items : v.items? st = some vs) {i : Int}
    (index : key.asInt? = some i) :
    ByName.isInside e v key st = (.ok (decide (-(vs.length : Int) ≤ i ∧ i < vs.length)), st) := by
  have length : e.callNamed "len" [v] st = (.ok (.ofInt vs.length), st) := by
    rw [usual.callNamed_function here (by decide)]
    exact congrArg (·, st) (Value.length_items items)
  have low : Value.atMost st (.ofInt (-(vs.length : Int))) key = .ok (decide (-(vs.length : Int) ≤ i)) :=
    Value.atMost_eq rfl index
  have high : Value.less st key (.ofInt vs.length) = .ok (decide (i < vs.length)) := Value.less_eq index rfl
  rw [ByName.isInside, Run.bind_ok length]
  show (Run.look (fun st => Value.atMost st (.ofInt (-(vs.length : Int))) key) >>= _) st = _
  rw [Run.look_bind, low]
  dsimp only
  by_cases above : -(vs.length : Int) ≤ i
  · rw [if_pos (by simpa using above), Run.bind_ok length, Run.look_apply, high]
    simp [above]
  · rw [if_neg (by simpa using above)]
    simp only [above, false_and, decide_false]
    rfl

theorem step_mapping (usual : e.Usual I) (here : I st) (told : v.Told st) {es : List (Value × Value)}
    (entries : v.entries? st = some es) : ByName.step e v key st = ((v.step st key).map some, st) := by
  have mapping := usual.isOf_mapping here told
  rw [entries] at mapping
  have found : ByName.getFrom e v key st = (v.step st key, st) := by
    rw [ByName.getFrom, Run.look_bind, Value.step, Value.stepBy, entries]
    rfl
  rw [ByName.step, Run.bind_ok mapping, Option.isSome_some, if_pos rfl, Run.map_apply, found]

theorem isSequence_kept (usual : e.Usual I) (here : I st) (known : v.Known st) :
    e.isSequence v st = (.ok (v.items? st).isSome, st.withPair) := by
  have kept := Store.kept_add st (.tuple [Value.builtinClass "list", Value.builtinClass "tuple"])
  rw [usual.isSequence_eq here (known.told _ kept)]
  exact congrArg (fun r => (Except.ok (Option.isSome r), st.withPair)) (known.items?_kept kept)

theorem step_index (usual : e.Usual I) (here : I st) (known : v.Known st) (known' : key.Known st)
    (unkeyed : v.entries? st = none) {i : Int} (index : key.asInt? = some i) :
    ∃ r, ByName.step e v key st = (r, st.withPair) ∧ v.step st key = r.map fun w => w.getD .none := by
  have kept : st.Kept st.withPair := Store.kept_add st _
  have inside : I st.withPair := usual.kept st _ here
  have mapping := usual.isOf_mapping here known.now
  have number := usual.isOf_class (v := key) here (n := "int") (by decide)
  rw [unkeyed] at mapping
  rw [known'.now.integer, index] at number
  have ordered := usual.isSequence_kept here known
  have noText : key.asText? = none := by
    cases key with
    | text => cases index
    | _ => rfl
  rw [ByName.step, Run.bind_ok mapping, Option.isSome_none, if_neg (by decide), Run.bind_ok number, Option.isSome_some,
    if_pos rfl]
  cases items : v.items? st with
  | some vs =>
    rw [items] at ordered
    have items' := (known.items?_kept kept).trans items
    have within := usual.isInside_eq inside items' index
    have stepped : v.step st key = .ok (Value.itemAt vs i) := Value.step_index items index
    refine ⟨.ok (some (Value.itemAt vs i)), (Run.bind_ok ordered).trans ?_, stepped⟩
    dsimp only [Option.isSome_some]
    rw [if_pos rfl, Run.bind_ok within]
    by_cases reached : -(vs.length : Int) ≤ i ∧ i < vs.length
    · rw [if_pos (decide_eq_true reached), Run.map_apply, Run.look_apply,
        Value.itemAtKey_eq items' index reached]
      rfl
    · obtain ⟨place, short, counted, -⟩ | ⟨-, found⟩ := Value.itemAt_cases vs i
      · exact absurd (by omega) reached
      · rw [if_neg (by simpa using reached), found]
        rfl
  | none =>
    rw [items] at ordered
    have text := usual.isOf_class (v := key) inside (n := "str") (by decide)
    rw [(known'.told _ kept).text, noText] at text
    refine ⟨.ok none, (Run.bind_ok ordered).trans ((Run.bind_ok text).trans rfl), ?_⟩
    rw [Value.step, Value.stepBy, unkeyed]
    dsimp only
    rw [items, index, noText]
    rfl

theorem step_name (usual : e.Usual I) (here : I st) (known : v.Known st) (known' : key.Known st)
    (unkeyed : v.entries? st = none) (index : key.asInt? = none) :
    ∃ r, ByName.step e v key st = (r, st) ∧ v.step st key = r.map fun w => w.getD .none := by
  have mapping := usual.isOf_mapping here known.now
  have number := usual.isOf_class (v := key) here (n := "int") (by decide)
  have text := usual.isOf_class (v := key) here (n := "str") (by decide)
  rw [unkeyed] at mapping
  rw [known'.now.integer, index] at number
  rw [known'.now.text] at text
  rw [ByName.step, Run.bind_ok mapping, Option.isSome_none, if_neg (by decide), Run.bind_ok number, Option.isSome_none,
    if_neg (by decide)]
  cases key with
  | text t cls =>
    have stepped : v.step st (.text t cls) =
        if t.isPrivate then .ok .none else (v.member? st t).map fun found => found.getD .none := by
      rw [Value.step, Value.stepBy, unkeyed]
      cases v.items? st <;> rfl
    have named : ((! ·) <$> ByName.beginsLow e (.text t cls)) st = (.ok (!t.isPrivate), st) := rfl
    cases hidden : t.isPrivate with
    | true =>
      rw [hidden] at named stepped
      exact ⟨.ok none, (Run.bind_ok text).trans (Run.bind_ok named), stepped⟩
    | false =>
      rw [hidden] at named stepped
      have asked : e.callNamed "getattr" [v, .text t cls, .none] st =
          ((v.member? st t).map fun found => found.getD .none, st) := by
        rw [usual.callNamed_function here (by decide)]
        exact Means.partOf_member cls hidden
      refine ⟨((v.member? st t).map fun found => found.getD .none).map some,
        (Run.bind_ok text).trans ((Run.bind_ok named).trans ?_), ?_⟩
      · exact (Run.map_apply _ _ _).trans (by rw [asked])
      · rw [stepped]
        cases v.member? st t <;> rfl
  | int | bool => cases index
  | _ =>
    refine ⟨.ok none, (Run.bind_ok text).trans rfl, ?_⟩
    rw [Value.step, Value.stepBy, unkeyed]
    dsimp only [Value.asInt?, Value.asText?]
    cases v.items? st <;> rfl

theorem step_eq (usual : e.Usual I) (here : I st) (known : v.Known st) (known' : key.Known st) :
    ∃ r st', st.Kept st' ∧ I st' ∧ ByName.step e v key st = (r, st') ∧ v.step st key = r.map fun w => w.getD .none := by
  cases entries : v.entries? st with
  | some es =>
    refine ⟨_, st, .refl st, here, usual.step_mapping here known.now entries, ?_⟩
    cases v.step st key <;> rfl
  | none =>
    cases index : key.asInt? with
    | some i =>
      obtain ⟨r, done, same⟩ := usual.step_index here known known' entries index
      exact ⟨r, st.withPair, Store.kept_add st _, usual.kept st _ here, done, same⟩
    | none =>
      obtain ⟨r, done, same⟩ := usual.step_name here known known' entries index
      exact ⟨r, st, .refl st, here, done, same⟩

theorem lookup_eq (usual : e.Usual I) {st₀ : Store} {path : List Value} (along : v.KnownAlong st₀ path)
    (kept : st₀.Kept st) (here : I st) :
    ∃ st', st₀.Kept st' ∧ I st' ∧ ByName.lookup e v path st = (v.lookup st₀ path, st') := by
  induction path generalizing v st with
  | nil =>
    refine ⟨st, kept, here, ?_⟩
    have known : v.Known st₀ := along
    rw [ByName.lookup, Run.bind_ok (usual.isUndefined_eq here (known.told st kept)), Value.lookup_start]
    cases v.isAbsent <;> rfl
  | cons key path ih =>
    obtain ⟨known, known', plain, later⟩ := along
    rw [ByName.lookup, Run.bind_ok (usual.isMissing_eq here (known.told st kept)), Value.lookup_next]
    cases v.isMissing with
    | true => exact ⟨st, kept, here, rfl⟩
    | false =>
      rw [if_neg (by decide), if_neg (by decide)]
      obtain ⟨r, st', kept', here', done, same⟩ := usual.step_eq here (known.kept kept) (known'.kept kept)
      rw [known.step_kept kept plain] at same
      cases r with
      | error f =>
        rw [same]
        exact ⟨st', kept.trans kept', here', Run.bind_error done⟩
      | ok found =>
        rw [same]
        cases found with
        | some w =>
          obtain ⟨st'', kept'', here'', walked⟩ := ih (later w same) (kept.trans kept') here'
          exact ⟨st'', kept'', here'', (Run.bind_ok done).trans walked⟩
        | none =>
          refine ⟨st', kept.trans kept', here', (Run.bind_ok done).trans ?_⟩
          exact congrArg (·, st') (Value.lookup_missing (rfl : Value.none.isMissing = true) path).symm

end Env.Usual

/-- Arguments with which a function asks no value to act and makes no calls but those of the library. -/
inductive Library.Takes (I : Store → Prop) (st : Store) : LibraryFunction → List Value → Prop
  | isUndefined {v : Value} (told : v.Told st) : Takes I st .isUndefined [v]
  | contains (items v : Value) : Takes I st .contains [items, v]
  | extend {target source : Value} {es : List (Value × Value)} {J : Store → Prop} (within : ∀ st, J st → I st)
    (steady : ∀ st st' k w, J st → Value.assign st target k w = .ok st' → J st')
    (told : ∀ st, J st → ∀ p ∈ es, p.2.Told st) (here : J st)
    (mapping : source.isTrue st = true → source.entries? st = some es) : Takes I st .extend [target, source]
  | lookup {v : Value} {path : List Value} (known : v.KnownAlong st path) : Takes I st .lookup (v :: path)
  | escapeHtml {v : Value} (told : v.Told st) : Takes I st .escapeHtml [v]
  | toText {v : Value} (told : v.Told st) : Takes I st .toText [v]
  | filterUrl {v : Value} (told : v.Told st) : Takes I st .filterUrl [v]
  | filterClass {v : Value} (told : v.Told st.withPair) : Takes I st .filterClass [v]
  | filterStyle {v : Value} (told : v.Told st) : Takes I st .filterStyle [v]
  | filterSep (v sep : Value) : Takes I st .filterSep [v, sep]
  | markupAttribute (name v : Value) : Takes I st .markupAttribute [name, v]
  | markupFlag (name v : Value) : Takes I st .markupFlag [name, v]
  | quote (t : Text) (cls : Derived) : Takes I st .quote [.text t cls]
  | momentLiteral (m : Moment) : Takes I st .momentLiteral [.moment m]
  | dateLiteral {v : Value} {d : Date} (dated : v = .date d ∨ ∃ m, v = .moment m ∧ m.date = d) :
    Takes I st .dateLiteral [v]

theorem Library.takes_data {I : Store → Prop} {st : Store} {v : Value} (data : v.IsData st) {f : LibraryFunction}
    (one : f ∈ [.isUndefined, .lookup, .escapeHtml, .toText, .filterUrl, .filterClass, .filterStyle]) :
    Takes I st f [v] := by
  have paired : v.IsData st.withPair := data.kept (Store.kept_add st _)
  simp only [List.mem_cons, List.not_mem_nil, or_false] at one
  rcases one with rfl | rfl | rfl | rfl | rfl | rfl | rfl
  · exact .isUndefined data.told
  · exact .lookup data.known
  · exact .escapeHtml data.told
  · exact .toText data.told
  · exact .filterUrl data.told
  · exact .filterClass paired.told
  · exact .filterStyle data.told

/-- Where names lead where they are meant to, a function that is run by them does what it is meant to do, in a store
that may have some more cells. -/
theorem ByName.run_eq {e : Env} {I : Store → Prop} {st : Store} (usual : e.Usual I) (here : I st)
    {f : LibraryFunction} {args : List Value} (takes : Library.Takes I st f args)
    (call : Value → List Value → Run Value) :
    ∃ st', st.Kept st' ∧ ByName.run e (.library f) args st = f.apply call args st' := by
  have done {r : Except Fault Value} {st' : Store} (apply : f.apply call args st' = (r, st'))
      (kept : st.Kept st') (ran : ByName.run e (.library f) args st = (r, st')) :
      ∃ st', st.Kept st' ∧ ByName.run e (.library f) args st = f.apply call args st' :=
    ⟨st', kept, ran.trans apply.symm⟩
  cases takes with
  | isUndefined told => exact done rfl (.refl st) (usual.toMeans.isUndefined_run here told)
  | extend within steady told now mapping =>
    exact ⟨st, .refl st, usual.extend_eq within steady told now mapping⟩
  | lookup known =>
    obtain ⟨st', kept, _, walked⟩ := usual.lookup_eq known (.refl st) here
    exact done (congrArg (·, st') (known.lookup_kept kept)) kept walked
  | escapeHtml told => exact done rfl (.refl st) (usual.escapeHtml_eq here told)
  | toText told => exact done rfl (.refl st) (usual.toText_eq here told)
  | filterUrl told => exact done rfl (.refl st) (usual.filterUrl_eq here told)
  | filterClass told => exact done rfl (Store.kept_add st _) (usual.filterClass_eq here told)
  | filterStyle told => exact done rfl (.refl st) (usual.filterStyle_eq here told)
  | quote t cls => exact done rfl (.refl st) (usual.quote_eq here t cls)
  | momentLiteral m => exact done rfl (.refl st) (usual.momentLiteral_eq here m)
  | dateLiteral dated =>
    rcases dated with rfl | ⟨m, rfl, rfl⟩
    · exact ⟨st, .refl st, rfl⟩
    · exact ⟨st, .refl st, rfl⟩
  | contains | filterSep | markupAttribute | markupFlag => exact ⟨st, .refl st, rfl⟩

end RenderSource
