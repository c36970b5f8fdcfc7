import RenderSource.Proofs.Library.Agreement
import RenderSource.Proofs.Renderer.Finding
/-!
The names that the library leaves behind in a frame. There they lead where the library means them to, so that its
functions do in that frame what they are meant to do.
-/
namespace RenderSource

namespace Installation

/-- The entries of the table of marks, by the numbers of the marks. -/
def markupNumbers : List (Value × Value) :=
  [ (.ofInt 38, .ofText (wording "&amp;")), (.ofInt 60, .ofText (wording "&lt;")),
    (.ofInt 62, .ofText (wording "&gt;")), (.ofInt 34, .ofText (wording "&quot;")),
    (.ofInt 39, .ofText (wording "&#39;")) ]

variable {e : Env} {st : Store} {a : Address}

theorem find?_plain {es : List (Value × Value)} {key : Value} (plain : ∀ a, key ≠ .ref a) :
    Entries.find? st es key = .ok ((es.find? fun (k, _) => k = key || k.plainEqual key).map (·.2)) := by
  rw [Entries.find?]
  induction es with
  | nil => rfl
  | cons p es ih =>
    obtain ⟨k, w⟩ := p
    rw [List.findM?, List.find?_cons]
    dsimp only
    rw [Value.agrees_plain plain]
    cases k = key || k.plainEqual key with
    | true => rfl
    | false => exact ih

theorem isNumber_eq (k : Char) (c : CodePoint) : (decide (Value.ofInt (k.toNat : Int) = .ofInt c.val) ||
    (Value.ofInt (k.toNat : Int)).plainEqual (.ofInt c.val)) = decide (c = .scalar k) := by
  have same : (k.toNat : Int) = c.val ↔ c = .scalar k := by
    constructor
    · intro numbers
      exact (CodePoint.val_injective (d := c) (Int.ofNat.inj numbers : (CodePoint.scalar k).val = c.val)).symm
    · rintro rfl
      rfl
  simp only [Value.ofInt, Value.plainEqual, Value.asInt?, Value.int.injEq, and_true, same, Bool.or_self]

theorem markupNumbers_find (c : CodePoint) :
    markupNumbers.find? (fun (k, _) => k = .ofInt c.val || k.plainEqual (.ofInt c.val)) =
      (entity? c).map fun e => (.ofInt c.val, .ofText (wording e)) := by
  have marks : markupNumbers = [('&', "&amp;"), ('<', "&lt;"), ('>', "&gt;"), ('"', "&quot;"), ('\'', "&#39;")].map
      fun p => (.ofInt (p.1.toNat : Int), .ofText (wording p.2)) := rfl
  rw [marks]
  simp only [List.map_cons, List.map_nil, List.find?_cons, List.find?_nil, isNumber_eq, entity?]
  by_cases known : c ∈ [CodePoint.scalar '&', .scalar '<', .scalar '>', .scalar '"', .scalar '\'']
  · simp only [List.mem_cons, List.not_mem_nil, or_false] at known
    rcases known with rfl | rfl | rfl | rfl | rfl <;> rfl
  · simp only [List.mem_cons, List.not_mem_nil, or_false, not_or] at known
    simp [known]

theorem markupNumbers_item (table : st.get? a = some (.dict markupNumbers none)) (c : CodePoint) :
    Value.itemAtKey st (.ref a) (.ofInt c.val) =
      (entity? c).elim (.error .missingKey) fun e => .ok (.ofText (wording e)) := by
  have plain : ∀ b, Value.ofInt c.val ≠ .ref b := by
    intro b same
    cases same
  simp only [Value.itemAtKey, Value.cell?, table, Value.isHashable_plain plain, find?_plain plain, markupNumbers_find]
  cases entity? c <;> rfl

theorem replacement_eq (table : st.get? a = some (.dict markupNumbers none)) (c : CodePoint) :
    ByName.replacement (.ref a) c st = (.ok (escapeMarkup c), st) := by
  rw [ByName.replacement, Run.look_apply, markupNumbers_item table, escapeMarkup]
  cases entity? c <;> rfl

/-- The code points that a literal writes in a way of their own. -/
def namedEscapes : List CodePoint := [.scalar '\\', .scalar '"', .scalar '\n', .scalar '\t', .scalar '\r']

theorem literalEntries_find (c : CodePoint) :
    ((textEntries literalEntries).find? fun (k, _) => k = .ofText [c] || k.plainEqual (.ofText [c])) =
      if c ∈ namedEscapes then some (.ofText [c], .ofText (Text.escapeInLiteral c)) else none := by
  have equal : ∀ t : Text, (decide (Value.ofText t = .ofText [c]) || (Value.ofText t).plainEqual (.ofText [c])) =
      decide (t = [c]) := by
    intro t
    simp [Value.ofText, Value.plainEqual]
  have entries : textEntries literalEntries =
      namedEscapes.map fun d => (.ofText [d], .ofText (Text.escapeInLiteral d)) := rfl
  rw [entries]
  simp only [namedEscapes, List.map_cons, List.map_nil, List.find?_cons, List.find?_nil, equal, List.cons.injEq,
    and_true]
  by_cases known : c ∈ namedEscapes
  · simp only [namedEscapes, List.mem_cons, List.not_mem_nil, or_false] at known
    rcases known with rfl | rfl | rfl | rfl | rfl <;> rfl
  · simp only [namedEscapes, List.mem_cons, List.not_mem_nil, or_false, not_or] at known
    simp [known, eq_comm (b := c)]

theorem escape_unnamed {c : CodePoint} (unfit : Text.unsafeInLiteral c = true) (other : c ∉ namedEscapes) :
    Text.escapeInLiteral c = if 0xD800 ≤ c.val then wording "\\u" ++ Decimal.hexPadded 4 c.val
      else wording "\\x" ++ Decimal.hexPadded 2 c.val := by
  simp only [namedEscapes, List.mem_cons, List.not_mem_nil, or_false, not_or] at other
  obtain ⟨backslash, mark, newline, tab, ret⟩ := other
  have written : Text.escapeInLiteral c = if c.isSurrogate then wording "\\u" ++ Decimal.hexPadded 4 c.val
      else wording "\\x" ++ Decimal.hexPadded 2 c.val := by
    simp only [Text.escapeInLiteral, backslash, mark, newline, tab, ret, unfit, if_false, if_true]
  rw [written]
  cases surrogate : c.isSurrogate with
  | true => rw [if_pos rfl, if_pos (CodePoint.val_surrogate surrogate).1]
  | false =>
    have low : ¬ 0xD800 ≤ c.val := by
      simp [Text.unsafeInLiteral, surrogate, mark, backslash] at unfit
      omega
    rw [if_neg (by decide), if_neg low]

theorem escapeMatch_eq {I : Store → Prop} (means : e.Means I) (here : I st)
    (named : e.named "_LITERAL_ESCAPES" st = (.ok (.ref a), st))
    (table : st.get? a = some (.dict (textEntries literalEntries) none)) {c : CodePoint}
    (unfit : Text.unsafeInLiteral c = true) (place : Nat) :
    ByName.escapeMatch e (.entity (.found c place)) st = (.ok (.ofText (Text.escapeInLiteral c)), st) := by
  have known : ByName.getFrom e (.ref a) (.ofText [c]) st =
      (.ok (if c ∈ namedEscapes then .ofText (Text.escapeInLiteral c) else .none), st) := by
    have usable : (Value.ofText [c]).isHashable st = true := Value.isHashable_plain (by nofun)
    rw [ByName.getFrom, Run.look_bind]
    simp only [Value.entries?, Value.cell?, table, Run.look_apply, usable, @find?_plain st _ (.ofText [c]) (by nofun),
      literalEntries_find]
    by_cases known : c ∈ namedEscapes
    · rw [if_pos known, if_pos known]
      rfl
    · rw [if_neg known, if_neg known]
      rfl
  have matched : ByName.matched e (.entity (.found c place)) st = (.ok (.ofText [c]), st) := rfl
  rw [ByName.escapeMatch, Run.bind_ok matched, Run.bind_ok named, Run.bind_ok known]
  by_cases short : c ∈ namedEscapes
  · rw [if_pos short]
    rfl
  · have code : e.callNamed "ord" [.ofText [c]] st = (.ok (.ofInt c.val), st) := by
      rw [means.callNamed_function here (by decide)]
      rfl
    have high : Value.atMost st (.ofInt 0xD800) (.ofInt c.val) = .ok (decide (0xD800 ≤ (c.val : Int))) :=
      Value.atMost_eq rfl rfl
    rw [if_neg short, if_neg (by decide), escape_unnamed unfit short]
    refine (Run.bind_ok code).trans ?_
    rw [Run.look_bind, high]
    dsimp only [Value.ofInt, Value.asInt?]
    by_cases wide : 0xD800 ≤ c.val
    · rw [if_pos wide, if_pos (by simpa using wide)]
      rfl
    · rw [if_neg wide, if_neg (by simpa using wide)]
      rfl

end Installation

/-- What the library uses of what is in scope everywhere. -/
def Library.usedValues : List (String × Value) :=
  usedFunctions.map (fun n => (n, .builtin (wording n) false)) ++
    (usedClasses ++ ["Exception", "TypeError", "ValueError"]).map fun n => (n, Value.builtinClass n)

theorem Library.usedValues_everywhere : ∀ p ∈ usedValues, Builtin.find? (wording p.1) = some p.2 := by decide

namespace Program

/-- The names of the library's own that lead to no cell. -/
def ownNames (i : Nat) : List (String × Value) :=
  [ ("Mapping", Value.mappingClass), ("_quote_component", .entity .percentQuote),
    ("_LITERAL_UNSAFE", .entity .unsafePattern), ("_escape_literal_char", .entity (.function .escapeMatch (some i))),
    ("_EPOCH", Installation.epoch .naive), ("_EPOCH_UTC", Installation.epoch (.fixed 0)),
    ("_MILLISECOND", .duration 1000) ] ++
  LibraryFunction.all.map fun f => (f.name, .entity (.function (.library f) (some i)))

variable {p : Program} {globals i fuel : Nat} {st : Store}

/-- What the library asks of values by is found in frame `i`. -/
structure Grounded (globals i : Nat) (st : Store) : Prop where
  used : ∀ p ∈ Library.usedValues, st.Finds globals i (wording p.1) p.2
  mapping : st.Finds globals i (wording "Mapping") Value.mappingClass
  undefined : st.Finds globals i (wording "is_undefined") (.entity (.function (.library .isUndefined) (some i)))

/-- What is found in frame `i` once the library has run there. -/
structure Installed (globals i : Nat) (st : Store) : Prop where
  used : ∀ p ∈ Library.usedValues, st.Finds globals i (wording p.1) p.2
  own : ∀ p ∈ ownNames i, st.Finds globals i (wording p.1) p.2
  markup : ∃ a, st.Finds globals i (wording "_HTML_ESCAPES") (.ref a) ∧
    st.get? a = some (.dict Installation.markupNumbers none)
  escapes : ∃ a, st.Finds globals i (wording "_LITERAL_ESCAPES") (.ref a) ∧
    st.get? a = some (.dict (Installation.textEntries Installation.literalEntries) none)

theorem function_own {i : Nat} (f : LibraryFunction) :
    (f.name, .entity (.function (.library f) (some i))) ∈ ownNames i := by
  refine List.mem_append_right _ (List.mem_map.mpr ⟨f, ?_, rfl⟩)
  cases f <;> decide

theorem named_eq {call : Calling} {n : String} {v : Value} (finds : st.Finds p.globals i (wording n) v) :
    (p.envAround call i).named n st = (.ok v, st) :=
  congrArg (·, st) finds.around

theorem Installed.grounded (installed : Installed globals i st) : Grounded globals i st where
  used := installed.used
  mapping := installed.own ("Mapping", Value.mappingClass) (by simp [ownNames])
  undefined := installed.own _ (function_own .isUndefined)

theorem Installed.add (installed : Installed globals i st) (c : Cell) : Installed globals i (st.add c).2 := by
  have kept := Store.kept_add st c
  obtain ⟨a, finds, table⟩ := installed.markup
  obtain ⟨b, finds', table'⟩ := installed.escapes
  constructor
  · exact fun p member => (installed.used p member).same rfl
  · exact fun p member => (installed.own p member).same rfl
  · exact ⟨a, finds.same rfl, kept.cells a _ table⟩
  · exact ⟨b, finds'.same rfl, kept.cells b _ table'⟩

theorem means_grounded : (p.envAround (p.call (fuel + 1)) i).Means (Grounded p.globals i) where
  functions n member _ grounded :=
    named_eq (grounded.used (n, .builtin (wording n) false) (List.mem_append_left _ (List.mem_map_of_mem member)))
  classes n member _ grounded :=
    named_eq (grounded.used (n, Value.builtinClass n)
      (List.mem_append_right _ (List.mem_map_of_mem (List.mem_append_left _ member))))
  mapping _ grounded := named_eq grounded.mapping
  answers _ _ _ := ⟨_, rfl⟩
  kept _ _ grounded :=
    ⟨fun p member => (grounded.used p member).same rfl, grounded.mapping.same rfl, grounded.undefined.same rfl⟩

theorem tells_grounded : (p.envAround (p.call (fuel + 2)) i).Tells (Grounded p.globals i) where
  toMeans := means_grounded
  absent v st grounded told := by
    have read : (p.envAround (p.call (fuel + 2)) i).named "is_undefined" st =
        (.ok (.entity (.function (.library .isUndefined) (some i))), st) := named_eq grounded.undefined
    rw [Env.callNamed, Run.bind_ok read]
    exact means_grounded.isUndefined_run grounded told

/-- In the frame where the library has run, its functions find what they are meant to find. -/
theorem usual_installed : (p.envAround (p.call (fuel + 2)) i).Usual (Installed p.globals i) where
  toMeans := means_grounded.restrict (fun _ installed => installed.grounded) fun _ c installed => installed.add c
  absent v _ installed told := tells_grounded.absent v _ installed.grounded told
  component st installed := named_eq (installed.own ("_quote_component", _) (by simp [ownNames]))
  quoting _ _ := rfl
  markup st installed := by
    obtain ⟨a, finds, table⟩ := installed.markup
    exact ⟨.ref a, named_eq finds, Installation.replacement_eq table⟩
  pattern st installed := named_eq (installed.own ("_LITERAL_UNSAFE", _) (by simp [ownNames]))
  escape st installed := by
    obtain ⟨a, finds, table⟩ := installed.escapes
    have read := installed.own ("_escape_literal_char", .entity (.function .escapeMatch (some i))) (by simp [ownNames])
    refine ⟨_, named_eq read, rfl, ?_⟩
    intro c place unfit
    exact Installation.escapeMatch_eq means_grounded installed.grounded (named_eq finds) table unfit place
  naive st installed := named_eq (installed.own ("_EPOCH", Installation.epoch .naive) (by simp [ownNames]))
  aware st installed := named_eq (installed.own ("_EPOCH_UTC", Installation.epoch (.fixed 0)) (by simp [ownNames]))
  millisecond st installed := named_eq (installed.own ("_MILLISECOND", _) (by simp [ownNames]))

/-- A function of the library gives the same where it runs by the names of a frame in which the library has run, and
where it is bound as what it is meant to do. -/
theorem call_installed (installed : Installed p.globals i st) {f : LibraryFunction} {args : List Value}
    (takes : Library.Takes (Installed p.globals i) st f args) :
    ∃ st', st.Kept st' ∧ p.call (fuel + 3) (.entity (.function (.library f) (some i))) args [] st =
      p.call (fuel + 3) (.entity (.function (.library f) none)) args [] st' := by
  obtain ⟨st', kept, same⟩ := ByName.run_eq usual_installed installed takes fun g vs => p.call (fuel + 2) g vs []
  exact ⟨st', kept, same⟩

end Program

end RenderSource
