import RenderSource.Proofs.Renderer.Names
import RenderSource.Proofs.Renderer.Reading
/-!
Running a renderer: its statements join the texts of the pieces of its body, one behind the other, and the
first piece that fails ends the run.
-/
namespace RenderSource

namespace Piece

open Descriptor (evaluate_named)

variable {e : Env} {dataName version : Text} {value : Value} {frames : Array Frame} {st st₀ : Store}

theorem HasSource.evaluate {p : Piece} (source : p.HasSource st₀ dataName) (free : p.CallFree)
    (knows : e.KnowsLibrary dataName value version frames) (here : st.frames = frames) :
    (p.term st₀ dataName).evaluate e st = (do return .ofText (← p.text st₀ version value) : Run Value) st := by
  cases p with
  | literal t => rfl
  | data =>
    have given : Term.evaluateAll e [.name dataName] st = (pure [value] : Run (List Value)) st :=
      Run.bind_ok (knows.data st here)
    rw [text, Run.look_map]
    exact evaluate_named knows here .literal (by decide) (Run.frameless_pure _) given
  | version =>
    have given : Term.evaluateAll e [.name (wording "RENDERER_VERSION")] st =
        (pure [.ofText version] : Run (List Value)) st := Run.bind_ok (knows.version st here)
    exact evaluate_named knows here .toText (by decide) (Run.frameless_pure _) given
  | expression d =>
    obtain ⟨t, written⟩ := source
    exact Descriptor.evaluate_textTree written knows free.calls st here

theorem HasSource.usesPlainly {p : Piece} (source : p.HasSource st₀ dataName) (free : p.CallFree)
    (data : Library.binds dataName.normalName = false) : (p.term st₀ dataName).usesLibraryPlainly = true := by
  have freeData : Term.isFree dataName = true := by simp [Term.isFree, data]
  cases p with
  | literal t => rfl
  | data => exact Term.usesPlainly_call (by decide) (List.forall_mem_singleton.mpr freeData)
  | version => exact Term.usesPlainly_call (by decide) (List.forall_mem_singleton.mpr (by decide))
  | expression d =>
    obtain ⟨t, written⟩ := source
    exact Descriptor.textTree_usesPlainly written freeData free.calls

end Piece

namespace Config

variable {c : Config} {st : Store} {ps : List Piece}

theorem forall_statements {P : Statement → Prop} (first : P (.assign c.accumulator (.text [])))
    (each : ∀ p ∈ ps, P (.augment c.accumulator (p.term st c.dataName)))
    (last : P (.give (.name c.accumulator))) : ∀ s ∈ c.statements st ps, P s := by
  rw [statements]
  refine List.forall_mem_append.mpr ⟨List.forall_mem_cons.mpr ⟨first, ?_⟩, List.forall_mem_singleton.mpr last⟩
  exact List.forall_mem_map.mpr each

theorem statements_body (accepted : c.Accepted) (sources : ∀ p ∈ ps, p.HasSource st c.dataName)
    (free : ∀ p ∈ ps, p.CallFree) : Placed.IsBody (c.statements st ps) := by
  apply forall_statements
  · exact ⟨.assign accepted.accumulator (.text []), rfl⟩
  · intro p member
    exact ⟨.augment accepted.accumulator ((sources p member).emitted accepted.dataName (free p member).callsNames), rfl⟩
  · exact ⟨.give (.path (.name accepted.accumulator)), rfl⟩

theorem statements_names : ∀ s ∈ c.statements st ps, ∀ n ∈ s.names, n = c.accumulator.normalName := by
  apply forall_statements
  · exact fun n bound => List.mem_singleton.mp bound
  · exact fun p member n bound => List.mem_singleton.mp bound
  · exact List.forall_mem_nil _

theorem statements_plain (clear : c.Clear) (sources : ∀ p ∈ ps, p.HasSource st c.dataName)
    (free : ∀ p ∈ ps, p.CallFree) :
    ∀ s ∈ c.statements st ps, ∀ t ∈ s.term?, t.usesLibraryPlainly = true := by
  apply forall_statements
  · rintro t ⟨⟩
    rfl
  · rintro p member t ⟨⟩
    exact (sources p member).usesPlainly (free p member) clear.dataName'.unbound
  · rintro t ⟨⟩
    simp [Term.usesLibraryPlainly, Term.isFree, clear.accumulator'.unbound]

end Config

namespace Placed

theorem usedByLibrary_none {n : Text} (unused : n.IsUnused) :
    (usedByLibrary.all fun m => wording m != n.normalName) = true := by
  rw [List.all_eq_true]
  exact fun m member => bne_iff_ne.mpr (unused m member)

theorem head_keepsClear {c : Config} (clear : c.Clear) : (head c).keepsClear true = true := by
  have hides : (head c).hidingNames true = [c.dataName.normalName] := rfl
  have own : (head c).ownNames = [c.functionName.normalName, c.dataName.normalName] := rfl
  rw [keepsClear, hides, own, List.all_cons, List.all_cons, List.all_cons, usedByLibrary_none clear.functionName',
    usedByLibrary_none clear.dataName'.unused, clear.dataName'.unbound]
  rfl

theorem ownNames_flat {p : Placed} (flat : isDefine p.statement = false) :
    ∀ n ∈ p.ownNames, n ∈ p.statement.names := by
  intro n member
  unfold ownNames at member
  cases same : p.statement with
  | define f q =>
    rw [same] at flat
    cases flat
  | library v =>
    rw [same] at member
    cases member
  | _ =>
    rw [same] at member
    exact member

theorem hidingNames_flat {p : Placed} (flat : isDefine p.statement = false) (inside : Bool) :
    p.hidingNames inside = p.ownNames := by
  unfold hidingNames
  split
  · rename_i f q same
    rw [same] at flat
    cases flat
  · rfl

theorem keepsClear_flat {p : Placed} (flat : isDefine p.statement = false)
    (names : ∀ n ∈ p.statement.names, ∃ m : Text, m.IsClear ∧ n = m.normalName)
    (plain : ∀ t ∈ p.statement.term?, t.usesLibraryPlainly = true) (inside : Bool) :
    p.keepsClear inside = true := by
  have own := ownNames_flat flat
  rw [keepsClear, hidingNames_flat flat, Bool.and_eq_true, Bool.and_eq_true, List.all_eq_true, List.all_eq_true]
  refine ⟨⟨?_, ?_⟩, ?_⟩
  · intro n member
    obtain ⟨m, clear, rfl⟩ := names n (own n member)
    rw [clear.unbound, Bool.not_false]
  · intro n member
    obtain ⟨m, clear, rfl⟩ := names n (own n member)
    exact usedByLibrary_none clear.unused
  · cases term : p.statement.term? with
    | none => rfl
    | some t => exact plain t term

theorem renderer_libraryInside (c : Config) (k : Nat) (ss : List Statement) :
    libraryInside (renderer c k ss) = true := by
  rw [libraryInside, List.all_eq_true]
  refine List.forall_mem_cons.mpr ⟨rfl, List.forall_mem_cons.mpr ⟨rfl, fun p member => ?_⟩⟩
  rw [(mem_placedFrom member).1]
  exact Bool.or_true _

theorem renderer_keepsClear {c : Config} (clear : c.Clear) (k : Nat) {st : Store} {ps : List Piece}
    (sources : ∀ p ∈ ps, p.HasSource st c.dataName) (free : ∀ p ∈ ps, p.CallFree) :
    (renderer c k (c.statements st ps)).all (keepsClear (libraryInside (renderer c k (c.statements st ps)))) =
      true := by
  have body := Config.statements_body clear.toAccepted sources free
  rw [renderer_libraryInside, List.all_eq_true]
  refine List.forall_mem_cons.mpr ⟨head_keepsClear clear, List.forall_mem_cons.mpr ⟨rfl, ?_⟩⟩
  intro p member
  obtain ⟨_, inside⟩ := mem_placedFrom member
  refine keepsClear_flat (body _ inside).2 (fun n bound => ?_) (Config.statements_plain clear sources free _ inside)
    true
  exact ⟨_, clear.accumulator', Config.statements_names _ inside n bound⟩

end Placed

namespace Store

theorem setIfInBounds_push (fs : Array Frame) (f g : Frame) :
    (fs.push f).setIfInBounds fs.size g = fs.push g := by
  have inside : fs.size < (fs.push f).size := by simp
  rw [Array.setIfInBounds, dif_pos inside, Array.set_push, dif_neg (Nat.lt_irrefl _)]

variable {st : Store} {fs : Array Frame} {f : Frame}

theorem bind_last (here : st.frames = fs.push f) (n : Text) (v : Value) : st.bind fs.size n v =
    st.withFrames (fs.push { f with bound := (n, v) :: f.bound.filter fun (m, _) => m != n }) := by
  rw [bind, here, Array.getElem?_push_size]
  exact congrArg st.withFrames (setIfInBounds_push fs f _)

theorem bindAll_last (here : st.frames = fs.push f) (named : List (Text × Value)) : st.bindAll fs.size named =
    st.withFrames (fs.push { f with bound := named ++ f.bound }) := by
  rw [bindAll, here, Array.getElem?_push_size]
  exact congrArg st.withFrames (setIfInBounds_push fs f _)

end Store

namespace Config

theorem namesWith_next (c : Config) (value : Value) (s t : Text) :
    (c.accumulator.normalName, Value.ofText t) ::
        (c.namesWith value s).filter (fun (m, _) => m != c.accumulator.normalName) = c.namesWith value t := by
  simp [namesWith, List.filter_filter]

end Config

namespace Statement

theorem Spells.not_handsOut {s : Statement} (spells : s.Spells) : s.term?.any Term.handsOut = false := by
  cases spells with
  | define named given => rfl
  | assign named value | augment named value => exact value.not_handsOut
  | give value => exact value.not_handsOut

end Statement

namespace Program

variable {p : Program} {c : Config} {fuel : Nat} {fs : Array Frame} {f : Frame} {value : Value} {s t : Text}
  {st st₀ : Store}

def frameWith (c : Config) (value : Value) (f : Frame) (s : Text) : Frame :=
  { f with bound := c.namesWith value s }

theorem bind_output (here : st.frames = fs.push (frameWith c value f s)) (t : Text) :
    st.bind fs.size c.accumulator.normalName (.ofText t) =
      st.withFrames (fs.push (frameWith c value f t)) := by
  rw [Store.bind_last here, frameWith, Config.namesWith_next]
  rfl

theorem knows_frame (clear : c.Clear) (fs : Array Frame) (value : Value) (f : Frame) (s : Text) :
    (p.envIn (p.call (fuel + 1)) fs.size).KnowsLibrary c.dataName value c.libraryVersion
      (fs.push (frameWith c value f s)) :=
  knows_names clear Array.getElem?_push_size rfl

theorem read_output (here : st.frames = fs.push (frameWith c value f s)) {call : Calling} :
    (p.envIn call fs.size).read c.accumulator st = (.ok (.ofText s), st) :=
  read_bound Array.getElem?_push_size (Config.lookup_output value s) here

theorem execute_piece (clear : c.Clear) {q : Placed} {piece : Piece}
    (stated : q.statement = .augment c.accumulator (piece.term st₀ c.dataName))
    (source : piece.HasSource st₀ c.dataName) (free : piece.CallFree)
    (here : st.frames = fs.push (frameWith c value f s)) :
    p.execute (p.envIn (p.call (fuel + 1)) fs.size) fs.size (some fs.size) q st =
      (do
        let t ← piece.text st₀ c.libraryVersion value
        Run.update fun st => st.withFrames (fs.push (frameWith c value f (s ++ t)))
        return none : Run (Option Value)) st := by
  have knows := @knows_frame p c fuel clear fs value f s
  have evaluated := source.evaluate free knows here
  rw [execute, stated]
  dsimp only
  rw [Run.bind_ok (read_output here)]
  rcases made : piece.text st₀ c.libraryVersion value st with ⟨_ | t, st'⟩
  · rw [Run.bind_error made] at evaluated
    rw [Run.bind_error evaluated, Run.bind_error made]
  · have here' := ((Piece.text_frameless piece).keeps.apply made).trans here
    rw [Run.bind_ok made] at evaluated
    rw [Run.bind_ok evaluated, Run.bind_ok made]
    have joined : (Value.ofText s).plus (.ofText t) st' = (.ok (.ofText (s ++ t)), st') := rfl
    rw [Run.bind_ok joined]
    exact Run.bind_congr (congrArg (Except.ok (), ·) (bind_output here' (s ++ t))) fun _ _ _ => rfl

/-- The statements behind an output: the texts of the pieces come behind it in order, and all of it is given
back. The induction is on the pieces; the frame keeps its names and changes only in the output. -/
theorem executeAll_pieces (clear : c.Clear) {ps : List Piece} (sources : ∀ q ∈ ps, q.HasSource st₀ c.dataName)
    (free : ∀ q ∈ ps, q.CallFree) (k row : Nat) (here : st.frames = fs.push (frameWith c value f s)) :
    ∃ g, p.executeAll (p.envIn (p.call (fuel + 1)) fs.size) fs.size (some fs.size)
        (Placed.placedFrom row k ((ps.map fun q => .augment c.accumulator (q.term st₀ c.dataName)) ++
          [.give (.name c.accumulator)])) st =
      ((Piece.texts st₀ c.libraryVersion value ps st).1.map fun t => .ofText (s ++ t),
        (Piece.texts st₀ c.libraryVersion value ps st).2.withFrames (fs.push g)) := by
  induction ps generalizing st s row with
  | nil =>
    refine ⟨frameWith c value f s, ?_⟩
    have given : (Term.name c.accumulator).evaluate (p.envIn (p.call (fuel + 1)) fs.size) st =
        (.ok (.ofText s), st) := read_output here
    have kept : st.withFrames (fs.push (frameWith c value f s)) = st := by rw [← here, Store.withFrames_self]
    have returned : p.execute (p.envIn (p.call (fuel + 1)) fs.size) fs.size (some fs.size)
        ⟨row, 1, k, Text.blanks k ++ (Statement.give (.name c.accumulator)).spelled, .give (.name c.accumulator)⟩ st =
          (.ok (some (.ofText s)), st) := Run.bind_ok given
    rw [List.map_nil, List.nil_append, Placed.placedFrom, executeAll, Run.bind_ok returned, Piece.texts,
      Run.pure_apply, kept]
    simp only [Except.map, List.append_nil]
    rfl
  | cons q ps ih =>
    obtain ⟨source, laterSources⟩ := List.forall_mem_cons.mp sources
    obtain ⟨freeHere, laterFree⟩ := List.forall_mem_cons.mp free
    let joining : Statement := .augment c.accumulator (q.term st₀ c.dataName)
    have ran := @execute_piece p c fuel fs f value s st st₀ clear ⟨row, 1, k, Text.blanks k ++ joining.spelled, joining⟩
      q rfl source freeHere here
    rw [List.map_cons, List.cons_append, Placed.placedFrom, executeAll, Piece.texts]
    rcases made : q.text st₀ c.libraryVersion value st with ⟨_ | t, st'⟩
    · have kept := (Piece.text_frameless q).keeps.apply made
      refine ⟨frameWith c value f s, ?_⟩
      rw [Run.bind_error made] at ran
      rw [Run.bind_error ran, Run.bind_error made, ← here, ← kept]
      rfl
    · rw [Run.bind_ok made] at ran
      have ran' : p.execute (p.envIn (p.call (fuel + 1)) fs.size) fs.size (some fs.size)
          ⟨row, 1, k, Text.blanks k ++ joining.spelled, joining⟩ st =
            (.ok none, st'.withFrames (fs.push (frameWith c value f (s ++ t)))) := ran
      obtain ⟨g, later⟩ := @ih (s ++ t) (st'.withFrames (fs.push (frameWith c value f (s ++ t)))) laterSources
        laterFree (row + 1) rfl
      refine ⟨g, ?_⟩
      rw [Run.bind_ok ran', Run.bind_ok made, Run.map_apply]
      dsimp only
      rw [later, Piece.texts_frameless ps st' _]
      cases (Piece.texts st₀ c.libraryVersion value ps st').1 with
      | error e => rfl
      | ok u => simp only [Except.map, List.append_assoc]; rfl

theorem executeAll_body (clear : c.Clear) (plain : p.isPlain = true) {ps : List Piece}
    (sources : ∀ q ∈ ps, q.HasSource st₀ c.dataName) (free : ∀ q ∈ ps, q.CallFree) (k : Nat)
    (here : st.frames = fs.push { f with bound := [(c.dataName.normalName, value)] }) :
    ∃ g, p.executeAll (p.envIn (p.call (fuel + 1)) fs.size) fs.size (some fs.size)
        (Placed.library c k :: Placed.placedFrom (Placed.bodyRow c k) k (c.statements st₀ ps)) st =
      ((Piece.texts st₀ c.libraryVersion value ps st).1.map .ofText,
        (Piece.texts st₀ c.libraryVersion value ps st).2.withFrames (fs.push g)) := by
  let withLibrary := st.withFrames (fs.push { f with bound := c.namesBefore value })
  let begun := st.withFrames (fs.push (frameWith c value f []))
  have installed : p.execute (p.envIn (p.call (fuel + 1)) fs.size) fs.size (some fs.size) (Placed.library c k) st =
      (.ok none, withLibrary) := by
    have bound := Store.bindAll_last here (Installation.plainNames c.libraryVersion)
    rw [execute, Placed.library]
    dsimp only
    rw [if_pos plain, Installation.bindPlainly_eq]
    exact congrArg (Except.ok none, ·) bound
  let first : Statement := .assign c.accumulator (.text [])
  have assigned : p.execute (p.envIn (p.call (fuel + 1)) fs.size) fs.size (some fs.size)
      ⟨Placed.bodyRow c k, 1, k, Text.blanks k ++ first.spelled, first⟩ withLibrary = (.ok none, begun) := by
    have bound := @Store.bind_last withLibrary fs _ rfl c.accumulator.normalName (.ofText [])
    exact congrArg (Except.ok none, ·) bound
  obtain ⟨g, ran⟩ := @executeAll_pieces p c fuel fs f value [] begun st₀ clear ps sources free k
    (Placed.bodyRow c k + 1) rfl
  refine ⟨g, ?_⟩
  rw [executeAll, Run.bind_ok installed]
  dsimp only
  rw [Config.statements, List.cons_append, Placed.placedFrom, executeAll, Run.bind_ok assigned]
  dsimp only
  rw [ran, Piece.texts_frameless ps st _]
  rfl

def enteredBody (c : Config) (k : Nat) (ss : List Statement) : List Placed :=
  Placed.library c k :: Placed.placedFrom (Placed.bodyRow c k) k ss

/-- The frame of a renderer that is called. -/
def enteredFrame (c : Config) (k : Nat) (ss : List Statement) (value : Value) : Frame where
  own := c.dataName.normalName :: (enteredBody c k ss).flatMap fun q => q.statement.names
  bound := [(c.dataName.normalName, value)]
  outer := none
  place := [] ++ c.functionName.normalName ++ wording ".<locals>."

theorem call_enters {k : Nat} {ss : List Statement} (settled : ∀ s ∈ ss, s.term?.any Term.handsOut = false)
    (rows : p.rows = Placed.renderer c k ss) (value : Value) (st : Store) :
    p.call callLimit (.entity (.renderer 1 none)) [value] [] st =
      p.executeAll (p.envIn (p.call 999) st.frames.size) st.frames.size (some st.frames.size) (enteredBody c k ss)
        (st.withFrames (st.frames.push (enteredFrame c k ss value))) := by
  have stays : Placed.bodyOf 0 (enteredBody c k ss) = enteredBody c k ss := by
    have inner : ∀ q ∈ enteredBody c k ss, q.level = 1 :=
      List.forall_mem_cons.mpr ⟨rfl, fun q member => (Placed.mem_placedFrom member).1⟩
    rw [Placed.bodyOf, List.takeWhile_eq_self_iff.mpr, List.filter_eq_self.mpr]
    · intro q member
      simp [inner q member]
    · intro q member
      simp [inner q member]
  have found : Placed.definitionAt? 1 p.rows =
      some ⟨c.functionName.normalName, c.dataName.normalName, enteredBody c k ss⟩ := by
    have first : Placed.definitionAt? 1 (Placed.renderer c k ss) =
        some ⟨c.functionName.normalName, c.dataName.normalName, Placed.bodyOf 0 (enteredBody c k ss)⟩ := rfl
    rw [rows, first, stays]
  have quiet : ((enteredBody c k ss).any fun q => q.statement.term?.any Term.handsOut) = false := by
    rw [List.any_eq_false]
    refine List.forall_mem_cons.mpr ⟨Bool.false_ne_true, fun q member => ?_⟩
    rw [settled _ (Placed.mem_placedFrom member).2]
    exact Bool.false_ne_true
  rw [show callLimit = 998 + 1 + 1 from rfl, call, respond, callRenderer, found]
  simp only [argument?, quiet]
  rfl

/-- Calling a renderer with clear names gives the texts of its body, one behind the other, and leaves behind a
frame more. -/
theorem call_renderer (clear : c.Clear) (plain : p.isPlain = true) {ps : List Piece}
    (sources : ∀ q ∈ ps, q.HasSource st₀ c.dataName) (free : ∀ q ∈ ps, q.CallFree) {k : Nat}
    (rows : p.rows = Placed.renderer c k (c.statements st₀ ps)) (value : Value) (st : Store) :
    ∃ g, p.call callLimit (.entity (.renderer 1 none)) [value] [] st =
      ((Piece.texts st₀ c.libraryVersion value ps st).1.map .ofText,
        (Piece.texts st₀ c.libraryVersion value ps st).2.withFrames (st.frames.push g)) := by
  have spelled := Config.statements_body clear.toAccepted sources free
  have settled : ∀ s ∈ c.statements st₀ ps, s.term?.any Term.handsOut = false :=
    fun s member => (spelled s member).1.not_handsOut
  let f := enteredFrame c k (c.statements st₀ ps) value
  obtain ⟨g, ran⟩ := @executeAll_body p c 998 st.frames f value (st.withFrames (st.frames.push f)) st₀ clear plain ps
    sources free k rfl
  refine ⟨g, ?_⟩
  rw [call_enters settled rows, enteredBody, ran, Piece.texts_frameless ps st _]
  rfl

end Program

end RenderSource
