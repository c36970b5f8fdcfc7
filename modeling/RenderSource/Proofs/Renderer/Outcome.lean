import RenderSource.Proofs.Renderer.Compiled
import RenderSource.Proofs.Renderer.Outside
/-!
What loading gives for a buffer that was filled by steps in any order. The outline of its source tells: a
statement may stand too deep, or outside of functions, or no function may be there.
-/
namespace RenderSource

/-- What loading a source with an outline gives, but for the renderer itself. -/
def Entry.outcome (c : Config) (width : Nat) (source filename : Text) (es : List Entry) : Except Fault Unit :=
  match fault? width 0 es with
  | some f => .error (.load (Renderer.failure source filename f))
  | none =>
    if ∃ e ∈ es, e.depth = 0 ∧ e.opens = false then .error .unknownName
    else if ∀ e ∈ es, e.depth ≠ 0 then .error (.load ⟨.missingFunction c.functionName, filename, none, none⟩)
    else .ok ()

theorem Entry.fault_problem {width opened : Nat} {es : List Entry} {f : SourceFault}
    (fault : fault? width opened es = some f) : f.problem = .unexpectedIndent ∨ f.problem = .deepBlocks := by
  induction es generalizing opened with
  | nil => cases fault
  | cons e es ih =>
    rw [fault?] at fault
    split at fault
    · cases fault
      exact .inl rfl
    · split at fault
      · cases fault
        exact .inr rfl
      · exact ih fault

theorem Renderer.sourceFault_load {f : SourceFault} (told : f.problem ≠ .noRoom) (source filename : Text) :
    sourceFault source filename f = .load (failure source filename f) := if_neg told

namespace Program

open Placed (IsOuter isDefine)

variable {ps : List Placed} {n : Nat} {st st' : Store} {fault : Fault}

theorem start_done {v : Value} (done : (ofRows ps n).executeAll
      ((ofRows ps n).envOutside ((ofRows ps n).call callLimit)) n none (ps.filter fun q => q.level = 0) st =
        (.ok v, st')) : (ofRows ps n).start st = (.ok (), st') :=
  Run.bind_ok done

theorem start_failed (failed : (ofRows ps n).executeAll
      ((ofRows ps n).envOutside ((ofRows ps n).call callLimit)) n none (ps.filter fun q => q.level = 0) st =
        (.error fault, st')) : (ofRows ps n).start st = (.error fault, st') :=
  Run.bind_error failed

end Program

namespace Renderer

open Placed (isDefine IsOuter)

variable {c : Config} {ps : List Placed} {source filename : Text} {st : Store}

theorem found_eq {fs : Array Frame} (g : Frame) (name : Text) :
    found? (st.withFrames (fs.push g)) fs.size name =
      (g.bound.lookup name).filter fun v => v.isCallable (st.withFrames (fs.push g)) := by
  rw [found?, Store.withFrames, Array.getElem?_push_size, Option.bind_some]

theorem found_outermost {fs : Array Frame} {g : Frame} {name : Text}
    (bound : g.bound.lookup name = (Store.outermost (moduleName name)).bound.lookup name) :
    found? (st.withFrames (fs.push g)) fs.size name = none := by
  rw [found_eq, bound, Store.outermost, List.lookup_cons]
  cases name == wording "__name__" <;> rfl

/-- Accepted statements of which those outside of functions are heads, or join to the output, decide what is
loaded. -/
theorem load_outer (hidden : c.OutputHidden) (normal : c.functionName.normalName = c.functionName)
    (read : statements source filename = .ok ps) (outer : ∀ q ∈ ps, q.level = 0 → q.IsOuter c) :
    (load source c.functionName filename st).1.map (fun _ => ()) =
      if ∃ q ∈ ps, q.level = 0 ∧ isDefine q.statement = false then .error .unknownName
      else if ∀ q ∈ ps, q.level ≠ 0 then .error (.load ⟨.missingFunction c.functionName, filename, none, none⟩)
      else .ok () := by
  let frames := st.frames.push (Store.outermost (moduleName c.functionName))
  let program := Program.ofRows ps st.frames.size
  have here : (st.withFrames frames).frames = frames := rfl
  have fresh : Program.BindsFunction c c.functionName (Store.outermost (moduleName c.functionName)) :=
    fun n other => rfl
  have outside : ∀ q ∈ ps.filter fun q => q.level = 0, q.IsOuter c := by
    intro q member
    obtain ⟨inside, level⟩ := List.mem_filter.mp member
    exact outer q inside (of_decide_eq_true level)
  -- a statement that is no head stops the source before the function is looked up
  by_cases stray : ∃ q ∈ ps, q.level = 0 ∧ isDefine q.statement = false
  · obtain ⟨q, member, level, flat⟩ := stray
    obtain ⟨st', stopped⟩ := @Program.executeAll_stray program c _ _ _ _ _ hidden outside
      ⟨q, List.mem_filter.mpr ⟨member, decide_eq_true level⟩, flat⟩ (program.call Program.callLimit) here rfl fresh
    rw [if_pos ⟨q, member, level, flat⟩, load_stopped read c.functionName (Program.start_failed stopped)]
    rfl
  · have heads := Program.heads_of_outer outside fun ⟨q, member, flat⟩ => by
      obtain ⟨inside, level⟩ := List.mem_filter.mp member
      exact stray ⟨q, inside, of_decide_eq_true level, flat⟩
    obtain ⟨g, done, _, found⟩ := @Program.executeAll_heads program c _ _ _ _ _ heads
      (program.envOutside (program.call Program.callLimit)) here fresh
    rw [if_neg stray, load_started read c.functionName (Program.start_done done)]
    rw [normal] at found
    cases last : (ps.filter fun q => q.level = 0).getLast? with
    | none =>
      have inner : ∀ q ∈ ps, q.level ≠ 0 := by
        intro q member level
        have none := List.getLast?_eq_none_iff.mp last
        exact absurd (List.mem_filter.mpr ⟨member, decide_eq_true level⟩) (none ▸ List.not_mem_nil)
      rw [last] at found
      rw [if_pos inner, found_outermost found]
      rfl
    | some q =>
      obtain ⟨inside, level⟩ := List.mem_filter.mp (List.mem_of_getLast? last)
      rw [last] at found
      rw [if_neg fun inner => inner q inside (of_decide_eq_true level), found_eq, found]
      rfl

end Renderer

namespace Portion

open Placed (verdict)

variable {c : Config} {st : Store} {width : Nat} {ps : List Portion}

theorem rows_fit (accepted : c.Accepted) {p : Portion} (stated : Stated c st p) :
    ∀ r ∈ p.rows c st width, r.Fit := by
  have fit : ∀ n, ∀ s : Statement, s.Spells → (statementRow width n s).Fit := by
    intro n s spells
    exact Text.fit_append (Text.fit_blanks _) spells.fit
  cases p with
  | opening n =>
    refine List.forall_mem_cons.mpr ⟨fit n _ accepted.spells_head,
      List.forall_mem_append.mpr ⟨Library.placedRows_fit _ _, List.forall_mem_singleton.mpr ?_⟩⟩
    exact fit (n + 1) _ accepted.spells_init
  | piece n p => exact List.forall_mem_singleton.mpr (fit n _ (stated.spells accepted))
  | closing n => exact List.forall_mem_singleton.mpr (fit n _ accepted.spells_end)

theorem flatMap_fit (accepted : c.Accepted) (each : ∀ p ∈ ps, Stated c st p) : ∀ r ∈ ps.flatMap (rows c st width), r.Fit := by
  intro r member
  obtain ⟨p, inside, within⟩ := List.mem_flatMap.mp member
  exact rows_fit accepted (each p inside) r within

theorem load_portions (accepted : c.Accepted) (names : Placed.NamesFree c) (hidden : c.OutputHidden)
    (normal : c.functionName.normalName = c.functionName) (positive : 1 ≤ width) {filename : Text}
    (named : filename.any Renderer.isNull = false) (each : ∀ p ∈ ps, Reads c st p) {st' : Store} :
    (Renderer.load (Text.ofRows (ps.flatMap (rows c st width))) c.functionName filename st').1.map (fun _ => ()) =
      Entry.outcome c width (Text.ofRows (ps.flatMap (rows c st width))) filename
        ((placedFrom c st width 1 ps).map Placed.entry) := by
  have fit := @flatMap_fit c st width ps accepted fun p member => (each p member).toStated
  have fitSource := Text.ofRows_fit fit
  obtain ⟨count, enough, read⟩ := Placed.read_fit fit
  have verdicts := @readRows_portions c st width count count 1 0 accepted positive ps each (Nat.zero_le _) enough
  rw [Placed.stack] at verdicts
  rw [verdicts] at read
  rw [Entry.outcome]
  cases fault : Entry.fault? width 0 ((placedFrom c st width 1 ps).map Placed.entry) with
  | some f =>
    rw [fault] at read
    have told : f.problem ≠ .noRoom := by rcases Entry.fault_problem fault with same | same <;> rw [same] <;> decide
    rw [Renderer.load_refused (Renderer.statements_broken named fitSource read), Renderer.sourceFault_load told]
    rfl
  | none =>
    rw [fault] at read
    have sound : Placed.misplaced? (placedFrom c st width 1 ps) = none := by
      refine Placed.misplaced_sound fun q member => ?_
      obtain ⟨p, inside, r, found⟩ := mem_placedFrom member
      exact placed_sound accepted names (each p inside).toStated found
    rw [Renderer.load_outer hidden normal (Renderer.statements_ok named fitSource read sound)]
    · simp [Placed.entry]
    · intro q member outside
      obtain ⟨p, inside, r, found⟩ := mem_placedFrom member
      exact placed_outer (each p inside).toStated found outside

theorem fault_housed {n opened row : Nat} (housed : Housed n ps) (within : n ≤ opened) :
    Entry.fault? width opened ((placedFrom c st width row ps).map Placed.entry) = none := by
  induction ps generalizing n opened row with
  | nil => rfl
  | cons p ps ih =>
    rw [placedFrom, List.map_append]
    cases p with
    | opening m =>
      obtain ⟨rfl, shallow, later⟩ := housed
      rw [fault_opening, if_neg (Nat.not_lt.mpr within), if_neg (Nat.not_le.mpr shallow)]
      exact ih later (Nat.le_refl _)
    | piece m p =>
      obtain ⟨rfl, _, later⟩ := housed
      exact (fault_at rfl m _).trans ((if_neg (Nat.not_lt.mpr within)).trans (ih later (Nat.le_refl _)))
    | closing m =>
      obtain ⟨rfl, _, later⟩ := housed
      exact (fault_at rfl m _).trans ((if_neg (Nat.not_lt.mpr within)).trans (ih later (Nat.sub_le _ _)))

theorem heads_housed {n row : Nat} (housed : Housed n ps) :
    ∀ q ∈ placedFrom c st width row ps, q.level = 0 → Placed.isDefine q.statement = true := by
  induction ps generalizing n row with
  | nil => exact nofun
  | cons p ps ih =>
    intro q member outside
    rcases List.mem_append.mp member with here | behind
    · cases p with
      | opening m =>
        simp only [placed, List.mem_cons, List.not_mem_nil, or_false] at here
        rcases here with rfl | rfl | rfl
        · rfl
        · cases outside
        · cases outside
      | piece m p =>
        obtain rfl := List.mem_singleton.mp here
        exact absurd (housed.1.symm.trans outside) housed.2.1
      | closing m =>
        obtain rfl := List.mem_singleton.mp here
        exact absurd (housed.1.symm.trans outside) housed.2.1
    · cases p with
      | opening m => exact ih housed.2.2 q behind outside
      | piece m p => exact ih housed.2.2 q behind outside
      | closing m => exact ih housed.2.2 q behind outside

theorem outcome_housed (housed : Housed 0 ps) (some : ps ≠ []) (source filename : Text) :
    Entry.outcome c width source filename ((placedFrom c st width 1 ps).map Placed.entry) = .ok () := by
  have heads : ¬∃ e ∈ (placedFrom c st width 1 ps).map Placed.entry, e.depth = 0 ∧ e.opens = false := by
    rintro ⟨e, member, outside, flat⟩
    obtain ⟨q, inside, rfl⟩ := List.mem_map.mp member
    exact Bool.false_ne_true (flat.symm.trans (heads_housed housed q inside outside))
  have first : ¬∀ e ∈ (placedFrom c st width 1 ps).map Placed.entry, e.depth ≠ 0 := by
    cases ps with
    | nil => exact absurd rfl some
    | cons p ps =>
      cases p with
      | opening n =>
        intro inner
        exact inner _ List.mem_cons_self housed.1
      | piece n p => exact absurd rfl housed.2.1
      | closing n => exact absurd rfl housed.2.1
  rw [Entry.outcome, fault_housed housed (Nat.le_refl 0)]
  dsimp only
  rw [if_neg heads, if_neg first]

end Portion

theorem Config.outputHidden_standard : Config.standard.OutputHidden := by
  constructor <;> decide +kernel

structure Piece.Plain (st : Store) (p : Piece) : Prop where
  calls : p.CallsNames
  source : p.HasSource st (wording "data")
  shallow : (p.term st (wording "data")).nesting ≤ Statement.sureNesting

theorem Piece.Plain.room {st : Store} {p : Piece} (plain : p.Plain st) (n : Nat) :
    (Portion.piece n p).HasRoom .standard st := by
  intro inside
  exact plain.source.fits (Config.check_accepted Config.checked_standard) plain.calls plain.shallow
    (Nat.lt_of_le_of_lt inside (by decide))

theorem Step.hasRoom_of_plain {st : Store} {steps : List Step} (plain : ∀ p, .piece p ∈ steps → p.Plain st) :
    ∀ q ∈ portionsOf 0 steps, q.HasRoom .standard st := by
  intro q member
  cases q with
  | piece n p => exact (plain p (piece_of_portion member)).room n
  | opening n | closing n => trivial

namespace Renderer

open Portion (Keeps Reads Stated placedFrom rows)

variable {steps : List Step} {b : Buffer} {st : Store} {source : Text}

theorem stated_kept {c : Config} {ps : List Portion} (keeps : Keeps (Step.portionsOf 0 steps) ps)
    (calls : ∀ p, .piece p ∈ steps → p.CallsNames) (sources : ∀ n p, .piece n p ∈ ps → p.HasSource st c.dataName)
    (inside : ∀ n, .closing n ∈ ps → n ≠ 0) : ∀ p ∈ ps, Stated c st p := by
  have called : ∀ q ∈ ps, ∀ n p, q = .piece n p → p.CallsNames := by
    refine keeps.forall (fun n t m p same => ?_) (fun q member n p same => ?_)
    · cases same
      trivial
    · exact calls p (Step.piece_of_portion (same ▸ member))
  intro q member
  refine ⟨?_, ?_, ?_⟩
  · exact fun n p same => sources n p (same ▸ member)
  · exact called q member
  · exact fun n same => inside n (same ▸ member)

theorem reads_kept {ps : List Portion} (keeps : Keeps (Step.portionsOf 0 steps) ps)
    (calls : ∀ p, .piece p ∈ steps → p.CallsNames)
    (room : ∀ q ∈ Step.portionsOf 0 steps, q.HasRoom .standard st)
    (sources : ∀ n p, .piece n p ∈ ps → p.HasSource st (wording "data")) (inside : ∀ n, .closing n ∈ ps → n ≠ 0) :
    ∀ p ∈ ps, Reads .standard st p := by
  have literal : ∀ t, (Piece.literal t).Plain st := fun t => ⟨trivial, trivial, Nat.zero_le _⟩
  have kept : ∀ q ∈ ps, q.HasRoom .standard st := keeps.forall (fun n t => (literal t).room n) room
  exact fun q member => ⟨stated_kept keeps calls sources inside q member, kept q member⟩

section

variable (performed : (Buffer.ofConfig .standard).performAll steps = .ok b)
  (calls : ∀ p, .piece p ∈ steps → p.CallsNames)
  (room : ∀ q ∈ Step.portionsOf 0 steps, q.HasRoom .standard st) (given : b.source st = .ok source)

include performed calls room given

theorem ofBuffer_portions : ∃ ps, Keeps (Step.portionsOf 0 steps) ps ∧
    b.outline st = (placedFrom .standard st 4 1 ps).map Placed.entry ∧
    (ofBuffer b standardFilename st).1.map (fun _ => ()) =
      Entry.outcome .standard 4 source standardFilename ((placedFrom .standard st 4 1 ps).map Placed.entry) := by
  have clear := Config.clear_standard Config.checked_standard
  have whole : Config.standard.indentWidth.asInt? = some ((4 : Nat) : Int) := rfl
  obtain ⟨ps, keeps, rfl, outline, sources, inside⟩ :=
    Buffer.performed_portions clear.toAccepted whole performed calls given
  have same : ofBuffer b standardFilename st =
      load (Text.ofRows (ps.flatMap (rows .standard st 4))) (wording "render") standardFilename st := by
    rw [ofBuffer_source given, (Buffer.performAll_ok performed).2.1]
    rfl
  refine ⟨ps, keeps, outline, ?_⟩
  rw [same]
  exact Portion.load_portions clear.toAccepted (Config.namesFree_standard Config.checked_standard) Config.outputHidden_standard
    (by decide) (by decide) (by decide) (reads_kept keeps calls room sources inside)

theorem ofBuffer_outline : (ofBuffer b standardFilename st).1.map (fun _ => ()) =
    Entry.outcome .standard 4 source standardFilename (b.outline st) := by
  obtain ⟨ps, _, outline, loaded⟩ := ofBuffer_portions performed calls room given
  rw [outline]
  exact loaded

theorem ofBuffer_housed (housed : Step.housed 0 steps = true) (some : steps ≠ []) :
    ∃ r, (ofBuffer b standardFilename st).1 = .ok r := by
  obtain ⟨ps, keeps, _, loaded⟩ := ofBuffer_portions performed calls room given
  have opens := keeps.opens 0 (Portion.opening_housed housed some)
  rw [Portion.outcome_housed (keeps.housed 0 (Portion.housed_portions housed)) (List.ne_nil_of_mem opens)] at loaded
  obtain ⟨r, done, _⟩ := ok_of_map loaded
  exact ⟨r, done⟩

end

/-- A literal behind a renderer, one block too deep; the empty one in front of it is no statement. -/
def strayed : List Step :=
  [.start, .finish, .piece .data, .piece (.literal []), .indent, .piece (.literal (wording "x"))]

def enclosed : List Step :=
  [.start, .piece (.literal (wording "<p>")), .start, .piece .data, .finish, .piece (.literal (wording "</p>")), .finish]

theorem fault_strayed : Entry.fault? 4 0 ((placedFrom .standard Store.empty 4 1
    (Portion.kept (Step.portionsOf 0 strayed))).map Placed.entry) = some ⟨.unexpectedIndent, 293, 3⟩ := by
  decide +kernel

def tower (k : Nat) : List Step := List.replicate k .start ++ List.replicate k .finish

theorem piece_tower (k : Nat) (p : Piece) : .piece p ∉ tower k := by
  simp [tower]

theorem length_tower (k : Nat) : (tower k).length = k + k := by
  simp [tower]

theorem portions_starts (k n : Nat) (later : List Step) :
    Step.portionsOf n (List.replicate k .start ++ later) =
      (List.range' n k).map Portion.opening ++ Step.portionsOf (n + k) later := by
  induction k generalizing n with
  | zero => rfl
  | succ k ih =>
    rw [List.replicate_succ, List.cons_append, Step.portionsOf, Step.depthBehind, ih, List.range'_succ, Nat.add_right_comm]
    rfl

theorem fault_starts {k n row width : Nat} {c : Config} (deep : Step.startLimit < n + k) (few : n ≤ Step.startLimit)
    (later : List Portion) :
    ∃ r, Entry.fault? width n ((placedFrom c st width row ((List.range' n k).map Portion.opening ++ later)).map
      Placed.entry) = some ⟨.deepBlocks, r, 0⟩ := by
  induction k generalizing n row with
  | zero => exact absurd few (Nat.not_le.mpr deep)
  | succ k ih =>
    rw [List.range'_succ, List.map_cons, List.cons_append, placedFrom, List.map_append, Portion.fault_opening,
      if_neg (Nat.lt_irrefl n)]
    by_cases last : Step.startLimit ≤ n
    · exact ⟨_, if_pos last⟩
    · rw [if_neg last]
      exact ih (by omega) (by omega)

theorem fault_tower (k : Nat) (deep : Step.startLimit < k) {c : Config} {width : Nat} :
    ∃ r, Entry.fault? width 0 ((placedFrom c st width 1 (Portion.kept (Step.portionsOf 0 (tower k)))).map Placed.entry) =
      some ⟨.deepBlocks, r, 0⟩ := by
  have kept : Portion.kept (Step.portionsOf 0 (tower k)) = (List.range' 0 k).map Portion.opening ++
      Portion.kept (Step.portionsOf (0 + k) (List.replicate k .finish)) := by
    rw [tower, portions_starts, Portion.kept, List.filter_append, List.filter_eq_self.mpr (by simp [Portion.isEmpty])]
    rfl
  rw [kept]
  exact fault_starts (by omega) (Nat.zero_le _) _

theorem tower_refused {k : Nat} (deep : Step.startLimit < k)
    (performed : (Buffer.ofConfig .standard).performAll (tower k) = .ok b) (given : b.source st = .ok source) :
    ∃ f, (ofBuffer b standardFilename st).1 = .error f := by
  have accepted := Config.check_accepted Config.checked_standard
  have none : ∀ {P : Piece → Prop} p, .piece p ∈ tower k → P p := fun p member => absurd member (piece_tower k p)
  have apart := @Portion.groups_plain .standard (Step.portionsOf 0 (tower k)) fun n t member =>
    piece_tower k _ (Step.piece_of_portion member)
  have told := ofBuffer_outline performed none (Step.hasRoom_of_plain none) given
  obtain ⟨r, fault⟩ := @fault_tower st k deep .standard 4
  rw [Buffer.outline_performed accepted rfl performed none apart given, Entry.outcome, fault] at told
  cases refused : (ofBuffer b standardFilename st).1 with
  | ok r =>
    rw [refused] at told
    cases told
  | error f => exact ⟨f, rfl⟩

theorem nested_refused (given : (Buffer.ofBody .standard [.expression nestedConstant]).source (nested 200) = .ok source) :
    ∃ f, (ofBuffer (Buffer.ofBody .standard [.expression nestedConstant]) standardFilename (nested 200)).1 = .error f := by
  have accepted := Config.check_accepted Config.checked_standard
  obtain ⟨width, four, positive, rfl, sources⟩ := Buffer.source_ofBody accepted nested_free given
  obtain rfl : width = 4 := Int.ofNat.inj (Option.some.inj four).symm
  have spelled := Config.statements_body accepted sources nested_free
  obtain ⟨f, unread⟩ := nested_unread accepted spelled
  exact ⟨_, congrArg Prod.fst (ofBuffer_broken (by decide) given (Buffer.renderRows_fit accepted spelled) unread)⟩

end Renderer

end RenderSource
