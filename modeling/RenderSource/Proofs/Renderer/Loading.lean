import RenderSource.Proofs.Renderer.Running
/-!
Loading a renderer: its head is the only statement outside of functions, so a loaded renderer waits for data in
the frame of its own names, and each call joins the texts of its body.
-/
namespace RenderSource

namespace Renderer

variable {source filename : Text} {ps : List Placed}

theorem fit_holds {c : CodePoint} (fits : c.isUnfit = false) : c.isSurrogate = false ∧ isNull c = false := by
  have visible : c.isSurrogate = false ∧ 0x20 ≤ c.val := by
    simp [CodePoint.isUnfit] at fits
    exact ⟨fits.1.1, fits.1.2⟩
  exact ⟨visible.1, decide_eq_false (by omega)⟩

theorem fit_source (fit : ∀ c ∈ source, c = newline ∨ c.isUnfit = false) :
    source.any CodePoint.isSurrogate = false ∧ source.any isNull = false := by
  have each : ∀ c ∈ source, c.isSurrogate = false ∧ isNull c = false := by
    intro c member
    rcases fit c member with rfl | fits
    · decide
    · exact fit_holds fits
  constructor
  · exact List.any_eq_false.mpr fun c member => by simp [(each c member).1]
  · exact List.any_eq_false.mpr fun c member => by simp [(each c member).2]

section

variable (named : filename.any isNull = false) (fit : ∀ c ∈ source, c = newline ∨ c.isUnfit = false)

include named fit

theorem statements_ok (read : Placed.read source = .ok ps) (placed : Placed.misplaced? ps = none) :
    statements source filename = .ok ps := by
  obtain ⟨surrogates, nulls⟩ := fit_source fit
  rw [statements, named, surrogates, nulls, read]
  dsimp only
  rw [placed]
  rfl

theorem statements_broken {f : SourceFault} (broken : Placed.read source = .error f) :
    statements source filename = .error (sourceFault source filename f) := by
  obtain ⟨surrogates, nulls⟩ := fit_source fit
  rw [statements, named, surrogates, nulls, broken]
  rfl

end

theorem ok_of_unless {refused : Bool} {fault : Fault} {x : Except Fault (List Placed)}
    (done : (do
      if refused then throw fault
      x) = .ok ps) : x = .ok ps := by
  cases refused with
  | true => cases done
  | false => exact done

theorem statements_read (done : statements source filename = .ok ps) : Placed.read source = .ok ps := by
  unfold statements at done
  have behind := ok_of_unless (ok_of_unless (ok_of_unless done))
  split at behind
  · cases behind
  · rename_i qs read
    split at behind
    · cases behind
    · cases behind
      exact read

end Renderer

namespace Placed

variable {c : Config} {k : Nat} {ss : List Statement}

theorem renderer_outside : (renderer c k ss).filter (fun q => q.level = 0) = [head c] := by
  have inner : (library c k :: placedFrom (bodyRow c k) k ss).filter (fun q => q.level = 0) = [] := by
    rw [List.filter_eq_nil_iff]
    refine List.forall_mem_cons.mpr ⟨by simp [library], fun q member => ?_⟩
    simp [(mem_placedFrom member).1]
  rw [renderer, List.filter_cons_of_pos (by simp [head]), inner]

end Placed

namespace Program

variable {c : Config} {k : Nat} {ss : List Statement}

def loadedFrame (c : Config) (name : Text) : Frame :=
  { Store.outermost (Renderer.moduleName name) with
    bound := (c.functionName.normalName, .entity (.renderer 1 none)) ::
      (Store.outermost (Renderer.moduleName name)).bound.filter fun (m, _) => m != c.functionName.normalName }

theorem start_renderer (name : Text) (st : Store) :
    (ofRows (Placed.renderer c k ss) st.frames.size).start
        (st.withFrames (st.frames.push (Store.outermost (Renderer.moduleName name)))) =
      (.ok (), st.withFrames (st.frames.push (loadedFrame c name))) := by
  have bound := @Store.bind_last (st.withFrames (st.frames.push (Store.outermost (Renderer.moduleName name))))
    st.frames _ rfl c.functionName.normalName
    (.entity (.renderer 1 none))
  rw [start, ofRows]
  dsimp only
  rw [Placed.renderer_outside]
  exact congrArg (Except.ok (), ·) bound

end Program

namespace Renderer

variable {c : Config} {k : Nat} {ss : List Statement} {source filename : Text}

theorem found_renderer (name : Text) (st : Store) :
    found? (st.withFrames (st.frames.push (Program.loadedFrame c name))) st.frames.size name =
      if name = c.functionName.normalName then some (.entity (.renderer 1 none)) else none := by
  rw [found?, Store.withFrames, Array.getElem?_push_size, Option.bind_some, Program.loadedFrame, List.lookup_cons]
  by_cases same : name = c.functionName.normalName
  · rw [if_pos same, beq_iff_eq.mpr same]
    rfl
  · rw [if_neg same, beq_eq_false_iff_ne.mpr same]
    dsimp only
    rw [Installation.lookup_filter same, Store.outermost, List.lookup_cons]
    cases name == wording "__name__" <;> rfl

def ofStatements (c : Config) (k : Nat) (ss : List Statement) (frames : Nat) : Renderer :=
  ⟨.ofRows (Placed.renderer c k ss) frames, .entity (.renderer 1 none)⟩

theorem load_refused {fault : Fault} (refused : statements source filename = .error fault) (name : Text)
    (st : Store) : load source name filename st = (.error fault, st) := by
  have rows : Run.ofExcept (statements source filename) st = (.error fault, st) := congrArg (·, st) refused
  rw [load, Run.bind_error rows]

section

variable {ps : List Placed} (read : statements source filename = .ok ps) (name : Text) {st st' : Store}

include read

/-- A source that is accepted is started in a frame of its own, and then its function is looked up. -/
theorem load_accepted : load source name filename st = (do
      (Program.ofRows ps st.frames.size).start
      match ← Run.look fun after => .ok (found? after st.frames.size name) with
      | some entry => return { program := .ofRows ps st.frames.size, entry }
      | none => throw (.load ⟨.missingFunction name, filename, none, none⟩) : Run Renderer)
        (st.withFrames (st.frames.push (Store.outermost (moduleName name)))) := by
  have rows : Run.ofExcept (statements source filename) st = (.ok ps, st) := by
    rw [read]
    rfl
  rw [load, Run.bind_ok rows]
  exact Run.bind_ok rfl

theorem load_started (started : (Program.ofRows ps st.frames.size).start
      (st.withFrames (st.frames.push (Store.outermost (moduleName name)))) = (.ok (), st')) :
    load source name filename st =
      (match found? st' st.frames.size name with
        | some entry => .ok ⟨.ofRows ps st.frames.size, entry⟩
        | none => .error (.load ⟨.missingFunction name, filename, none, none⟩), st') := by
  have looked : Run.look (fun after => .ok (found? after st.frames.size name)) st' =
      (.ok (found? st' st.frames.size name), st') := rfl
  rw [load_accepted read, Run.bind_ok started, Run.bind_ok looked]
  cases found? st' st.frames.size name <;> rfl

theorem load_stopped {fault : Fault} (stopped : (Program.ofRows ps st.frames.size).start
      (st.withFrames (st.frames.push (Store.outermost (moduleName name)))) = (.error fault, st')) :
    load source name filename st = (.error fault, st') := by
  rw [load_accepted read, Run.bind_error stopped]

end

/-- What is loaded of a renderer: its function, by its own name in normal form, and nothing by another. -/
theorem load_renderer (read : statements source filename = .ok (Placed.renderer c k ss)) (name : Text)
    (st : Store) : load source name filename st =
      (if name = c.functionName.normalName then .ok (ofStatements c k ss st.frames.size)
        else .error (.load ⟨.missingFunction name, filename, none, none⟩),
        st.withFrames (st.frames.push (Program.loadedFrame c name))) := by
  rw [load_started read name (Program.start_renderer name st), found_renderer]
  by_cases same : name = c.functionName.normalName
  · rw [if_pos same, if_pos same]
    rfl
  · rw [if_neg same, if_neg same]

section

variable {c : Config} {body : List Piece} {filename : Text} {r : Renderer} {st₀ st₁ : Store}

theorem statements_fit (accepted : c.Accepted)
    (room : ∀ p ∈ body, (Statement.augment c.accumulator (p.term st₀ c.dataName)).Fits 1) :
    ∀ s ∈ c.statements st₀ (Piece.merged body), s.Fits 1 := by
  apply Config.forall_statements
  · exact accepted.fits_init (by decide)
  · intro p member
    rcases Piece.mem_merged member with ⟨t, rfl⟩ | inside
    · exact Piece.HasSource.fits (p := .literal t) accepted trivial trivial (Nat.zero_le _) (by decide)
    · exact room p inside
  · exact accepted.fits_end (by decide)

theorem ofBuffer_source {b : Buffer} {source : Text} (done : b.source st₀ = .ok source) :
    ofBuffer b filename st₀ = load source b.config.functionName filename st₀ := by
  have looked : Run.look (fun st => b.source st) st₀ = (.ok source, st₀) := congrArg (·, st₀) done
  rw [ofBuffer, Run.bind_ok looked]

theorem ofBuffer_broken {b : Buffer} {rs : List Text} {f : SourceFault} (named : filename.any isNull = false)
    (given : b.source st₀ = .ok (Text.ofRows rs)) (fit : ∀ r ∈ rs, r.Fit)
    (broken : Placed.read (Text.ofRows rs) = .error f) :
    ofBuffer b filename st₀ = (.error (sourceFault (Text.ofRows rs) filename f), st₀) := by
  rw [ofBuffer_source given]
  exact load_refused (statements_broken named (Text.ofRows_fit fit) broken) b.config.functionName st₀

theorem source_of_loaded {b : Buffer} (loaded : ofBuffer b filename st₀ = (.ok r, st₁)) :
    ∃ source, b.source st₀ = .ok source := by
  cases done : b.source st₀ with
  | ok source => exact ⟨source, rfl⟩
  | error f =>
    have looked : Run.look (fun st => b.source st) st₀ = (.error f, st₀) := congrArg (·, st₀) done
    rw [ofBuffer, Run.bind_error looked] at loaded
    cases loaded

theorem ofBody_loads (accepted : c.Accepted) (names : Placed.NamesFree c)
    (normal : c.functionName.normalName = c.functionName) (named : filename.any isNull = false)
    (free : ∀ p ∈ body, p.CallFree)
    (room : ∀ p ∈ body, (Statement.augment c.accumulator (p.term st₀ c.dataName)).Fits 1) {source : Text}
    (done : (Buffer.ofBody c body).source st₀ = .ok source) :
    ∃ width : Nat, c.indentWidth.asInt? = some (width : Int) ∧ ofBuffer (Buffer.ofBody c body) filename st₀ =
      (.ok (ofStatements c width (c.statements st₀ (Piece.merged body)) st₀.frames.size),
        st₀.withFrames (st₀.frames.push (Program.loadedFrame c c.functionName))) := by
  obtain ⟨width, whole, positive, rfl, sources⟩ := Buffer.source_ofBody accepted free done
  let ss := c.statements st₀ (Piece.merged body)
  have spelled : Placed.IsBody ss := Config.statements_body accepted sources (Piece.CallFree.merged free)
  have read : Placed.read (Text.ofRows (Buffer.renderRows c width ss)) = .ok (Placed.renderer c width ss) := by
    rcases Buffer.read_renderRows accepted positive spelled with read | ⟨_, s, member, full⟩
    · exact read
    · exact absurd (statements_fit accepted room s member) full
  have fit := Buffer.ofRows_renderRows_fit (k := width) accepted spelled
  have placed := Placed.misplaced_none (k := width) names spelled Config.statements_names
  refine ⟨width, whole, ?_⟩
  rw [ofBuffer_source done, Buffer.ofBody_config, load_renderer (statements_ok named fit read placed),
    if_pos normal.symm]

theorem ofBody_render (clear : c.Clear) (free : ∀ p ∈ body, p.CallFree)
    (loaded : ofBuffer (Buffer.ofBody c body) filename st₀ = (.ok r, st₁)) (value : Value) (st : Store) :
    ∃ g, r.render value st = ((Piece.texts st₀ c.libraryVersion value body st).1.map .ofText,
      (Piece.texts st₀ c.libraryVersion value body st).2.withFrames (st.frames.push g)) := by
  obtain ⟨source, done⟩ := source_of_loaded loaded
  obtain ⟨width, _, positive, rfl, sources⟩ := Buffer.source_ofBody clear.toAccepted free done
  let ss := c.statements st₀ (Piece.merged body)
  have merged := Piece.CallFree.merged free
  have spelled : Placed.IsBody ss := Config.statements_body clear.toAccepted sources merged
  have read : statements (Text.ofRows (Buffer.renderRows c width ss)) filename = .ok (Placed.renderer c width ss) := by
    rw [ofBuffer_source done, Buffer.ofBody_config] at loaded
    cases accepted : statements (Text.ofRows (Buffer.renderRows c width ss)) filename with
    | error f =>
      rw [load_refused accepted] at loaded
      cases loaded
    | ok ps =>
      rcases Buffer.read_renderRows clear.toAccepted positive spelled with read | ⟨⟨f, broken⟩, _⟩
      · exact congrArg Except.ok (Except.ok.inj ((statements_read accepted).symm.trans read))
      · cases (statements_read accepted).symm.trans broken
  rw [ofBuffer_source done, Buffer.ofBody_config, load_renderer read] at loaded
  split at loaded
  · cases loaded
    have called := @Program.call_renderer (.ofRows (Placed.renderer c width ss) st₀.frames.size) c st₀ clear
      (Placed.renderer_keepsClear clear width sources merged) _ sources merged width rfl value st
    rwa [Piece.texts_merged] at called
  · cases loaded

end

end Renderer

end RenderSource
