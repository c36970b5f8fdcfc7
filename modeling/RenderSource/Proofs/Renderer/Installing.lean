import RenderSource.Proofs.Renderer.Installed
/-!
The library runs in a frame of its own and is installed there afterwards. What it makes of the calls of its
functions is then what the functions do that are bound where no name gets in their way.
-/
namespace RenderSource

namespace Value

/-- A class of exceptions, by so many steps at most. -/
def IsExceptionWithin (st : Store) (k : Nat) (c : Value) : Prop :=
  c.isClass st = true ∧ ∀ fuel, k ≤ fuel → derivesWithin st (builtinClass "BaseException") fuel c = true

variable {st : Store} {k : Nat} {c : Value}

theorem IsExceptionWithin.isExceptionClass (within : c.IsExceptionWithin st k) (near : k ≤ builtinHeight) :
    c.isExceptionClass st = true := by
  have derived := within.2 (st.size + builtinHeight) (by omega)
  rw [Value.isExceptionClass, within.1, derives, derived]
  rfl

theorem derivesWithin_parent {d : Value} {fuel : Nat} (parent : c ∈ parents st d)
    (derived : derivesWithin st (builtinClass "BaseException") fuel c = true) :
    derivesWithin st (builtinClass "BaseException") (fuel + 1) d = true := by
  rw [derivesWithin, Bool.or_eq_true]
  exact .inr (List.any_eq_true.mpr ⟨c, parent, derived⟩)

theorem IsExceptionWithin.step {d : Value} (within : c.IsExceptionWithin st k) (cls : d.isClass st = true)
    (parent : c ∈ parents st d) : d.IsExceptionWithin st (k + 1) := by
  refine ⟨cls, fun fuel enough => ?_⟩
  obtain ⟨less, rfl⟩ := Nat.exists_eq_add_one.mpr (Nat.lt_of_lt_of_le (Nat.succ_pos k) enough)
  exact derivesWithin_parent parent (within.2 less (by omega))

theorem isException_builtin : (builtinClass "BaseException").IsExceptionWithin st 1 := by
  refine ⟨rfl, fun fuel enough => ?_⟩
  obtain ⟨less, rfl⟩ := Nat.exists_eq_add_one.mpr enough
  rw [derivesWithin, decide_eq_true rfl, Bool.true_or]

theorem isException_exception : (builtinClass "Exception").IsExceptionWithin st 2 :=
  isException_builtin.step rfl (List.mem_singleton.mpr rfl)

theorem isException_error {n : String} (member : n ∈ ["TypeError", "ValueError"]) :
    (builtinClass n).IsExceptionWithin st 3 := by
  simp only [List.mem_cons, List.not_mem_nil, or_false] at member
  rcases member with rfl | rfl
  · exact isException_exception.step rfl (List.mem_singleton.mpr rfl)
  · exact isException_exception.step rfl (List.mem_singleton.mpr rfl)

theorem isException_made {a : Address} {n place : Text} {home : Nat} {bases : List Value}
    (within : c.IsExceptionWithin st k) (made : st.get? a = some (.madeClass n place home (c :: bases))) :
    (Value.ref a).IsExceptionWithin st (k + 1) := by
  refine within.step ?_ ?_
  · simp only [isClass, made]
  · simp only [parents, made, List.mem_cons, true_or]

end Value

/-- Names that the library binds or reads are read as they are found in frame `i`. -/
def Env.ReadsFrom (e : Env) (globals i : Nat) : Prop :=
  ∀ st f n v, st.Houses globals i f → n ∈ Library.names ++ Library.scopeNames →
    st.Finds globals i (wording n) v → e.named n st = (.ok v, st)

namespace Program

variable {p : Program} {call : Calling} {i : Nat}

theorem envIn_readsFrom : (p.envIn call i).ReadsFrom p.globals i := by
  intro st f n v _ member finds
  show (st.readIn p.globals i (wording n).normalName, st) = _
  rw [Library.normalName_names n member, finds.inside]

end Program

namespace Store

/-- A name that is not one of the library's leads where it led. -/
def Spares (globals i : Nat) (st st' : Store) : Prop :=
  ∀ n v, (∀ m ∈ Library.names, n ≠ wording m) → st.Finds globals i n v → st'.Finds globals i n v

end Store

namespace Installation

/-- How far the library is: it has bound no names but those in `ns`, some names lead to the values in `bs`, and some
of the cells are `cs`. Other names lead where they led. -/
structure Leads (globals i : Nat) (st₀ : Store) (ns : List String) (bs : List (String × Value))
    (cs : List (Address × Cell)) (st : Store) : Prop where
  housed : ∃ f, st.Houses globals i f
  names : ∀ p ∈ bs, p.1 ∈ ns
  found : ∀ p ∈ bs, st.Finds globals i (wording p.1) p.2
  cells : ∀ p ∈ cs, st.get? p.1 = some p.2
  spares : st₀.Spares globals i st

/-- A step that ends, and how. -/
def Reaches (P : Store → Prop) (x : Run Unit) (st : Store) : Prop := ∃ st', x st = (.ok (), st') ∧ P st'

variable {α : Type} {globals i : Nat} {ns : List String} {bs : List (String × Value)} {cs : List (Address × Cell)}
  {st₀ st : Store} {P : Store → Prop} {e : Env}

theorem Reaches.bind {x : Run α} {k : α → Run Unit} {a : α} {st' : Store} (here : x st = (.ok a, st'))
    (next : Reaches P (k a) st') : Reaches P (x >>= k) st := by
  obtain ⟨last, done, reached⟩ := next
  exact ⟨last, (Run.bind_ok here).trans done, reached⟩

theorem Reaches.last {x : Run Unit} (reaches : Reaches P (x >>= pure) st) : Reaches P x st := by
  rwa [bind_pure] at reaches

theorem Reaches.after {Q : Store → Prop} {x y : Run Unit} (here : Reaches Q x st)
    (next : ∀ st', Q st' → Reaches P y st') : Reaches P (x >>= fun _ => y) st := by
  obtain ⟨st', done, reached⟩ := here
  exact .bind done (next st' reached)

theorem get?_bind (n : Text) (v : Value) (a : Address) : (st.bind i n v).get? a = st.get? a := by
  rw [Store.bind]
  split <;> rfl

theorem Leads.bind (leads : Leads globals i st₀ ns bs cs st) {n : String} (new : n ∉ ns) (bound : n ∈ Library.names)
    (v : Value) : Leads globals i st₀ (n :: ns) ((n, v) :: bs) cs (st.bind i (wording n) v) := by
  obtain ⟨f, houses⟩ := leads.housed
  refine ⟨⟨_, houses.bind _ v⟩, ?_, ?_, ?_, ?_⟩
  · exact List.forall_mem_cons.mpr ⟨List.mem_cons_self, fun p member => List.mem_cons_of_mem _ (leads.names p member)⟩
  · refine List.forall_mem_cons.mpr ⟨houses.finds bound v, fun p member => ?_⟩
    refine (leads.found p member).bind_other houses.here fun same => new ?_
    rw [← wording_inj.mp same]
    exact leads.names p member
  · intro p member
    rw [get?_bind]
    exact leads.cells p member
  · intro m w other finds
    exact (leads.spares m w other finds).bind_other houses.here (other n bound)

theorem Leads.add (leads : Leads globals i st₀ ns bs cs st) (c : Cell) :
    Leads globals i st₀ ns bs ((st.size, c) :: cs) (st.add c).2 := by
  obtain ⟨f, houses⟩ := leads.housed
  refine ⟨⟨f, houses.here, houses.outer, houses.own⟩, leads.names, ?_, ?_, ?_⟩
  · exact fun p member => (leads.found p member).same rfl
  · refine List.forall_mem_cons.mpr ⟨Store.get_add st c, fun p member => ?_⟩
    exact (Store.kept_add st c).cells p.1 p.2 (leads.cells p member)
  · exact fun n v other finds => (leads.spares n v other finds).same rfl

theorem Leads.weaken (leads : Leads globals i st₀ ns bs cs st) {ns' : List String} {bs' : List (String × Value)}
    {cs' : List (Address × Cell)} (names : ∀ n ∈ ns, n ∈ ns') (found : ∀ p ∈ bs', p ∈ bs) (cells : ∀ p ∈ cs', p ∈ cs) :
    Leads globals i st₀ ns' bs' cs' st where
  housed := leads.housed
  names p member := names p.1 (leads.names p (found p member))
  found p member := leads.found p (found p member)
  cells p member := leads.cells p (cells p member)
  spares := leads.spares

section

variable {k : Unit → Run Unit} {k' : Value → Run Unit}

theorem Leads.set (leads : Leads globals i st₀ ns bs cs st) {n : String} (new : n ∉ ns) (bound : n ∈ Library.names)
    {v : Value} (next : ∀ st', Leads globals i st₀ (n :: ns) ((n, v) :: bs) cs st' → Reaches P (k ()) st') :
    Reaches P (set i n v >>= k) st :=
  .bind rfl (next _ (leads.bind new bound v))

theorem Leads.setFunctions (leads : Leads globals i st₀ ns bs cs st) {fs : List LibraryFunction}
    (distinct : (fs.map LibraryFunction.name).Nodup)
    (names : ∀ f ∈ fs, f.name ∉ ns ∧ f.name ∈ Library.names)
    (next : ∀ st', Leads globals i st₀ ((fs.map LibraryFunction.name).reverse ++ ns)
      ((fs.map fun f => (f.name, .entity (.function (.library f) (some i)))).reverse ++ bs) cs st' →
        Reaches P (k ()) st') : Reaches P (setFunctions i fs >>= k) st := by
  induction fs generalizing ns bs st with
  | nil => exact .bind rfl (next st leads)
  | cons f fs ih =>
    rw [List.map_cons, List.nodup_cons] at distinct
    rw [List.forall_mem_cons] at names
    obtain ⟨⟨new, bound⟩, later⟩ := names
    show Reaches P ((setFunction i (.library f) >>= fun _ => fs.forM fun f => setFunction i (.library f)) >>= k) st
    rw [bind_assoc]
    refine leads.set new bound fun st' leads' => ih leads' distinct.2 (fun g member => ⟨?_, (later g member).2⟩) ?_
    · refine List.not_mem_cons_of_ne_of_not_mem (fun same => distinct.1 ?_) (later g member).1
      rw [← same]
      exact List.mem_map_of_mem member
    · intro last leads''
      refine next last ?_
      rw [List.map_cons, List.map_cons, List.reverse_cons, List.reverse_cons, List.append_assoc, List.append_assoc]
      exact leads''

theorem Leads.allocate (leads : Leads globals i st₀ ns bs cs st) {c : Cell}
    (next : ∀ a st', Leads globals i st₀ ns bs ((a, c) :: cs) st' → Reaches P (k' (.ref a)) st') :
    Reaches P (Run.allocate c >>= k') st :=
  .bind (Run.allocate_apply c) (next _ _ (leads.add c))

theorem Leads.makeClass (leads : Leads globals i st₀ ns bs cs st) {n : String} {bases : List Value}
    (classes : ∀ b ∈ bases, b.isExceptionClass st = true)
    (next : ∀ a place st', Leads globals i st₀ ns bs ((a, .madeClass (wording n) place i bases) :: cs) st' →
      Reaches P (k' (.ref a)) st') : Reaches P (makeClass globals i n bases >>= k') st := by
  have all : bases.all (fun b => b.isExceptionClass st) = true := List.all_eq_true.mpr classes
  obtain ⟨place, made⟩ : ∃ place, Installation.makeClass globals i n bases st =
      Run.allocate (.madeClass (wording n) place i bases) st := by
    rw [Installation.makeClass, Run.look_bind, all]
    dsimp only
    rw [if_neg (by decide), Run.look_bind]
    split
    · exact ⟨_, rfl⟩
    · rename_i failed
      split at failed <;> cases failed
  exact .bind (made.trans (Run.allocate_apply _)) (next _ place _ (leads.add _))

theorem Leads.read (leads : Leads globals i st₀ ns bs cs st) (reads : e.ReadsFrom globals i) {n : String} {v : Value}
    (finds : st.Finds globals i (wording n) v) (used : n ∈ Library.names ++ Library.scopeNames)
    (next : Reaches P (k' v) st) : Reaches P (e.named n >>= k') st := by
  obtain ⟨f, houses⟩ := leads.housed
  exact .bind (reads st f n v houses used finds) next

end

section

variable (reads : e.ReadsFrom globals i)
  (given : ∀ p ∈ Library.usedValues, st₀.Finds globals i (wording p.1) p.2)

include given in
theorem Leads.used (leads : Leads globals i st₀ ns bs cs st) :
    ∀ p ∈ Library.usedValues, st.Finds globals i (wording p.1) p.2 := by
  intro p member
  refine leads.spares _ _ (fun m bound same => ?_) (given p member)
  have others : ∀ p ∈ Library.usedValues, p.1 ∉ Library.names := by decide
  exact others p member (wording_inj.mp same ▸ bound)

include given in
theorem Leads.usedClass (leads : Leads globals i st₀ ns bs cs st) {n : String}
    (member : n ∈ Library.usedClasses ++ ["Exception", "TypeError", "ValueError"]) :
    st.Finds globals i (wording n) (Value.builtinClass n) :=
  leads.used given (n, Value.builtinClass n) (List.mem_append_right _ (List.mem_map_of_mem member))

include reads given

theorem Leads.markupTable (leads : Leads globals i st₀ ns bs cs st) {k : Value → Run Unit}
    (next : ∀ a b st', Leads globals i st₀ ns bs
      ((a, .dict markupNumbers none) :: (b, .dict (textEntries markupEntities) none) :: cs) st' →
        Reaches P (k (.ref a)) st') : Reaches P (markupTable e >>= k) st := by
  have leads' := leads.add (.dict (textEntries markupEntities) none)
  obtain ⟨f, houses⟩ := leads'.housed
  have named := reads _ f "str" _ houses (by decide) (leads'.usedClass given (by decide))
  have made : Installation.markupTable e st = Run.allocate (.dict markupNumbers none)
      (st.add (.dict (textEntries markupEntities) none)).2 := by
    rw [Installation.markupTable, Run.bind_ok (Run.allocate_apply _), Run.bind_ok named]
    rfl
  exact .bind (made.trans (Run.allocate_apply _)) (next _ _ _ (leads'.add _))

end

def openingFunctions : List LibraryFunction :=
  [ .isUndefined, .each, .contains, .extend, .lookup, .escapeHtml, .toText, .filterUrl, .filterClass, .filterStyle,
    .filterSep, .markupAttribute, .markupFlag ]

def openingNames : List String :=
  [ "datetime", "math", "re", "Mapping", "_quote_component", "RENDERER_VERSION", "_Undefined", "UNDEFINED",
    "_HTML_ESCAPES", "DEFAULT_FILTERS" ] ++ openingFunctions.map LibraryFunction.name

def errorNames : List String := ["StringifyError", "UnsupportedValueKind", "NonFiniteNumber", "CyclicStructure"]

def openingValues (i : Nat) (marks : Address) : List (String × Value) :=
  [("Mapping", Value.mappingClass), ("_quote_component", .entity .percentQuote), ("_HTML_ESCAPES", .ref marks)] ++
  openingFunctions.map fun f => (f.name, .entity (.function (.library f) (some i)))

section

variable (reads : e.ReadsFrom globals i)
  (given : ∀ p ∈ Library.usedValues, st₀.Finds globals i (wording p.1) p.2)

include reads given

theorem opening_leads (leads : Leads globals i st₀ [] [] [] st) (version : Text) :
    Reaches (fun st' => ∃ marks, Leads globals i st₀ openingNames (openingValues i marks)
      [(marks, .dict markupNumbers none)] st') (opening globals i e version) st := by
  simp only [opening, List.forIn_cons, List.forIn_nil, bind_assoc, pure_bind, LibraryFunction.filters, List.mapM_cons,
    List.mapM_nil]
  refine leads.set (by decide) (by decide) fun st leads => ?_
  refine leads.set (by decide) (by decide) fun st leads => ?_
  refine leads.set (by decide) (by decide) fun st leads => ?_
  refine leads.set (by decide) (by decide) fun st leads => ?_
  refine leads.set (by decide) (by decide) fun st leads => ?_
  refine leads.set (by decide) (by decide) fun st leads => ?_
  refine leads.makeClass (List.forall_mem_nil _) fun absent place st leads => ?_
  refine leads.set (by decide) (by decide) fun st leads => ?_
  refine leads.set (by decide) (by decide) fun st leads => ?_
  refine leads.setFunctions (by decide) (by decide) fun st leads => ?_
  refine leads.markupTable reads given fun marks _ st leads => ?_
  refine leads.set (by decide) (by decide) fun st leads => ?_
  refine leads.setFunctions (by decide) (by decide) fun st leads => ?_
  have filter {f : LibraryFunction} (member : f ∈ [LibraryFunction.filterUrl, .filterClass, .filterStyle, .filterSep]) :
      st.Finds globals i (wording f.name) (.entity (.function (.library f) (some i))) := by
    refine leads.found (f.name, .entity (.function (.library f) (some i))) ?_
    simp only [List.mem_cons, List.not_mem_nil, or_false] at member
    rcases member with rfl | rfl | rfl | rfl <;> simp
  refine leads.read reads (filter (by decide)) (by decide) ?_
  refine leads.read reads (filter (by decide)) (by decide) ?_
  refine leads.read reads (filter (by decide)) (by decide) ?_
  refine leads.read reads (filter (by decide)) (by decide) ?_
  refine leads.allocate fun filters st leads => ?_
  refine leads.set (by decide) (by decide) fun st leads => ?_
  refine .last (leads.setFunctions (by decide) (by decide) fun st leads => ⟨st, rfl, marks, ?_⟩)
  refine leads.weaken (by decide) ?_ (by simp)
  intro p member
  rcases List.mem_append.mp member with member | member
  · simp only [List.mem_cons, List.not_mem_nil, or_false] at member
    rcases member with rfl | rfl | rfl <;> simp [LibraryFunction.name]
  · obtain ⟨f, opened, rfl⟩ := List.mem_map.mp member
    simp only [openingFunctions, List.mem_cons, List.not_mem_nil, or_false] at opened
    rcases opened with rfl | rfl | rfl | rfl | rfl | rfl | rfl | rfl | rfl | rfl | rfl | rfl | rfl
    all_goals simp [LibraryFunction.name]

theorem errorClasses_leads (leads : Leads globals i st₀ openingNames bs cs st) :
    Reaches (Leads globals i st₀ (errorNames ++ openingNames) bs cs) (errorClasses globals i e) st := by
  have isError {n : String} (member : n ∈ ["TypeError", "ValueError"]) {st : Store} :
      (Value.builtinClass n).isExceptionClass st = true :=
    (Value.isException_error member).isExceptionClass (by decide)
  have both {st : Store} {b c : Value} (first : b.isExceptionClass st = true) (second : c.isExceptionClass st = true) :
      ∀ d ∈ [b, c], d.isExceptionClass st = true :=
    List.forall_mem_cons.mpr ⟨first, List.forall_mem_singleton.mpr second⟩
  unfold errorClasses
  refine leads.read reads (leads.usedClass given (by decide)) (by decide) ?_
  refine leads.makeClass (List.forall_mem_singleton.mpr (Value.isException_exception.isExceptionClass (by decide)))
    fun general home st leads => ?_
  have isGeneral {st : Store} (made : st.get? general =
      some (.madeClass (wording "StringifyError") home i [Value.builtinClass "Exception"])) :
      (Value.ref general).IsExceptionWithin st 3 := Value.isException_made Value.isException_exception made
  refine leads.set (by decide) (by decide) fun st leads => ?_
  refine leads.read reads (leads.usedClass given (by decide)) (by decide) ?_
  have first := (isGeneral (leads.cells (general, _) (by simp))).isExceptionClass (by decide)
  refine leads.makeClass (both first (isError (by decide))) fun unsupported place st leads => ?_
  refine leads.set (by decide) (by decide) fun st leads => ?_
  refine leads.read reads (leads.usedClass given (by decide)) (by decide) ?_
  have made := leads.cells (unsupported, .madeClass (wording "UnsupportedValueKind") place i
    [.ref general, Value.builtinClass "TypeError"]) (by simp)
  have second := Value.isException_made (isGeneral (leads.cells (general, _) (by simp))) made
  refine leads.makeClass (both (second.isExceptionClass (by decide)) (isError (by decide))) fun a place st leads => ?_
  refine leads.set (by decide) (by decide) fun st leads => ?_
  refine leads.read reads (leads.usedClass given (by decide)) (by decide) ?_
  have third := (isGeneral (leads.cells (general, _) (by simp))).isExceptionClass (by decide)
  refine leads.makeClass (both third (isError (by decide))) fun a place st leads => ?_
  refine .last (leads.set (by decide) (by decide) fun st leads => ⟨st, rfl, ?_⟩)
  refine leads.weaken (by decide) ?_ ?_
  · intro p member
    simp [member]
  · intro p member
    simp [member]

end

/-- What is so of a store once the library has run in frame `i`. -/
structure Ends (globals i : Nat) (st₀ st : Store) : Prop where
  housed : ∃ f, st.Houses globals i f
  installed : Program.Installed globals i st
  spares : st₀.Spares globals i st

theorem literals_ends (given : ∀ p ∈ Library.usedValues, st₀.Finds globals i (wording p.1) p.2) {marks : Address}
    (leads : Leads globals i st₀ (errorNames ++ openingNames) (openingValues i marks)
      [(marks, .dict markupNumbers none)] st) : Reaches (Ends globals i st₀) (literals i) st := by
  simp only [literals, List.forIn_cons, List.forIn_nil, bind_assoc, pure_bind]
  refine leads.allocate fun escapes st leads => ?_
  refine leads.set (by decide) (by decide) fun st leads => ?_
  refine leads.set (by decide) (by decide) fun st leads => ?_
  refine leads.set (by decide) (by decide) fun st leads => ?_
  refine leads.setFunctions (by decide) (by decide) fun st leads => ?_
  refine leads.set (by decide) (by decide) fun st leads => ?_
  refine leads.set (by decide) (by decide) fun st leads => ?_
  refine leads.set (by decide) (by decide) fun st leads => ?_
  refine leads.setFunctions (by decide) (by decide) fun st leads => ?_
  refine leads.set (by decide) (by decide) fun st leads => ?_
  refine leads.set (by decide) (by decide) fun st leads => ?_
  refine leads.set (by decide) (by decide) fun st leads => ?_
  refine ⟨st, rfl, leads.housed, ⟨leads.used given, ?_, ⟨marks, ?_, ?_⟩, ⟨escapes, ?_, ?_⟩⟩, leads.spares⟩
  · intro p member
    refine leads.found p ?_
    rcases List.mem_append.mp member with member | member
    · simp only [List.mem_cons, List.not_mem_nil, or_false] at member
      rcases member with rfl | rfl | rfl | rfl | rfl | rfl | rfl
      all_goals simp [openingValues, Routine.name]
    · obtain ⟨f, -, rfl⟩ := List.mem_map.mp member
      cases f <;> simp [openingValues, openingFunctions, LibraryFunction.name]
  · exact leads.found ("_HTML_ESCAPES", .ref marks) (by simp [openingValues])
  · exact leads.cells (marks, _) (by simp)
  · exact leads.found ("_LITERAL_ESCAPES", .ref escapes) (by simp)
  · exact leads.cells (escapes, _) (by simp)

theorem run_ends (reads : e.ReadsFrom globals i) {f : Frame} (houses : st.Houses globals i f)
    (used : ∀ p ∈ Library.usedValues, st.Finds globals i (wording p.1) p.2) (version : Text) :
    Reaches (Ends globals i st) (run globals i e version) st := by
  have leads : Leads globals i st [] [] [] st :=
    ⟨⟨f, houses⟩, List.forall_mem_nil _, List.forall_mem_nil _, List.forall_mem_nil _, fun _ _ _ finds => finds⟩
  refine (opening_leads reads used leads version).after fun st reached => ?_
  obtain ⟨marks, leads⟩ := reached
  exact (errorClasses_leads reads used leads).after fun st leads => literals_ends used leads

end Installation

namespace Program

variable {p : Program} {q : Placed} {i : Nat} {st : Store} {f : Frame} {version : Text}

/-- A statement that is the library leaves it installed, in a frame that houses it and where no name hides what is in
scope everywhere. -/
theorem execute_library (library : q.statement = .library version) (byName : p.isPlain = false)
    (houses : st.Houses p.globals i f) (free : ∀ n ∈ Placed.usedByLibrary, st.LeavesFree (wording n)) (call : Calling)
    (around : Option Nat) : ∃ st', p.execute (p.envIn call i) i around q st = (.ok none, st') ∧
      Installation.Ends p.globals i st st' := by
  have inScope : ∀ p ∈ Library.usedValues, p.1 ∈ Placed.usedByLibrary := by decide
  have used : ∀ v ∈ Library.usedValues, st.Finds p.globals i (wording v.1) v.2 :=
    fun v member => Store.finds_free (free v.1 (inScope v member)) houses.here (Library.usedValues_everywhere v member)
  obtain ⟨st', done, ends⟩ := Installation.run_ends (@envIn_readsFrom p call i) houses used version
  refine ⟨st', ?_, ends⟩
  rw [execute, library]
  dsimp only
  rw [if_neg (by rw [byName]; decide)]
  exact Run.bind_ok done

end Program

end RenderSource
