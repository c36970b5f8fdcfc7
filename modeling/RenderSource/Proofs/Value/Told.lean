import RenderSource.Library.ByName
import RenderSource.Proofs.Library.Paths
import RenderSource.Proofs.Literal.RoundTrip
/-!
What the class of a value tells of it. The class of most values tells whether they are absent, numbers, texts,
sequences or mappings; only a class of another's name does not. New cells do not change what is told.
-/
namespace RenderSource

theorem wording_inj {m n : String} : wording m = wording n ↔ m = n := by
  have characters : Function.Injective (List.map CodePoint.scalar) :=
    List.map_injective_iff.mpr fun _ _ => CodePoint.scalar.inj
  exact characters.eq_iff.trans String.toList_inj

namespace Value

def isOfClass (st : Store) (v c : Value) : Bool :=
  derives st (v.classOf st) c || (v.builtinBase? st).any fun b => derives st b c

/-- What the class of a value tells of it is so. -/
structure Told (st : Store) (v : Value) : Prop where
  classes : (v.classOf st).isClass st = true
  absence : (v.classOf st).marksAbsence st = v.isAbsent
  integer : v.isOfClass st (builtinClass "int") = v.asInt?.isSome
  text : v.isOfClass st (builtinClass "str") = v.asText?.isSome
  sequence : (v.isOfClass st (builtinClass "list") || v.isOfClass st (builtinClass "tuple")) = (v.items? st).isSome
  mapping : v ≠ .entity .filters

variable {st : Store} {v : Value}

theorem isInstanceWithin_class {n : String} {fuel : Nat} (other : builtinClass n ≠ mappingClass) :
    isInstanceWithin st v (fuel + 1) (builtinClass n) = .ok (v.isOfClass st (builtinClass n)) := by
  have asked : isInstanceWithin st v (fuel + 1) (builtinClass n) =
      if builtinClass n = mappingClass then .ok (v.isMapping st) else .ok (v.isOfClass st (builtinClass n)) := rfl
  rw [asked, if_neg other]

theorem isInstance_mapping (told : v.Told st) : v.isInstance st mappingClass = .ok (v.entries? st).isSome := by
  have asked : v.isInstance st mappingClass = .ok (v.isMapping st) := rfl
  rw [asked, isMapping, decide_eq_false told.mapping, Bool.or_false]

theorem iterate_items {vs : List Value} (items : v.items? st = some vs) : v.iterate st = .ok vs := by
  cases v with
  | ref a =>
    rw [items?] at items
    simp only [iterate]
    cases found : (Value.ref a).cell? st with
    | none => rw [found] at items; cases items
    | some c =>
      rw [found] at items
      cases c with
      | list | tuple =>
        cases items
        rfl
      | _ => cases items
  | _ => cases items

/-- A value that is there, of a class that tells what it is also when there are more cells. -/
structure Known (st : Store) (v : Value) : Prop where
  there : ∀ a, v = .ref a → ∃ c, st.get? a = some c
  told : ∀ st', st.Kept st' → v.Told st'

/-- The values that a path meets are known, and no key of it is a container. -/
def KnownAlong (st : Store) : Value → List Value → Prop
  | v, [] => v.Known st
  | v, key :: path => v.Known st ∧ key.Known st ∧ (∀ a, key ≠ .ref a) ∧
      ∀ w, v.step st key = .ok w → KnownAlong st w path

section

variable {st' : Store} {key : Value}

theorem Known.cell?_kept (known : v.Known st) (kept : st.Kept st') : v.cell? st' = v.cell? st := by
  cases v with
  | ref a =>
    obtain ⟨c, found⟩ := known.there a rfl
    exact (kept.cells a c found).trans found.symm
  | _ => rfl

theorem Known.entries?_kept (known : v.Known st) (kept : st.Kept st') : v.entries? st' = v.entries? st := by
  rw [entries?, entries?, known.cell?_kept kept]

theorem Known.items?_kept (known : v.Known st) (kept : st.Kept st') : v.items? st' = v.items? st := by
  rw [items?, items?, known.cell?_kept kept]

theorem Known.member?_kept (known : v.Known st) (kept : st.Kept st') (name : Text) :
    v.member? st' name = v.member? st name := by
  have same : v.methods st' = v.methods st ∧ v.kind st' = v.kind st := by
    cases v with
    | ref a =>
      obtain ⟨c, found⟩ := known.there a rfl
      have found' := kept.cells a c found
      simp only [methods, kind, found, found', and_self]
    | absent s => cases s <;> exact ⟨rfl, rfl⟩
    | zone z => cases z <;> exact ⟨rfl, rfl⟩
    | builtin n c => cases c <;> exact ⟨rfl, rfl⟩
    | _ => exact ⟨rfl, rfl⟩
  simp only [member?, known.cell?_kept kept, same.1, same.2]

theorem agrees_plain (plain : ∀ a, key ≠ .ref a) (k : Value) :
    k.agrees st key = .ok (k = key || k.plainEqual key) := by
  unfold agrees equal
  rw [equalWithin.eq_def]
  by_cases same : k = key
  · simp [same]
  · cases key with
    | ref a => exact absurd rfl (plain a)
    | _ => cases k <;> simp [same]

theorem isHashable_plain (plain : ∀ a, key ≠ .ref a) : key.isHashable st = true := by
  rw [isHashable, hashableWithin]
  cases key with
  | ref a => exact absurd rfl (plain a)
  | _ => rfl

theorem Known.step_kept (known : v.Known st) (kept : st.Kept st') (plain : ∀ a, key ≠ .ref a) :
    v.step st' key = v.step st key := by
  have found : ∀ es, Entries.find? st' es key = Entries.find? st es key := by
    intro es
    simp only [Entries.find?, agrees_plain plain]
  simp only [step, stepBy, known.entries?_kept kept, known.items?_kept kept, known.member?_kept kept,
    isHashable_plain plain, found]

theorem Known.kept (known : v.Known st) (kept : st.Kept st') : v.Known st' := by
  constructor
  · intro a cell
    obtain ⟨c, found⟩ := known.there a cell
    exact ⟨c, kept.cells a c found⟩
  · intro st'' later
    exact known.told st'' (kept.trans later)

theorem KnownAlong.lookup_kept {path : List Value} (along : v.KnownAlong st path) (kept : st.Kept st') :
    v.lookup st' path = v.lookup st path := by
  induction path generalizing v with
  | nil => rfl
  | cons key path ih =>
    obtain ⟨known, _, plain, later⟩ := along
    rw [lookup_next, lookup_next, known.step_kept kept plain]
    cases taken : v.step st key with
    | error f => rfl
    | ok w =>
      have rest : w.lookup st' path = w.lookup st path := ih (later w taken)
      simp only [bind, Except.bind, rest]

theorem Known.now (known : v.Known st) : v.Told st := known.told st (.refl st)

end

theorem length_items {vs : List Value} (items : v.items? st = some vs) :
    Builtin.length st v = .ok (.ofInt vs.length) := by
  have gone := iterate_items items
  rw [items?] at items
  unfold Builtin.length entries?
  split at items
  · rename_i found
    rw [found, gone]
    rfl
  · rename_i found
    rw [found, gone]
    rfl
  · cases items

section

variable {key w : Value} {i j : Int}

theorem less_eq (left : key.asInt? = some i) (right : w.asInt? = some j) :
    less st key w = .ok (decide (i < j)) := by
  cases key with
  | int | bool =>
    cases w with
    | int | bool =>
      cases left
      cases right
      rfl
    | _ => cases right
  | _ => cases left

theorem atMost_eq (left : key.asInt? = some i) (right : w.asInt? = some j) :
    atMost st key w = .ok (decide (i ≤ j)) := by
  have same : equal st key w = .ok (decide (i = j)) := by
    cases key with
    | int | bool =>
      cases w with
      | int | bool =>
        cases left
        cases right
        rfl
      | _ => cases right
    | _ => cases left
  rw [atMost, less_eq left right, same]
  by_cases lower : i < j
  · simp [lower, Int.le_of_lt lower, bind, Except.bind, pure, Except.pure]
  · have iff : i = j ↔ i ≤ j := by omega
    simp [lower, iff, bind, Except.bind]

theorem itemAtKey_eq {vs : List Value} (items : v.items? st = some vs) (index : key.asInt? = some i)
    (inside : -(vs.length : Int) ≤ i ∧ i < vs.length) : v.itemAtKey st key = .ok (itemAt vs i) := by
  have item : itemIn vs key = .ok (itemAt vs i) := by
    have place : 0 ≤ (if i < 0 then i + vs.length else i) ∧ (if i < 0 then i + vs.length else i) < vs.length := by
      split <;> omega
    simp only [itemIn, index, placeOf?, if_pos place, itemAt, if_pos place.1]
  rw [items?] at items
  cases v with
  | ref a =>
    simp only [itemAtKey]
    split at items
    · rename_i found
      cases items
      rw [found]
      exact item
    · rename_i found
      cases items
      rw [found]
      exact item
    · cases items
  | _ => cases items

end

theorem isAbsent_class {c : Value} (cls : c.isClass st = true) : c.isAbsent = false := by
  cases c with
  | absent => cases cls
  | _ => rfl

theorem dataParts_undefined (name : Text) :
    ((Value.builtin name true).dataParts.find? fun (n, _) => wording n = wording "__undefined__") = Option.none := by
  rw [dataParts, classPart]
  split
  · decide
  · split
    · decide
    · rfl

theorem member?_undefined {c : Value} (cls : c.isClass st = true) :
    c.member? st (wording "__undefined__") = .ok Option.none := by
  cases c with
  | builtin name isClass =>
    cases isClass with
    | false => cases cls
    | true =>
      simp only [member?, cell?, dataParts_undefined]
      rfl
  | entity e =>
    cases e with
    | sentinelClass => rfl
    | _ => cases cls
  | ref a =>
    rw [isClass] at cls
    cases found : st.get? a with
    | none => rw [found] at cls; cases cls
    | some c =>
      rw [found] at cls
      cases c with
      | madeClass =>
        simp only [member?, cell?, found, dataParts, methods]
        rfl
      | _ => cases cls
  | _ => cases cls

section

variable {c d : Value} {n : String} {ns : List String}

theorem builtinClass_inj {m n : String} : builtinClass m = builtinClass n ↔ m = n := by
  rw [builtinClass, builtinClass, builtin.injEq, wording_inj, and_iff_left rfl]

theorem parents_plain (other : n ∉ ["object", "bool", "datetime.datetime"])
    (plain : n ∉ exceptionParents.map Prod.fst) : parents st (builtinClass n) = [builtinClass "object"] := by
  simp only [List.mem_cons, List.not_mem_nil, or_false, not_or] at other
  have none : (exceptionParents.find? fun p => decide (p.1 = n)) = Option.none := by
    rw [List.find?_eq_none]
    intro p member same
    exact plain (List.mem_map.mpr ⟨p, member, of_decide_eq_true same⟩)
  simp only [builtinClass, parents, wording_inj, other, if_false, none]

theorem derives_parent (parent : parents st c = [builtinClass n]) (fuel : Nat) :
    derivesWithin st d (fuel + 1) c = (decide (c = d) || derivesWithin st d fuel (builtinClass n)) := by
  rw [derivesWithin, parent, List.any_cons, List.any_nil, Bool.or_false]

theorem derives_object (below : n ≠ "object") (fuel : Nat) :
    derivesWithin st (builtinClass n) (fuel + 1) (builtinClass "object") = false := by
  have top : parents st (builtinClass "object") = [] := rfl
  rw [derivesWithin, top, List.any_nil, Bool.or_false, decide_eq_false]
  exact fun same => below (builtinClass_inj.mp same).symm

/-- A class and the classes that it derives from, but for that of all objects. -/
def HasClasses (st : Store) (c : Value) (ns : List String) : Prop :=
  ∀ n, n ≠ "object" → derives st c (builtinClass n) = decide (n ∈ ns)

theorem hasClasses_builtin (other : n ∉ ["object", "bool", "datetime.datetime"])
    (plain : n ∉ exceptionParents.map Prod.fst) : HasClasses st (builtinClass n) [n] := by
  intro m below
  rw [derives, builtinHeight, derives_parent (parents_plain other plain), derives_object below, Bool.or_false]
  simp only [builtinClass_inj, List.mem_singleton, eq_comm]

theorem hasClasses_bool : HasClasses st (builtinClass "bool") ["bool", "int"] := by
  intro m below
  have parent : parents st (builtinClass "bool") = [builtinClass "int"] := rfl
  have parent' : parents st (builtinClass "int") = [builtinClass "object"] := parents_plain (by decide) (by decide)
  rw [derives, builtinHeight, derives_parent parent, derives_parent parent', derives_object below, Bool.or_false,
    ← Bool.decide_or]
  simp only [builtinClass_inj, List.mem_cons, List.not_mem_nil, or_false, @eq_comm _ m]

theorem hasClasses_absent (s : Sentinel) : HasClasses st (.entity (.sentinelClass s)) [] := by
  intro m below
  have parent : parents st (.entity (.sentinelClass s)) = [builtinClass "object"] := rfl
  rw [derives, builtinHeight, derives_parent parent, derives_object below]
  rfl

theorem HasClasses.told (classes : HasClasses st (v.classOf st) ns) (cls : (v.classOf st).isClass st = true)
    (absence : (v.classOf st).marksAbsence st = v.isAbsent) (base : v.builtinBase? st = Option.none)
    (integer : decide ("int" ∈ ns) = v.asInt?.isSome) (text : decide ("str" ∈ ns) = v.asText?.isSome)
    (sequence : (decide ("list" ∈ ns) || decide ("tuple" ∈ ns)) = (v.items? st).isSome)
    (mapping : v ≠ .entity .filters) : v.Told st := by
  have asked : ∀ n, n ≠ "object" → v.isOfClass st (builtinClass n) = decide (n ∈ ns) := by
    intro n below
    rw [isOfClass, classes n below, base, Option.any_none, Bool.or_false]
  refine ⟨cls, absence, ?_, ?_, ?_, mapping⟩
  · rw [asked _ (by decide), integer]
  · rw [asked _ (by decide), text]
  · rw [asked _ (by decide), asked _ (by decide), sequence]

theorem told_cell {a : Address} (cls : (Value.ref a).classOf st = builtinClass n)
    (classes : HasClasses st (builtinClass n) [n]) (other : "int" ∉ [n] ∧ "str" ∉ [n])
    (base : (Value.ref a).builtinBase? st = Option.none)
    (sequence : (decide ("list" ∈ [n]) || decide ("tuple" ∈ [n])) = ((Value.ref a).items? st).isSome) :
    (Value.ref a).Told st := by
  refine HasClasses.told (cls ▸ classes) ?_ ?_ base (decide_eq_false other.1)
    (decide_eq_false other.2) sequence nofun
  · rw [cls]
    rfl
  · rw [cls]
    rfl

/-- Values of the built-in classes of data themselves, of no class that derives from one, and absent ones. -/
inductive IsData (st : Store) : Value → Prop
  | none : IsData st .none
  | absent {s : Sentinel} (runtime : ∀ a, s ≠ .copied a) : IsData st (.absent s)
  | bool (b : Bool) : IsData st (.bool b)
  | int (i : Int) : IsData st (.ofInt i)
  | float (x : Binary64) (mark : Nat) : IsData st (.float x Option.none mark)
  | text (t : Text) : IsData st (.ofText t)
  | list {a : Address} {vs : List Value} (cell : st.get? a = some (.list vs Option.none)) : IsData st (.ref a)
  | tuple {a : Address} {vs : List Value} (cell : st.get? a = some (.tuple vs)) : IsData st (.ref a)
  | dict {a : Address} {es : List (Value × Value)} (cell : st.get? a = some (.dict es Option.none)) :
    IsData st (.ref a)

theorem IsData.told (data : v.IsData st) : v.Told st := by
  cases data with
  | none => exact (hasClasses_builtin (n := "NoneType") (by decide) (by decide)).told rfl rfl rfl rfl rfl rfl nofun
  | absent runtime =>
    rename_i s
    have cls : (Value.absent s).classOf st = .entity (.sentinelClass s) := by
      cases s with
      | copied a => exact absurd rfl (runtime a)
      | _ => rfl
    refine HasClasses.told (cls ▸ hasClasses_absent s) ?_ ?_ rfl rfl rfl rfl nofun
    · rw [cls]
      rfl
    · rw [cls]
      rfl
  | bool b => exact hasClasses_bool.told rfl rfl rfl rfl rfl rfl nofun
  | int i => exact (hasClasses_builtin (n := "int") (by decide) (by decide)).told rfl rfl rfl rfl rfl rfl nofun
  | float x mark => exact (hasClasses_builtin (n := "float") (by decide) (by decide)).told rfl rfl rfl rfl rfl rfl nofun
  | text t => exact (hasClasses_builtin (n := "str") (by decide) (by decide)).told rfl rfl rfl rfl rfl rfl nofun
  | list cell =>
    refine told_cell (n := "list") ?_ (hasClasses_builtin (by decide) (by decide)) (by decide) ?_ ?_
    · simp only [classOf, kind, cell, Option.map_some, Option.getD_some, Cell.kind, Option.getD_none, builtinClass]
    · simp only [builtinBase?, cell]
    · simp only [items?, cell?, cell]
      rfl
  | tuple cell =>
    refine told_cell (n := "tuple") ?_ (hasClasses_builtin (by decide) (by decide)) (by decide) ?_ ?_
    · simp only [classOf, kind, cell, Option.map_some, Option.getD_some, Cell.kind, builtinClass]
    · simp only [builtinBase?, cell]
    · simp only [items?, cell?, cell]
      rfl
  | dict cell =>
    refine told_cell (n := "dict") ?_ (hasClasses_builtin (by decide) (by decide)) (by decide) ?_ ?_
    · simp only [classOf, kind, cell, Option.map_some, Option.getD_some, Cell.kind, Option.getD_none, builtinClass]
    · simp only [builtinBase?, cell]
    · simp only [items?, cell?, cell]
      rfl

theorem IsData.kept {st' : Store} (data : v.IsData st) (kept : st.Kept st') : v.IsData st' := by
  cases data with
  | none => exact .none
  | absent runtime => exact .absent runtime
  | bool b => exact .bool b
  | int i => exact .int i
  | float x mark => exact .float x mark
  | text t => exact .text t
  | list cell => exact .list (kept.cells _ _ cell)
  | tuple cell => exact .tuple (kept.cells _ _ cell)
  | dict cell => exact .dict (kept.cells _ _ cell)

theorem IsData.known (data : v.IsData st) : v.Known st := by
  constructor
  · rintro a rfl
    cases data with
    | list cell | tuple cell | dict cell => exact ⟨_, cell⟩
  · intro st' kept
    exact (data.kept kept).told

end

end Value

end RenderSource
