import RenderSource.Proofs.Literal.RoundTrip
import RenderSource.Proofs.Literal.Walk
/-!
Literals of what was rebuilt. A rebuilt value is made of built-in kinds, and the containers inside a container
stand before it, so the walk that writes it meets no cycle and its literal is the text that it was read from.
Reading that text again makes the same value once more, at other addresses.
-/
namespace RenderSource

/-- What some data is built as, at addresses below a bound. -/
inductive Built (st : Store) : Nat → Plain → Value → Prop
  | value {n : Nat} {p : Plain} {w : Value} (outside : w.isRef = false) (there : w.isAbsent = false)
      (made : ∀ st₁, p.build st₁ = (.ok w, st₁)) (data : w.plainData = .ok p) : Built st n p w
  | list {n a : Nat} {ps : List Plain} {ws : List Value} (below : a < n)
      (made : st.get? a = some (.list ws Option.none)) (length : ps.length = ws.length)
      (each : ∀ q ∈ ps.zip ws, Built st a q.1 q.2) : Built st n (.list ps) (.ref a)
  | dict {n a : Nat} {qs : List (Text × Plain)} {fs : List (Text × Value)} (below : a < n)
      (made : st.get? a = some (.dict (fs.map textEntry) Option.none)) (keys : qs.map (·.1) = fs.map (·.1))
      (distinct : (fs.map (·.1)).Nodup) (each : ∀ q ∈ qs.zip fs, Built st a q.1.2 q.2.2) :
      Built st n (.dict qs) (.ref a)

/-- Values of two stores that differ in nothing but the addresses of their containers. -/
inductive Alike (st st' : Store) : Value → Value → Prop
  | same {w : Value} (outside : w.isRef = false) : Alike st st' w w
  | list {a b : Address} {vs ws : List Value} {cls : Derived} (here : st.get? a = some (.list vs cls))
      (there : st'.get? b = some (.list ws cls)) (length : vs.length = ws.length)
      (each : ∀ q ∈ vs.zip ws, Alike st st' q.1 q.2) : Alike st st' (.ref a) (.ref b)
  | dict {a b : Address} {es fs : List (Value × Value)} {cls : Derived} (here : st.get? a = some (.dict es cls))
      (there : st'.get? b = some (.dict fs cls)) (keys : es.map (·.1) = fs.map (·.1))
      (each : ∀ q ∈ es.zip fs, Alike st st' q.1.2 q.2.2) : Alike st st' (.ref a) (.ref b)

def Evaluates (e : Env) (t : Text) (st : Store) (w : Value) (st' : Store) : Prop :=
  ∃ term, Term.readAll t = .ok term ∧ term.evaluate e st = (.ok w, st')

theorem Store.Kept.size_le {st st' : Store} (kept : st.Kept st') : st.size ≤ st'.size := by
  by_contra more
  have bound : st'.size < st.size := by omega
  obtain ⟨c, here⟩ : ∃ c, st.get? st'.size = some c := ⟨_, Array.getElem?_eq_getElem bound⟩
  have there := kept.cells _ _ here
  have beyond : st'.get? st'.size = none := Array.getElem?_eq_none (Nat.le_refl _)
  rw [beyond] at there
  cases there

namespace Value

theorem plainData_flat {w : Value} {p : Plain} (plain : w.plainData = .ok p) :
    (∀ ps, p ≠ .list ps) ∧ ∀ qs, p ≠ .dict qs := by
  cases w with
  | int n cls => simp [(plainData_int plain).1]
  | float x cls mark => simp [(plainData_float plain).1]
  | none | absent origin | bool b | text t cls | date d | moment m => cases plain; simp
  | _ => cases plain

theorem plainEqual_self {w : Value} {p : Plain} (plain : w.plainData = .ok p) : w.plainEqual w = true := by
  cases w with
  | float x cls mark => simp [plainEqual, Binary64.same, Binary64.isNaN_of_finite (plainData_float plain).2]
  | moment m => simp [plainEqual, Moment.same]
  | text t cls => simp [plainEqual]
  | none | absent origin | bool b | int n cls | date d => simp [plainEqual, asInt?]
  | _ => cases plain

theorem dataWithin_plain {w : Value} (outside : w.isRef = false) (st : Store) (fuel : Nat)
    (opened : List Address) : w.dataWithin st fuel opened = w.plainData := by
  cases w with
  | ref a => cases outside
  | _ => cases fuel <;> rfl

end Value

theorem forall₂_values {α β : Type} {R : α → β → Prop} {qs : List (Text × α)} {fs : List (Text × β)}
    (keys : qs.map (·.1) = fs.map (·.1)) (each : ∀ q ∈ qs.zip fs, R q.1.2 q.2.2) :
    List.Forall₂ (fun q f => q.1 = f.1 ∧ R q.2 f.2) qs fs := by
  induction qs generalizing fs with
  | nil =>
    cases fs with
    | nil => exact .nil
    | cons f fs => cases keys
  | cons q qs ih =>
    cases fs with
    | nil => cases keys
    | cons f fs =>
      obtain ⟨key, keys⟩ := List.cons_eq_cons.mp keys
      rw [List.zip_cons_cons, List.forall_mem_cons] at each
      exact .cons ⟨key, each.1⟩ (ih keys each.2)

namespace Built

variable {st st' : Store} {n m : Nat} {p : Plain} {w w' : Value}

theorem later (built : Built st n p w) (kept : st.Kept st') : Built st' n p w := by
  induction built with
  | value outside there made data => exact .value outside there made data
  | list below made length _ ih => exact .list below (kept.cells _ _ made) length ih
  | dict below made keys distinct _ ih => exact .dict below (kept.cells _ _ made) keys distinct ih

theorem raise (built : Built st n p w) (le : n ≤ m) : Built st m p w := by
  cases built with
  | value outside there made data => exact .value outside there made data
  | list below made length each => exact .list (by omega) made length each
  | dict below made keys distinct each => exact .dict (by omega) made keys distinct each

theorem there (built : Built st n p w) : w.isAbsent = false := by
  cases built with
  | value _ there _ _ => exact there
  | list | dict => rfl

/-- What holds of any two things that are built of the same data, by the kinds of the data. -/
theorem pair {P : Nat → Value → Value → Prop}
    (value : ∀ n w p, w.isRef = false → w.plainData = .ok p → P n w w)
    (list : ∀ (n a b : Nat) (ws ws' : List Value), a < n → st.get? a = some (.list ws Option.none) →
      st'.get? b = some (.list ws' Option.none) → List.Forall₂ (P a) ws ws' → P n (.ref a) (.ref b))
    (dict : ∀ (n a b : Nat) (fs fs' : List (Text × Value)), a < n → st.get? a = some (.dict (fs.map textEntry) Option.none) →
      st'.get? b = some (.dict (fs'.map textEntry) Option.none) → (fs'.map (·.1)).Nodup →
        List.Forall₂ (fun f f' => f.1 = f'.1 ∧ P a f.2 f'.2) fs fs' → P n (.ref a) (.ref b))
    (built : Built st n p w) (built' : Built st' m p w') : P n w w' := by
  induction built generalizing m w' with
  | value outside there made data =>
    cases built' with
    | value outside' there' made' data' =>
      have same := (made .empty).symm.trans (made' .empty)
      cases same
      exact value _ _ _ outside data
    | list => exact absurd rfl ((Value.plainData_flat data).1 _)
    | dict => exact absurd rfl ((Value.plainData_flat data).2 _)
  | @list n a ps ws below made length each ih =>
    cases built' with
    | value _ _ _ data' => exact absurd rfl ((Value.plainData_flat data').1 _)
    | @list _ b _ ws' below' made' length' each' =>
      have items : List.Forall₂ (fun p w => ∀ m w', Built st' m p w' → P a w w') ps ws :=
        forall₂_items length fun q member m w' => ih q member
      have items' := forall₂_items (R := Built st' b) length' each'
      apply list n a b ws ws' below made made'
      exact forall₂_through items items' fun p w w' first second => first _ _ second
  | @dict n a qs fs below made keys distinct each ih =>
    cases built' with
    | value _ _ _ data' => exact absurd rfl ((Value.plainData_flat data').2 _)
    | @dict _ b _ fs' below' made' keys' distinct' each' =>
      have values := forall₂_values (R := fun p w => ∀ m w', Built st' m p w' → P a w w') keys
        fun q member m w' => ih q member
      have values' := forall₂_values (R := Built st' b) keys' each'
      apply dict n a b fs fs' below made made' distinct'
      exact forall₂_through values values' fun q f f' first second =>
        ⟨first.1.symm.trans second.1, first.2 _ _ second.2⟩

theorem alike (built : Built st n p w) (built' : Built st' m p w') : Alike st st' w w' := by
  apply pair (P := fun _ w w' => Alike st st' w w') _ _ _ built built'
  · intro _ w p outside _
    exact .same outside
  · intro _ a b ws ws' _ made made' items
    obtain ⟨lengths, each⟩ := List.forall₂_iff_zip.mp items
    exact .list made made' lengths fun q member => each member
  · intro _ a b fs fs' _ made made' _ entries
    refine .dict made made' ?_ ?_
    · rw [List.map_map, List.map_map]
      exact map_of_forall₂ (entries.imp fun f f' here => congrArg Value.ofText here.1)
    · have values : List.Forall₂ (fun e e' => Alike st st' e.2 e'.2) (fs.map textEntry) (fs'.map textEntry) :=
        List.forall₂_map_left_iff.mpr (List.forall₂_map_right_iff.mpr (entries.imp fun f f' here => here.2))
      intro q member
      exact (List.forall₂_iff_zip.mp values).2 member

theorem fresh_below {a : Address} {opened : List Address} (below : a < n) (above : ∀ b ∈ opened, n ≤ b) :
    a ∉ opened ∧ ∀ b ∈ a :: opened, a ≤ b := by
  constructor
  · intro member
    exact Nat.not_le_of_lt below (above a member)
  · intro b member
    rcases List.mem_cons.mp member with rfl | before
    · exact Nat.le_refl _
    · exact Nat.le_trans (Nat.le_of_lt below) (above b before)

/-- The walk over what was built. The containers inside a container stand below it, so none is met twice. -/
theorem dataWithin (built : Built st n p w) {fuel : Nat} {opened : List Address} (enough : n ≤ fuel)
    (above : ∀ a ∈ opened, n ≤ a) : w.dataWithin st fuel opened = .ok p := by
  induction built generalizing fuel opened with
  | value outside there made data => rw [Value.dataWithin_plain outside, data]
  | @list n a ps ws below made length each ih =>
    obtain ⟨fuel, rfl⟩ : ∃ less, fuel = less + 1 := ⟨fuel - 1, by omega⟩
    obtain ⟨fresh, inner⟩ := fresh_below below above
    have items : (Value.ref a).items? st = some ws := by simp [Value.items?, Value.cell?, made]
    have parts : ws.mapM (Value.dataWithin st fuel (a :: opened)) = .ok ps :=
      mapM_of_forall₂ (forall₂_items (R := fun p w => w.dataWithin st fuel (a :: opened) = .ok p) length
        fun q member => ih q member (by omega) inner).flip
    simp only [Value.dataWithin, items, if_neg fresh, parts]
    rfl
  | @dict n a qs fs below made keys distinct each ih =>
    obtain ⟨fuel, rfl⟩ : ∃ less, fuel = less + 1 := ⟨fuel - 1, by omega⟩
    obtain ⟨fresh, inner⟩ := fresh_below below above
    have items : (Value.ref a).items? st = none := by simp [Value.items?, Value.cell?, made]
    have entries : (Value.ref a).entries? st = some (fs.map textEntry) := by
      simp [Value.entries?, Value.cell?, made]
    have written : ∀ q ∈ qs.zip fs, q.2.2.isAbsent = false ∧
        q.2.2.dataWithin st fuel (a :: opened) = .ok q.1.2 :=
      fun q member => ⟨(each q member).there, ih q member (by omega) inner⟩
    have values := forall₂_values (R := fun p w => w.isAbsent = false ∧
      w.dataWithin st fuel (a :: opened) = .ok p) keys written
    have there := forall_of_forall₂ (values.imp fun q f here => here.2.1)
    have all : Value.present (fs.map textEntry) = fs.map textEntry := by
      refine List.filter_eq_self.mpr fun e member => ?_
      obtain ⟨f, inside, rfl⟩ := List.mem_map.mp member
      simp [textEntry, there f inside]
    have parts : (fs.map textEntry).mapM (Value.entryWith (Value.dataWithin st fuel (a :: opened))) = .ok qs := by
      refine mapM_of_forall₂ (List.forall₂_map_left_iff.mpr (values.flip.imp fun f q here => ?_))
      obtain ⟨key, _, value⟩ := here
      simp [Value.entryWith, textEntry, Value.asText?, Value.ofText, value, Except.map, ← key]
    simp only [Value.dataWithin, items, entries, if_neg fresh, all, parts]
    rfl

theorem data (built : Built st st.size p w) : w.data st = .ok p := by
  apply built.dataWithin
  · omega
  · intro a member
    cases member

end Built

theorem keys_agree (st : Store) (fuel : Nat) (f g : Text × Value) :
    (if (textEntry g).1 = (textEntry f).1 then Except.ok true
      else Value.equalWithin st (fuel + 1) (textEntry g).1 (textEntry f).1) = .ok (decide (g.1 = f.1)) := by
  by_cases same : g.1 = f.1
  · have keys : (textEntry g).1 = (textEntry f).1 := congrArg Value.ofText same
    rw [if_pos keys, decide_eq_true same]
  · have keys : (textEntry g).1 ≠ (textEntry f).1 := fun texts => same (Value.text.inj texts).1
    rw [if_neg keys, decide_eq_false same]
    simp [Value.equalWithin, textEntry, Value.ofText, Value.plainEqual, same]

theorem entry_found {st : Store} {fuel : Nat} {fs : List (Text × Value)} {f f' : Text × Value} (member : f' ∈ fs)
    (key : f.1 = f'.1) (distinct : (fs.map (·.1)).Nodup) :
    (fs.map textEntry).findM? (fun e => if e.1 = (textEntry f).1 then Except.ok true
      else Value.equalWithin st (fuel + 1) e.1 (textEntry f).1) = .ok (some (textEntry f')) := by
  induction fs with
  | nil => cases member
  | cons g fs ih =>
    rw [List.map_cons, List.nodup_cons] at distinct
    rw [List.map_cons, List.findM?, keys_agree]
    rcases List.mem_cons.mp member with rfl | later
    · rw [decide_eq_true key.symm]
      rfl
    · have other : g.1 ≠ f.1 := by
        intro same
        exact distinct.1 (List.mem_map.mpr ⟨f', later, (same.trans key).symm⟩)
      rw [decide_eq_false other]
      exact ih later distinct.2

theorem Built.equalWithin {st : Store} {n m : Nat} {p : Plain} {w w' : Value} (built : Built st n p w)
    (built' : Built st m p w') {fuel : Nat} (enough : n < fuel) :
    Value.equalWithin st fuel w w' = .ok true := by
  refine pair (P := fun n w w' => ∀ fuel, n < fuel → Value.equalWithin st fuel w w' = .ok true)
    ?_ ?_ ?_ built built' fuel enough
  · intro n w p outside data fuel enough
    obtain ⟨fuel, rfl⟩ : ∃ less, fuel = less + 1 := ⟨fuel - 1, by omega⟩
    have equal : Value.equalWithin st (fuel + 1) w w = .ok (w.plainEqual w) := by
      cases w with
      | ref a => cases outside
      | _ => rfl
    rw [equal, Value.plainEqual_self data]
  · intro n a b ws ws' below made made' items fuel enough
    obtain ⟨fuel, rfl⟩ : ∃ less, fuel = less + 1 := ⟨fuel - 1, by omega⟩
    by_cases same : a = b
    · simp only [Value.equalWithin, if_pos same]
    · obtain ⟨lengths, each⟩ := List.forall₂_iff_zip.mp items
      simp only [Value.equalWithin, if_neg same, made, made', if_pos lengths]
      refine allM_ok fun q member => ?_
      have equal := each (a := q.1) (b := q.2) member fuel (by omega)
      simp only [equal, ite_self]
  · intro n a b fs fs' below made made' distinct entries fuel enough
    -- Keys are compared one level further in than the mappings, so there must be fuel for two.
    obtain ⟨fuel, rfl⟩ : ∃ less, fuel = less + 2 := ⟨fuel - 2, by omega⟩
    by_cases same : a = b
    · simp only [Value.equalWithin, if_pos same]
    · have lengths : (fs.map textEntry).length = (fs'.map textEntry).length := by
        rw [List.length_map, List.length_map, entries.length_eq]
      rw [Value.equalWithin]
      simp only [if_neg same, made, made', if_pos lengths]
      refine allM_ok fun e member => ?_
      obtain ⟨f, inside, rfl⟩ := List.mem_map.mp member
      obtain ⟨f', inside', key, equal⟩ := forall₂_partner entries.flip f inside
      have values : Value.equalWithin st (fuel + 1) (textEntry f).2 (textEntry f').2 = .ok true :=
        equal (fuel + 1) (by omega)
      rw [entry_found inside' key distinct]
      change (if _ = _ then _ else Value.equalWithin st (fuel + 1) (textEntry f).2 (textEntry f').2) = _
      rw [values, ite_self]

def Plain.Builds (p : Plain) : Prop :=
  ∀ st w st', p.build st = (.ok w, st') → st.Kept st' ∧ Built st' st'.size p w

namespace Plain

theorem builds_value {p : Plain} {w : Value} (outside : w.isRef = false) (there : w.isAbsent = false)
    (made : ∀ st, p.build st = (.ok w, st)) (data : w.plainData = .ok p) : Builds p := by
  intro st w' st' done
  rw [made st] at done
  cases done
  exact ⟨.refl st, .value outside there made data⟩

theorem builds_moment {m : Moment} (inside : Moment.InYears m.micros) :
    Builds (.moment m.zone.offset?.isSome m.millis) := by
  obtain ⟨r, found, _, zone, clock⟩ := Moment.rebuilt_spec inside
  have utc : r.zone.offset?.isSome = m.zone.offset?.isSome ∧ r.zone.offset?.getD 0 = 0 := by
    rw [zone, Zone.rebuilt]
    split
    · rename_i placed
      exact ⟨placed.symm, rfl⟩
    · rename_i placed
      simp only [Bool.not_eq_true] at placed
      exact ⟨placed.symm, rfl⟩
  have millis : r.millis = m.millis := by
    rw [Moment.millis, Moment.micros, utc.2, clock, Moment.millis]
    rw [Int.fdiv_eq_ediv_of_nonneg _ (by omega), Int.fdiv_eq_ediv_of_nonneg _ (by omega)]
    omega
  refine builds_value (w := .moment r) rfl rfl (fun st => ?_) ?_
  · rw [Zone.rebuilt] at found
    rw [build, found]
    rfl
  · change Except.ok (Plain.moment r.zone.offset?.isSome r.millis) = _
    rw [utc.1, millis]

theorem builds_plain {st : Store} {v : Value} {p : Plain} (plain : v.plainData = .ok p)
    (sound : v.Sound st) : Builds p := by
  cases v with
  | none | absent origin => cases plain; exact builds_value (w := .none) rfl rfl (fun _ => rfl) rfl
  | bool b => cases plain; exact builds_value (w := .bool b) rfl rfl (fun _ => rfl) rfl
  | text t cls => cases plain; exact builds_value (w := .ofText t) rfl rfl (fun _ => rfl) rfl
  | date d =>
    cases plain
    refine builds_value (w := .date d) rfl rfl (fun st => ?_) rfl
    rw [build, Date.ofOrdinal_ordinal sound]
    rfl
  | moment m => cases plain; exact builds_moment sound.2
  | int n cls =>
    obtain ⟨rfl, data⟩ := Value.plainData_int plain
    exact builds_value rfl rfl (fun _ => rfl) data
  | float x cls mark =>
    obtain ⟨rfl, finite⟩ := Value.plainData_float plain
    refine builds_value (w := .float x Option.none 0) rfl rfl (fun _ => rfl) ?_
    exact if_pos finite
  | _ => cases plain

theorem buildAll_built {ps : List Plain} (each : ∀ p ∈ ps, Builds p) {st st' : Store}
    {ws : List Value} (done : buildAll ps st = (.ok ws, st')) :
    st.Kept st' ∧ List.Forall₂ (Built st' st'.size) ps ws := by
  induction ps generalizing st ws with
  | nil =>
    cases done
    exact ⟨.refl _, .nil⟩
  | cons p ps ih =>
    rw [buildAll] at done
    obtain ⟨w, between, first, done⟩ := Run.ok_of_bind done
    obtain ⟨ws, last, more, done⟩ := Run.ok_of_bind done
    cases done
    obtain ⟨kept, built⟩ := each p (by simp) _ _ _ first
    obtain ⟨keptAll, builtAll⟩ := ih (fun q member => each q (List.mem_cons_of_mem p member)) more
    exact ⟨kept.trans keptAll, .cons ((built.later keptAll).raise keptAll.size_le) builtAll⟩

theorem buildEntries_built {qs : List (Text × Plain)} (each : ∀ q ∈ qs, Builds q.2) {st st' : Store}
    {es : List (Value × Value)} (done : buildEntries qs st = (.ok es, st')) :
    st.Kept st' ∧ ∃ fs, es = fs.map textEntry ∧
      List.Forall₂ (fun q f => q.1 = f.1 ∧ Built st' st'.size q.2 f.2) qs fs := by
  induction qs generalizing st es with
  | nil =>
    cases done
    exact ⟨.refl _, [], rfl, .nil⟩
  | cons q qs ih =>
    rw [buildEntries] at done
    obtain ⟨w, between, first, done⟩ := Run.ok_of_bind done
    obtain ⟨es, last, more, done⟩ := Run.ok_of_bind done
    cases done
    obtain ⟨kept, built⟩ := each q (by simp) _ _ _ first
    obtain ⟨keptAll, fs, rfl, builtAll⟩ := ih (fun r member => each r (List.mem_cons_of_mem q member)) more
    refine ⟨kept.trans keptAll, (q.1, w) :: fs, rfl, .cons ⟨rfl, ?_⟩ builtAll⟩
    exact (built.later keptAll).raise keptAll.size_le

theorem builds_list {ps : List Plain} (each : ∀ p ∈ ps, Builds p) : Builds (.list ps) := by
  intro st w st' done
  rw [build] at done
  obtain ⟨ws, between, parts, done⟩ := Run.ok_of_bind done
  cases done
  obtain ⟨kept, built⟩ := buildAll_built each parts
  have grown := Store.kept_add between (.list ws Option.none)
  obtain ⟨length, items⟩ := List.forall₂_iff_zip.mp built
  refine ⟨kept.trans grown, .list ?_ (Store.get_add between _) length ?_⟩
  · exact Nat.lt_of_lt_of_eq (Nat.lt_succ_self _) (Store.size_add between _).symm
  · intro q member
    exact (items member).later grown

theorem builds_dict {qs : List (Text × Plain)} (distinct : (qs.map (·.1)).Nodup)
    (each : ∀ q ∈ qs, Builds q.2) : Builds (.dict qs) := by
  intro st w st' done
  rw [build] at done
  obtain ⟨es, between, parts, done⟩ := Run.ok_of_bind done
  obtain ⟨kept, fs, rfl, built⟩ := buildEntries_built each parts
  have keys : qs.map (·.1) = fs.map (·.1) := map_of_forall₂ (built.imp fun q f here => here.1)
  rw [keys] at distinct
  have looked : Run.look (fun st => Value.entriesOf st (fs.map textEntry)) between =
      (.ok (fs.map textEntry), between) := by
    rw [Run.look_apply, entriesOf_texts between distinct]
  rw [Run.bind_ok looked] at done
  cases done
  have grown := Store.kept_add between (.dict (fs.map textEntry) Option.none)
  obtain ⟨length, items⟩ := List.forall₂_iff_zip.mp built
  refine ⟨kept.trans grown, .dict ?_ (Store.get_add between _) keys distinct ?_⟩
  · exact Nat.lt_of_lt_of_eq (Nat.lt_succ_self _) (Store.size_add between _).symm
  · intro q member
    exact (items member).2.later grown

end Plain

theorem data_builds {st : Store} {v : Value} {p : Plain} (collected : v.data st = .ok p)
    (sound : ∀ w, Reaches st v w → w.Sound st) : p.Builds := by
  refine Value.dataWithin_induction (P := fun v p => (∀ w, Reaches st v w → w.Sound st) → p.Builds)
    ?_ ?_ ?_ collected sound
  · intro v p plain sound
    exact Plain.builds_plain plain (sound v .refl)
  · intro a vs ps items parts sound
    have each := (List.forall₂_and_left vs ps).mpr ⟨fun _ h => h, parts⟩
    refine Plain.builds_list (forall_of_forall₂ (each.imp fun v p here => ?_))
    obtain ⟨member, done⟩ := here
    exact done fun w reaches => sound w ((Reaches.item .refl items member).trans reaches)
  · intro a es qs entries parts sound
    have each := (List.forall₂_and_left (Value.present es) qs).mpr ⟨fun _ h => h, parts⟩
    have distinct := keys_distinct (sound _ .refl es entries) parts
    refine Plain.builds_dict distinct (forall_of_forall₂ (each.imp fun e q here => ?_))
    obtain ⟨member, key, done⟩ := here
    exact done fun w reaches => sound w ((Reaches.entry .refl entries member).trans reaches)

theorem Built.literal {st st' : Store} {p : Plain} {w : Value} (built : Built st st.size p w)
    (kept : st.Kept st') : w.literal st' = .ok p.term.spelled := by
  rw [Value.literal_eq, ((built.later kept).raise kept.size_le).data]
  rfl

/-- The literal of what is rebuilt of a value is the text that it was rebuilt from, and rebuilding it once more
gives it again at other addresses, wherever that is done. -/
theorem literal_rebuilt_again {e : Env} {st st₁ : Store} {v : Value} {t : Text}
    (knows : e.KnowsCalendar st₁.frames) (sound : ∀ w, Reaches st v w → w.Sound st)
    (written : v.literal st = .ok t) :
    ∃ w st₂, Evaluates e t st₁ w st₂ ∧ Rebuilt st st₂ v w ∧
      (∀ st₃, st₂.Kept st₃ → w.literal st₃ = .ok t) ∧
      ∀ (e' : Env) (st₃ : Store), e'.KnowsCalendar st₃.frames →
        ∃ w' st₄, Evaluates e' t st₃ w' st₄ ∧ Alike st₂ st₄ w w' ∧
          (st₂.Kept st₃ → w.equal st₄ w' = .ok true) := by
  rw [Value.literal_eq] at written
  obtain ⟨p, collected, rfl⟩ := ok_of_map written
  have read := Term.readAll_spelled (data_emitted collected)
  have builds := data_builds collected sound
  obtain ⟨w, st₂, made, rebuilt, kept⟩ := data_rebuilds collected sound st₁
  have built := (builds _ _ _ made).2
  refine ⟨w, st₂, ⟨p.term, read, (Plain.evaluate_term knows p rfl).trans made⟩, rebuilt, ?_, ?_⟩
  · intro st₃ before
    exact built.literal before
  · intro e' st₃ knows'
    obtain ⟨w', st₄, made', _, kept'⟩ := data_rebuilds collected sound st₃
    have built' := (builds _ _ _ made').2
    refine ⟨w', st₄, ⟨p.term, read, (Plain.evaluate_term knows' p rfl).trans made'⟩, built.alike built', ?_⟩
    intro before
    have all := before.trans kept'
    have size := all.size_le
    exact (built.later all).equalWithin built' (by omega)

theorem literal_rebuilt_again_tuple : ∃ t w st₂, (Value.ref 0).literal sampleStore = .ok t ∧
    Evaluates Env.calendar t sampleStore w st₂ ∧ w.literal st₂ = .ok t ∧
    ∃ w' st₄, Evaluates Env.calendar t st₂ w' st₄ ∧ Alike st₂ st₄ w w' ∧ w.equal st₄ w' = .ok true := by
  obtain ⟨w, st₂, rebuilt, _, again, more⟩ :=
    literal_rebuilt_again (Env.calendar_knows _) sampleStore_sound sampleStore_literal
  obtain ⟨w', st₄, rebuilt', alike, equal⟩ := more Env.calendar st₂ (Env.calendar_knows _)
  exact ⟨_, w, st₂, sampleStore_literal, rebuilt, again st₂ (.refl st₂), w', st₄, rebuilt', alike,
    equal (.refl st₂)⟩

end RenderSource
