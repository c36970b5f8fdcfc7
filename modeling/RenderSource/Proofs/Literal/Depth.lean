import RenderSource.Proofs.Literal.Walk
/-!
How deep the walk that writes a literal goes. Each container inside another one takes calls inside those of the
other one, and there can be only so many. A walk that needs no more ends with the first offence or with none;
another one is given up inside a container in which too many calls are open.
-/
namespace RenderSource

namespace Value

/-- Containers inside one another from a value on, the innermost first. -/
inductive Nest (st : Store) (v : Value) : List Address → Prop
  | outermost {a : Address} (here : v = .ref a) : Nest st v [a]
  | inner {a b : Address} {path : List Address} (outer : Nest st v (a :: path)) (held : Holds st (.ref a) (.ref b)) :
      Nest st v (b :: a :: path)

/-- A walk from a value is given up: inside containers that are all different, the next one takes more calls than
there is room for. -/
def GivenUp (st : Store) (v : Value) (room : Nat) (o : Offence) : Prop :=
  ∃ a path, o = .deep (.ref a) ∧ Nest st v (a :: path) ∧ path.Nodup ∧ room < openCalls st (a :: path)

/-- Of two readings of a list, one may be given up where the other goes on. -/
theorem mapM_or {α β ε : Type} {f g : α → Except ε β} {P : ε → Prop} {xs : List α}
    (each : ∀ x ∈ xs, f x = g x ∨ ∃ e, f x = .error e ∧ P e) :
    xs.mapM f = xs.mapM g ∨ ∃ e, xs.mapM f = .error e ∧ P e := by
  induction xs with
  | nil => exact .inl rfl
  | cons x xs ih =>
    obtain ⟨first, later⟩ := List.forall_mem_cons.mp each
    rw [List.mapM_cons, List.mapM_cons]
    rcases first with same | ⟨e, failed, given⟩
    · rw [same]
      cases g x with
      | error e => exact .inl rfl
      | ok y =>
        rcases ih later with same | ⟨e, failed, given⟩
        · exact .inl (by rw [same])
        · exact .inr ⟨e, by rw [failed]; rfl, given⟩
    · exact .inr ⟨e, by rw [failed]; rfl, given⟩

section

variable {st : Store} {v : Value} {room fuel : Nat} {opened : List Address}

theorem entryWith_or {P : Offence → Prop} {f g : Value → Except Offence Text} {e : Value × Value}
    (value : f e.2 = g e.2 ∨ ∃ o, f e.2 = .error o ∧ P o) :
    entryWith f e = entryWith g e ∨ ∃ o, entryWith f e = .error o ∧ P o := by
  unfold entryWith
  cases e.1.asText? with
  | none => exact .inl rfl
  | some t =>
    rcases value with same | ⟨o, failed, given⟩
    · exact .inl (by rw [same])
    · exact .inr ⟨o, by rw [failed]; rfl, given⟩

theorem map_or {α β : Type} {P : Offence → Prop} {x y : Except Offence α} (g : α → β)
    (either : x = y ∨ ∃ o, x = .error o ∧ P o) : x.map g = y.map g ∨ ∃ o, x.map g = .error o ∧ P o := by
  rcases either with rfl | ⟨o, rfl, given⟩
  · exact .inl rfl
  · exact .inr ⟨o, rfl, given⟩

/-- A bounded walk takes the turns of the one without bounds until it is given up. -/
theorem bounded_or (distinct : opened.Nodup) {w : Value} (nest : ∀ a, w = .ref a → Nest st v (a :: opened)) :
    literalWithin st (some room) fuel opened w = literalWithin st Option.none fuel opened w ∨
      ∃ o, literalWithin st (some room) fuel opened w = .error o ∧ GivenUp st v room o := by
  induction fuel generalizing opened w with
  | zero => cases w <;> exact .inl rfl
  | succ fuel ih =>
    cases plain : w.isRef with
    | false =>
      rw [literalWithin_outside plain, literalWithin_outside plain]
      exact .inl rfl
    | true =>
      obtain ⟨a, rfl⟩ : ∃ a, w = .ref a := by
        cases w with
        | ref a => exact ⟨a, rfl⟩
        | _ => cases plain
      have here := nest a rfl
      have full : overruns st (some room) (a :: opened) = true →
          GivenUp st v room (.deep (.ref a)) := fun beyond =>
          ⟨a, opened, rfl, here, distinct, of_decide_eq_true beyond⟩
      have inner : a ∉ opened → ∀ p, Holds st (.ref a) p →
          literalWithin st (some room) fuel (a :: opened) p = literalWithin st Option.none fuel (a :: opened) p ∨
            ∃ o, literalWithin st (some room) fuel (a :: opened) p = .error o ∧ GivenUp st v room o := by
        intro outside p held
        refine ih (List.nodup_cons.mpr ⟨outside, distinct⟩) fun b same => ?_
        subst same
        exact .inner here held
      cases listed : (Value.ref a).items? st with
      | some vs =>
        rw [bounded_items listed, literalWithin_items listed]
        split
        · exact .inr ⟨_, rfl, full ‹_›⟩
        · split
          · exact .inl rfl
          · exact map_or listText (mapM_or fun p member => inner ‹_› p (.inl ⟨vs, listed, member⟩))
      | none => cases mapped : (Value.ref a).entries? st with
        | some es =>
          rw [bounded_entries mapped, literalWithin_entries mapped]
          split
          · exact .inr ⟨_, rfl, full ‹_›⟩
          · split
            · exact .inl rfl
            · refine map_or mappingText (mapM_or fun e member => entryWith_or (inner ‹_› e.2 ?_))
              exact .inr ⟨es, e.1, mapped, List.mem_of_mem_filter member⟩
        | none =>
          rw [literalWithin_other listed mapped, literalWithin_other listed mapped]
          exact .inl rfl

theorem literalIn_or (st : Store) (v : Value) (room : Nat) :
    v.literalIn room st = v.literal st ∨ ∃ o, v.literalIn room st = .error o ∧ GivenUp st v room o :=
  bounded_or List.nodup_nil fun _ same => .outermost same

end

end Value

theorem LibraryFunction.apply_literal (call : Value → List Value → Run Value) (v : Value) (st : Store) :
    apply call .literal [v] st =
      (match v.literalIn callRoom st with
        | .ok t => .ok (.ofText t)
        | .error (.deep _) => .error .tooDeep
        | .error offence => .error (.offence offence), st) := by
  rw [apply, Run.look]
  unfold boundedLiteral
  cases v.literalIn callRoom st with
  | ok t => rfl
  | error offence => cases offence <;> rfl

def ring (n : Nat) : Store := ⟨Array.ofFn fun i : Fin n => .list [.ref ((i + 1) % n)] none, #[]⟩

section

open Value (literalWithin openCalls overruns)

variable {n k room : Nat}

theorem ring_get (inside : k < n) : (ring n).get? k = some (.list [.ref ((k + 1) % n)] none) := by
  simp [ring, Store.get?, inside]

theorem ring_items (inside : k < n) : (Value.ref k).items? (ring n) = some [.ref ((k + 1) % n)] := by
  simp only [Value.items?, Value.cell?, ring_get inside]

def before (k : Nat) : List Address := (List.range k).reverse

theorem before_succ (k : Nat) : before (k + 1) = k :: before k := by
  simp [before, List.range_succ]

theorem mem_before {i : Nat} : i ∈ before k ↔ i < k := by
  simp [before]

theorem openCalls_before (within : k ≤ n) : openCalls (ring n) (before k) = 4 * k := by
  induction k with
  | zero => rfl
  | succ k ih =>
    rw [before_succ, openCalls, ih (by omega), ring_get (by omega), Option.map_some, Option.getD_some,
      Value.callsInside]
    omega

theorem outside_before (k : Nat) : k ∉ before k := fun member => absurd (mem_before.mp member) (Nat.lt_irrefl k)

theorem ring_cyclic {m : Nat} (left : k + (m + 1) = n) :
    literalWithin (ring n) none (m + 2) (before k) (.ref k) = .error (.cyclic (.ref 0)) := by
  induction m generalizing k with
  | zero =>
    have first : 0 ∈ k :: before k := before_succ k ▸ mem_before.mpr (Nat.succ_pos k)
    rw [Value.literalWithin_items (ring_items (by omega)), if_neg (outside_before k), List.mapM_cons,
      left, Nat.mod_self, Value.literalWithin_items (ring_items (by omega)), if_pos first]
    rfl
  | succ m ih =>
    have next := @ih (k + 1) (by omega)
    rw [before_succ] at next
    rw [Value.literalWithin_items (ring_items (by omega)), if_neg (outside_before k), List.mapM_cons,
      Nat.mod_eq_of_lt (by omega), next]
    rfl

theorem ring_deep {m : Nat} (left : k + (m + 1) = n) (few : room < 4 * n) :
    ∃ j, literalWithin (ring n) (some room) (m + 2) (before k) (.ref k) = .error (.deep (.ref j)) := by
  induction m generalizing k with
  | zero =>
    have calls : openCalls (ring n) (k :: before k) = 4 * n := by
      rw [← before_succ, openCalls_before (by omega)]
      omega
    rw [Value.bounded_items (ring_items (by omega)), overruns, calls]
    exact ⟨k, by simp [few]⟩
  | succ m ih =>
    rw [Value.bounded_items (ring_items (by omega))]
    split
    · exact ⟨k, rfl⟩
    · obtain ⟨j, later⟩ := @ih (k + 1) (by omega)
      rw [before_succ] at later
      rw [if_neg (outside_before k), Nat.mod_eq_of_lt (by omega), List.mapM_cons, later]
      exact ⟨j, rfl⟩

end

theorem apply_ring {n : Nat} (long : LibraryFunction.callRoom < 4 * n) :
    Walk (ring n) [] (.value (.ref 0)) (some (.cyclic (.ref 0))) ∧
      ∀ call, LibraryFunction.apply call .literal [.ref 0] (ring n) = (.error .tooDeep, ring n) := by
  obtain ⟨m, rfl⟩ : ∃ m, n = m + 1 := ⟨n - 1, by omega⟩
  have size : (ring (m + 1)).size = m + 1 := by simp [ring, Store.size]
  constructor
  · have cyclic : (Value.ref 0).literal (ring (m + 1)) = .error (.cyclic (.ref 0)) := by
      rw [Value.literal, size]
      exact ring_cyclic (Nat.zero_add (m + 1))
    rw [walk_literal, cyclic]
    rfl
  · intro call
    obtain ⟨j, deep⟩ : ∃ j, (Value.ref 0).literalIn LibraryFunction.callRoom (ring (m + 1)) = .error (.deep (.ref j)) := by
      rw [Value.literalIn, size]
      exact ring_deep (Nat.zero_add (m + 1)) long
    rw [LibraryFunction.apply_literal, deep]

end RenderSource
