import RenderSource.Library.Function
import RenderSource.Proofs.Value.Keys
/-!
Walks along paths. A walk along a path and on along another one is the walk along both, also where it fails. A step
fails on a mapping that cannot have such a key, and where asking for an attribute fails; an index never leaves its
sequence. Nothing is assumed of what values give for the names of attributes.
-/
namespace RenderSource.Value

section

variable (st : Store) (ask : Value → Text → Except Fault (Option Value))

/-- A walk along a path comes to a value, which may be missing. -/
inductive Reaches : Value → List Value → Value → Prop
  | start (v : Value) : Reaches v [] v
  | next {v w u key : Value} {path : List Value} (there : v.isMissing = false)
      (taken : stepBy st ask v key = .ok w) (later : Reaches w path u) : Reaches v (key :: path) u

/-- A walk along a path fails at the step with this number. -/
inductive FailsAt : Value → List Value → Nat → Fault → Prop
  | here {v key : Value} {path : List Value} {e : Fault} (there : v.isMissing = false)
      (failed : stepBy st ask v key = .error e) : FailsAt v (key :: path) 0 e
  | later {v w key : Value} {path : List Value} {n : Nat} {e : Fault} (there : v.isMissing = false)
      (taken : stepBy st ask v key = .ok w) (failed : FailsAt w path n e) : FailsAt v (key :: path) (n + 1) e

end

variable {st : Store} {ask : Value → Text → Except Fault (Option Value)} {v w u key : Value}
  {p q path : List Value} {n : Nat} {e : Fault}

theorem lookup_missing (missing : v.isMissing = true) (path : List Value) :
    lookupBy st ask v path = .ok .none := by
  cases path with
  | nil =>
    cases v with
    | none | absent => rfl
    | _ => cases missing
  | cons key path =>
    rw [lookupBy, if_pos missing]
    rfl

theorem lookup_nil (there : v.isMissing = false) : lookupBy st ask v [] = .ok v := by
  cases v with
  | absent => cases there
  | _ => rfl

theorem lookup_cons (there : v.isMissing = false) (key : Value) (path : List Value) :
    lookupBy st ask v (key :: path) = (stepBy st ask v key >>= fun w => lookupBy st ask w path) := by
  rw [lookupBy, there]
  rfl

theorem lookup_append (v : Value) (p q : List Value) :
    lookupBy st ask v (p ++ q) = (lookupBy st ask v p >>= fun w => lookupBy st ask w q) := by
  induction p generalizing v with
  | nil =>
    cases found : v.isMissing with
    | true =>
      rw [lookup_missing found, lookup_missing found]
      exact (lookup_missing rfl q).symm
    | false =>
      rw [lookup_nil found]
      rfl
  | cons key p ih =>
    cases found : v.isMissing with
    | true =>
      rw [lookup_missing found, lookup_missing found]
      exact (lookup_missing rfl q).symm
    | false =>
      rw [List.cons_append, lookup_cons found, lookup_cons found]
      cases stepBy st ask v key with
      | error e => rfl
      | ok w => exact ih w

theorem Reaches.lookup (walk : Reaches st ask v p u) (q : List Value) :
    lookupBy st ask v (p ++ q) = lookupBy st ask u q := by
  induction walk with
  | start => rfl
  | next there taken _ ih =>
    rw [List.cons_append, lookup_cons there, taken]
    exact ih

theorem FailsAt.there (failed : FailsAt st ask v path n e) : v.isMissing = false := by
  cases failed with
  | here there => exact there
  | later there => exact there

theorem FailsAt.lookup (failed : FailsAt st ask v path n e) : lookupBy st ask v path = .error e := by
  induction failed with
  | here there failed =>
    rw [lookup_cons there, failed]
    rfl
  | later there taken _ ih =>
    rw [lookup_cons there, taken]
    exact ih

theorem failsAt_of_lookup (failed : lookupBy st ask v path = .error e) : ∃ n, FailsAt st ask v path n e := by
  induction path generalizing v with
  | nil => cases failed
  | cons key path ih =>
    cases there : v.isMissing with
    | true =>
      rw [lookup_missing there] at failed
      cases failed
    | false =>
      rw [lookup_cons there] at failed
      cases taken : stepBy st ask v key with
      | error e' =>
        rw [taken] at failed
        cases failed
        exact ⟨0, .here there taken⟩
      | ok w =>
        rw [taken] at failed
        obtain ⟨n, later⟩ := ih failed
        exact ⟨n + 1, .later there taken later⟩

/-- A walk fails in the first part of its path, or where the walk along the rest from there on does. -/
theorem failsAt_append : FailsAt st ask v (p ++ q) n e ↔
    FailsAt st ask v p n e ∨ ∃ w m, lookupBy st ask v p = .ok w ∧ n = p.length + m ∧ FailsAt st ask w q m e := by
  constructor
  · intro failed
    induction p generalizing v n with
    | nil => exact .inr ⟨v, n, lookup_nil failed.there, (Nat.zero_add n).symm, failed⟩
    | cons key p ih =>
      cases failed with
      | here there failed => exact .inl (.here there failed)
      | later there taken failed =>
        rcases ih failed with early | ⟨w, m, found, rfl, late⟩
        · exact .inl (.later there taken early)
        · refine .inr ⟨w, m, ?_, ?_, late⟩
          · rw [lookup_cons there, taken]
            exact found
          · rw [List.length_cons]
            omega
  · rintro (early | ⟨w, m, found, rfl, late⟩)
    · induction early with
      | here there failed => exact .here there failed
      | later there taken _ ih => exact .later there taken ih
    · induction p generalizing v with
      | nil =>
        cases there : v.isMissing with
        | true =>
          rw [lookup_missing there] at found
          cases found
          cases late.there
        | false =>
          rw [lookup_nil there] at found
          cases found
          rwa [List.length_nil, Nat.zero_add]
      | cons key p ih =>
        cases there : v.isMissing with
        | true =>
          rw [lookup_missing there] at found
          cases found
          cases late.there
        | false =>
          rw [lookup_cons there] at found
          obtain ⟨next, taken, found⟩ := ok_of_bind found
          rw [List.length_cons, Nat.add_right_comm]
          exact .later there taken (ih found)

/-- A step fails in two ways: into a mapping with what cannot be a key, and where asking for an attribute does. -/
theorem step_error_iff : stepBy st ask v key = .error e ↔
    (e = .wrongType ∧ (v.entries? st).isSome = true ∧ key.isHashable st = false) ∨
      (v.entries? st = Option.none ∧ ∃ name, key.asText? = some name ∧ name.isPrivate = false ∧
        ask v name = .error e) := by
  unfold stepBy
  cases v.entries? st with
  | some es =>
    cases usable : key.isHashable st with
    | true =>
      refine iff_of_false ?_ (by simp)
      simp [Entries.find?_key usable, bind, Except.bind, pure, Except.pure]
    | false =>
      simp only [Option.isSome_some, and_true, reduceCtorEq, false_and, or_false]
      exact ⟨fun failed => (Except.error.inj failed).symm, fun same => same ▸ rfl⟩
  | none =>
    cases key with
    | text name cls =>
      have inner : ((ask v name).map fun found => found.getD .none) = .error e ↔ ask v name = .error e := by
        cases ask v name <;> simp [Except.map]
      cases hidden : name.isPrivate <;> simp [asInt?, asText?, hidden, inner]
    | _ => cases v.items? st <;> simp [asInt?, asText?]

theorem itemAt_cases (vs : List Value) (i : Int) :
    (∃ (place : Nat) (inside : place < vs.length),
      (i = place ∨ i = (place : Int) - vs.length) ∧ itemAt vs i = vs[place]) ∨
    ((i < -vs.length ∨ vs.length ≤ i) ∧ itemAt vs i = .none) := by
  obtain ⟨place, counted⟩ : ∃ place, place = if i < 0 then i + vs.length else i := ⟨_, rfl⟩
  have found : itemAt vs i = if 0 ≤ place then vs.getD place.toNat .none else .none := counted ▸ rfl
  by_cases inside : 0 ≤ place ∧ place < vs.length
  · have there : place.toNat < vs.length := by omega
    refine .inl ⟨place.toNat, there, ?_, ?_⟩
    · split at counted <;> omega
    · rw [found, if_pos inside.1, List.getD_eq_getElem?_getD, List.getElem?_eq_getElem there]
      rfl
  · refine .inr ⟨?_, ?_⟩
    · split at counted <;> omega
    · rw [found]
      split
      · rw [List.getD_eq_getElem?_getD, List.getElem?_eq_none (by omega)]
        rfl
      · rfl

theorem step_index {vs : List Value} {i : Int} (sequence : v.items? st = some vs) (index : key.asInt? = some i) :
    stepBy st ask v key = .ok (itemAt vs i) := by
  have unkeyed : v.entries? st = Option.none := by
    unfold items? at sequence
    unfold entries?
    split at sequence <;> simp_all
  unfold stepBy
  rw [unkeyed]
  dsimp only
  rw [sequence, index]

/-- A dict that holds itself, a list, which is no key, and an object that raises an exception when it is asked for
its total. -/
def ownHolder : Store :=
  ⟨#[.dict [(.ofText (wording "k"), .ref 0)] .none, .list [] .none,
    .object (wording "Cart") .none [(wording "total", .raising (.ref 3))],
    .exception (.builtin (wording "ValueError") true) (wording "ValueError") [] []], #[]⟩

example : FailsAt ownHolder (member? ownHolder) (.ref 0) [.ofText (wording "k"), .ref 1] 1 .wrongType := by
  refine .later rfl (w := .ref 0) ?_ (.here rfl ?_)
  · decide
  · decide

end RenderSource.Value
