import RenderSource.Proofs.Number.Whole
import RenderSource.Proofs.Run.Steps
import RenderSource.Value.Entries
/-!
Keys of mappings. Whether two keys are one is always decided, it is an equivalence, and it does not depend
on what the dicts of a store hold: each key has a form, and keys of one form are one key.
-/
namespace RenderSource

section

variable {ε α : Type} {f : α → Except ε Bool} {xs : List α}

theorem allM_decided (each : ∀ x ∈ xs, ∃ b, f x = .ok b) : ∃ b, xs.allM f = .ok b := by
  induction xs with
  | nil => exact ⟨true, rfl⟩
  | cons x xs ih =>
    obtain ⟨⟨b, first⟩, later⟩ := List.forall_mem_cons.mp each
    rw [List.allM, first]
    cases b with
    | true => exact ih later
    | false => exact ⟨false, rfl⟩

theorem allM_iff (each : ∀ x ∈ xs, ∃ b, f x = .ok b) : xs.allM f = .ok true ↔ ∀ x ∈ xs, f x = .ok true := by
  constructor
  · intro all
    induction xs with
    | nil => exact List.forall_mem_nil _
    | cons x xs ih =>
      obtain ⟨⟨b, first⟩, later⟩ := List.forall_mem_cons.mp each
      rw [List.allM, first] at all
      cases b with
      | true => exact List.forall_mem_cons.mpr ⟨first, ih later all⟩
      | false => cases all
  · exact allM_ok

end

/-- What a key is to a mapping. -/
inductive KeyForm
  | number (n : Int)
  /-- A number that is no integer. -/
  | fraction (x : Binary64)
  | text (t : Text)
  | moment (placed : Bool) (micros : Int)
  | tuple (parts : List KeyForm)
  /-- A value that is the same as itself only. -/
  | single (v : Value)

namespace Value

def floatForm (x : Binary64) (v : Value) : KeyForm :=
  match x.toInt? with
  | some n => .number n
  | .none => if x.isNaN then .single v else .fraction x

def plainForm : Value → KeyForm
  | .float x cls mark => floatForm x (.float x cls mark)
  | .text t _ => .text t
  | .moment m => .moment m.zone.offset?.isSome m.micros
  | v => match v.asInt? with
    | some n => .number n
    | .none => .single v

def keyFormWithin (st : Store) : Nat → Value → KeyForm
  | fuel + 1, .ref a => match st.get? a with
    | some (.tuple vs) => .tuple (vs.map (keyFormWithin st fuel))
    | _ => .single (.ref a)
  | _, v => v.plainForm

/-- The form of a key. Only what is inside itself can be deeper than there are cells, and that is no key. -/
def keyForm (st : Store) (v : Value) : KeyForm := keyFormWithin st (st.size + 1) v

section

variable {x : Binary64} {v : Value}

theorem floatForm_whole {n : Int} : floatForm x v = .number n ↔ x.toInt? = some n := by
  unfold floatForm
  cases x.toInt? with
  | some m => simp
  | none => cases x.isNaN <;> simp

theorem floatForm_fraction {y : Binary64} :
    floatForm x v = .fraction y ↔ x.toInt? = Option.none ∧ x.isNaN = false ∧ x = y := by
  unfold floatForm
  cases x.toInt? with
  | some m => simp
  | none => cases x.isNaN <;> simp

theorem floatForm_single {w : Value} : floatForm x v = .single w ↔ x.toInt? = Option.none ∧ x.isNaN = true ∧ v = w := by
  unfold floatForm
  cases x.toInt? with
  | some m => simp
  | none => cases x.isNaN <;> simp

theorem floatForm_cases (x : Binary64) (v : Value) : (∃ n, floatForm x v = .number n) ∨
    floatForm x v = .fraction x ∨ floatForm x v = .single v := by
  unfold floatForm
  cases x.toInt? with
  | some m => exact .inl ⟨m, rfl⟩
  | none => cases x.isNaN <;> simp

theorem floatForm_text {t : Text} : floatForm x v ≠ .text t := by
  rcases floatForm_cases x v with ⟨n, form⟩ | form | form <;> simp [form]

theorem floatForm_moment {placed : Bool} {micros : Int} : floatForm x v ≠ .moment placed micros := by
  rcases floatForm_cases x v with ⟨n, form⟩ | form | form <;> simp [form]

end

theorem floats_same {x y : Binary64} {v w : Value} (other : v ≠ w) :
    x.same y = true ↔ floatForm x v = floatForm y w := by
  constructor
  · intro equal
    have whole := Binary64.toInt?_of_same equal
    cases found : y.toInt? with
    | some n => rw [floatForm_whole.mpr found, floatForm_whole.mpr (whole.trans found)]
    | none =>
      have part := whole.trans found
      simp only [Binary64.same, Bool.and_eq_true, Bool.or_eq_true, Bool.not_eq_true', decide_eq_true_eq] at equal
      obtain ⟨⟨number, number'⟩, rfl | ⟨zero, _⟩⟩ := equal
      · rw [floatForm_fraction.mpr ⟨part, number, rfl⟩, floatForm_fraction.mpr ⟨part, number, rfl⟩]
      · rw [Binary64.toInt?_of_isZero zero] at part
        cases part
  · intro forms
    rcases floatForm_cases y w with ⟨n, form⟩ | form | form
    · rw [form] at forms
      exact Binary64.same_of_toInt? (floatForm_whole.mp forms) (floatForm_whole.mp form)
    · rw [form] at forms
      obtain ⟨_, number, rfl⟩ := floatForm_fraction.mp forms
      simp [Binary64.same, number]
    · rw [form] at forms
      exact absurd (floatForm_single.mp forms).2.2 other

theorem plainEqual_iff {v w : Value} (other : v ≠ w) : v.plainEqual w = true ↔ v.plainForm = w.plainForm := by
  cases v with
  | float x cls mark =>
    cases w with
    | float y cls' mark' => exact floats_same other
    | _ => simp [plainEqual, plainForm, asInt?, floatForm_whole, floatForm_single, floatForm_text, floatForm_moment]
  | _ =>
    cases w with
    | float y cls mark =>
      rw [eq_comm (b := plainForm _)]
      simp [plainEqual, plainForm, asInt?, floatForm_whole, floatForm_single, floatForm_text, floatForm_moment]
    | _ => simp_all [plainEqual, plainForm, asInt?, Moment.same]

variable {st : Store} {fuel n m : Nat} {v w : Value}

def agreesWithin (st : Store) (fuel : Nat) (v w : Value) : Except Fault Bool :=
  if v = w then .ok true else equalWithin st fuel v w

theorem agreesWithin_plain (other : v ≠ w) (plain : ∀ a b, ¬(v = .ref a ∧ w = .ref b)) :
    agreesWithin st (fuel + 1) v w = .ok (v.plainEqual w) := by
  rw [agreesWithin, if_neg other, equalWithin.eq_def]
  cases v with
  | ref a =>
    cases w with
    | ref b => exact absurd ⟨rfl, rfl⟩ (plain a b)
    | _ => rfl
  | _ => rfl

theorem agreesWithin_tuples {a b : Address} {vs ws : List Value} (other : a ≠ b)
    (first : st.get? a = some (.tuple vs)) (second : st.get? b = some (.tuple ws)) :
    agreesWithin st (fuel + 1) (.ref a) (.ref b) = (do
      return (← (vs.zip ws).allM fun p => agreesWithin st fuel p.1 p.2) && vs.length = ws.length) := by
  rw [agreesWithin, if_neg (by simpa using other), equalWithin.eq_def]
  simp only [if_neg other, first, second]
  rfl

/-- Of two cells, one of which can be a key, only tuples are compared part by part. -/
theorem agreesWithin_apart {a b : Address} (key : hashableWithin st (n + 1) (.ref b) = true) (other : a ≠ b)
    (apart : ∀ vs ws, ¬(st.get? a = some (.tuple vs) ∧ st.get? b = some (.tuple ws))) :
    agreesWithin st (fuel + 1) (.ref a) (.ref b) = .ok false := by
  rw [hashableWithin, cell?] at key
  rw [agreesWithin, if_neg (by simpa using other), equalWithin.eq_def]
  simp only [if_neg other]
  cases second : st.get? b with
  | none =>
    cases st.get? a with
    | none => rfl
    | some c => cases c <;> rfl
  | some d =>
    rw [second] at key
    cases d with
    | list | dict | proxy | set => cases key
    | tuple ws =>
      cases first : st.get? a with
      | none => rfl
      | some c =>
        cases c with
        | tuple vs => exact absurd ⟨first, second⟩ (apart vs ws)
        | _ => rfl
    | _ =>
      cases st.get? a with
      | none => rfl
      | some c => cases c <;> rfl

theorem hashable_parts {b : Address} {ws : List Value} (key : hashableWithin st (n + 1) (.ref b) = true)
    (tuple : st.get? b = some (.tuple ws)) : ∀ w ∈ ws, hashableWithin st n w = true := by
  rw [hashableWithin, cell?, tuple] at key
  simpa using key

theorem agreesWithin_decided (key : hashableWithin st n w = true) (enough : n ≤ m) (v : Value) :
    ∃ b, agreesWithin st m v w = .ok b := by
  induction n generalizing m v w with
  | zero => cases key
  | succ n ih =>
    obtain ⟨m, rfl⟩ : ∃ less, m = less + 1 := ⟨m - 1, by omega⟩
    by_cases same : v = w
    · exact ⟨true, if_pos same⟩
    by_cases cells : ∃ a b, v = .ref a ∧ w = .ref b
    · obtain ⟨a, b, rfl, rfl⟩ := cells
      have other : a ≠ b := fun equal => same (congrArg Value.ref equal)
      by_cases tuples : ∃ vs ws, st.get? a = some (.tuple vs) ∧ st.get? b = some (.tuple ws)
      · obtain ⟨vs, ws, first, second⟩ := tuples
        have parts := hashable_parts key second
        obtain ⟨all, decided⟩ := @allM_decided _ _ (fun p => agreesWithin st m p.1 p.2) (vs.zip ws)
          fun p member => ih (parts p.2 (List.of_mem_zip member).2) (by omega) p.1
        rw [agreesWithin_tuples other first second, decided]
        exact ⟨_, rfl⟩
      · exact ⟨false, agreesWithin_apart key other fun vs ws both => tuples ⟨vs, ws, both⟩⟩
    · exact ⟨_, agreesWithin_plain same fun a b both => cells ⟨a, b, both⟩⟩

theorem keyFormWithin_plain (plain : ∀ a, v ≠ .ref a) : keyFormWithin st n v = v.plainForm := by
  cases v with
  | ref a => exact absurd rfl (plain a)
  | _ => cases n <;> rfl

theorem keyFormWithin_tuple {a : Address} {vs : List Value} (tuple : st.get? a = some (.tuple vs)) :
    keyFormWithin st (n + 1) (.ref a) = .tuple (vs.map (keyFormWithin st n)) := by
  rw [keyFormWithin, tuple]

theorem keyFormWithin_cell {a : Address} : (∃ vs, st.get? a = some (.tuple vs)) ∨
    keyFormWithin st (n + 1) (.ref a) = .single (.ref a) := by
  rw [keyFormWithin]
  cases st.get? a with
  | none => exact .inr rfl
  | some c =>
    cases c with
    | tuple vs => exact .inl ⟨vs, rfl⟩
    | _ => exact .inr rfl

theorem plainForm_ne (plain : ∀ b, w ≠ .ref b) :
    (∀ parts, KeyForm.tuple parts ≠ w.plainForm) ∧ ∀ a, KeyForm.single (.ref a) ≠ w.plainForm := by
  cases w with
  | ref b => exact absurd rfl (plain b)
  | float x cls mark =>
    constructor
    · intro parts same
      rcases floatForm_cases x (.float x cls mark) with ⟨k, form⟩ | form | form <;>
        simp [plainForm, form] at same
    · intro a same
      exact absurd (floatForm_single.mp same.symm).2.2 (by simp)
  | _ => simp [plainForm, asInt?]

theorem keyForm_ne (plain : ∀ b, w ≠ .ref b) (a : Address) : keyFormWithin st n (.ref a) ≠ w.plainForm := by
  obtain ⟨tuples, singles⟩ := plainForm_ne plain
  cases n with
  | zero => exact singles a
  | succ n =>
    rcases @keyFormWithin_cell st n a with ⟨vs, tuple⟩ | single
    · rw [keyFormWithin_tuple tuple]
      exact tuples _
    · rw [single]
      exact singles a

theorem keyFormWithin_apart {a b : Address} (other : a ≠ b)
    (apart : ∀ vs ws, ¬(st.get? a = some (.tuple vs) ∧ st.get? b = some (.tuple ws))) :
    keyFormWithin st (n + 1) (.ref a) ≠ keyFormWithin st (n + 1) (.ref b) := by
  intro forms
  rcases @keyFormWithin_cell st n a with ⟨vs, first⟩ | first <;>
    rcases @keyFormWithin_cell st n b with ⟨ws, second⟩ | second
  · exact apart vs ws ⟨first, second⟩
  · rw [keyFormWithin_tuple first, second] at forms
    cases forms
  · rw [first, keyFormWithin_tuple second] at forms
    cases forms
  · rw [first, second] at forms
    cases forms
    exact other rfl

theorem keyFormWithin_iff (plain : ∀ a b, ¬(v = .ref a ∧ w = .ref b)) :
    v.plainForm = w.plainForm ↔ keyFormWithin st n v = keyFormWithin st n w := by
  by_cases left : ∃ a, v = .ref a
  · obtain ⟨a, rfl⟩ := left
    have right : ∀ b, w ≠ .ref b := fun b cell => plain a b ⟨rfl, cell⟩
    rw [keyFormWithin_plain right]
    exact iff_of_false (@keyForm_ne st 0 _ right a) (keyForm_ne right a)
  · have left : ∀ a, v ≠ .ref a := fun a cell => left ⟨a, cell⟩
    rw [keyFormWithin_plain left]
    by_cases right : ∃ b, w = .ref b
    · obtain ⟨b, rfl⟩ := right
      exact iff_of_false (@keyForm_ne st 0 _ left b).symm (keyForm_ne left b).symm
    · have right : ∀ b, w ≠ .ref b := fun b cell => right ⟨b, cell⟩
      rw [keyFormWithin_plain right]

theorem tuples_iff {f : Value → KeyForm} {g : Value → Value → Except Fault Bool} {vs ws : List Value}
    (decided : ∀ p ∈ vs.zip ws, ∃ b, g p.1 p.2 = .ok b)
    (each : ∀ p ∈ vs.zip ws, g p.1 p.2 = .ok true ↔ f p.1 = f p.2) :
    (do return (← (vs.zip ws).allM fun p => g p.1 p.2) && vs.length = ws.length : Except Fault Bool) = .ok true ↔
      KeyForm.tuple (vs.map f) = .tuple (ws.map f) := by
  have forms : vs.map f = ws.map f ↔ vs.length = ws.length ∧ ∀ p ∈ vs.zip ws, f p.1 = f p.2 := by
    rw [← List.forall₂_eq_eq_eq, List.forall₂_map_left_iff, List.forall₂_map_right_iff, List.forall₂_iff_zip]
    simp only [Prod.forall]
  obtain ⟨all, found⟩ := allM_decided (f := fun p : Value × Value => g p.1 p.2) decided
  have meaning := allM_iff (f := fun p : Value × Value => g p.1 p.2) decided
  rw [found] at meaning ⊢
  rw [KeyForm.tuple.injEq, forms, ← forall₂_congr each, ← meaning]
  show Except.ok (all && decide (vs.length = ws.length)) = .ok true ↔ _
  simp [and_comm]

/-- Keys are one if they have one form. -/
theorem agreesWithin_iff (key : hashableWithin st n v = true) (key' : hashableWithin st n w = true)
    (enough : n ≤ m) : agreesWithin st m v w = .ok true ↔ keyFormWithin st n v = keyFormWithin st n w := by
  -- On the depth in which both can be keys: the parts of a tuple can be keys in one less.
  induction n generalizing m v w with
  | zero => cases key
  | succ n ih =>
    obtain ⟨m, rfl⟩ : ∃ less, m = less + 1 := ⟨m - 1, by omega⟩
    by_cases same : v = w
    · exact ⟨fun _ => congrArg _ same, fun _ => if_pos same⟩
    by_cases cells : ∃ a b, v = .ref a ∧ w = .ref b
    · obtain ⟨a, b, rfl, rfl⟩ := cells
      have other : a ≠ b := fun equal => same (congrArg Value.ref equal)
      by_cases tuples : ∃ vs ws, st.get? a = some (.tuple vs) ∧ st.get? b = some (.tuple ws)
      · obtain ⟨vs, ws, first, second⟩ := tuples
        have parts := hashable_parts key first
        have parts' := hashable_parts key' second
        rw [agreesWithin_tuples other first second, keyFormWithin_tuple first, keyFormWithin_tuple second]
        apply tuples_iff
        · intro p member
          exact agreesWithin_decided (parts' p.2 (List.of_mem_zip member).2) (by omega) p.1
        · intro p member
          exact ih (parts p.1 (List.of_mem_zip member).1) (parts' p.2 (List.of_mem_zip member).2) (by omega)
      · have apart : ∀ vs ws, ¬(st.get? a = some (.tuple vs) ∧ st.get? b = some (.tuple ws)) :=
          fun vs ws both => tuples ⟨vs, ws, both⟩
        rw [agreesWithin_apart key' other apart]
        exact iff_of_false (by simp) (keyFormWithin_apart other apart)
    · have plain : ∀ a b, ¬(v = .ref a ∧ w = .ref b) := fun a b both => cells ⟨a, b, both⟩
      rw [agreesWithin_plain same plain, Except.ok.injEq, plainEqual_iff same, keyFormWithin_iff plain]

def isKey (st : Store) (v w : Value) : Bool := (v.agrees st w).toOption.getD false

theorem agrees_decided (key : w.isHashable st = true) (v : Value) : v.agrees st w = .ok (v.isKey st w) := by
  obtain ⟨b, decided⟩ := @agreesWithin_decided st _ (st.size + 2) w key (by omega) v
  have found : v.agrees st w = .ok b := decided
  rw [isKey, found]
  rfl

theorem isKey_iff (key : v.isHashable st = true) (key' : w.isHashable st = true) :
    v.isKey st w = true ↔ v.keyForm st = w.keyForm st := by
  rw [keyForm, keyForm, ← agreesWithin_iff (m := st.size + 2) key key' (by omega)]
  have decided : agreesWithin st (st.size + 2) v w = .ok (v.isKey st w) := agrees_decided key' v
  rw [decided, Except.ok.injEq]

end Value

/-- Two stores that differ in what their dicts hold, and in nothing else. -/
structure Store.AlikeButDicts (st st' : Store) : Prop where
  size : st'.size = st.size
  cells : ∀ a, st'.get? a = st.get? a ∨
    ∃ es cls es' cls', st.get? a = some (.dict es cls) ∧ st'.get? a = some (.dict es' cls')

namespace Store.AlikeButDicts

variable {st st' : Store} {v w : Value}

theorem hashableWithin (alike : st.AlikeButDicts st') (n : Nat) (v : Value) :
    v.hashableWithin st' n = v.hashableWithin st n := by
  induction n generalizing v with
  | zero => rfl
  | succ n ih =>
    have inner : Value.hashableWithin st' n = Value.hashableWithin st n := funext ih
    rw [Value.hashableWithin, Value.hashableWithin, inner]
    cases v with
    | ref a =>
      rw [Value.cell?, Value.cell?]
      rcases alike.cells a with same | ⟨es, cls, es', cls', dict, dict'⟩
      · rw [same]
      · rw [dict, dict']
    | _ => rfl

theorem keyFormWithin (alike : st.AlikeButDicts st') (n : Nat) (v : Value) :
    v.keyFormWithin st' n = v.keyFormWithin st n := by
  induction n generalizing v with
  | zero => cases v <;> rfl
  | succ n ih =>
    have inner : Value.keyFormWithin st' n = Value.keyFormWithin st n := funext ih
    cases v with
    | ref a =>
      rw [Value.keyFormWithin, Value.keyFormWithin, inner]
      rcases alike.cells a with same | ⟨es, cls, es', cls', dict, dict'⟩
      · rw [same]
      · rw [dict, dict']
    | _ => rfl

theorem isHashable (alike : st.AlikeButDicts st') (v : Value) : v.isHashable st' = v.isHashable st := by
  rw [Value.isHashable, alike.size, alike.hashableWithin, Value.isHashable]

theorem keyForm (alike : st.AlikeButDicts st') (v : Value) : v.keyForm st' = v.keyForm st := by
  rw [Value.keyForm, alike.size, alike.keyFormWithin, Value.keyForm]

theorem isKey (alike : st.AlikeButDicts st') (key : v.isHashable st = true) (key' : w.isHashable st = true) :
    v.isKey st' w = v.isKey st w := by
  have key₁ : v.isHashable st' = true := (alike.isHashable v).trans key
  have key₂ : w.isHashable st' = true := (alike.isHashable w).trans key'
  rw [Bool.eq_iff_iff, Value.isKey_iff key₁ key₂, Value.isKey_iff key key', alike.keyForm, alike.keyForm]

end Store.AlikeButDicts

namespace Entries

variable {st st' : Store} {key : Value}

def valueAt? (st : Store) (es : List (Value × Value)) (key : Value) : Option Value :=
  (es.find? fun e => e.1.isKey st key).map (·.2)

theorem find?_key (usable : key.isHashable st = true) (es : List (Value × Value)) :
    find? st es key = .ok (valueAt? st es key) := by
  have found : es.findM? (fun e => e.1.agrees st key) = .ok (es.find? fun e => e.1.isKey st key) := by
    induction es with
    | nil => rfl
    | cons e es ih =>
      rw [List.findM?, Value.agrees_decided usable, List.find?_cons]
      cases e.1.isKey st key with
      | true => rfl
      | false => exact ih
  show (es.findM? (fun e => e.1.agrees st key) >>= fun hit => pure (hit.map (·.2))) = _
  rw [found]
  rfl

end Entries

end RenderSource
