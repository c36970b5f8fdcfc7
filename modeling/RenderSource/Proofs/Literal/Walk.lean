import Mathlib.Algebra.Group.Nat.Defs
import Mathlib.Data.List.Perm.Subperm
import Mathlib.Logic.Relation
import RenderSource.Library.Function
import RenderSource.Proofs.Literal.Steps
import RenderSource.Proofs.Number.Figures
/-!
Which values have a literal. The walk over a graph of containers goes depth first from left to right
and ends with the first offence it meets, or with none; it ends on every graph, cycles included. Where
calls inside one another are not bounded, writing a literal fails with just that offence.
-/
namespace RenderSource

namespace Decimal

theorem digits_length_le {n : Nat} : ∀ {k : Nat}, 1 ≤ k → ((digits 10 n).length ≤ k ↔ n < 10 ^ k) := by
  induction n using Nat.strongRecOn with
  | ind n ih =>
    intro k some
    by_cases large : 10 ≤ n
    · rw [digits_step (by omega) large, List.length_append, List.length_singleton]
      obtain ⟨k, rfl⟩ : ∃ j, k = j + 1 := ⟨k - 1, by omega⟩
      have later := @ih (n / 10) (Nat.div_lt_self (by omega) (by omega)) k
      rcases Nat.eq_zero_or_pos k with rfl | more
      · have first : 0 < (digits 10 (n / 10)).length :=
          List.length_pos_iff.mpr (digits_ne_nil 10 (n / 10))
        constructor
        · omega
        · intro small; simp at small; omega
      · rw [Nat.add_le_add_iff_right, later more, Nat.pow_succ, Nat.div_lt_iff_lt_mul (by omega)]
    · rw [digits_small (by omega), List.length_singleton]
      have : 10 ^ 1 ≤ 10 ^ k := Nat.pow_le_pow_right (by omega) some
      constructor <;> omega

theorem tooLong_iff (n : Int) : tooLong n = true ↔ figureLimit < (ofNat n.natAbs).length := by
  have power : ∀ k, Nat.pow 10 k = 10 ^ k := fun k => rfl
  have some : 1 ≤ figureLimit := by unfold figureLimit; omega
  -- the limit is kept as a name: its power of ten is not to be worked out
  rw [tooLong, decide_eq_true_eq, ofNat, List.length_map, ← Nat.not_le, digits_length_le some, Nat.not_lt]
  unfold firstTooLong
  generalize figureLimit = k
  rw [power]

end Decimal

/-- What the walk is at: a value, what is left of a list, or what is left of a mapping. -/
inductive Task
  | value (v : Value)
  | items (vs : List Value)
  | entries (es : List (Value × Value))

namespace Value

def ownOffence? (v : Value) : Option Offence :=
  match v with
  | .none | .absent _ | .bool _ | .text _ _ | .date _ | .moment _ => Option.none
  | .int n _ => if Decimal.figureLimit < (Decimal.ofNat n.natAbs).length then some (.tooLong v) else Option.none
  | .float x _ _ => if x.isFinite then Option.none else some (.nonFinite v)
  | _ => some (.unsupported v)

def isRef : Value → Bool
  | .ref _ => true
  | _ => false

theorem literalWithin_outside {st : Store} {room : Option Nat} {fuel : Nat} {opened : List Address} {v : Value}
    (outside : v.isRef = false) : v.literalWithin st room fuel opened = v.plainLiteral := by
  cases v with
  | ref a => cases outside
  | _ => cases fuel <;> rfl

end Value

/-- A walk inside the containers `opened`, and the offence it ends with, if any. -/
inductive Walk (st : Store) : List Address → Task → Option Offence → Prop
  | own {opened : List Address} {v : Value} (plain : v.isRef = false) :
      Walk st opened (.value v) v.ownOffence?
  | unsupported {opened : List Address} {a : Address} (items : (Value.ref a).items? st = none)
      (entries : (Value.ref a).entries? st = none) :
      Walk st opened (.value (.ref a)) (some (.unsupported (.ref a)))
  | cyclic {opened : List Address} {a : Address}
      (container : (Value.ref a).items? st ≠ none ∨ (Value.ref a).entries? st ≠ none)
      (inside : a ∈ opened) : Walk st opened (.value (.ref a)) (some (.cyclic (.ref a)))
  | list {opened : List Address} {a : Address} {vs : List Value} {o : Option Offence}
      (items : (Value.ref a).items? st = some vs) (outside : a ∉ opened)
      (inner : Walk st (a :: opened) (.items vs) o) : Walk st opened (.value (.ref a)) o
  | mapping {opened : List Address} {a : Address} {es : List (Value × Value)} {o : Option Offence}
      (entries : (Value.ref a).entries? st = some es) (outside : a ∉ opened)
      (inner : Walk st (a :: opened) (.entries es) o) : Walk st opened (.value (.ref a)) o
  | noItem {opened : List Address} : Walk st opened (.items []) none
  | stop {opened : List Address} {v : Value} {vs : List Value} {o : Offence}
      (here : Walk st opened (.value v) (some o)) : Walk st opened (.items (v :: vs)) (some o)
  | next {opened : List Address} {v : Value} {vs : List Value} {o : Option Offence}
      (here : Walk st opened (.value v) none) (later : Walk st opened (.items vs) o) :
      Walk st opened (.items (v :: vs)) o
  | noEntry {opened : List Address} : Walk st opened (.entries []) none
  | skip {opened : List Address} {k v : Value} {es : List (Value × Value)} {o : Option Offence}
      (absent : v.isAbsent = true) (later : Walk st opened (.entries es) o) :
      Walk st opened (.entries ((k, v) :: es)) o
  | badKey {opened : List Address} {k v : Value} {es : List (Value × Value)}
      (there : v.isAbsent = false) (bad : k.asText? = none) :
      Walk st opened (.entries ((k, v) :: es)) (some (.badKey k))
  | stopEntry {opened : List Address} {k v : Value} {es : List (Value × Value)} {t : Text} {o : Offence}
      (there : v.isAbsent = false) (key : k.asText? = some t)
      (here : Walk st opened (.value v) (some o)) : Walk st opened (.entries ((k, v) :: es)) (some o)
  | nextEntry {opened : List Address} {k v : Value} {es : List (Value × Value)} {t : Text}
      {o : Option Offence} (there : v.isAbsent = false) (key : k.asText? = some t)
      (here : Walk st opened (.value v) none) (later : Walk st opened (.entries es) o) :
      Walk st opened (.entries ((k, v) :: es)) o

def ending {β : Type} : Except Offence β → Option Offence
  | .ok _ => none
  | .error o => some o

structure Fuelled (st : Store) (fuel : Nat) (opened : List Address) : Prop where
  distinct : opened.Nodup
  inside : ∀ a ∈ opened, a < st.size
  count : fuel + opened.length = st.size + 1

theorem Fuelled.positive {st : Store} {fuel : Nat} {opened : List Address}
    (fuelled : Fuelled st fuel opened) : ∃ less, fuel = less + 1 := by
  have within : opened ⊆ List.range st.size := by
    intro a member
    exact List.mem_range.mpr (fuelled.inside a member)
  have bound := (fuelled.distinct.subperm within).length_le
  rw [List.length_range] at bound
  have := fuelled.count
  exact ⟨fuel - 1, by omega⟩

theorem Fuelled.start (st : Store) : Fuelled st (st.size + 1) [] :=
  ⟨List.nodup_nil, (fun a member => by cases member), by simp⟩

theorem Fuelled.open {st : Store} {fuel : Nat} {opened : List Address} {a : Address}
    (fuelled : Fuelled st (fuel + 1) opened) (outside : a ∉ opened) {c : Cell}
    (there : st.get? a = some c) : Fuelled st fuel (a :: opened) := by
  have bound : a < st.size := by
    by_contra beyond
    rw [Store.get?, Array.getElem?_eq_none (Nat.le_of_not_lt beyond)] at there
    cases there
  refine ⟨List.nodup_cons.mpr ⟨outside, fuelled.distinct⟩, ?_, ?_⟩
  · intro b member
    rcases List.mem_cons.mp member with rfl | before
    · exact bound
    · exact fuelled.inside b before
  · have := fuelled.count
    rw [List.length_cons]
    omega

theorem cell_of_items {st : Store} {a : Address} {vs : List Value}
    (items : (Value.ref a).items? st = some vs) : ∃ c, st.get? a = some c := by
  cases there : st.get? a with
  | some c => exact ⟨c, rfl⟩
  | none => simp [Value.items?, Value.cell?, there] at items

theorem cell_of_entries {st : Store} {a : Address} {es : List (Value × Value)}
    (entries : (Value.ref a).entries? st = some es) : ∃ c, st.get? a = some c := by
  cases there : st.get? a with
  | some c => exact ⟨c, rfl⟩
  | none => simp [Value.entries?, Value.cell?, there] at entries

theorem ending_map {β γ : Type} (g : β → γ) (r : Except Offence β) : ending (r.map g) = ending r := by
  cases r <;> rfl

theorem ending_cons {α β : Type} {f : α → Except Offence β} {x : α} {xs : List α} :
    ending ((x :: xs).mapM f) =
      match ending (f x) with
      | some o => some o
      | none => ending (xs.mapM f) := by
  rw [List.mapM_cons]
  cases f x with
  | error o => rfl
  | ok y => cases List.mapM f xs <;> rfl

theorem ending_plain {v : Value} (plain : v.isRef = false) : ending v.plainLiteral = v.ownOffence? := by
  cases v with
  | int n cls =>
    have either : ∀ long : Bool, (long = true ↔ Decimal.figureLimit < (Decimal.ofNat n.natAbs).length) →
        (if long then (none : Option Text) else some (Decimal.ofInt n)) = Decimal.ofInt? n →
          ending (Value.int n cls).plainLiteral = (Value.int n cls).ownOffence? := by
      intro long limit figures
      unfold Value.plainLiteral Value.ownOffence?
      dsimp only
      rw [← figures]
      cases long with
      | false =>
        have short : ¬ Decimal.figureLimit < (Decimal.ofNat n.natAbs).length := fun beyond =>
          Bool.false_ne_true (limit.mpr beyond)
        exact (if_neg short).symm
      | true => exact (if_pos (limit.mp rfl)).symm
    exact either _ (Decimal.tooLong_iff n) rfl
  | float x cls mark =>
    unfold Value.plainLiteral Value.ownOffence?
    dsimp only
    split <;> rfl
  | ref a => cases plain
  | _ => rfl

theorem present_cons {k v : Value} {es : List (Value × Value)} (there : v.isAbsent = false) :
    Value.present ((k, v) :: es) = (k, v) :: Value.present es := by
  simp [Value.present, there]

theorem ending_entry {β : Type} {inner : Value → Except Offence β} {k v : Value} {t : Text}
    (key : k.asText? = some t) : ending (Value.entryWith inner (k, v)) = ending (inner v) := by
  rw [Value.entryWith, key]
  exact ending_map _ _

namespace Task

def ends (st : Store) (fuel : Nat) (opened : List Address) : Task → Option Offence
  | value v => ending (v.literalWithin st Option.none fuel opened)
  | items vs => ending (vs.mapM (Value.literalWithin st Option.none fuel opened))
  | entries es => ending ((Value.present es).mapM (Value.entryWith (Value.literalWithin st Option.none fuel opened)))

variable {st : Store} {fuel : Nat} {opened : List Address} {a : Address} {v : Value}

theorem ends_own (plain : v.isRef = false) : (value v).ends st fuel opened = v.ownOffence? := by
  rw [ends, Value.literalWithin_outside plain, ending_plain plain]

theorem ends_other (items : (Value.ref a).items? st = none)
    (entries : (Value.ref a).entries? st = none) :
    (value (.ref a)).ends st (fuel + 1) opened = some (.unsupported (.ref a)) := by
  rw [ends, Value.literalWithin_other items entries]
  rfl

theorem ends_list {vs : List Value} (there : (Value.ref a).items? st = some vs) :
    (value (.ref a)).ends st (fuel + 1) opened =
      if a ∈ opened then some (.cyclic (.ref a)) else (items vs).ends st fuel (a :: opened) := by
  rw [ends, Value.literalWithin_items there]
  split
  · rfl
  · rw [ending_map]
    rfl

theorem ends_mapping {es : List (Value × Value)} (there : (Value.ref a).entries? st = some es) :
    (value (.ref a)).ends st (fuel + 1) opened =
      if a ∈ opened then some (.cyclic (.ref a)) else (entries es).ends st fuel (a :: opened) := by
  rw [ends, Value.literalWithin_entries there]
  split
  · rfl
  · rw [ending_map]
    rfl

theorem ends_item (vs : List Value) :
    (items (v :: vs)).ends st fuel opened =
      match (value v).ends st fuel opened with
      | some o => some o
      | none => (items vs).ends st fuel opened :=
  ending_cons

theorem ends_absent {k : Value} (absent : v.isAbsent = true) (es : List (Value × Value)) :
    (entries ((k, v) :: es)).ends st fuel opened = (entries es).ends st fuel opened := by
  have left : Value.present ((k, v) :: es) = Value.present es := by
    simp [Value.present, absent]
  rw [ends, left]
  rfl

theorem ends_badKey {k : Value} (there : v.isAbsent = false) (bad : k.asText? = none)
    (es : List (Value × Value)) :
    (entries ((k, v) :: es)).ends st fuel opened = some (.badKey k) := by
  rw [ends, present_cons there, ending_cons, Value.entryWith]
  simp only [bad]
  rfl

theorem ends_entry {k : Value} {t : Text} (there : v.isAbsent = false) (key : k.asText? = some t)
    (es : List (Value × Value)) :
    (entries ((k, v) :: es)).ends st fuel opened =
      match (value v).ends st fuel opened with
      | some o => some o
      | none => (entries es).ends st fuel opened := by
  change ending ((Value.present ((k, v) :: es)).mapM _) = _
  rw [present_cons there, ending_cons, ending_entry key]
  rfl

theorem ends_of_walk {task : Task} {o : Option Offence} (walk : Walk st opened task o) {fuel : Nat}
    (fuelled : Fuelled st fuel opened) : task.ends st fuel opened = o := by
  induction walk generalizing fuel with
  | own plain => exact ends_own plain
  | unsupported items entries =>
    obtain ⟨fuel, rfl⟩ := fuelled.positive
    exact ends_other items entries
  | @cyclic opened a container inside =>
    obtain ⟨fuel, rfl⟩ := fuelled.positive
    cases items : (Value.ref a).items? st with
    | some vs => rw [ends_list items, if_pos inside]
    | none => cases entries : (Value.ref a).entries? st with
      | some es => rw [ends_mapping entries, if_pos inside]
      | none => simp [items, entries] at container
  | list items outside _ ih =>
    obtain ⟨fuel, rfl⟩ := fuelled.positive
    obtain ⟨c, there⟩ := cell_of_items items
    rw [ends_list items, if_neg outside]
    exact ih (fuelled.open outside there)
  | mapping entries outside _ ih =>
    obtain ⟨fuel, rfl⟩ := fuelled.positive
    obtain ⟨c, there⟩ := cell_of_entries entries
    rw [ends_mapping entries, if_neg outside]
    exact ih (fuelled.open outside there)
  | noItem => rfl
  | stop _ ih => rw [ends_item, ih fuelled]
  | next _ _ ih ihLater =>
    rw [ends_item, ih fuelled]
    exact ihLater fuelled
  | noEntry => rfl
  | skip absent _ ih =>
    rw [ends_absent absent]
    exact ih fuelled
  | badKey there bad => exact ends_badKey there bad _
  | stopEntry there key _ ih => rw [ends_entry there key, ih fuelled]
  | nextEntry there key _ _ ih ihLater =>
    rw [ends_entry there key, ih fuelled]
    exact ihLater fuelled

theorem items_walk (each : ∀ v, Walk st opened (value v) ((value v).ends st fuel opened))
    (vs : List Value) : Walk st opened (items vs) ((items vs).ends st fuel opened) := by
  induction vs with
  | nil => exact .noItem
  | cons v vs ih =>
    have here := each v
    rw [ends_item]
    cases first : (value v).ends st fuel opened with
    | some o =>
      rw [first] at here
      exact .stop here
    | none =>
      rw [first] at here
      exact .next here ih

theorem entries_walk (each : ∀ v, Walk st opened (value v) ((value v).ends st fuel opened))
    (es : List (Value × Value)) : Walk st opened (entries es) ((entries es).ends st fuel opened) := by
  induction es with
  | nil => exact .noEntry
  | cons e es ih =>
    obtain ⟨k, v⟩ := e
    cases there : v.isAbsent with
    | true =>
      rw [ends_absent there]
      exact .skip there ih
    | false => cases key : k.asText? with
      | none =>
        rw [ends_badKey there key]
        exact .badKey there key
      | some t =>
        have here := each v
        rw [ends_entry there key]
        cases first : (value v).ends st fuel opened with
        | some o =>
          rw [first] at here
          exact .stopEntry there key here
        | none =>
          rw [first] at here
          exact .nextEntry there key here ih

/-- The walk ends: inside the containers that are open, fewer and fewer are left to open. -/
theorem value_walk (fuelled : Fuelled st fuel opened) (v : Value) :
    Walk st opened (value v) ((value v).ends st fuel opened) := by
  induction fuel generalizing opened v with
  | zero =>
    obtain ⟨less, impossible⟩ := fuelled.positive
    omega
  | succ fuel ih =>
    cases plain : v.isRef with
    | false =>
      rw [ends_own plain]
      exact .own plain
    | true =>
      obtain ⟨a, rfl⟩ : ∃ a, v = .ref a := by
        cases v with
        | ref a => exact ⟨a, rfl⟩
        | _ => cases plain
      cases listed : (Value.ref a).items? st with
      | some vs =>
        rw [ends_list listed]
        by_cases inside : a ∈ opened
        · rw [if_pos inside]
          exact .cyclic (.inl (by simp [listed])) inside
        · obtain ⟨c, there⟩ := cell_of_items listed
          rw [if_neg inside]
          exact .list listed inside (items_walk (ih (fuelled.open inside there)) vs)
      | none => cases mapped : (Value.ref a).entries? st with
        | some es =>
          rw [ends_mapping mapped]
          by_cases inside : a ∈ opened
          · rw [if_pos inside]
            exact .cyclic (.inr (by simp [mapped])) inside
          · obtain ⟨c, there⟩ := cell_of_entries mapped
            rw [if_neg inside]
            exact .mapping mapped inside (entries_walk (ih (fuelled.open inside there)) es)
        | none =>
          rw [ends_other listed mapped]
          exact .unsupported listed mapped

end Task

def Value.Holds (st : Store) (v w : Value) : Prop :=
  (∃ vs, v.items? st = some vs ∧ w ∈ vs) ∨ ∃ es k, v.entries? st = some es ∧ (k, w) ∈ es

def Task.parts : Task → List Value
  | value v => [v]
  | items vs => vs
  | entries es => es.map (·.2)

/-- Every container that is open holds what the walk is at, so one that is met again holds itself. -/
theorem Walk.cycle {st : Store} {opened : List Address} {task : Task} {o : Option Offence} {w : Value}
    (walk : Walk st opened task o) (ended : o = some (.cyclic w))
    (reached : ∀ a ∈ opened, ∀ p ∈ task.parts, Relation.TransGen (Value.Holds st) (.ref a) p) :
    Relation.TransGen (Value.Holds st) w w := by
  have deeper : ∀ {opened : List Address} {a : Address} {vs : List Value},
      (∀ p ∈ vs, Value.Holds st (.ref a) p) →
      (∀ b ∈ opened, ∀ p ∈ (Task.value (.ref a)).parts, Relation.TransGen (Value.Holds st) (.ref b) p) →
        ∀ b ∈ a :: opened, ∀ p ∈ vs, Relation.TransGen (Value.Holds st) (.ref b) p := by
    intro opened a vs held reached b inside p member
    rcases List.mem_cons.mp inside with rfl | before
    · exact .single (held p member)
    · exact .tail (reached b before _ (by simp [Task.parts])) (held p member)
  induction walk with
  | @own opened v plain =>
    cases v <;> simp only [Value.ownOffence?] at ended <;> (try split at ended) <;> cases ended
  | unsupported items entries => cases ended
  | cyclic container inside =>
    cases ended
    exact reached _ inside _ (by simp [Task.parts])
  | list items outside _ ih =>
    exact ih ended (deeper (fun p member => .inl ⟨_, items, member⟩) reached)
  | mapping entries outside _ ih =>
    refine ih ended (deeper (fun p member => ?_) reached)
    obtain ⟨⟨k, p⟩, entry, rfl⟩ := List.mem_map.mp member
    exact .inr ⟨_, k, entries, entry⟩
  | noItem => cases ended
  | stop _ ih => exact ih ended fun a inside p member => reached a inside p (by simp_all [Task.parts])
  | next _ _ _ ihLater =>
    exact ihLater ended fun a inside p member => reached a inside p (by simp_all [Task.parts])
  | noEntry => cases ended
  | skip _ _ ih =>
    exact ih ended fun a inside p member => reached a inside p (by simp_all [Task.parts])
  | badKey _ _ => cases ended
  | stopEntry _ _ _ ih =>
    exact ih ended fun a inside p member => reached a inside p (by simp_all [Task.parts])
  | nextEntry _ _ _ _ _ ihLater =>
    exact ihLater ended fun a inside p member => reached a inside p (by simp_all [Task.parts])

def Offence.opening : Offence → Text
  | cyclic _ => wording "Cannot stringify cyclic "
  | _ => wording "Cannot stringify "

theorem Offence.message_kind (o : Offence) (st : Store) :
    ∃ rest, o.message st = o.opening ++ o.value.kind st ++ rest := by
  have split : ∀ front kind colon shown reason : Text,
      front ++ kind ++ colon ++ shown ++ reason = front ++ kind ++ (colon ++ (shown ++ reason)) := by
    intro front kind colon shown reason
    simp only [List.append_assoc]
  cases o with
  | cyclic v => exact ⟨[], (List.append_nil _).symm⟩
  | _ => exact ⟨_, split _ _ _ _ _⟩

theorem walk_literal (st : Store) (v : Value) (o : Option Offence) :
    Walk st [] (.value v) o ↔ o = ending (v.literal st) := by
  have ended : (Task.value v).ends st (st.size + 1) [] = ending (v.literal st) := rfl
  constructor
  · intro other
    exact ended ▸ (Task.ends_of_walk other (Fuelled.start st)).symm
  · rintro rfl
    exact ended ▸ Task.value_walk (Fuelled.start st) v

end RenderSource
