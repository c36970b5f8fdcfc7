import RenderSource.Library.Lookup
import RenderSource.Proofs.Literal.Walk
/-!
Sentinels of different classes stand for the same absence. Of two graphs that differ in the sentinels
that they hold, and in the addresses of their cells, the walk of one takes the same turns as the walk of
the other: their literals are one text or fail alike, and each path leads to parts that differ in the
same way.
-/
namespace RenderSource

/-- Two attempts that end alike: in results that `R` relates, or in errors that `E` relates. -/
inductive SameEnding {ε α β : Type} (E : ε → ε → Prop) (R : α → β → Prop) :
    Except ε α → Except ε β → Prop
  | done {a : α} {b : β} (here : R a b) : SameEnding E R (.ok a) (.ok b)
  | failed {e e' : ε} (here : E e e') : SameEnding E R (.error e) (.error e')

namespace SameEnding

variable {ε α β γ δ : Type} {E : ε → ε → Prop} {R : α → β → Prop} {S : γ → δ → Prop}
  {x : Except ε α} {y : Except ε β}

theorem refl {R : α → α → Prop} (errors : ∀ e, E e e) (results : ∀ a, R a a) (x : Except ε α) :
    SameEnding E R x x := by
  cases x with
  | ok a => exact .done (results a)
  | error e => exact .failed (errors e)

theorem imp {E' : ε → ε → Prop} {R' : α → β → Prop} (both : SameEnding E R x y)
    (errors : ∀ e e', E e e' → E' e e') (results : ∀ a b, R a b → R' a b) : SameEnding E' R' x y := by
  cases both with
  | done here => exact .done (results _ _ here)
  | failed here => exact .failed (errors _ _ here)

theorem bind {f : α → Except ε γ} {g : β → Except ε δ} (both : SameEnding E R x y)
    (next : ∀ a b, R a b → SameEnding E S (f a) (g b)) : SameEnding E S (x >>= f) (y >>= g) := by
  cases both with
  | done here => exact next _ _ here
  | failed here => exact .failed here

theorem map {f : α → γ} {g : β → δ} (both : SameEnding E R x y)
    (image : ∀ a b, R a b → S (f a) (g b)) : SameEnding E S (x.map f) (y.map g) := by
  cases both with
  | done here => exact .done (image _ _ here)
  | failed here => exact .failed here

theorem mapM {f : γ → Except ε α} {g : δ → Except ε α} {xs : List γ} {ys : List δ}
    (each : List.Forall₂ (fun x y => SameEnding E (· = ·) (f x) (g y)) xs ys) :
    SameEnding E (· = ·) (xs.mapM f) (ys.mapM g) := by
  induction each with
  | nil => exact .done rfl
  | cons first _ later =>
    rw [List.mapM_cons, List.mapM_cons]
    exact first.bind fun _ _ here => later.bind fun _ _ rest => .done (here ▸ rest ▸ rfl)

end SameEnding

/-- The same value in another guise: any sentinel for a sentinel, and for a cell the one that `ρ` pairs
with it. -/
inductive Value.Swapped (ρ : Address → Address → Prop) : Value → Value → Prop
  | same {v : Value} (outside : v.isRef = false) : Swapped ρ v v
  | absent {origin origin' : Sentinel} : Swapped ρ (.absent origin) (.absent origin')
  | ref {a b : Address} (paired : ρ a b) : Swapped ρ (.ref a) (.ref b)

def SwappedAt {κ : Type} (ρ : Address → Address → Prop) (e f : κ × Value) : Prop :=
  e.1 = f.1 ∧ e.2.Swapped ρ f.2

inductive Attribute.Swapped (ρ : Address → Address → Prop) : Attribute → Attribute → Prop
  | held {v w : Value} (here : v.Swapped ρ w) : Swapped ρ (.held v) (.held w)
  | raising {e : Value} : Swapped ρ (.raising e) (.raising e)

/-- Cells of one class that hold the same in another guise. No literal and no path goes into a set or a
series, so these may hold anything. -/
inductive Cell.Swapped (ρ : Address → Address → Prop) : Cell → Cell → Prop
  | list {vs ws : List Value} {cls : Derived} (items : List.Forall₂ (Value.Swapped ρ) vs ws) :
      Swapped ρ (.list vs cls) (.list ws cls)
  | tuple {vs ws : List Value} (items : List.Forall₂ (Value.Swapped ρ) vs ws) :
      Swapped ρ (.tuple vs) (.tuple ws)
  | dict {es fs : List (Value × Value)} {cls : Derived} (entries : List.Forall₂ (SwappedAt ρ) es fs) :
      Swapped ρ (.dict es cls) (.dict fs cls)
  | proxy {es fs : List (Value × Value)} (entries : List.Forall₂ (SwappedAt ρ) es fs) :
      Swapped ρ (.proxy es) (.proxy fs)
  | set {vs ws : List Value} : Swapped ρ (.set vs) (.set ws)
  | object {cls : Text} {shown shown' : Option Text} {as bs : List (Text × Attribute)}
      (attributes : List.Forall₂ (fun e f => e.1 = f.1 ∧ e.2.Swapped ρ f.2) as bs) :
      Swapped ρ (.object cls shown as) (.object cls shown' bs)
  | madeClass {name place : Text} {home : Nat} {bases : List Value} :
      Swapped ρ (.madeClass name place home bases) (.madeClass name place home bases)
  | exception {cls : Value} {name : Text} {args args' : List Value} {as bs : List (Text × Value)}
      (attributes : List.Forall₂ (SwappedAt ρ) as bs) :
      Swapped ρ (.exception cls name args as) (.exception cls name args' bs)
  | series {kind : Text} {shown shown' : Option Text} {vs ws : List Value} {once : Bool} :
      Swapped ρ (.series kind shown vs once) (.series kind shown' ws once)

def Store.Cyclic (st : Store) (a : Address) : Prop :=
  Relation.TransGen (Value.Holds st) (.ref a) (.ref a)

/-- `ρ` pairs cells that hold the same in another guise. A container inside itself has one counterpart;
any other may be one object here and several there. -/
structure Store.Swaps (st : Store) (ρ : Address → Address → Prop) : Prop where
  cells : ∀ {a b : Address}, ρ a b → Option.Rel (Cell.Swapped ρ) (st.get? a) (st.get? b)
  one : ∀ {a b b' : Address}, ρ a b → ρ a b' → st.Cyclic a → b = b'
  other : ∀ {a a' b : Address}, ρ a b → ρ a' b → st.Cyclic b → a = a'

inductive Offence.Swapped (ρ : Address → Address → Prop) : Offence → Offence → Prop
  | same {o : Offence} : Swapped ρ o o
  | unsupported {a b : Address} (paired : ρ a b) :
      Swapped ρ (.unsupported (.ref a)) (.unsupported (.ref b))
  | cyclic {a b : Address} (paired : ρ a b) : Swapped ρ (.cyclic (.ref a)) (.cyclic (.ref b))

def Offence.className : Offence → String
  | nonFinite _ => "NonFiniteNumber"
  | cyclic _ => "CyclicStructure"
  | _ => "UnsupportedValueKind"

section

variable {st : Store} {ρ : Address → Address → Prop} {a b : Address} {v w : Value}

namespace Value

theorem cell?_outside (outside : v.isRef = false) : v.cell? st = Option.none := by
  cases v with
  | ref a => cases outside
  | _ => rfl

namespace Swapped

theorem isAbsent (swapped : v.Swapped ρ w) : v.isAbsent = w.isAbsent := by
  cases swapped <;> rfl

theorem isMissing (swapped : v.Swapped ρ w) : v.isMissing = w.isMissing := by
  cases swapped <;> rfl

theorem cell? (swapped : v.Swapped ρ w) (swaps : st.Swaps ρ) :
    Option.Rel (Cell.Swapped ρ) (v.cell? st) (w.cell? st) := by
  cases swapped with
  | same outside =>
    rw [cell?_outside outside]
    exact .none
  | absent => exact .none
  | ref paired => exact swaps.cells paired

theorem items? (swapped : v.Swapped ρ w) (swaps : st.Swaps ρ) :
    Option.Rel (List.Forall₂ (Value.Swapped ρ)) (v.items? st) (w.items? st) := by
  have cells := swapped.cell? swaps
  unfold Value.items?
  generalize v.cell? st = c, w.cell? st = d at cells ⊢
  cases cells with
  | none => exact .none
  | some cells =>
    cases cells with
    | list items => exact .some items
    | tuple items => exact .some items
    | _ => exact .none

theorem entries? (swapped : v.Swapped ρ w) (swaps : st.Swaps ρ) :
    Option.Rel (List.Forall₂ (SwappedAt ρ)) (v.entries? st) (w.entries? st) := by
  have cells := swapped.cell? swaps
  unfold Value.entries?
  generalize v.cell? st = c, w.cell? st = d at cells ⊢
  cases cells with
  | none => exact .none
  | some cells =>
    cases cells with
    | dict entries => exact .some entries
    | proxy entries => exact .some entries
    | _ => exact .none

end Swapped

end Value

theorem Store.Swaps.kind (swaps : st.Swaps ρ) (paired : ρ a b) :
    (Value.ref a).kind st = (Value.ref b).kind st := by
  have cells := swaps.cells paired
  simp only [Value.kind]
  generalize st.get? a = c, st.get? b = d at cells ⊢
  cases cells with
  | none => rfl
  | some cells => cases cells <;> rfl

theorem Offence.Swapped.report {o o' : Offence} (swapped : o.Swapped ρ o') (swaps : st.Swaps ρ) :
    o.className = o'.className ∧ o.reason? = o'.reason? ∧ o.value.kind st = o'.value.kind st := by
  cases swapped with
  | same => exact ⟨rfl, rfl, rfl⟩
  | unsupported paired => exact ⟨rfl, rfl, swaps.kind paired⟩
  | cyclic paired => exact ⟨rfl, rfl, swaps.kind paired⟩

/-! Literals. -/

namespace Value

/-- Inside the containers `opened`: each of them holds the value, directly or further in. -/
structure Within (st : Store) (opened : List Address) (v : Value) : Prop where
  reached : ∀ a ∈ opened, Relation.TransGen (Holds st) (.ref a) v

theorem Within.open {opened : List Address} (within : Within st opened (.ref a)) (held : Holds st (.ref a) v) :
    Within st (a :: opened) v := by
  constructor
  intro b member
  rcases List.mem_cons.mp member with rfl | before
  · exact .single held
  · exact .tail (within.reached b before) held

end Value

/-- Paired cells are open at once. -/
theorem Store.Swaps.opened_iff (swaps : st.Swaps ρ) {opened opened' : List Address}
    (both : List.Forall₂ ρ opened opened') (within : Value.Within st opened (.ref a))
    (within' : Value.Within st opened' (.ref b)) (paired : ρ a b) : a ∈ opened ↔ b ∈ opened' := by
  -- a container that is met while it is open is inside itself, so its counterpart is the one that is open too
  constructor
  · intro inside
    obtain ⟨b', inside', pair⟩ := forall₂_partner both.flip a inside
    rwa [swaps.one paired pair (within.reached a inside)]
  · intro inside
    obtain ⟨a', inside', pair⟩ := forall₂_partner both b inside
    rwa [swaps.other paired pair (within'.reached b inside)]

namespace Value

theorem present_swapped {es fs : List (Value × Value)} (entries : List.Forall₂ (SwappedAt ρ) es fs) :
    List.Forall₂ (SwappedAt ρ) (present es) (present fs) := by
  induction entries with
  | nil => exact .nil
  | @cons e f _ _ here _ ih =>
    have absence := here.2.isAbsent
    unfold present at ih ⊢
    rw [List.filter_cons, List.filter_cons, ← absence]
    cases e.2.isAbsent with
    | true => exact ih
    | false => exact .cons here ih

theorem entryWith_swapped {β : Type} {E : Offence → Offence → Prop} {f g : Value → Except Offence β}
    {e e' : Value × Value} (keys : e.1 = e'.1) (refl : ∀ o, E o o)
    (values : SameEnding E (· = ·) (f e.2) (g e'.2)) : SameEnding E (· = ·) (entryWith f e) (entryWith g e') := by
  unfold entryWith
  rw [keys]
  cases e'.1.asText? with
  | none => exact .failed (refl _)
  | some t => exact values.map fun _ _ same => same ▸ rfl

theorem Swapped.literal_of_cells {fuel : Nat} {opened opened' : List Address} (swapped : v.Swapped ρ w)
    (cells : ∀ a b, v = .ref a → w = .ref b → ρ a b →
      SameEnding (Offence.Swapped ρ) (· = ·) ((Value.ref a).literalWithin st Option.none fuel opened)
        ((Value.ref b).literalWithin st Option.none fuel opened')) :
    SameEnding (Offence.Swapped ρ) (· = ·) (v.literalWithin st Option.none fuel opened)
      (w.literalWithin st Option.none fuel opened') := by
  cases swapped with
  | same outside =>
    rw [literalWithin_outside outside, literalWithin_outside outside]
    exact .refl (fun _ => .same) (fun _ => rfl) _
  | absent =>
    rw [literalWithin_outside rfl, literalWithin_outside rfl]
    exact .done rfl
  | ref paired => exact cells _ _ rfl rfl paired

/-- The walks of paired values take the same turns. -/
theorem literalWithin_swapped (swaps : st.Swaps ρ) {fuel : Nat} {opened opened' : List Address}
    (both : List.Forall₂ ρ opened opened') (within : Within st opened v) (within' : Within st opened' w)
    (swapped : v.Swapped ρ w) :
    SameEnding (Offence.Swapped ρ) (· = ·) (v.literalWithin st Option.none fuel opened)
      (w.literalWithin st Option.none fuel opened') := by
  -- both walks have the same fuel, since they open paired cells at once
  induction fuel generalizing opened opened' v w with
  | zero => exact swapped.literal_of_cells fun a b _ _ paired => .failed (.cyclic paired)
  | succ fuel ih =>
    refine swapped.literal_of_cells fun a b here there paired => ?_
    subst here there
    have inside := swaps.opened_iff both within within' paired
    have inner : ∀ p q, Holds st (.ref a) p → Holds st (.ref b) q → p.Swapped ρ q →
        SameEnding (Offence.Swapped ρ) (· = ·) (p.literalWithin st Option.none fuel (a :: opened))
          (q.literalWithin st Option.none fuel (b :: opened')) := fun p q held held' =>
      ih (.cons paired both) (within.open held) (within'.open held')
    have items := (Swapped.ref paired).items? swaps
    generalize listed : (Value.ref a).items? st = vs?, listed' : (Value.ref b).items? st = ws? at items
    cases items with
    | some items =>
      rw [literalWithin_items listed, literalWithin_items listed', if_congr inside rfl rfl]
      split
      · exact .failed (.cyclic paired)
      · refine (SameEnding.mapM ((forall₂_inside items).imp ?_)).map fun _ _ same => congrArg listText same
        intro p q ⟨alike, member, member'⟩
        exact inner p q (.inl ⟨_, listed, member⟩) (.inl ⟨_, listed', member'⟩) alike
    | none =>
      have entries := (Swapped.ref paired).entries? swaps
      generalize mapped : (Value.ref a).entries? st = es?, mapped' : (Value.ref b).entries? st = fs? at entries
      cases entries with
      | some entries =>
        rw [literalWithin_entries mapped, literalWithin_entries mapped', if_congr inside rfl rfl]
        split
        · exact .failed (.cyclic paired)
        · refine (SameEnding.mapM ((forall₂_inside (present_swapped entries)).imp ?_)).map
            fun _ _ same => congrArg mappingText same
          intro e f ⟨⟨keys, alike⟩, member, member'⟩
          refine entryWith_swapped keys (fun _ => .same) (inner e.2 f.2 ?_ ?_ alike)
          · exact .inr ⟨_, e.1, mapped, List.mem_of_mem_filter member⟩
          · exact .inr ⟨_, f.1, mapped', List.mem_of_mem_filter member'⟩
      | none =>
        rw [literalWithin_other listed mapped, literalWithin_other listed' mapped']
        exact .failed (.unsupported paired)

/-! Paths. -/

theorem itemAt_swapped {vs ws : List Value} (items : List.Forall₂ (Swapped ρ) vs ws) (i : Int) :
    (itemAt vs i).Swapped ρ (itemAt ws i) := by
  have each : ∀ n, (vs.getD n .none).Swapped ρ (ws.getD n .none) := by
    induction items with
    | nil => exact fun _ => .same rfl
    | cons here _ ih =>
      intro n
      cases n with
      | zero => exact here
      | succ n => exact ih n
  unfold itemAt
  rw [items.length_eq]
  dsimp only
  generalize (if i < 0 then i + (ws.length : Int) else i) = place
  split
  · exact each _
  · exact .same rfl

theorem find?_swapped {es fs : List (Value × Value)} (entries : List.Forall₂ (SwappedAt ρ) es fs) (key : Value) :
    SameEnding (· = ·) (Option.Rel (Swapped ρ)) (Entries.find? st es key) (Entries.find? st fs key) := by
  have found : SameEnding (· = ·) (Option.Rel (SwappedAt ρ))
      (es.findM? fun e => e.1.agrees st key) (fs.findM? fun e => e.1.agrees st key) := by
    induction entries with
    | nil => exact .done .none
    | @cons e f _ _ here _ ih =>
      obtain ⟨k, p⟩ := e
      obtain ⟨k', q⟩ := f
      obtain ⟨rfl, values⟩ : k = k' ∧ p.Swapped ρ q := here
      simp only [List.findM?]
      refine (SameEnding.refl (R := (· = ·)) (fun _ => rfl) (fun _ => rfl) _).bind fun hit _ same => ?_
      subst same
      cases hit with
      | true => exact .done (.some ⟨rfl, values⟩)
      | false => exact ih
  refine found.bind fun _ _ both => .done ?_
  cases both with
  | none => exact .none
  | some both => exact .some both.2

theorem lookup_paired {α β : Type} {R : α → β → Prop} {as : List (Text × α)} {bs : List (Text × β)}
    (pairs : List.Forall₂ (fun e f => e.1 = f.1 ∧ R e.2 f.2) as bs) (name : Text) :
    Option.Rel R (as.lookup name) (bs.lookup name) := by
  induction pairs with
  | nil => exact .none
  | @cons e f _ _ here _ ih =>
    obtain ⟨n, p⟩ := e
    obtain ⟨n', q⟩ := f
    obtain ⟨rfl, values⟩ : n = n' ∧ R p q := here
    rw [List.lookup_cons, List.lookup_cons]
    cases name == n with
    | true => exact .some values
    | false => exact ih

theorem attribute?_swapped {as bs : List (Text × Attribute)}
    (attributes : List.Forall₂ (fun e f => e.1 = f.1 ∧ e.2.Swapped ρ f.2) as bs) (name : Text) :
    SameEnding (· = ·) (Option.Rel (Swapped ρ)) (attribute? as name) (attribute? bs name) := by
  have found := lookup_paired attributes name
  unfold attribute?
  generalize as.lookup name = p?, bs.lookup name = q? at found ⊢
  cases found with
  | none => exact .done .none
  | some here => cases here with
    | held here => exact .done (.some here)
    | raising => exact .failed rfl

theorem dataParts_outside (v : Value) : ∀ e ∈ v.dataParts, e.2.isRef = false := by
  cases v with
  | moment m => by_cases naive : m.zone = .naive <;> simp [dataParts, extremes, ofInt, isRef, naive]
  | zone z => cases z <;> simp [dataParts, isRef]
  | builtin c isClass =>
    cases isClass with
    | true =>
      simp only [dataParts, classPart]
      split_ifs <;> simp [isRef]
    | false => exact List.forall_mem_nil _
  | entity e =>
    cases e with
    | module m =>
      simp only [dataParts, modulePart]
      split_ifs <;> simp [ofInt, isRef]
    | _ => exact List.forall_mem_nil _
  | _ => simp [dataParts, dataParts.whole, extremes, ofInt, isRef]

theorem Swapped.methods (swapped : v.Swapped ρ w) (swaps : st.Swaps ρ) : v.methods st = w.methods st := by
  cases swapped with
  | same => rfl
  | absent => rfl
  | @ref a b paired =>
    have cells := swaps.cells paired
    simp only [Value.methods]
    generalize st.get? a = c, st.get? b = d at cells ⊢
    cases cells with
    | none => rfl
    | some cells => cases cells <;> rfl

theorem member?_outside (outside : v.isRef = false) (name : Text) :
    SameEnding (· = ·) (Option.Rel (Swapped ρ)) (v.member? st name) (v.member? st name) := by
  rw [member?, cell?_outside outside]
  dsimp only
  split
  · rename_i n p found
    exact .done (.some (.same (dataParts_outside v _ (List.mem_of_find?_eq_some found))))
  · split
    · exact .done (.some (.same rfl))
    · exact .done .none

theorem Swapped.member? (swapped : v.Swapped ρ w) (swaps : st.Swaps ρ) (name : Text) :
    SameEnding (· = ·) (Option.Rel (Value.Swapped ρ)) (v.member? st name) (w.member? st name) := by
  have methods := swapped.methods swaps
  cases swapped with
  | same outside => exact member?_outside outside name
  | absent => exact .done .none
  | @ref a b paired =>
    have cells := swaps.cells paired
    have kind := swaps.kind paired
    simp only [Value.member?, Value.cell?, methods, kind]
    generalize st.get? a = c, st.get? b = d at cells ⊢
    cases cells with
    | none =>
      dsimp only [dataParts, List.find?_nil]
      split
      · exact .done (.some (.same rfl))
      · exact .done .none
    | some cells =>
      cases cells with
      | object attributes => exact attribute?_swapped attributes name
      | exception attributes => exact .done (lookup_paired attributes name)
      | _ =>
        dsimp only [dataParts, List.find?_nil]
        split
        · exact .done (.some (.same rfl))
        · exact .done .none

theorem step_swapped (swaps : st.Swaps ρ) (swapped : v.Swapped ρ w) (key : Value) :
    SameEnding (· = ·) (Swapped ρ) (v.step st key) (w.step st key) := by
  have default : ∀ {p? q? : Option Value}, Option.Rel (Swapped ρ) p? q? →
      (p?.getD .none).Swapped ρ (q?.getD .none) := by
    intro p? q? both
    cases both with
    | none => exact .same rfl
    | some both => exact both
  have items := swapped.items? swaps
  have entries := swapped.entries? swaps
  unfold step stepBy
  generalize v.entries? st = es?, w.entries? st = fs? at entries ⊢
  cases entries with
  | some entries =>
    dsimp only
    split
    · exact .failed rfl
    · exact (find?_swapped entries key).bind fun _ _ both => .done (default both)
  | none =>
    have named : ∀ name : Text, SameEnding (· = ·) (Swapped ρ)
        (if name.isPrivate then .ok Value.none else (v.member? st name).map fun found => found.getD .none)
        (if name.isPrivate then .ok Value.none else (w.member? st name).map fun found => found.getD .none) := by
      intro name
      split
      · exact .done (.same rfl)
      · exact (swapped.member? swaps name).map fun _ _ both => default both
    generalize v.items? st = vs?, w.items? st = ws? at items ⊢
    dsimp only
    cases items with
    | some items =>
      cases key.asInt? with
      | some i => exact .done (itemAt_swapped items i)
      | none =>
        cases key.asText? with
        | some name => exact named name
        | none => exact .done (.same rfl)
    | none =>
      cases key.asText? with
      | some name => exact named name
      | none => exact .done (.same rfl)

theorem lookup_swapped (swaps : st.Swaps ρ) (swapped : v.Swapped ρ w) (path : List Value) :
    SameEnding (· = ·) (fun p q => p.Swapped ρ q ∧ p.isAbsent = false ∧ q.isAbsent = false)
      (v.lookup st path) (w.lookup st path) := by
  induction path generalizing v w with
  | nil =>
    rw [lookup_start, lookup_start, ← swapped.isAbsent]
    cases absence : v.isAbsent with
    | true => exact .done ⟨.same rfl, rfl, rfl⟩
    | false => exact .done ⟨swapped, absence, swapped.isAbsent ▸ absence⟩
  | cons key path ih =>
    rw [lookup_next, lookup_next, ← swapped.isMissing]
    cases missing : v.isMissing with
    | true => exact .done ⟨.same rfl, rfl, rfl⟩
    | false => exact (step_swapped swaps swapped key).bind fun _ _ next => ih next

end Value

/-- A mapping and a list inside each other, twice: with the library's own sentinels, then with others. -/
def guises : Store :=
  { cells := #[
      .dict [(.ofText (wording "gone"), .absent .own), (.ofText (wording "kept"), .ref 1)] none,
      .list [.absent .own, .ref 0] none,
      .dict [(.ofText (wording "gone"), .absent .foreign), (.ofText (wording "kept"), .ref 3)] none,
      .list [.absent (.copied 5), .ref 2] none ] }

def guisePair (a b : Address) : Prop := a = 0 ∧ b = 2 ∨ a = 1 ∧ b = 3

theorem guises_swaps : guises.Swaps guisePair := by
  refine ⟨?_, ?_, ?_⟩
  · rintro a b (⟨rfl, rfl⟩ | ⟨rfl, rfl⟩)
    · exact .some (.dict (.cons ⟨rfl, .absent⟩ (.cons ⟨rfl, .ref (.inr ⟨rfl, rfl⟩)⟩ .nil)))
    · exact .some (.list (.cons .absent (.cons (.ref (.inl ⟨rfl, rfl⟩)) .nil)))
  · rintro a b b' (⟨rfl, rfl⟩ | ⟨rfl, rfl⟩) (⟨same, rfl⟩ | ⟨same, rfl⟩) _ <;> first | rfl | cases same
  · rintro a a' b (⟨rfl, rfl⟩ | ⟨rfl, rfl⟩) (⟨rfl, same⟩ | ⟨rfl, same⟩) _ <;> first | rfl | cases same

end

end RenderSource
