import RenderSource.Literal.Write
import RenderSource.Proofs.Run.Steps
/-!
The steps of the walk that writes a literal: what it does at a list, at a mapping and at anything else
that has an address. Other proofs open the walk by these equations only.
-/
namespace RenderSource.Value

def present (es : List (Value × Value)) : List (Value × Value) := es.filter fun e => !e.2.isAbsent

def entryWith {β : Type} (inner : Value → Except Offence β) (e : Value × Value) :
    Except Offence (Text × β) :=
  match e.1.asText? with
  | .none => .error (.badKey e.1)
  | some t => (inner e.2).map (t, ·)

def listText (ts : List Text) : Text := wording "[" ++ Text.joinWith (wording ",") ts ++ wording "]"

def mappingText (es : List (Text × Text)) : Text :=
  wording "\x7b" ++ Text.joinWith (wording ",") (es.map fun e => e.1.quote ++ wording ":" ++ e.2) ++
    wording "\x7d"

theorem mapM_image {ε α β γ : Type} {f : α → Except ε β} {h : α → Except ε γ} {g : β → γ}
    (xs : List α) (image : ∀ x ∈ xs, h x = (f x).map g) :
    xs.mapM h = (xs.mapM f).map (List.map g) := by
  induction xs with
  | nil => rfl
  | cons x xs ih =>
    rw [List.mapM_cons, List.mapM_cons, image x (by simp),
      ih fun y member => image y (List.mem_cons_of_mem x member)]
    cases f x with
    | error e => rfl
    | ok y => cases List.mapM f xs <;> rfl

theorem entryWith_image {β γ : Type} {f : Value → Except Offence β} {h : Value → Except Offence γ}
    {g : β → γ} (e : Value × Value) (image : h e.2 = (f e.2).map g) :
    entryWith h e = (entryWith f e).map fun p => (p.1, g p.2) := by
  unfold entryWith
  rw [image]
  cases e.1.asText? with
  | none => rfl
  | some t => cases f e.2 <;> rfl

theorem entryWith_ok {β : Type} {inner : Value → Except Offence β} {e : Value × Value} {q : Text × β}
    (done : entryWith inner e = .ok q) : e.1.asText? = some q.1 ∧ inner e.2 = .ok q.2 := by
  unfold entryWith at done
  cases key : e.1.asText? with
  | none => rw [key] at done; cases done
  | some t =>
    rw [key] at done
    cases value : inner e.2 with
    | error o => rw [value] at done; cases done
    | ok p =>
      rw [value] at done
      cases done
      exact ⟨rfl, rfl⟩

variable {st : Store} {room : Option Nat} {fuel : Nat} {opened : List Address} {a : Address}

theorem bounded_items {vs : List Value} (items : (Value.ref a).items? st = some vs) :
    literalWithin st room (fuel + 1) opened (.ref a) =
      if overruns st room (a :: opened) then .error (.deep (.ref a))
      else if a ∈ opened then .error (.cyclic (.ref a))
      else (vs.mapM (literalWithin st room fuel (a :: opened))).map listText := by
  have written : ∀ ws : List Value,
      (do
        if overruns st room (a :: opened) then throw (.deep (.ref a))
        if a ∈ opened then throw (.cyclic (.ref a))
        return wording "[" ++ Text.joinWith (wording ",") (← ws.mapM (literalWithin st room fuel (a :: opened))) ++
          wording "]" : Except Offence Text) =
      if overruns st room (a :: opened) then .error (.deep (.ref a))
      else if a ∈ opened then .error (.cyclic (.ref a))
      else (ws.mapM (literalWithin st room fuel (a :: opened))).map listText := by
    intro ws
    split
    · rfl
    · split
      · rfl
      · cases ws.mapM (literalWithin st room fuel (a :: opened)) <;> rfl
  simp only [items?, cell?] at items
  split at items
  · rename_i ws cls here
    cases items
    unfold literalWithin
    simp only [here]
    exact written _
  · rename_i ws here
    cases items
    unfold literalWithin
    simp only [here]
    exact written _
  · cases items

theorem bounded_entries {es : List (Value × Value)} (entries : (Value.ref a).entries? st = some es) :
    literalWithin st room (fuel + 1) opened (.ref a) =
      if overruns st room (a :: opened) then .error (.deep (.ref a))
      else if a ∈ opened then .error (.cyclic (.ref a))
      else ((present es).mapM (entryWith (literalWithin st room fuel (a :: opened)))).map mappingText := by
  have parts := mapM_image (f := entryWith (literalWithin st room fuel (a :: opened)))
    (h := fun e => do
      match e.1.asText? with
      | .none => throw (.badKey e.1)
      | some t => return t.quote ++ wording ":" ++ (← literalWithin st room fuel (a :: opened) e.2))
    (g := fun e => e.1.quote ++ wording ":" ++ e.2) (present es) (by
      intro e _
      simp only [entryWith]
      cases e.1.asText? with
      | none => rfl
      | some t => cases literalWithin st room fuel (a :: opened) e.2 <;> rfl)
  have whole : ∀ r : Except Offence (List (Text × Text)),
      (do
        let parts ← r.map (List.map fun e => e.1.quote ++ wording ":" ++ e.2)
        pure (wording "\x7b" ++ Text.joinWith (wording ",") parts ++ wording "\x7d")) =
      r.map mappingText := by
    intro r
    cases r <;> rfl
  simp only [entries?, cell?] at entries
  split at entries
  · rename_i fs cls here
    cases entries
    unfold literalWithin
    simp only [here]
    split
    · rfl
    · split
      · rfl
      · rw [← whole, ← parts]
        rfl
  · rename_i fs here
    cases entries
    unfold literalWithin
    simp only [here]
    split
    · rfl
    · split
      · rfl
      · rw [← whole, ← parts]
        rfl
  · cases entries

theorem literalWithin_other (items : (Value.ref a).items? st = Option.none)
    (entries : (Value.ref a).entries? st = Option.none) :
    literalWithin st room (fuel + 1) opened (.ref a) = .error (.unsupported (.ref a)) := by
  simp only [items?, cell?] at items
  simp only [entries?, cell?] at entries
  cases here : st.get? a with
  | none =>
    unfold literalWithin
    simp only [here]
  | some c =>
    rw [here] at items entries
    unfold literalWithin
    simp only [here]
    cases c with
    | list vs cls => cases items
    | tuple vs => cases items
    | dict es cls => cases entries
    | proxy es => cases entries
    | _ => rfl

theorem literalWithin_items {vs : List Value} (items : (Value.ref a).items? st = some vs) :
    literalWithin st Option.none (fuel + 1) opened (.ref a) =
      if a ∈ opened then .error (.cyclic (.ref a))
      else (vs.mapM (literalWithin st Option.none fuel (a :: opened))).map listText :=
  bounded_items items

theorem literalWithin_entries {es : List (Value × Value)} (entries : (Value.ref a).entries? st = some es) :
    literalWithin st Option.none (fuel + 1) opened (.ref a) =
      if a ∈ opened then .error (.cyclic (.ref a))
      else ((present es).mapM (entryWith (literalWithin st Option.none fuel (a :: opened)))).map mappingText :=
  bounded_entries entries

end RenderSource.Value
