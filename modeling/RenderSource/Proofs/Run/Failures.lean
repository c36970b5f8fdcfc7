import RenderSource.Proofs.Run.Steps
/-!
What running a source can fail with. A computation is contained if it fails, where it does, with one of those failures;
what is put together of contained computations is contained.
-/
namespace RenderSource

/-- The failures that running ends in: of names, values and calls, and what a source raises. No report of a
configuration, a buffer, a descriptor or a source is among them. -/
def Fault.ofRunning : Fault → Bool
  | .offence _ | .wrongType | .badValue | .noAttribute | .unknownName | .unsetName | .outOfRange | .unencodable
  | .badIndex | .tooDeep | .outOfMemory | .missingKey | .divisionByZero | .exhausted | .badTemplate | .raised _ => true
  | _ => false

attribute [grind =] Fault.ofRunning

class Failing (m : Type → Type) [Monad m] where
  Contained {α : Type} (x : m α) : Prop
  pure {α : Type} (a : α) : Contained (pure a)
  bind {α β : Type} {x : m α} {f : α → m β} (first : Contained x) (next : ∀ a, Contained (f a)) : Contained (x >>= f)

open Failing (Contained)

attribute [grind ←] Failing.pure Failing.bind

instance : Failing (Except Fault) where
  Contained r := ∀ e, r = .error e → e.ofRunning = true
  pure a e failed := by cases failed
  bind {α β x f} first next := by
    cases x with
    | error e => exact fun e' failed => first e' (by cases failed; rfl)
    | ok a => exact next a

instance : Failing Run where
  Contained x := ∀ st, Contained (x st).1
  pure a st e failed := by cases failed
  bind {α β x f} first next st := by
    have here := first st
    rcases done : x st with ⟨_ | a, st'⟩
    · rw [done] at here
      rw [Run.bind_error done]
      exact fun e failed => here e (by cases failed; rfl)
    · rw [Run.bind_ok done]
      exact next a st'

namespace Failing

section

variable {m : Type → Type} [Monad m] [Failing m] {α β : Type} {xs : List α}

@[grind ←] theorem contained_map [LawfulMonad m] {x : m α} {f : α → β} (contained : Contained x) : Contained (f <$> x) := by
  rw [← bind_pure_comp]
  exact bind contained fun a => pure (f a)

@[grind ←] theorem contained_mapM [LawfulMonad m] {f : α → m β} (each : ∀ a, Contained (f a)) : Contained (xs.mapM f) := by
  induction xs with
  | nil => grind
  | cons x xs ih => grind

@[grind ←] theorem contained_foldlM {f : β → α → m β} (each : ∀ b a, Contained (f b a)) (b : β) :
    Contained (xs.foldlM f b) := by
  induction xs generalizing b with
  | nil => grind
  | cons x xs ih => grind

@[grind ←] theorem contained_anyM {f : α → m Bool} (each : ∀ a, Contained (f a)) : Contained (xs.anyM f) := by
  induction xs with
  | nil => grind [List.anyM]
  | cons x xs ih => grind [List.anyM]

@[grind ←] theorem contained_allM {f : α → m Bool} (each : ∀ a, Contained (f a)) : Contained (xs.allM f) := by
  induction xs with
  | nil => grind [List.allM]
  | cons x xs ih => grind [List.allM]

@[grind ←] theorem contained_findM? {f : α → m Bool} (each : ∀ a, Contained (f a)) : Contained (xs.findM? f) := by
  induction xs with
  | nil => grind [List.findM?]
  | cons x xs ih => grind [List.findM?]

@[grind ←] theorem contained_forM {f : α → m PUnit} (each : ∀ a, Contained (f a)) : Contained (xs.forM f) := by
  induction xs with
  | nil => exact pure _
  | cons x xs ih => exact bind (each x) fun _ => ih

@[grind ←] theorem contained_filterM {f : α → m Bool} (each : ∀ a, Contained (f a)) : Contained (xs.filterM f) := by
  have gathered : ∀ acc, Contained (xs.filterAuxM f acc) := by
    induction xs with
    | nil => exact pure
    | cons x xs ih => grind [List.filterAuxM]
  grind [List.filterM]

@[grind ←] theorem contained_filterMapM {f : α → m (Option β)} (each : ∀ a, Contained (f a)) :
    Contained (xs.filterMapM f) := by
  have gathered : ∀ acc, Contained (List.filterMapM.loop f xs acc) := by
    induction xs with
    | nil => grind [List.filterMapM.loop]
    | cons x xs ih => grind [List.filterMapM.loop]
  exact gathered []

@[grind ←] theorem contained_forIn {f : α → β → m (ForInStep β)} (each : ∀ a b, Contained (f a b)) (b : β) :
    Contained (forIn xs b f) := by
  induction xs generalizing b with
  | nil => exact pure b
  | cons x xs ih =>
    rw [List.forIn_cons]
    refine bind (each x b) fun step => ?_
    cases step with
    | done b => exact pure b
    | yield b => exact ih b

@[grind ←] theorem contained_optionMapM [LawfulMonad m] {o : Option α} {f : α → m β} (each : ∀ a, Contained (f a)) :
    Contained (o.mapM f) := by
  cases o with
  | none => exact pure none
  | some a => exact contained_map (each a)

theorem contained_choice {ask : m Bool} {yes no : m β} (asked : Contained ask) (taken : Contained yes)
    (other : Contained no) : Contained (do if ← ask then yes else no) := by
  refine bind asked fun answer => ?_
  cases answer
  · exact other
  · exact taken

end

variable {α β : Type}

@[grind ←] theorem contained_ok (a : α) : Contained (Except.ok a : Except Fault α) := pure a

@[grind =] theorem contained_error {e : Fault} : Contained (.error e : Except Fault α) ↔ e.ofRunning = true :=
  ⟨fun contained => contained e rfl, fun running _ same => by cases same; exact running⟩

@[grind =] theorem contained_throw {e : Fault} : Contained (throw e : Except Fault α) ↔ e.ofRunning = true :=
  contained_error

@[grind ←] theorem contained_exceptMap {r : Except Fault α} {f : α → β} (contained : Contained r) :
    Contained (r.map f) := contained_map contained

@[grind =] theorem contained_raise {e : Fault} : Contained (throw e : Run α) ↔ e.ofRunning = true :=
  ⟨fun contained => contained .empty e rfl, fun running _ => contained_error.mpr running⟩

@[grind ←] theorem contained_look {f : Store → Except Fault α} (each : ∀ st, Contained (f st)) :
    Contained (Run.look f) := each

@[grind ←] theorem contained_change {f : Store → Except Fault α × Store} (each : ∀ st, Contained (f st).1) :
    Contained (Run.change f) := each

@[grind ←] theorem contained_ofExcept {r : Except Fault α} (contained : Contained r) : Contained (Run.ofExcept r) :=
  fun _ => contained

@[grind ←] theorem contained_allocate (c : Cell) : Contained (Run.allocate c) := fun _ => contained_ok _

@[grind ←] theorem contained_update (f : Store → Store) : Contained (Run.update f) := fun _ => contained_ok ()

theorem contained_recover {x : Run α} {handle : Store → Fault → Option (Run α)} (contained : Contained x)
    (handled : ∀ st e h, handle st e = some h → Contained h) :
    Contained (m := Run) (fun st => x.recover (handle st) st) := by
  intro st
  have here := contained st
  unfold Run.recover
  dsimp only
  rcases done : x st with ⟨e | a, st'⟩
  · rw [done] at here
    dsimp only
    cases found : handle st e with
    | none => exact here
    | some h => exact handled st e h found st'
  · exact contained_ok a

end Failing

end RenderSource
