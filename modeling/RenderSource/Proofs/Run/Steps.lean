import Mathlib.Data.List.Forall2
import RenderSource.Run
/-!
Steps on a store, one after the other: what a sequence gives from what its parts give, and which steps
leave the frames as they are.
-/
namespace RenderSource

section

variable {ε α β : Type} {x : Except ε α}

theorem ok_of_toBool (done : x.toBool = true) : ∃ a, x = .ok a := by
  cases x with
  | error e => cases done
  | ok a => exact ⟨a, rfl⟩

theorem error_of_toBool (failed : x.toBool = false) : ∃ e, x = .error e := by
  cases x with
  | error e => exact ⟨e, rfl⟩
  | ok a => cases failed

theorem ok_of_bind {f : α → Except ε β} {b : β} (done : x >>= f = .ok b) :
    ∃ a, x = .ok a ∧ f a = .ok b := by
  cases x with
  | error e => cases done
  | ok a => exact ⟨a, rfl, done⟩

theorem ok_of_map {f : α → β} {b : β} (done : x.map f = .ok b) : ∃ a, x = .ok a ∧ f a = b := by
  cases x with
  | error e => cases done
  | ok a => exact ⟨a, rfl, Except.ok.inj done⟩

theorem ok_of_mapError {ε' : Type} {f : ε → ε'} {a : α} (done : x.mapError f = .ok a) : x = .ok a := by
  cases x with
  | error e => cases done
  | ok b => exact congrArg Except.ok (Except.ok.inj done)

theorem mapM_cons_ok {f : α → Except ε β} {a : α} {as : List α} {b : β} {bs : List β} (first : f a = .ok b)
    (later : as.mapM f = .ok bs) : (a :: as).mapM f = .ok (b :: bs) := by
  rw [List.mapM_cons, first, later]
  rfl

theorem ok_of_mapM_cons {f : α → Except ε β} {a : α} {as : List α} {bs : List β}
    (done : (a :: as).mapM f = .ok bs) :
    ∃ b later, f a = .ok b ∧ as.mapM f = .ok later ∧ bs = b :: later := by
  rw [List.mapM_cons] at done
  obtain ⟨b, first, done⟩ := ok_of_bind done
  obtain ⟨later, more, done⟩ := ok_of_bind done
  cases done
  exact ⟨b, later, first, more, rfl⟩

theorem mapM_forall₂ {f : α → Except ε β} {xs : List α} {ys : List β}
    (done : xs.mapM f = .ok ys) : List.Forall₂ (fun x y => f x = .ok y) xs ys := by
  induction xs generalizing ys with
  | nil =>
    cases done
    exact .nil
  | cons x xs ih =>
    obtain ⟨y, zs, first, later, rfl⟩ := ok_of_mapM_cons done
    exact .cons first (ih later)

theorem mapM_of_forall₂ {f : α → Except ε β} {xs : List α} {ys : List β}
    (each : List.Forall₂ (fun x y => f x = .ok y) xs ys) : xs.mapM f = .ok ys := by
  induction each with
  | nil => rfl
  | cons here _ ih => exact mapM_cons_ok here ih

theorem allM_ok {f : α → Except ε Bool} {xs : List α} (each : ∀ x ∈ xs, f x = .ok true) :
    xs.allM f = .ok true := by
  induction xs with
  | nil => rfl
  | cons x xs ih =>
    rw [List.forall_mem_cons] at each
    rw [List.allM, each.1]
    exact ih each.2

end

section

variable {α β γ : Type} {R : α → β → Prop} {xs : List α} {ys : List β}

theorem forall₂_items (length : xs.length = ys.length) (each : ∀ q ∈ xs.zip ys, R q.1 q.2) :
    List.Forall₂ R xs ys :=
  List.forall₂_iff_zip.mpr ⟨length, fun member => each _ member⟩

theorem forall₂_inside (both : List.Forall₂ R xs ys) :
    List.Forall₂ (fun x y => R x y ∧ x ∈ xs ∧ y ∈ ys) xs ys :=
  forall₂_items both.length_eq fun _ member =>
    ⟨(List.forall₂_iff_zip.mp both).2 member, List.of_mem_zip member⟩

theorem forall₂_partner (both : List.Forall₂ R xs ys) : ∀ y ∈ ys, ∃ x ∈ xs, R x y := by
  induction both with
  | nil => intro y member; cases member
  | cons here _ ih =>
    intro y member
    rcases List.mem_cons.mp member with rfl | later
    · exact ⟨_, List.mem_cons_self, here⟩
    · obtain ⟨x, inside, found⟩ := ih y later
      exact ⟨x, List.mem_cons_of_mem _ inside, found⟩

theorem forall_of_forall₂ {P : β → Prop} (parts : List.Forall₂ (fun _ y => P y) xs ys) : ∀ y ∈ ys, P y := by
  intro y member
  obtain ⟨_, _, here⟩ := forall₂_partner parts y member
  exact here

theorem forall₂_through {S : α → γ → Prop} {T : β → γ → Prop} {zs : List γ} (first : List.Forall₂ R xs ys)
    (second : List.Forall₂ S xs zs) (step : ∀ x y z, R x y → S x z → T y z) : List.Forall₂ T ys zs := by
  induction first generalizing zs with
  | nil =>
    cases second
    exact .nil
  | cons here _ ih =>
    cases second with
    | cons there later => exact .cons (step _ _ _ here there) (ih later)

theorem map_of_forall₂ {f : α → γ} {g : β → γ} (each : List.Forall₂ (fun x y => f x = g y) xs ys) :
    xs.map f = ys.map g := by
  have same : List.Forall₂ (· = ·) (xs.map f) (ys.map g) :=
    List.forall₂_map_left_iff.mpr (List.forall₂_map_right_iff.mpr each)
  rwa [List.forall₂_eq_eq_eq] at same

end

def Store.withFrames (st : Store) (fs : Array Frame) : Store := { st with frames := fs }

theorem Store.withFrames_self (st : Store) : st.withFrames st.frames = st := rfl

namespace Run

variable {α β : Type} {x y : Run α} {f g : α → Run β} {st st' : Store} {a : α} {e : Fault}

theorem bind_ok (here : x st = (.ok a, st')) : (x >>= f) st = f a st' := by
  simp only [bind, ExceptT.bind, ExceptT.mk, StateT.bind, here]
  rfl

theorem bind_error (here : x st = (.error e, st')) : (x >>= f) st = (.error e, st') := by
  simp only [bind, ExceptT.bind, ExceptT.mk, StateT.bind, here]
  rfl

theorem ok_of_bind {b : β} (done : (x >>= f) st = (.ok b, st')) :
    ∃ a between, x st = (.ok a, between) ∧ f a between = (.ok b, st') := by
  rcases first : x st with ⟨_ | a, between⟩
  · rw [bind_error first] at done
    cases done
  · rw [bind_ok first] at done
    exact ⟨a, between, rfl, done⟩

theorem bind_congr (here : x st = y st)
    (next : ∀ a st', y st = (.ok a, st') → f a st' = g a st') : (x >>= f) st = (y >>= g) st := by
  rcases first : y st with ⟨_ | a, st'⟩
  · rw [bind_error first, bind_error (here.trans first)]
  · rw [bind_ok first, bind_ok (here.trans first), next a st' first]

theorem pure_apply : (pure a : Run α) st = (.ok a, st) := rfl

theorem look_apply (f : Store → Except Fault α) : look f st = (f st, st) := rfl

theorem look_bind (h : Store → Except Fault α) (f : α → Run β) (st : Store) :
    (look h >>= f) st = match h st with
      | .ok a => f a st
      | .error e => (.error e, st) := by
  cases found : h st with
  | ok a => exact bind_ok (by rw [look_apply, found])
  | error e => exact bind_error (by rw [look_apply, found])

theorem map_apply (x : Run α) (g : α → β) (st : Store) :
    (do return g (← x) : Run β) st = ((x st).1.map g, (x st).2) := by
  rcases done : x st with ⟨_ | a, st'⟩
  · rw [bind_error done]
    rfl
  · rw [bind_ok done]
    rfl

theorem look_map (f : Store → Except Fault α) (g : α → β) :
    (do return g (← look f) : Run β) = look fun st => return g (← f st) := by
  funext st
  rw [map_apply, look_apply, look_apply]
  cases f st <;> rfl

theorem allocate_apply (c : Cell) : allocate c st = (.ok (.ref st.size), (st.add c).2) := rfl

def KeepsFrames (x : Run α) : Prop := ∀ st : Store, (x st).2.frames = st.frames

theorem KeepsFrames.apply (keeps : KeepsFrames x) {r : Except Fault α} (here : x st = (r, st')) :
    st'.frames = st.frames := by
  have := keeps st
  rwa [here] at this

/-- A step that neither looks at the names of running functions nor changes them. -/
def Frameless (x : Run α) : Prop :=
  ∀ (st : Store) (fs : Array Frame), x (st.withFrames fs) = ((x st).1, (x st).2.withFrames fs)

theorem Frameless.keeps (frameless : Frameless x) : KeepsFrames x := by
  intro st
  have same : (x st).2 = (x st).2.withFrames st.frames := congrArg Prod.snd (frameless st st.frames)
  rw [same]
  rfl

theorem frameless_pure (a : α) : Frameless (pure a : Run α) := fun _ _ => rfl

theorem frameless_ofExcept (r : Except Fault α) : Frameless (ofExcept r) := fun _ _ => rfl

theorem frameless_allocate (c : Cell) : Frameless (allocate c) := fun _ _ => rfl

theorem frameless_look {f : Store → Except Fault α}
    (same : ∀ st st' : Store, st.cells = st'.cells → f st = f st') : Frameless (look f) := by
  intro st fs
  rw [look_apply, look_apply, same (st.withFrames fs) st rfl]

theorem frameless_bind (frameless : Frameless x) (next : ∀ a, Frameless (f a)) : Frameless (x >>= f) := by
  intro st fs
  have here := frameless st fs
  rcases first : x st with ⟨_ | a, st'⟩
  · rw [first] at here
    rw [bind_error first, bind_error here]
  · rw [first] at here
    rw [bind_ok first, bind_ok here, next a st' fs]

end Run

end RenderSource
