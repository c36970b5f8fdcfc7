import RenderSource.Proofs.Renderer.Hygiene
import RenderSource.Proofs.Renderer.Outside
/-!
Where names lead in the frame that the library is in. A name of its own that is bound there is found, where the
function runs and in the functions that it makes; other names lead where they led.
-/
namespace RenderSource

namespace Store

/-- A frame in which the names of the library are the frame's own, or that is outside of all functions. -/
structure Houses (st : Store) (globals i : Nat) (f : Frame) : Prop where
  here : st.frames[i]? = some f
  outer : i = globals → f.outer = none
  own : i = globals ∨ ∀ n ∈ Library.names, wording n ∈ f.own

/-- In frame `i` a name leads to a value, for what runs there and for functions made there. -/
structure Finds (st : Store) (globals i : Nat) (n : Text) (v : Value) : Prop where
  inside : st.readIn globals i n = .ok v
  around : st.readAround globals n (st.frames.size + 1) (some i) = .ok v

variable {st st' : Store} {globals i : Nat} {f : Frame} {m n : Text} {v w : Value}

theorem readAround_none (fuel : Nat) : st.readAround globals n fuel none = st.readOutside globals n := by
  cases fuel with
  | zero => rw [readAround]
  | succ fuel =>
    rw [readAround]
    exact Nat.succ_ne_zero fuel

theorem readAround_same (same : st.frames = st'.frames) (fuel : Nat) (outer : Option Nat) :
    st.readAround globals n fuel outer = st'.readAround globals n fuel outer := by
  have outside : st.readOutside globals n = st'.readOutside globals n := by
    rw [readOutside, same, readOutside]
  induction fuel generalizing outer with
  | zero => rw [readAround, readAround, outside]
  | succ fuel ih =>
    cases outer with
    | none => rw [readAround_none, readAround_none, outside]
    | some i => simp only [readAround, same, outside, ih]

theorem Finds.same (finds : st.Finds globals i n v) (same : st.frames = st'.frames) : st'.Finds globals i n v := by
  constructor
  · rw [← finds.inside, readIn, readIn, same]
    split
    · rfl
    · rw [readAround_same same]
  · rw [← finds.around, same, readAround_same same]

theorem frame_bind (here : st.frames[i]? = some f) (j : Nat) :
    (st.bind i n v).frames[j]? = if j = i then some (f.rebind n v) else st.frames[j]? := by
  rw [bind, here]
  dsimp only
  rw [Array.getElem?_setIfInBounds]
  have inside : i < st.frames.size := (Array.getElem?_eq_some_iff.mp here).1
  by_cases at_ : j = i
  · rw [if_pos at_.symm, if_pos inside, if_pos at_]
    rfl
  · rw [if_neg fun same => at_ same.symm, if_neg at_]

theorem size_bind (i : Nat) (n : Text) (v : Value) : (st.bind i n v).frames.size = st.frames.size := by
  rw [bind]
  split
  · exact Array.size_setIfInBounds
  · rfl

theorem readOutside_other (here : st.frames[i]? = some f) (other : m ≠ n) :
    (st.bind i n v).readOutside globals m = st.readOutside globals m := by
  rw [readOutside, readOutside, frame_bind here]
  by_cases at_ : globals = i
  · rw [if_pos at_, at_, here, Option.bind_some, Option.bind_some, Frame.lookup_rebind, if_neg other]
  · rw [if_neg at_]

theorem readAround_other (here : st.frames[i]? = some f) (other : m ≠ n) (fuel : Nat) (outer : Option Nat) :
    (st.bind i n v).readAround globals m fuel outer = st.readAround globals m fuel outer := by
  have outside : (st.bind i n v).readOutside globals m = st.readOutside globals m := readOutside_other here other
  induction fuel generalizing outer with
  | zero => rw [readAround, readAround, outside]
  | succ fuel ih =>
    cases outer with
    | none => rw [readAround_none, readAround_none, outside]
    | some j =>
      rw [readAround, readAround, frame_bind here]
      by_cases at_ : j = i
      · subst j
        rw [if_pos rfl, here]
        dsimp only
        rw [Frame.lookup_rebind, if_neg other, ih, Frame.rebind]
      · rw [if_neg at_]
        simp only [outside, ih]

theorem Finds.bind_other (finds : st.Finds globals i m w) (here : st.frames[i]? = some f) (other : m ≠ n) :
    (st.bind i n v).Finds globals i m w := by
  constructor
  · rw [← finds.inside, readIn, readIn, frame_bind here, if_pos rfl, here]
    dsimp only
    rw [Frame.lookup_rebind, if_neg other, readAround_other here other, size_bind, Frame.rebind]
  · rw [← finds.around, size_bind, readAround_other here other]

theorem Houses.bind (houses : st.Houses globals i f) (n : Text) (v : Value) :
    (st.bind i n v).Houses globals i (f.rebind n v) where
  here := (frame_bind houses.here i).trans (if_pos rfl)
  outer := houses.outer
  own := houses.own

theorem Houses.finds {n : String} (houses : st.Houses globals i f) (bound : n ∈ Library.names) (v : Value) :
    (st.bind i (wording n) v).Finds globals i (wording n) v := by
  have here : (st.bind i (wording n) v).frames[i]? = some (f.rebind (wording n) v) :=
    (frame_bind houses.here i).trans (if_pos rfl)
  have found : (f.rebind (wording n) v).bound.lookup (wording n) = some v := by
    rw [Frame.lookup_rebind, if_pos rfl]
  constructor
  · rw [readIn, here]
    dsimp only
    rw [found]
  · rw [readAround, here]
    dsimp only
    by_cases own : wording n ∈ (f.rebind (wording n) v).own
    · rw [if_pos own, found]
    · obtain rfl | names := houses.own
      · rw [if_neg own, Frame.rebind, houses.outer rfl, readAround_none, readOutside, here, Option.bind_some, found]
        rfl
      · exact absurd (names n bound) own

/-- A name that is no frame's own and is bound in none. -/
def LeavesFree (st : Store) (n : Text) : Prop :=
  ∀ (i : Nat) (f : Frame), st.frames[i]? = some f → n ∉ f.own ∧ f.bound.lookup n = none

theorem readOutside_free (free : st.LeavesFree n) (everywhere : Builtin.find? n = some v) :
    st.readOutside globals n = .ok v := by
  have unbound : (st.frames[globals]?.bind fun f => f.bound.lookup n) = none := by
    cases here : st.frames[globals]? with
    | none => rfl
    | some f => exact (free globals f here).2
  rw [readOutside, unbound, everywhere]
  rfl

theorem readAround_free (free : st.LeavesFree n) (everywhere : Builtin.find? n = some v) (fuel : Nat)
    (outer : Option Nat) : st.readAround globals n fuel outer = .ok v := by
  induction fuel generalizing outer with
  | zero =>
    rw [readAround]
    exact readOutside_free free everywhere
  | succ fuel ih =>
    cases outer with
    | none =>
      rw [readAround_none]
      exact readOutside_free free everywhere
    | some i =>
      rw [readAround]
      cases here : st.frames[i]? with
      | none => exact readOutside_free free everywhere
      | some f =>
        dsimp only
        rw [if_neg (free i f here).1]
        exact ih f.outer

theorem finds_free (free : st.LeavesFree n) (here : st.frames[i]? = some f) (everywhere : Builtin.find? n = some v) :
    st.Finds globals i n v := by
  constructor
  · rw [readIn, here]
    dsimp only
    rw [(free i f here).2]
    dsimp only
    rw [if_neg (free i f here).1]
    exact readAround_free free everywhere _ _
  · exact readAround_free free everywhere _ _

end Store

end RenderSource
