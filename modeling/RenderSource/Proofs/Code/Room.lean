import RenderSource.Proofs.Code.Statements
/-!
Statements for which there is room where they are read. What reading takes grows with the brackets that are inside
one another, and a statement with few of them fits wherever it stands.
-/
namespace RenderSource

namespace Term

variable {left first next : Nat}

theorem rungsOfAll_le {ts : List Term} (each : ∀ t ∈ ts, t.rungs left ≤ 30 * t.nesting + 2) (head : first ≤ 30)
    (tail : next ≤ 30) : rungsOfAll left first next ts ≤ 30 * (1 + nestingAll ts) + 2 := by
  induction ts generalizing first with
  | nil => exact Nat.zero_le _
  | cons t ts ih =>
    obtain ⟨here, later⟩ := List.forall_mem_cons.mp each
    have rest := ih later tail
    rw [rungsOfAll, nestingAll]
    omega

theorem rungsOfEntries_le {es : List (Term × Term)} (keys : ∀ e ∈ es, e.1.rungs left ≤ 30 * e.1.nesting + 2)
    (values : ∀ e ∈ es, e.2.rungs left ≤ 30 * e.2.nesting + 2) (head : first ≤ 30) (tail : next ≤ 30) :
    rungsOfEntries left first next es ≤ 30 * (1 + nestingEntries es) + 2 := by
  induction es generalizing first with
  | nil => exact Nat.zero_le _
  | cons e es ih =>
    obtain ⟨key, keys⟩ := List.forall_mem_cons.mp keys
    obtain ⟨value, values⟩ := List.forall_mem_cons.mp values
    have rest := ih keys values tail
    rw [rungsOfEntries, nestingEntries]
    omega

theorem rungsOfNamed_le {ts : List (Text × Term)} (each : ∀ e ∈ ts, e.2.rungs left ≤ 30 * e.2.nesting + 2)
    (head : first ≤ 30) (tail : next ≤ 30) : rungsOfNamed left first next ts ≤ 30 * (1 + nestingNamed ts) + 2 := by
  induction ts generalizing first with
  | nil => exact Nat.zero_le _
  | cons e ts ih =>
    obtain ⟨here, later⟩ := List.forall_mem_cons.mp each
    have rest := ih later tail
    rw [rungsOfNamed, nestingNamed]
    omega

/-- No bracket takes more than thirty rules, and what is no bracket takes two at most. -/
theorem Emitted.rungs_le {r : Rank} {t : Term} (emitted : Emitted r t) (left : Nat) :
    t.rungs left ≤ 30 * t.nesting + 2 := by
  induction emitted generalizing left with
  | attr _ _ ih => exact ih left
  | item _ _ ih ihKey =>
    have base := ih left
    cases left with
    | zero =>
      rw [rungs, nesting]
      omega
    | succ left =>
      have key := ihKey left
      simp only [rungs, nesting]
      omega
  | @call f args named _ _ _ _ ih ihArgs ihNamed =>
    have base := ih left
    cases left with
    | zero =>
      rw [rungs, nesting]
      omega
    | succ left =>
      have plain := @rungsOfAll_le left 24 28 args (fun a member => ihArgs a member left) (by omega) (by omega)
      have fitted := @rungsOfNamed_le left (if args.isEmpty then 27 else 28) 28 named
        (fun e member => ihNamed e member left) (by split <;> omega) (by omega)
      simp only [rungs, nesting]
      omega
  | path _ ih => exact ih left
  | list _ ih =>
    cases left with
    | zero => exact Nat.zero_le _
    | succ left =>
      have items := @rungsOfAll_le left 29 30 _ (fun t member => ih t member left) (by omega) (by omega)
      simp only [rungs, nesting]
      omega
  | dict _ _ ihKeys ih =>
    cases left with
    | zero => exact Nat.zero_le _
    | succ left =>
      have entries := @rungsOfEntries_le left 29 30 _ (fun e member => ihKeys e member left)
        (fun e member => ih e member left) (by omega) (by omega)
      simp only [rungs, nesting]
      omega
  | sum _ _ ih ihSecond =>
    have first := ih left
    have second := ihSecond left
    rw [rungs, nesting]
    omega
  | _ => simp [rungs]

end Term

namespace Statement

/-- There is room for a statement inside so many functions: for its brackets, and for the rules that read it. -/
def Fits (level : Nat) (s : Statement) : Prop := s.nesting ≤ Broken.bracketLimit ∧ s.rungs level ≤ rungLimit

instance (level : Nat) (s : Statement) : Decidable (s.Fits level) := inferInstanceAs (Decidable (_ ∧ _))

def sureNesting : Nat := 150

theorem Spells.fits {s : Statement} (spells : s.Spells) (few : s.nesting ≤ sureNesting) {level : Nat}
    (inside : level < Placed.blockLimit) : s.Fits level := by
  unfold sureNesting at few
  unfold Placed.blockLimit at inside
  refine ⟨by unfold Broken.bracketLimit; omega, ?_⟩
  unfold rungLimit
  cases spells with
  | define => exact Nat.zero_le _
  | assign _ value | augment _ value | give value =>
    have rules := value.rungs_le Broken.bracketLimit
    rw [nesting] at few
    rw [rungs]
    omega

end Statement

end RenderSource
