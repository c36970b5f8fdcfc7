import RenderSource.Proofs.Buffer.Groups
import RenderSource.Proofs.Renderer.Statements
/-!
Steps that fill a buffer in any order, and the portions of source that they leave behind: the start of a
renderer, a piece of a body, or the end of a renderer, each at the depth that the steps before it lead to.
-/
namespace RenderSource

inductive Step
  | piece (p : Piece)
  | indent
  | dedent
  | start
  | finish

/-- What one step leaves in a buffer, at the depth that it was taken at. -/
inductive Portion
  | opening (depth : Nat)
  | piece (depth : Nat) (p : Piece)
  | closing (depth : Nat)

namespace Portion

def segments (c : Config) : Portion → List Segment
  | opening n =>
    [ .raw n (Statement.define c.functionName c.dataName).spelled, .raw (n + 1) (Library.stamped c.version),
      .raw (n + 1) (Statement.assign c.accumulator (.text [])).spelled ]
  | piece n p => [p.segment n]
  | closing n => [.raw n (Statement.give (.name c.accumulator)).spelled]

end Portion

namespace Step

def portions (n : Nat) : Step → List Portion
  | piece p => [.piece n p]
  | start => [.opening n]
  | finish => [.closing n]
  | indent | dedent => []

def depthBehind (n : Nat) : Step → Nat
  | piece _ => n
  | indent | start => n + 1
  | dedent | finish => n - 1

def portionsOf : Nat → List Step → List Portion
  | _, [] => []
  | n, s :: steps => s.portions n ++ portionsOf (s.depthBehind n) steps

end Step

namespace Buffer

def perform (b : Buffer) : Step → Except Fault Buffer
  | .piece p => .ok (p.appendTo b)
  | .indent => .ok b.indent
  | .dedent => b.dedent
  | .start => .ok b.appendStart
  | .finish => match b.appendEnd with
    | (b, .ok _) => .ok b
    | (_, .error e) => .error e

def performAll (b : Buffer) (steps : List Step) : Except Fault Buffer := steps.foldlM perform b

variable {b b' : Buffer}

theorem perform_ok {s : Step} (done : b.perform s = .ok b') :
    b' = { b with
      segments := b.segments ++ (s.portions b.depth).flatMap (Portion.segments b.config)
      depth := s.depthBehind b.depth } ∧ ∀ n, .closing n ∈ s.portions b.depth → n ≠ 0 := by
  cases s with
  | piece p =>
    cases done
    exact ⟨by cases p <;> rfl, by simp [Step.portions]⟩
  | indent =>
    cases done
    exact ⟨by simp [indent, Step.portions, Step.depthBehind], by simp [Step.portions]⟩
  | dedent =>
    rw [perform, dedent] at done
    split at done
    · cases done
    · cases done
      exact ⟨by simp [Step.portions, Step.depthBehind], by simp [Step.portions]⟩
  | start =>
    cases done
    refine ⟨?_, by simp [Step.portions]⟩
    rw [appendStart, Step.portions, List.flatMap_singleton, Portion.segments, Statement.spelled_empty]
    simp [appendRaw, append, indent, Step.depthBehind, Statement.spelled]
  | finish =>
    rw [perform, appendEnd, dedent] at done
    by_cases outside : b.depth = 0
    · simp [appendRaw, append, outside] at done
    · simp only [appendRaw, append, outside, ↓reduceIte, Except.ok.injEq] at done
      subst done
      exact ⟨rfl, fun n member => by cases List.mem_singleton.mp member; exact outside⟩

theorem performAll_ok {steps : List Step} (done : b.performAll steps = .ok b') :
    b'.segments = b.segments ++ (Step.portionsOf b.depth steps).flatMap (Portion.segments b.config) ∧
      b'.config = b.config ∧ b'.writer = b.writer ∧ ∀ n, .closing n ∈ Step.portionsOf b.depth steps → n ≠ 0 := by
  induction steps generalizing b with
  | nil =>
    cases done
    exact ⟨by simp [Step.portionsOf], rfl, rfl, nofun⟩
  | cons s steps ih =>
    obtain ⟨next, first, later⟩ := ok_of_bind done
    obtain ⟨rfl, inside⟩ := perform_ok first
    obtain ⟨segments, config, writer, each⟩ := ih later
    refine ⟨?_, config, writer, fun n member => ?_⟩
    · rw [segments, Step.portionsOf, List.flatMap_append, List.append_assoc]
    · rcases List.mem_append.mp member with here | behind
      · exact inside n here
      · exact each n behind

end Buffer

namespace Step

theorem piece_of_portion {n m : Nat} {p : Piece} {steps : List Step} (member : .piece m p ∈ portionsOf n steps) :
    piece p ∈ steps := by
  induction steps generalizing n with
  | nil => cases member
  | cons s steps ih =>
    rcases List.mem_append.mp member with here | later
    · cases s with
      | piece q =>
        cases List.mem_singleton.mp here
        exact List.mem_cons_self
      | start | finish => cases List.mem_singleton.mp here
      | indent | dedent => cases here
    · exact List.mem_cons_of_mem s (ih later)

/-- A renderer as deep as this cannot begin: the blocks of its library would be too many. -/
def startLimit : Nat := 95

/-- Whether steps that begin inside `n` renderers stay inside of renderers, but for starts, none of them too deep.
Not all renderers need to end. -/
def housed : Nat → List Step → Bool
  | _, [] => true
  | n, start :: steps => decide (n < startLimit) && housed (n + 1) steps
  | n + 1, piece _ :: steps => housed (n + 1) steps
  | n + 1, finish :: steps => housed n steps
  | _, _ => false

end Step

namespace Portion

def Housed : Nat → List Portion → Prop
  | _, [] => True
  | n, opening m :: ps => m = n ∧ n < Step.startLimit ∧ Housed (n + 1) ps
  | n, piece m _ :: ps => m = n ∧ n ≠ 0 ∧ Housed n ps
  | n, closing m :: ps => m = n ∧ n ≠ 0 ∧ Housed (n - 1) ps

theorem housed_portions {n : Nat} {steps : List Step} (housed : Step.housed n steps = true) :
    Housed n (Step.portionsOf n steps) := by
  fun_induction Step.housed n steps with
  | case1 n => trivial
  | case2 n steps ih =>
    obtain ⟨shallow, inside⟩ := Bool.and_eq_true_iff.mp housed
    exact ⟨rfl, of_decide_eq_true shallow, ih inside⟩
  | case3 n p steps ih => exact ⟨rfl, Nat.succ_ne_zero n, ih housed⟩
  | case4 n steps ih => exact ⟨rfl, Nat.succ_ne_zero n, ih housed⟩
  | case5 => cases housed

theorem opening_housed {steps : List Step} (housed : Step.housed 0 steps = true) (some : steps ≠ []) :
    opening 0 ∈ Step.portionsOf 0 steps := by
  cases steps with
  | nil => exact absurd rfl some
  | cons s steps =>
    cases s with
    | start => exact List.mem_cons_self
    | _ => cases housed

/-- Portions that differ from others in their literals only, and are housed where those are. -/
structure Keeps (ps qs : List Portion) : Prop where
  member : ∀ q ∈ qs, q ∈ ps ∨ ∃ n t, q = .piece n (.literal t)
  opens : ∀ n, opening n ∈ ps → opening n ∈ qs
  housed : ∀ n, Housed n ps → Housed n qs

variable {ps qs rs : List Portion}

theorem Keeps.forall {Q : Portion → Prop} (keeps : Keeps ps qs) (literals : ∀ n t, Q (.piece n (.literal t)))
    (all : ∀ p ∈ ps, Q p) : ∀ q ∈ qs, Q q := by
  intro q member
  rcases keeps.member q member with before | ⟨n, t, rfl⟩
  · exact all q before
  · exact literals n t

theorem Keeps.refl (ps : List Portion) : Keeps ps ps :=
  ⟨fun _ member => .inl member, fun _ member => member, fun _ housed => housed⟩

theorem Keeps.trans (first : Keeps ps qs) (later : Keeps qs rs) : Keeps ps rs := by
  constructor
  · intro r member
    rcases later.member r member with between | literal
    · exact first.member r between
    · exact .inr literal
  · exact fun n member => later.opens n (first.opens n member)
  · exact fun n housed => later.housed n (first.housed n housed)

theorem Keeps.cons (keeps : Keeps ps qs) (p : Portion) : Keeps (p :: ps) (p :: qs) := by
  constructor
  · refine List.forall_mem_cons.mpr ⟨.inl List.mem_cons_self, fun q member => ?_⟩
    exact (keeps.member q member).imp (List.mem_cons_of_mem p) id
  · intro n member
    rcases List.mem_cons.mp member with rfl | later
    · exact List.mem_cons_self
    · exact List.mem_cons_of_mem p (keeps.opens n later)
  · intro n housed
    cases p with
    | opening m => exact ⟨housed.1, housed.2.1, keeps.housed _ housed.2.2⟩
    | piece m p => exact ⟨housed.1, housed.2.1, keeps.housed _ housed.2.2⟩
    | closing m => exact ⟨housed.1, housed.2.1, keeps.housed _ housed.2.2⟩

theorem Keeps.fuse (n : Nat) (t u w : Text) (qs : List Portion) :
    Keeps (piece n (.literal t) :: piece n (.literal u) :: qs) (piece n (.literal w) :: qs) := by
  constructor
  · refine List.forall_mem_cons.mpr ⟨.inr ⟨n, w, rfl⟩, fun q member => .inl ?_⟩
    exact List.mem_cons_of_mem _ (List.mem_cons_of_mem _ member)
  · intro m member
    simp only [List.mem_cons, reduceCtorEq, false_or] at member ⊢
    exact member
  · exact fun m housed => ⟨housed.1, housed.2.1, housed.2.2.2.2⟩

def isEmpty : Portion → Bool
  | piece _ p => p.isEmpty
  | _ => false

def kept (ps : List Portion) : List Portion := ps.filter fun p => !p.isEmpty

theorem kept_cons (p : Portion) (ps : List Portion) : kept (p :: ps) = kept [p] ++ kept ps :=
  List.filter_append [p] ps

theorem Keeps.kept (ps : List Portion) : Keeps ps (kept ps) := by
  constructor
  · exact fun q member => .inl (List.mem_filter.mp member).1
  · exact fun n member => List.mem_filter.mpr ⟨member, rfl⟩
  · induction ps with
    | nil => exact fun n housed => housed
    | cons p ps ih =>
      intro n housed
      rw [kept_cons]
      cases p with
      | opening m => exact ⟨housed.1, housed.2.1, ih _ housed.2.2⟩
      | closing m => exact ⟨housed.1, housed.2.1, ih _ housed.2.2⟩
      | piece m p =>
        by_cases empty : p.isEmpty = true
        · have none : Portion.kept [piece m p] = [] := by simp [Portion.kept, isEmpty, empty]
          rw [none]
          exact ih _ housed.2.2
        · have one : Portion.kept [piece m p] = [piece m p] := by simp [Portion.kept, isEmpty, empty]
          rw [one]
          exact ⟨housed.1, housed.2.1, ih _ housed.2.2⟩

theorem segments_ne_nil (c : Config) (q : Portion) : q.segments c ≠ [] := by
  cases q <;> exact List.cons_ne_nil _ _

theorem literal_or (c : Config) (q : Portion) :
    (∃ n t, q = .piece n (.literal t)) ∨ ∀ s ∈ q.segments c, ∀ n t, s ≠ .literal n t := by
  cases q with
  | opening n => exact .inr (by simp [segments])
  | closing n => exact .inr (by simp [segments])
  | piece n p =>
    rcases p.literal_or with ⟨t, rfl⟩ | other
    · exact .inl ⟨n, t, rfl⟩
    · exact .inr (List.forall_mem_singleton.mpr (Piece.segment_other other n))

theorem fuse_portions (c : Config) (n : Nat) (t : Text) (qs : List Portion) :
    ∃ rs, Segment.fuse n t (qs.flatMap (segments c)) = rs.flatMap (segments c) ∧
      Keeps (piece n (.literal t) :: qs) rs := by
  have apart : Segment.fuse n t (qs.flatMap (segments c)) = .literal n t :: qs.flatMap (segments c) →
      ∃ rs, Segment.fuse n t (qs.flatMap (segments c)) = rs.flatMap (segments c) ∧
        Keeps (piece n (.literal t) :: qs) rs :=
    fun same => ⟨piece n (.literal t) :: qs, same, .refl _⟩
  cases qs with
  | nil => exact apart rfl
  | cons q qs =>
    rcases q.literal_or c with ⟨m, u, rfl⟩ | other
    · by_cases same : m = n
      · subst same
        exact ⟨piece m (.literal (t ++ u)) :: qs, if_pos rfl, .fuse m t u (t ++ u) qs⟩
      · exact apart (if_neg same)
    · obtain ⟨s, more, front⟩ := List.exists_cons_of_ne_nil (segments_ne_nil c q)
      -- what follows begins with raw source or an expression, so the literal stays alone
      refine apart ?_
      rw [List.flatMap_cons, front, List.cons_append,
        Segment.fuse_other n t (other s (front ▸ List.mem_cons_self))]

theorem groups_portions (c : Config) (ps : List Portion) :
    ∃ qs, Segment.groups (ps.flatMap (segments c)) = qs.flatMap (segments c) ∧ Keeps ps qs := by
  induction ps with
  | nil => exact ⟨[], rfl, .refl []⟩
  | cons p ps ih =>
    obtain ⟨qs, grouped, keeps⟩ := ih
    -- grouped from the back: a literal can only become one with the first of the groups behind it
    rcases p.literal_or c with ⟨n, t, rfl⟩ | other
    · obtain ⟨rs, fused, later⟩ := fuse_portions c n t qs
      exact ⟨rs, (congrArg (Segment.fuse n t) grouped).trans fused, (keeps.cons _).trans later⟩
    · refine ⟨p :: qs, ?_, keeps.cons p⟩
      rw [List.flatMap_cons, List.flatMap_cons, Segment.groups_others other, grouped]

theorem groups_plain (c : Config) {ps : List Portion} (plain : ∀ n t, piece n (.literal t) ∉ ps) :
    Segment.groups (ps.flatMap (segments c)) = ps.flatMap (segments c) := by
  have others : ∀ s ∈ ps.flatMap (segments c), ∀ n t, s ≠ .literal n t := by
    intro s member
    obtain ⟨p, inside, within⟩ := List.mem_flatMap.mp member
    rcases p.literal_or c with ⟨n, t, rfl⟩ | other
    · exact absurd inside (plain n t)
    · exact other s within
  have grouped := Segment.groups_others others []
  rwa [Segment.groups, List.append_nil] at grouped

end Portion

end RenderSource
