import RenderSource.Proofs.Buffer.Cutting
/-!
The source of a buffer group by group. A group is a run of literals at one depth, as one literal, or any
other segment; each is written as if it were the only one, and the first that cannot be written decides how
the buffer fails.
-/
namespace RenderSource

namespace Segment

/-- A literal in front of segments, in one with a literal at its depth that they begin with. -/
def fuse (n : Nat) (t : Text) : List Segment → List Segment
  | literal m u :: later =>
    if m = n then literal n (t ++ u) :: later else literal n t :: literal m u :: later
  | later => literal n t :: later

def groups : List Segment → List Segment
  | [] => []
  | literal n t :: later => fuse n t (groups later)
  | s :: later => s :: groups later

def together : Segment → Segment → Bool
  | literal n _, literal m _ => n = m
  | _, _ => false

theorem fuse_head (n : Nat) (t : Text) (later : List Segment) :
    ∃ u rest, fuse n t later = literal n u :: rest := by
  unfold fuse
  split
  · split <;> exact ⟨_, _, rfl⟩
  · exact ⟨_, _, rfl⟩

theorem fuse_other (n : Nat) (t : Text) {s : Segment} (other : ∀ m u, s ≠ literal m u) (later : List Segment) :
    fuse n t (s :: later) = literal n t :: s :: later := by
  cases s with
  | literal m u => exact absurd rfl (other m u)
  | _ => rfl

theorem groups_other {s : Segment} (other : ∀ m u, s ≠ literal m u) (later : List Segment) :
    groups (s :: later) = s :: groups later := by
  cases s with
  | literal m u => exact absurd rfl (other m u)
  | _ => rfl

theorem groups_others {front : List Segment} (others : ∀ s ∈ front, ∀ m u, s ≠ literal m u) (later : List Segment) :
    groups (front ++ later) = front ++ groups later := by
  induction front with
  | nil => rfl
  | cons s front ih =>
    obtain ⟨here, behind⟩ := List.forall_mem_cons.mp others
    rw [List.cons_append, groups_other here, ih behind, List.cons_append]

theorem fuse_fuse (n : Nat) (t u : Text) (later : List Segment) :
    fuse n t (fuse n u later) = fuse n (t ++ u) later := by
  cases later with
  | nil => simp [fuse]
  | cons s rest =>
    rcases s.literal_or with ⟨m, w, rfl⟩ | other
    · by_cases same : m = n
      · simp [fuse, same]
      · simp [fuse, same]
    · rw [fuse_other n u other, fuse_other n (t ++ u) other]
      simp [fuse]

theorem fuse_apart {n m : Nat} (apart : m ≠ n) (t u : Text) (later : List Segment) :
    fuse n t (fuse m u later) = literal n t :: fuse m u later := by
  obtain ⟨w, rest, fused⟩ := fuse_head m u later
  rw [fused, fuse, if_neg apart]

theorem together_other {s : Segment} (other : ∀ n t, s ≠ literal n t) (r : Segment) :
    together s r = false ∧ together r s = false := by
  cases s with
  | literal n t => exact absurd rfl (other n t)
  | _ => cases r <;> exact ⟨rfl, rfl⟩

theorem fuse_chain (n : Nat) (t : Text) {later : List Segment}
    (apart : later.IsChain fun s r => together s r = false) :
    (fuse n t later).IsChain fun s r => together s r = false := by
  cases later with
  | nil => exact .singleton _
  | cons s rest =>
    rcases s.literal_or with ⟨m, u, rfl⟩ | other
    · by_cases same : m = n
      · subst same
        rw [fuse, if_pos rfl]
        cases rest with
        | nil => exact .singleton _
        | cons r rest =>
          -- only the depth of a literal counts for what it belongs to
          obtain ⟨first, later⟩ := List.isChain_cons_cons.mp apart
          refine .cons_cons ?_ later
          cases r <;> exact first
      · rw [fuse, if_neg same]
        exact .cons_cons (decide_eq_false (Ne.symm same)) apart
    · rw [fuse_other n t other]
      exact .cons_cons (together_other other _).2 apart

/-- Groups are as long as they can be: neighbours do not belong together. -/
theorem groups_chain (segments : List Segment) :
    (groups segments).IsChain fun s r => together s r = false := by
  induction segments with
  | nil => exact .nil
  | cons s segments ih =>
    rcases s.literal_or with ⟨n, t, rfl⟩ | other
    · exact fuse_chain n t ih
    · rw [groups_other other]
      revert ih
      cases groups segments with
      | nil => exact fun _ => .singleton s
      | cons r rest => exact fun ih => .cons_cons (together_other other r).1 ih

theorem groups_literals (n : Nat) {ts : List Text} (some_text : ts ≠ []) (later : List Segment) :
    groups (ts.map (literal n) ++ later) = fuse n ts.flatten (groups later) := by
  induction ts with
  | nil => exact absurd rfl some_text
  | cons t ts ih =>
    cases ts with
    | nil => rw [List.map_singleton, List.singleton_append, groups, List.flatten_singleton]
    | cons u us =>
      rw [List.map_cons, List.cons_append, groups, ih (List.cons_ne_nil u us), fuse_fuse]
      rfl

theorem groups_append {later later' : List Segment} (same : groups later = groups later')
    (front : List Segment) : groups (front ++ later) = groups (front ++ later') := by
  induction front with
  | nil => exact same
  | cons s front ih =>
    rcases s.literal_or with ⟨n, t, rfl⟩ | other
    · rw [List.cons_append, List.cons_append, groups, groups, ih]
    · rw [List.cons_append, List.cons_append, groups_other other, groups_other other, ih]

def held : Option (Nat × Text) → List Segment
  | none => []
  | some (n, t) => [literal n t]

end Segment

namespace Buffer

open Segment (groups held)

def alone (b : Buffer) (s : Segment) : Buffer := { b with segments := [s] }

variable {b : Buffer} {st : Store}

theorem alone_rows (s : Segment) : (b.alone s).rows st = b.rowsAfter st none [s] :=
  rowsAfter_with b [s] st none [s]

theorem alone_literal (n : Nat) (t : Text) : (b.alone (.literal n t)).rows st = b.flush st (some (n, t)) := by
  rw [alone_rows, rowsAfter, rowsAfter]

theorem alone_other {s : Segment} (other : ∀ n t, s ≠ .literal n t) :
    (b.alone s).rows st = b.segmentRows st s := by
  have flushed : b.flush st none = .ok [] := rfl
  have ended : b.rowsAfter st none [] = .ok [] := rfl
  rw [alone_rows, rowsAfter_other none other, flushed, ended]
  cases b.segmentRows st s with
  | error e => rfl
  | ok rs => simp [bind, Except.bind, pure, Except.pure]

theorem alone_raw (n : Nat) (t : Text) : (b.alone (.raw n t)).rows st = b.segmentRows st (.raw n t) :=
  alone_other fun _ _ same => by cases same

def groupRows (b : Buffer) (st : Store) (gs : List Segment) : Except Fault (List Text) := do
  return (← gs.mapM fun g => (b.alone g).rows st).flatten

theorem groupRows_cons (g : Segment) (gs : List Segment) : b.groupRows st (g :: gs) = (do
    let here ← (b.alone g).rows st
    return here ++ (← b.groupRows st gs)) := by
  simp only [groupRows, List.mapM_cons, bind_assoc, pure_bind, List.flatten_cons]

theorem groupRows_singleton (g : Segment) : b.groupRows st [g] = (b.alone g).rows st := by
  rw [groupRows_cons]
  cases (b.alone g).rows st with
  | error e => rfl
  | ok rs => simp [groupRows, bind, Except.bind, pure, Except.pure]

theorem groupRows_append (gs hs : List Segment) : b.groupRows st (gs ++ hs) = (do
    let here ← b.groupRows st gs
    return here ++ (← b.groupRows st hs)) := by
  induction gs with
  | nil =>
    have none : b.groupRows st [] = .ok [] := rfl
    rw [none, List.nil_append]
    exact (bind_pure (b.groupRows st hs)).symm
  | cons g gs ih =>
    rw [List.cons_append, groupRows_cons, groupRows_cons, ih]
    simp only [bind_assoc, pure_bind, List.append_assoc]

/-- The rows behind collected literals are those of the groups, where the collected text is the front of
the first one. -/
theorem rowsAfter_groups (pending : Option (Nat × Text)) (segments : List Segment) :
    b.rowsAfter st pending segments = b.groupRows st (groups (held pending ++ segments)) := by
  induction segments generalizing pending with
  | nil =>
    cases pending with
    | none => rfl
    | some q =>
      obtain ⟨n, t⟩ := q
      have whole : groups (held (some (n, t)) ++ []) = [.literal n t] := rfl
      rw [rowsAfter, whole, groupRows_singleton, alone_literal]
  | cons s segments ih =>
    rcases s.literal_or with ⟨n, t, rfl⟩ | other
    · cases pending with
      | none =>
        rw [rowsAfter, ih]
        rfl
      | some q =>
        obtain ⟨m, u⟩ := q
        rw [rowsAfter, held, List.singleton_append, groups, groups]
        by_cases same : m = n
        · subst same
          rw [if_pos rfl, ih, Segment.fuse_fuse]
          rfl
        · rw [if_neg same, ih, Segment.fuse_apart (Ne.symm same), groupRows_cons, alone_literal]
          rfl
    · rw [rowsAfter_other pending other, ih, held, List.nil_append]
      cases pending with
      | none =>
        have flushed : b.flush st none = .ok [] := rfl
        rw [flushed, held, List.nil_append, Segment.groups_other other, groupRows_cons, alone_other other]
        rfl
      | some q =>
        obtain ⟨m, u⟩ := q
        rw [held, List.singleton_append, groups, Segment.groups_other other, Segment.fuse_other m u other,
          groupRows_cons, groupRows_cons, alone_literal, alone_other other]
        simp only [bind_assoc, pure_bind, List.append_assoc]

theorem rows_groups : b.rows st = b.groupRows st (groups b.segments) :=
  rowsAfter_groups none b.segments

theorem alone_empty (n : Nat) : (b.alone (.literal n [])).rows st = .ok [] := alone_literal n []

theorem alone_blank (n : Nat) : (b.alone (.raw n [])).rows st = (do
    let _ ← repeated (← b.config.indentUnit) (.ofInt n)
    return [[]]) := by
  rw [alone_raw, segmentRows, statement]
  rfl

/-- The source of a buffer is made of the rows of its groups, each as it is alone; the first group that fails
alone decides how it fails. So it does not matter how the text of literals at one depth is parted. -/
theorem source_groups (b : Buffer) (st : Store) :
    b.source st = (do
        let rows ← (groups b.segments).mapM fun g => (b.alone g).rows st
        return Text.ofRows rows.flatten) ∧
      ((groups b.segments).IsChain fun s r => s.together r = false) ∧
      (∀ n, (b.alone (.literal n [])).rows st = .ok []) ∧
      (∀ n, (b.alone (.raw n [])).rows st = (do
        let _ ← repeated (← b.config.indentUnit) (.ofInt n)
        return [[]])) ∧
      ∀ front behind n t ts,
        { b with segments := front ++ ((t :: ts).map (Segment.literal n) ++ behind) }.source st =
          { b with segments := front ++ Segment.literal n (t :: ts).flatten :: behind }.source st := by
  refine ⟨?_, Segment.groups_chain _, alone_empty, alone_blank, fun front behind n t ts => ?_⟩
  · rw [source, rows_groups, groupRows]
    simp only [bind_assoc, pure_bind]
  · have parted : groups ((t :: ts).map (.literal n) ++ behind) = groups (.literal n (t :: ts).flatten :: behind) :=
      Segment.groups_literals n (List.cons_ne_nil t ts) behind
    rw [source_with, source_with, rowsAfter_groups, rowsAfter_groups, held, List.nil_append, List.nil_append,
      Segment.groups_append parted front]

end Buffer

end RenderSource
