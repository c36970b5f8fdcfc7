import RenderSource.Proofs.Buffer.Decoding
import RenderSource.Proofs.Expression.Meaning
/-!
Bodies of render functions: the pieces that are appended between the start and the end of a renderer, and
the text that they stand for, one behind the other. Literals that follow each other are one statement, which
leaves the text of the body as it is.
-/
namespace RenderSource

inductive Piece
  | literal (t : Text)
  | data
  | expression (d : Descriptor)
  /-- The version of the library. -/
  | version

namespace Piece

def appendTo (b : Buffer) : Piece → Buffer
  | literal t => b.appendLiteral t
  | data => b.appendData
  | expression d => b.appendExpression d
  | version => b.appendJoinRaw (wording "RENDERER_VERSION")

def segment (n : Nat) : Piece → Segment
  | literal t => .literal n t
  | data => .data n
  | expression d => .expression n d
  | version => .joinRaw n (wording "RENDERER_VERSION")

/-- Whether a piece calls no other renderer, and takes over no form of a step. -/
def CallFree : Piece → Prop
  | expression d => d.borrowed = []
  | _ => True

theorem CallFree.calls {d : Descriptor} (free : CallFree (.expression d)) {P : Descriptor.Borrowed → Prop} :
    ∀ g ∈ d.borrowed, P g := by
  intro g taken
  rw [show d.borrowed = [] from free] at taken
  cases taken

/-- Whether a piece takes over names only, of renderers, and source can use them. -/
def CallsNames : Piece → Prop
  | expression d => ∀ g ∈ d.borrowed, g.IsName
  | _ => True

theorem CallFree.callsNames {p : Piece} (free : p.CallFree) : p.CallsNames := by
  cases p with
  | expression d => exact free.calls
  | _ => trivial

theorem literal_or (p : Piece) : (∃ t, p = .literal t) ∨ ∀ t, p ≠ .literal t := by
  cases p with
  | literal t => exact .inl ⟨t, rfl⟩
  | _ => exact .inr fun t same => by cases same

section

variable (st : Store) (dataName libraryVersion : Text) (value : Value)

def term : Piece → Term
  | literal t => .text t
  | data => .call (.name (wording "stringify")) [.name dataName] []
  | expression d => d.textTree st dataName
  | version => .call (.name (wording "to_text")) [.name (wording "RENDERER_VERSION")] []

def HasSource : Piece → Prop
  | expression d => ∃ t, d.textSource st dataName = .ok t
  | _ => True

def text : Piece → Run Text
  | literal t => pure t
  | data => Run.look fun st => LibraryFunction.boundedLiteral st value
  | expression d => d.text st value
  | version => pure libraryVersion

/-- The texts of pieces, one behind the other. The first piece that fails decides how they fail. -/
def texts : List Piece → Run Text
  | [] => pure []
  | p :: ps => do
    let t ← p.text st libraryVersion value
    return t ++ (← texts ps)

end

def fuse (t : Text) : List Piece → List Piece
  | literal u :: later => literal (t ++ u) :: later
  | later => literal t :: later

def runs : List Piece → List Piece
  | [] => []
  | literal t :: later => fuse t (runs later)
  | p :: later => p :: runs later

def isEmpty : Piece → Bool
  | literal t => t.isEmpty
  | _ => false

def merged (ps : List Piece) : List Piece := (runs ps).filter fun p => !p.isEmpty

theorem fuse_other (t : Text) {p : Piece} (other : ∀ u, p ≠ literal u) (ps : List Piece) :
    fuse t (p :: ps) = literal t :: p :: ps := by
  cases p with
  | literal u => exact absurd rfl (other u)
  | _ => rfl

theorem runs_other {p : Piece} (other : ∀ u, p ≠ literal u) (ps : List Piece) :
    runs (p :: ps) = p :: runs ps := by
  cases p with
  | literal u => exact absurd rfl (other u)
  | _ => rfl

section

variable {st : Store} {libraryVersion : Text} {value : Value}

theorem text_frameless (p : Piece) : Run.Frameless (p.text st libraryVersion value) := by
  cases p with
  | literal t => exact Run.frameless_pure _
  | data => exact Run.frameless_look fun _ _ same => LibraryFunction.boundedLiteral_same same value
  | expression d => exact Descriptor.text_frameless st value d
  | version => exact Run.frameless_pure _

theorem texts_frameless (ps : List Piece) : Run.Frameless (texts st libraryVersion value ps) := by
  induction ps with
  | nil => exact Run.frameless_pure _
  | cons p ps ih =>
    exact Run.frameless_bind (text_frameless p) fun _ => Run.frameless_bind ih fun _ => Run.frameless_pure _

theorem texts_literal (t : Text) (ps : List Piece) : texts st libraryVersion value (literal t :: ps) =
    (do return t ++ (← texts st libraryVersion value ps)) := rfl

theorem texts_append (ps qs : List Piece) : texts st libraryVersion value (ps ++ qs) = (do
    let t ← texts st libraryVersion value ps
    return t ++ (← texts st libraryVersion value qs)) := by
  induction ps with
  | nil => simp [texts]
  | cons p ps ih => simp only [List.cons_append, texts, ih, bind_assoc, pure_bind, List.append_assoc]

theorem texts_fuse (t : Text) (ps : List Piece) : texts st libraryVersion value (fuse t ps) =
    (do return t ++ (← texts st libraryVersion value ps)) := by
  unfold fuse
  split
  · rename_i u later
    simp [texts_literal]
  · rfl

theorem texts_runs (ps : List Piece) :
    texts st libraryVersion value (runs ps) = texts st libraryVersion value ps := by
  induction ps with
  | nil => rfl
  | cons p ps ih =>
    rcases p.literal_or with ⟨t, rfl⟩ | other
    · rw [runs, texts_fuse, ih, texts_literal]
    · rw [runs_other other, texts, texts, ih]

theorem texts_kept (ps : List Piece) :
    texts st libraryVersion value (ps.filter fun p => !p.isEmpty) = texts st libraryVersion value ps := by
  induction ps with
  | nil => rfl
  | cons p ps ih =>
    by_cases empty : p.isEmpty = true
    · cases p with
      | literal t =>
        have none : t = [] := by simpa [isEmpty] using empty
        subst none
        rw [List.filter_cons_of_neg (by simp [empty]), ih, texts_literal]
        simp
      | _ => cases empty
    · rw [List.filter_cons_of_pos (by simpa using empty), texts, texts, ih]

theorem texts_merged (ps : List Piece) :
    texts st libraryVersion value (merged ps) = texts st libraryVersion value ps := by
  rw [merged, texts_kept, texts_runs]

end

theorem mem_fuse {t : Text} {ps : List Piece} {p : Piece} (member : p ∈ fuse t ps) :
    (∃ u, p = literal u) ∨ p ∈ ps := by
  unfold fuse at member
  split at member
  · rcases List.mem_cons.mp member with rfl | later
    · exact .inl ⟨_, rfl⟩
    · exact .inr (List.mem_cons_of_mem _ later)
  · rcases List.mem_cons.mp member with rfl | later
    · exact .inl ⟨_, rfl⟩
    · exact .inr later

theorem mem_runs {ps : List Piece} {p : Piece} (member : p ∈ runs ps) : (∃ u, p = literal u) ∨ p ∈ ps := by
  induction ps with
  | nil => cases member
  | cons q ps ih =>
    rcases q.literal_or with ⟨t, rfl⟩ | other
    · rcases mem_fuse member with literal | later
      · exact .inl literal
      · exact (ih later).imp id (List.mem_cons_of_mem _)
    · rw [runs_other other] at member
      rcases List.mem_cons.mp member with rfl | later
      · exact .inr (by simp)
      · exact (ih later).imp id (List.mem_cons_of_mem _)

theorem mem_merged {ps : List Piece} {p : Piece} (member : p ∈ merged ps) : (∃ u, p = literal u) ∨ p ∈ ps :=
  mem_runs (List.mem_filter.mp member).1

end Piece

end RenderSource
