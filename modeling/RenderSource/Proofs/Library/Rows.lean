import RenderSource.Code.Statement
import RenderSource.Proofs.Buffer.Decoding
import RenderSource.Proofs.Text.Fitness
/-!
The rows of the library. One of them holds its version; nothing in front of it is quoted and no other row
begins like it, so that a version is stamped into that row and found there again.
-/
namespace RenderSource

namespace Text

def spread : List (List Text) → List Text
  | [] => []
  | [rs] => rs
  | rs :: more => rs ++ [] :: spread more

theorem spread_cons (rs ss : List Text) (more : List (List Text)) :
    spread (rs :: ss :: more) = rs ++ [] :: spread (ss :: more) := rfl

theorem ofRows_append {rs ss : List Text} (some : rs ≠ []) (more : ss ≠ []) :
    ofRows (rs ++ ss) = ofRows rs ++ newline :: ofRows ss := by
  induction rs with
  | nil => exact absurd rfl some
  | cons r rs ih =>
    cases rs with
    | nil =>
      obtain ⟨s, ss, rfl⟩ := List.exists_cons_of_ne_nil more
      exact ofRows_cons_cons r s ss
    | cons s rs =>
      rw [List.cons_append, List.cons_append, ofRows_cons_cons, ← List.cons_append, ih (by simp),
        ofRows_cons_cons]
      simp

theorem spread_ne_nil {parts : List (List Text)} (some : parts ≠ []) (each : ∀ rs ∈ parts, rs ≠ []) :
    spread parts ≠ [] := by
  match parts with
  | [] => exact absurd rfl some
  | [rs] => exact each rs (by simp)
  | rs :: ss :: more => simp [spread]

theorem joinWith_spread {parts : List (List Text)} (each : ∀ rs ∈ parts, rs ≠ []) :
    joinWith [newline, newline] (parts.map ofRows) = ofRows (spread parts) := by
  match parts with
  | [] => rfl
  | [rs] => rfl
  | rs :: ss :: more =>
    have later : ∀ ts ∈ ss :: more, ts ≠ [] := fun ts member => each ts (List.mem_cons_of_mem rs member)
    have ih := joinWith_spread later
    obtain ⟨t, ts, spread_later⟩ := List.exists_cons_of_ne_nil (spread_ne_nil (by simp) later)
    rw [spread_cons, ofRows_append (each rs (by simp)) (by simp), spread_later, ofRows_cons_cons, ← spread_later,
      ← ih]
    simp [joinWith, List.append_assoc]

theorem spread_append {front back : List (List Text)} (some : front ≠ []) (more : back ≠ []) :
    spread (front ++ back) = spread front ++ [] :: spread back := by
  match front with
  | [] => exact absurd rfl some
  | [rs] =>
    obtain ⟨ss, later, rfl⟩ := List.exists_cons_of_ne_nil more
    exact spread_cons rs ss later
  | rs :: ss :: later =>
    have ih := spread_append (List.cons_ne_nil ss later) more
    rw [List.cons_append, List.cons_append, spread_cons, ← List.cons_append, ih, spread_cons]
    simp

theorem mem_spread {parts : List (List Text)} {r : Text} (member : r ∈ spread parts) :
    r = [] ∨ ∃ rs ∈ parts, r ∈ rs := by
  match parts with
  | [] => cases member
  | [rs] => exact .inr ⟨rs, by simp, member⟩
  | rs :: ss :: more =>
    rw [spread_cons, List.mem_append, List.mem_cons] at member
    rcases member with here | rfl | later
    · exact .inr ⟨rs, by simp, here⟩
    · exact .inl rfl
    · rcases mem_spread later with empty | ⟨ts, inside, found⟩
      · exact .inl empty
      · exact .inr ⟨ts, List.mem_cons_of_mem rs inside, found⟩

/-- What begins with a code point that does not stand in front of it is replaced where it stands. -/
theorem replaceFirst_here {c : CodePoint} {p pre : Text} (absent : c ∉ pre) (r post : Text) :
    replaceFirst (c :: p) r (pre ++ (c :: p ++ post)) = pre ++ (r ++ post) := by
  induction pre with
  | nil =>
    rw [List.nil_append, List.cons_append, replaceFirst, ← List.cons_append, dropFront_append]
    rfl
  | cons d pre ih =>
    rw [List.mem_cons, not_or] at absent
    rw [List.cons_append, replaceFirst, dropFront?, if_neg absent.1]
    exact congrArg (d :: ·) (ih absent.2)

end Text

namespace Library

def laterParts : List LibraryPart :=
  libraryAbsence.tail ++ libraryCollections ++ libraryOutput ++ libraryLiterals

def rowsOf (p : LibraryPart) : List Text := p.rows.map wording

def frontRows : List Text := Text.spread (libraryImports.map rowsOf) ++ [[]]

def backRows : List Text := [] :: Text.spread (laterParts.map rowsOf)

def versionRows (v : Text) : List Text := frontRows ++ (versionFront ++ v.quote) :: backRows

/-- A row that fits into source and does not begin like that of the version. -/
structure Common (r : Text) : Prop where
  fit : r.Fit
  unversioned : Text.dropFront? versionFront (Term.skipBlanks r) = none

def isCommon (l : List Char) : Bool :=
  l.all (fun c => Nat.ble 0x20 c.toNat && c.toNat != 0x7F) &&
    !(List.isPrefixOf ['R', 'E'] (l.dropWhile fun c => c = ' '))

theorem versionFront_eq : versionFront = .scalar 'R' :: .scalar 'E' :: wording "NDERER_VERSION = " := by
  simp [versionFront, wording, Text.ofString]

theorem common_ofList {l : List Char} (common : isCommon l = true) : Common (wording (String.ofList l)) := by
  rw [isCommon, Bool.and_eq_true] at common
  obtain ⟨visible, front⟩ := common
  constructor
  · intro c member
    rw [wording, Text.ofString, String.toList_ofList, List.mem_map] at member
    obtain ⟨d, inside, rfl⟩ := member
    have each := List.all_eq_true.mp visible d inside
    simp only [Bool.and_eq_true, Nat.ble_eq, bne_iff_ne] at each
    simp only [CodePoint.isUnfit, CodePoint.isSurrogate, CodePoint.val, Bool.false_or, Bool.or_eq_false_iff]
    exact ⟨decide_eq_false (by omega), decide_eq_false each.2⟩
  · have skipped : Term.skipBlanks (wording (String.ofList l)) =
        (l.dropWhile fun c => c = ' ').map .scalar := by
      rw [wording, Text.ofString, String.toList_ofList, Term.skipBlanks, List.dropWhile_map]
      congr 2
      funext c
      simp
    rw [skipped, versionFront_eq]
    generalize l.dropWhile (fun c => decide (c = ' ')) = t at front ⊢
    cases t with
    | nil => rfl
    | cons c t =>
      by_cases first : c = 'R'
      · cases t with
        | nil => simp [Text.dropFront?]
        | cons d t =>
          have second : d ≠ 'E' := by
            rintro rfl
            simp [first, List.isPrefixOf] at front
          simp [Text.dropFront?, Ne.symm second]
      · simp [Text.dropFront?, Ne.symm first]

theorem common_empty : Common [] := common_ofList (l := []) rfl

theorem later_common : ∀ p ∈ laterParts, ∀ r ∈ rowsOf p, Common r := by
  have parts : ∀ p ∈ laterParts, ∀ s ∈ p.rows, Common (wording s) := by
    simp only [laterParts, libraryAbsence, libraryCollections, libraryOutput, libraryLiterals, List.tail_cons,
      List.forall_mem_append, List.forall_mem_cons, List.not_mem_nil, false_implies, implies_true, and_true]
    repeat' apply And.intro
    all_goals exact common_ofList rfl
  intro p member r row
  rw [rowsOf, List.mem_map] at row
  obtain ⟨s, inside, rfl⟩ := row
  exact parts p member s inside

theorem backRows_common : ∀ r ∈ backRows, Common r := by
  intro r member
  rcases List.mem_cons.mp member with rfl | later
  · exact common_empty
  · rcases Text.mem_spread later with rfl | ⟨rs, part, inside⟩
    · exact common_empty
    · obtain ⟨p, here, rfl⟩ := List.mem_map.mp part
      exact later_common p here r inside

theorem front_common : ∀ p ∈ libraryImports, ∀ r ∈ rowsOf p, Common r := by
  have parts : ∀ p ∈ libraryImports, ∀ s ∈ p.rows, Common (wording s) := by
    simp only [libraryImports, List.forall_mem_cons, List.not_mem_nil, false_implies, implies_true, and_true]
    repeat' apply And.intro
    all_goals exact common_ofList rfl
  intro p member r row
  rw [rowsOf, List.mem_map] at row
  obtain ⟨s, inside, rfl⟩ := row
  exact parts p member s inside

theorem frontRows_common : ∀ r ∈ frontRows, Common r := by
  intro r member
  rw [frontRows, List.mem_append, List.mem_singleton] at member
  rcases member with front | rfl
  · rcases Text.mem_spread front with rfl | ⟨rs, part, inside⟩
    · exact common_empty
    · obtain ⟨p, here, rfl⟩ := List.mem_map.mp part
      exact front_common p here r inside
  · exact common_empty

theorem frontRows_unquoted : CodePoint.scalar '"' ∉ Text.ofRows frontRows := by decide

theorem rowsOf_ne_nil : ∀ p ∈ libraryParts, rowsOf p ≠ [] := by decide

theorem rows_parts : Text.spread (libraryParts.map rowsOf) = versionRows placeholder := by
  have parts : libraryParts = libraryImports ++
      ([⟨["RENDERER_VERSION"], ["RENDERER_VERSION = \"##version##\""]⟩] ++ laterParts) := rfl
  have version : wording "RENDERER_VERSION = \"##version##\"" = versionFront ++ placeholder.quote := by
    decide
  rw [parts, List.map_append, Text.spread_append (by simp [libraryImports]) (by simp), List.map_append,
    Text.spread_append (by simp) (by simp [laterParts, libraryAbsence]), versionRows, frontRows, backRows,
    ← version]
  simp [Text.spread, rowsOf]

theorem unstamped_eq : unstamped = Text.ofRows (versionRows placeholder) := by
  have some : ∀ rs ∈ libraryParts.map rowsOf, rs ≠ [] := by
    intro rs member
    obtain ⟨p, part, rfl⟩ := List.mem_map.mp member
    exact rowsOf_ne_nil p part
  rw [← rows_parts, ← Text.joinWith_spread some, List.map_map]
  rfl

theorem ofRows_version (v : Text) : Text.ofRows (versionRows v) =
    Text.ofRows frontRows ++ newline :: versionFront ++ (v.quote ++ newline :: Text.ofRows backRows) := by
  have front : frontRows ≠ [] := by simp [frontRows]
  obtain ⟨r, rs, back⟩ := List.exists_cons_of_ne_nil (show backRows ≠ [] by simp [backRows])
  rw [versionRows, Text.ofRows_append front (by simp), back, Text.ofRows_cons_cons]
  simp

theorem stamped_eq (v : Option Text) : stamped v = Text.ofRows (versionRows (v.getD placeholder)) := by
  cases v with
  | none => exact unstamped_eq
  | some v =>
    have absent : CodePoint.scalar '"' ∉ Text.ofRows frontRows ++ newline :: versionFront := by
      have front : CodePoint.scalar '"' ∉ newline :: versionFront := by decide
      exact fun member => (List.mem_append.mp member).elim frontRows_unquoted front
    rw [stamped, unstamped_eq, ofRows_version, ofRows_version]
    exact Text.replaceFirst_here absent v.quote _

theorem versionRows_fit (v : Text) : ∀ r ∈ versionRows v, r.Fit := by
  intro r member
  rw [versionRows, List.mem_append, List.mem_cons] at member
  rcases member with front | rfl | back
  · exact (frontRows_common r front).fit
  · exact Text.fit_append (by decide) (Text.quote_fit v)
  · exact (backRows_common r back).fit

theorem rows_stamped (v : Option Text) : (stamped v).rows = versionRows (v.getD placeholder) := by
  rw [stamped_eq, Text.rows_ofRows _ (by simp [versionRows])]
  exact fun r member => (versionRows_fit _ r member).no_newline

end Library

end RenderSource
