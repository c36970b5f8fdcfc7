import RenderSource.Proofs.Renderer.Markup
/-!
Entities read back. Escaping for markup writes one of five entities for each code point that has a meaning
there, the ampersand among them, so one pass from left to right finds just the entities that were written,
whatever looks like one in the text that was escaped.
-/
namespace RenderSource

def entities : List (String × Char) :=
  [("&amp;", '&'), ("&lt;", '<'), ("&gt;", '>'), ("&quot;", '"'), ("&#39;", '\'')]

namespace Text

def readEntity? (t : Text) : Option (CodePoint × Text) :=
  entities.findSome? fun (e, c) => (dropFront? (wording e) t).map (.scalar c, ·)

theorem dropFront?_shorter {p t r : Text} (found : dropFront? p t = some r) : t.length = p.length + r.length := by
  induction p generalizing t with
  | nil => simp_all [dropFront?]
  | cons a p ih =>
    cases t with
    | nil => cases found
    | cons b t =>
      rw [dropFront?] at found
      split at found
      · simp only [List.length_cons, ih found]
        omega
      · cases found

theorem readEntity?_shorter {t r : Text} {c : CodePoint} (found : readEntity? t = some (c, r)) :
    r.length < t.length := by
  have visible : ∀ e ∈ entities, 0 < (wording e.1).length := by decide
  obtain ⟨e, listed, here⟩ := List.exists_of_findSome?_eq_some found
  obtain ⟨rest, front, same⟩ := Option.map_eq_some_iff.mp here
  cases same
  have length := dropFront?_shorter front
  have some := visible e listed
  omega

def unescapeMarkup (t : Text) : Text :=
  match _h : readEntity? t with
  | some (c, rest) => c :: unescapeMarkup rest
  | none => match t with
    | [] => []
    | c :: t => c :: unescapeMarkup t
termination_by t.length
decreasing_by
  · exact readEntity?_shorter _h
  · simp

theorem escapeMarkup_cases (c : CodePoint) :
    (∃ e ∈ entities, c = .scalar e.2 ∧ RenderSource.escapeMarkup c = wording e.1) ∨
      c ≠ .scalar '&' ∧ RenderSource.escapeMarkup c = [c] := by
  have written : ∀ e ∈ entities, RenderSource.escapeMarkup (.scalar e.2) = wording e.1 := by decide
  by_cases meaning : ∃ e ∈ entities, c = .scalar e.2
  · obtain ⟨e, listed, rfl⟩ := meaning
    exact .inl ⟨e, listed, rfl, written e listed⟩
  · simp only [entities, List.exists_mem_cons_iff, List.not_mem_nil, false_and, exists_false, or_false,
      not_or] at meaning
    obtain ⟨ampersand, less, greater, double, single⟩ := meaning
    exact .inr ⟨ampersand, by simp [RenderSource.escapeMarkup, entity?, ampersand, less, greater, double, single]⟩

theorem readEntity?_written {e : String × Char} (listed : e ∈ entities) (rest : Text) :
    readEntity? (wording e.1 ++ rest) = some (.scalar e.2, rest) := by
  simp only [entities, List.mem_cons, List.not_mem_nil, or_false] at listed
  rcases listed with rfl | rfl | rfl | rfl | rfl <;> rfl

theorem readEntity?_other {c : CodePoint} (other : c ≠ .scalar '&') (rest : Text) :
    readEntity? (c :: rest) = none := by
  have front : ∀ e ∈ entities, (wording e.1).head? = some (.scalar '&') := by decide
  rw [readEntity?, List.findSome?_eq_none_iff]
  intro e listed
  obtain ⟨p, begins⟩ := List.head?_eq_some_iff.mp (front e listed)
  dsimp only
  rw [begins, dropFront?, if_neg (Ne.symm other)]
  rfl

theorem unescapeMarkup_escape (c : CodePoint) (rest : Text) :
    unescapeMarkup (RenderSource.escapeMarkup c ++ rest) = c :: unescapeMarkup rest := by
  rcases escapeMarkup_cases c with ⟨e, listed, rfl, written⟩ | ⟨other, written⟩
  · rw [written, unescapeMarkup]
    split
    · rename_i d r found
      rw [readEntity?_written listed] at found
      cases found
      rfl
    · rename_i none
      rw [readEntity?_written listed] at none
      cases none
  · rw [written, List.singleton_append, unescapeMarkup]
    split
    · rename_i d r found
      rw [readEntity?_other other] at found
      cases found
    · rfl

theorem unescapeMarkup_escapeMarkup (s : Text) : s.escapeMarkup.unescapeMarkup = s := by
  induction s with
  | nil =>
    rw [escapeMarkup, List.flatMap_nil, unescapeMarkup]
    rfl
  | cons c s ih => rw [escapeMarkup, List.flatMap_cons, unescapeMarkup_escape, ← escapeMarkup, ih]

theorem escapeMarkup_append (s t : Text) : (s ++ t).escapeMarkup = s.escapeMarkup ++ t.escapeMarkup :=
  List.flatMap_append

theorem escapeMarkup_injective : Function.Injective escapeMarkup :=
  Function.LeftInverse.injective unescapeMarkup_escapeMarkup

/-- Whether each ampersand of a text begins an entity. -/
def OnlyEntities (t : Text) : Prop :=
  ∀ u, .scalar '&' :: u <:+ t → ∃ e ∈ entities, wording e.1 <+: .scalar '&' :: u

theorem OnlyEntities.append {s t : Text} (first : s.OnlyEntities) (second : t.OnlyEntities) :
    (s ++ t).OnlyEntities := by
  rintro u ⟨w, same⟩
  rcases List.append_eq_append_iff.mp same with ⟨v, front, back⟩ | ⟨v, front, back⟩
  · cases v with
    | nil => exact second u ⟨[], back⟩
    | cons c v =>
      obtain ⟨rfl, rfl⟩ := List.cons_eq_cons.mp back
      obtain ⟨e, listed, begins⟩ := first v ⟨w, front.symm⟩
      exact ⟨e, listed, begins.trans ⟨t, rfl⟩⟩
  · exact second u ⟨v, back.symm⟩

theorem escape_onlyEntities (c : CodePoint) : OnlyEntities (RenderSource.escapeMarkup c) := by
  have single : ∀ e ∈ entities, .scalar '&' ∉ (wording e.1).tail := by decide
  rcases escapeMarkup_cases c with ⟨e, listed, rfl, written⟩ | ⟨other, written⟩
  · rw [written]
    rintro u ⟨w, same⟩
    cases w with
    | nil => exact ⟨e, listed, ⟨[], by simpa using same.symm⟩⟩
    | cons d w => exact absurd (by simp [← same]) (single e listed)
  · rw [written]
    rintro u ⟨w, same⟩
    have inside : CodePoint.scalar '&' ∈ [c] := same ▸ by simp
    exact absurd (List.mem_singleton.mp inside).symm other

theorem escapeMarkup_onlyEntities (s : Text) : s.escapeMarkup.OnlyEntities := by
  induction s with
  | nil =>
    rintro u ⟨w, same⟩
    cases w <;> cases same
  | cons c s ih => exact (escape_onlyEntities c).append ih

end Text

/-- Escaping a text, of whatever class: no mark is left, each ampersand begins an entity, and one pass over the
entities gives the text back. Texts are escaped piece by piece, and different ones differently. -/
theorem escapeHtml_lossless (call : Value → List Value → Run Value) (st : Store) (s : Text) (cls : Derived) :
    LibraryFunction.apply call .escapeHtml [.text s cls] st = (.ok (.ofText s.escapeMarkup), st) ∧
      (∀ c ∈ s.escapeMarkup, isMark c = false) ∧ s.escapeMarkup.OnlyEntities ∧
      s.escapeMarkup.unescapeMarkup = s ∧
      (∀ t : Text, (s ++ t).escapeMarkup = s.escapeMarkup ++ t.escapeMarkup) ∧
      ∀ t : Text, s.escapeMarkup = t.escapeMarkup → s = t := by
  refine ⟨rfl, ?_, s.escapeMarkup_onlyEntities, s.unescapeMarkup_escapeMarkup, s.escapeMarkup_append, ?_⟩
  · intro c inside
    have unmarked := List.filter_eq_nil_iff.mp s.marks_escapeMarkup c inside
    simpa using unmarked
  · exact fun t same => Text.escapeMarkup_injective same

end RenderSource
