import RenderSource.Proofs.Renderer.Names
/-!
What the names of an accepted configuration hide from the library, which runs inside the function that they
are names of. Names that are in normal form can hide nothing but what is in scope everywhere; the check
compares names as they are written, so that other names can hide anything.
-/
namespace RenderSource

/-- Whether a name is the same as one of the library's, as names are compared when source runs. -/
def Text.Hides (t : Text) (n : String) : Prop := (wording n).normalName = t.normalName

instance (t : Text) (n : String) : Decidable (t.Hides n) :=
  inferInstanceAs (Decidable ((wording n).normalName = t.normalName))

/-- Names in scope everywhere that the library reads. The last two stand in annotations only. -/
def Library.scopeNames : List String := Placed.usedByLibrary ++ ["dict", "object"]

namespace Config

/-- A configuration whose names are not each other and hide nothing that the library binds or reads. -/
structure Hygienic (c : Config) : Prop where
  apart : c.dataName.normalName ≠ c.accumulator.normalName
  bound : ∀ n ∈ Library.names, ¬c.dataName.Hides n ∧ ¬c.accumulator.Hides n
  scope : ∀ n ∈ Library.scopeNames, ¬c.dataName.Hides n ∧ ¬c.accumulator.Hides n

instance (c : Config) : Decidable c.Hygienic :=
  decidable_of_iff (c.dataName.normalName ≠ c.accumulator.normalName ∧
      (∀ n ∈ Library.names, ¬c.dataName.Hides n ∧ ¬c.accumulator.Hides n) ∧
      ∀ n ∈ Library.scopeNames, ¬c.dataName.Hides n ∧ ¬c.accumulator.Hides n)
    ⟨fun ⟨apart, bound, scope⟩ => ⟨apart, bound, scope⟩, fun kept => ⟨kept.apart, kept.bound, kept.scope⟩⟩

end Config

namespace Library

theorem normalName_names : ∀ n ∈ names ++ scopeNames, (wording n).normalName = wording n := by
  have plain : ∀ n ∈ names ++ scopeNames, (wording n).all (fun c => decide (c.val < 0x80)) = true := by decide +kernel
  exact fun n member => if_pos (plain n member)

theorem scope_unbound : ∀ n ∈ scopeNames, binds (wording n) = false := by decide +kernel

theorem hides_bound {t : Text} {n : String} (member : n ∈ names) : t.Hides n ↔ wording n = t.normalName := by
  rw [Text.Hides, normalName_names n (List.mem_append_left _ member)]

theorem hides_scope {t : Text} {n : String} (member : n ∈ scopeNames) : t.Hides n ↔ wording n = t.normalName := by
  rw [Text.Hides, normalName_names n (List.mem_append_right _ member)]

theorem hides_none {t : Text} (unbound : binds t.normalName = false) : ∀ n ∈ names, ¬t.Hides n := by
  intro n member hides
  rw [hides_bound member] at hides
  rw [binds, List.any_eq_false] at unbound
  exact unbound n member (decide_eq_true hides)

theorem binds_hides {t : Text} (clear : ∀ n ∈ names, ¬t.Hides n) : binds t.normalName = false := by
  rw [binds, List.any_eq_false]
  exact fun n member same => clear n member ((hides_bound member).mpr (of_decide_eq_true same))

end Library

namespace Config

open Installation (plainNames plainNames_unbound)

variable {c : Config}

/-- Of names in normal form, an accepted configuration has some that hide a name only if they are in scope
everywhere. -/
theorem Accepted.hygienic (accepted : c.Accepted) (data : c.dataName.normalName = c.dataName)
    (output : c.accumulator.normalName = c.accumulator) :
    c.Hygienic ↔ ∀ n ∈ Library.scopeNames, wording n ≠ c.dataName ∧ wording n ≠ c.accumulator := by
  have same : ∀ n ∈ Library.scopeNames, (¬c.dataName.Hides n ∧ ¬c.accumulator.Hides n ↔
      wording n ≠ c.dataName ∧ wording n ≠ c.accumulator) := by
    intro n member
    rw [Library.hides_scope member, Library.hides_scope member, data, output]
  have dataFree := Library.hides_none (data.symm ▸ accepted.dataFree)
  have outputFree := Library.hides_none (output.symm ▸ accepted.accumulatorFree)
  constructor
  · exact fun hygienic n member => (same n member).mp (hygienic.scope n member)
  · refine fun free => ⟨?_, fun n member => ⟨dataFree n member, outputFree n member⟩,
      fun n member => (same n member).mpr (free n member)⟩
    rw [data, output]
    exact accepted.distinct

theorem Hygienic.lookup_bound (hygienic : c.Hygienic) (value : Value) (output : Text) {n : Text} {v : Value}
    (found : (plainNames c.libraryVersion).lookup n = some v) : (c.namesWith value output).lookup n = some v := by
  have other : n ≠ c.accumulator.normalName := by
    rintro rfl
    rw [plainNames_unbound (Library.binds_hides fun n member => (hygienic.bound n member).2)] at found
    cases found
  rw [lookup_other value output other, namesBefore, List.lookup_append, found, Option.some_or]

theorem Hygienic.lookup_scope (hygienic : c.Hygienic) (value : Value) (output : Text) {n : String}
    (member : n ∈ Library.scopeNames) : (c.namesWith value output).lookup (wording n) = none := by
  obtain ⟨data, accumulator⟩ := hygienic.scope n member
  rw [Library.hides_scope member] at data accumulator
  rw [lookup_other value output accumulator, namesBefore, List.lookup_append,
    plainNames_unbound (Library.scope_unbound n member), Option.none_or, List.lookup_cons,
    beq_eq_false_iff_ne.mpr data]
  rfl

/-- An accepted configuration with names in normal form hides from the library at most what is in scope
everywhere, and that only if it bears such a name. Without one, whatever the data and the output are, the names
of the library lead where the library put them, and nothing stands in front of those that it reads. -/
theorem check_hygienic {st : Store} {input : ConfigInput} (checked : check st input = .ok c)
    (data : c.dataName.normalName = c.dataName) (accumulator : c.accumulator.normalName = c.accumulator) :
    (c.Hygienic ↔ ∀ n ∈ Library.scopeNames, wording n ≠ c.dataName ∧ wording n ≠ c.accumulator) ∧
      (c.Hygienic → ∀ value output,
        (∀ n v, (plainNames c.libraryVersion).lookup n = some v → (c.namesWith value output).lookup n = some v) ∧
        ∀ n ∈ Library.scopeNames, (c.namesWith value output).lookup (wording n) = none) := by
  refine ⟨(check_accepted checked).hygienic data accumulator, fun hygienic value output => ⟨?_, ?_⟩⟩
  · exact fun n v found => hygienic.lookup_bound value output found
  · exact fun n member => hygienic.lookup_scope value output member

def nearNames : ConfigInput :=
  { dataName := .ofText (wording "str_"), accumulator := .ofText (wording "_HTML_ESCAPE") }

theorem check_hygienic_near : ∃ c, check Store.empty nearNames = .ok c ∧ c.Hygienic ∧
    (c.namesWith .none []).lookup (wording "str") = none := by
  have checked : check Store.empty nearNames =
      .ok { standard with dataName := wording "str_", accumulator := wording "_HTML_ESCAPE" } := by decide
  obtain ⟨hides, leads⟩ := check_hygienic checked (by decide) (by decide)
  have hygienic := hides.mpr (by decide)
  exact ⟨_, checked, hygienic, (leads hygienic .none []).2 "str" (by decide)⟩

/-- The table of marks by a name that is another until it is in normal form. -/
def wideTable : Text := wording "_HTML_ESCAPE" ++ [.scalar (Char.ofNat 0xFF33)]

theorem wideTable_normal : wideTable.normalName = wording "_HTML_ESCAPES" := by decide +kernel

/-- Names are accepted that are one name in normal form, or one with a name of the library, and so is every name
in scope everywhere that the library reads. -/
theorem check_hygienic_fails :
    (∃ c, check Store.empty { accumulator := .ofText (wording "_HTML_ESCAPE" ++ [.scalar (Char.ofNat 0xFF33)]) } =
        .ok c ∧ c.accumulator.Hides "_HTML_ESCAPES" ∧ ¬c.Hygienic) ∧
      (∃ c, check Store.empty { accumulator := .ofText (wording "dat" ++ [.scalar (Char.ofNat 0xFF41)]) } = .ok c ∧
        c.dataName.normalName = c.accumulator.normalName ∧ ¬c.Hygienic) ∧
      ∀ n ∈ Library.scopeNames, ∃ c, check Store.empty { dataName := .ofText (wording n) } = .ok c ∧
        c.dataName.Hides n ∧ ¬c.Hygienic := by
  have hides : wideTable.Hides "_HTML_ESCAPES" := (Library.hides_bound (by decide)).mpr wideTable_normal.symm
  let wideData : Config := { standard with accumulator := wording "dat" ++ [.scalar (Char.ofNat 0xFF41)] }
  have same : wideData.dataName.normalName = wideData.accumulator.normalName := by decide +kernel
  refine ⟨⟨{ standard with accumulator := wideTable }, ?_, hides, ?_⟩,
    ⟨wideData, ?_, same, ?_⟩, fun n member => ?_⟩
  · decide +kernel
  · exact fun hygienic => (hygienic.bound "_HTML_ESCAPES" (by decide)).2 hides
  · decide +kernel
  · exact fun hygienic => hygienic.apart same
  · have accepted : ∀ n ∈ Library.scopeNames, check Store.empty { dataName := .ofText (wording n) } =
        .ok { standard with dataName := wording n } := by decide +kernel
    exact ⟨_, accepted n member, rfl, fun hygienic => (hygienic.scope n member).1 rfl⟩

end Config

end RenderSource
