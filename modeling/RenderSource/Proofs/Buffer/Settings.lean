import RenderSource.Config
import RenderSource.Proofs.Code.Spelling
import RenderSource.Proofs.Run.Steps
/-!
What a configuration keeps that was checked, and the blanks in front of its rows.
-/
namespace RenderSource

namespace Config

/-- What the check of a configuration leaves standing. -/
structure Accepted (c : Config) : Prop where
  functionName : c.functionName.IsName
  dataName : c.dataName.IsName
  accumulator : c.accumulator.IsName
  dataFree : Library.binds c.dataName = false
  accumulatorFree : Library.binds c.accumulator = false
  distinct : c.dataName ≠ c.accumulator
  wide : belowOne c.indentWidth = .ok false

theorem refuse_ne_ok {α : Type} (st : Store) (field : String) (v : Value) (rule : ConfigRule) (a : α) :
    refuse st field v rule ≠ .ok a := by
  unfold refuse
  cases v.shown st <;> exact fun h => by cases h

theorem checkName_ok {st : Store} {field : String} {libraryToo : Bool} {v : Value} {t : Text}
    (done : checkName st field libraryToo v = .ok t) :
    v.asText? = some t ∧ t.IsName ∧ (libraryToo = false → Library.binds t = false) := by
  unfold checkName at done
  split at done
  · exact absurd done (refuse_ne_ok _ _ _ _ _)
  · rename_i u given
    split at done
    · exact absurd done (refuse_ne_ok _ _ _ _ _)
    · rename_i identifier
      split at done
      · exact absurd done (refuse_ne_ok _ _ _ _ _)
      · rename_i free
        split at done
        · exact absurd done (refuse_ne_ok _ _ _ _ _)
        · rename_i unbound
          cases done
          refine ⟨given, ⟨by simpa using identifier, by simpa using free⟩, ?_⟩
          rintro rfl
          simpa using unbound

theorem checkWidth_ok {st : Store} {v w : Value} (done : checkWidth st v = .ok w) :
    w = v ∧ belowOne v = .ok false := by
  unfold checkWidth at done
  obtain ⟨below, decided, done⟩ := ok_of_bind done
  cases below with
  | true => exact absurd done (refuse_ne_ok _ _ _ _ _)
  | false =>
    cases done
    exact ⟨rfl, decided⟩

theorem check_ok {st : Store} {input : ConfigInput} {c : Config} (done : check st input = .ok c) :
    checkName st "function_name" true input.functionName = .ok c.functionName ∧
      checkName st "data_name" false input.dataName = .ok c.dataName ∧
      checkName st "accumulator" false input.accumulator = .ok c.accumulator ∧
      c.dataName ≠ c.accumulator ∧ checkWidth st input.indentWidth = .ok c.indentWidth ∧
      checkVersion st input.version = .ok c.version := by
  unfold check at done
  obtain ⟨f, function, done⟩ := ok_of_bind done
  obtain ⟨d, data, done⟩ := ok_of_bind done
  obtain ⟨a, joined, done⟩ := ok_of_bind done
  dsimp only at done
  split at done
  · obtain ⟨_, refused, _⟩ := ok_of_bind done
    exact absurd refused (refuse_ne_ok _ _ _ _ _)
  · rename_i distinct
    obtain ⟨w, width, done⟩ := ok_of_bind done
    obtain ⟨v, version, done⟩ := ok_of_bind done
    cases done
    exact ⟨function, data, joined, distinct, width, version⟩

theorem check_accepted {st : Store} {input : ConfigInput} {c : Config}
    (done : check st input = .ok c) : c.Accepted := by
  obtain ⟨function, data, joined, distinct, width, _⟩ := check_ok done
  obtain ⟨_, functionName, _⟩ := checkName_ok function
  obtain ⟨_, dataName, dataFree⟩ := checkName_ok data
  obtain ⟨_, accumulator, accumulatorFree⟩ := checkName_ok joined
  obtain ⟨same, wide⟩ := checkWidth_ok width
  exact ⟨functionName, dataName, accumulator, dataFree rfl, accumulatorFree rfl, distinct, same ▸ wide⟩

theorem check_names {st : Store} {input : ConfigInput} {c : Config} (done : check st input = .ok c) :
    input.functionName.asText? = some c.functionName ∧ input.dataName.asText? = some c.dataName ∧
      input.accumulator.asText? = some c.accumulator := by
  obtain ⟨function, data, joined, _⟩ := check_ok done
  exact ⟨(checkName_ok function).1, (checkName_ok data).1, (checkName_ok joined).1⟩

theorem Accepted.positive {c : Config} (accepted : c.Accepted) {width : Int}
    (whole : c.indentWidth.asInt? = some width) : 1 ≤ width := by
  have wide := accepted.wide
  unfold belowOne at wide
  split at wide
  · rename_i x cls mark float
    rw [float] at whole
    cases whole
  · rw [whole] at wide
    simpa using wide

theorem checked_standard : check Store.empty {} = .ok standard := by decide

end Config

theorem repeated_blanks {w n : Nat} {v : Value} {t : Text} (count : v.asInt? = some (n : Int))
    (done : repeated (Text.blanks w) v = .ok t) : t = Text.blanks (n * w) := by
  unfold repeated at done
  rw [count] at done
  dsimp only at done
  split at done
  · cases done
  · split at done
    · cases done
    · split at done
      · cases done
      · cases done
        simp [Text.blanks]

theorem Config.indentUnit_ok {c : Config} {width : Nat} {t : Text}
    (whole : c.indentWidth.asInt? = some (width : Int)) (done : c.indentUnit = .ok t) :
    t = Text.blanks width := by
  have one : wording " " = Text.blanks 1 := rfl
  unfold indentUnit at done
  rw [one] at done
  have := repeated_blanks whole done
  rwa [Nat.mul_one] at this

end RenderSource
