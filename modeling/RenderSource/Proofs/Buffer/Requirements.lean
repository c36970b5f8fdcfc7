import RenderSource.Proofs.Renderer.Written
/-!
What is required of the values of a configuration, as a list in the order in which it is asked for. The
first requirement that the values do not meet is the one that is reported, and values that meet them all
give a configuration with which literals can always be written.
-/
namespace RenderSource

namespace Config

/-- A rule for the value of a field. -/
structure Requirement where
  field : String
  value : ConfigInput → Value
  rule : ConfigRule
  met : ConfigInput → Bool

namespace Requirement

variable (field : String) (value : ConfigInput → Value)

def identifier : Requirement :=
  ⟨field, value, .identifier, fun c => (value c).asText?.any Text.isIdentifier⟩

def unreserved : Requirement :=
  ⟨field, value, .reserved, fun c => !(value c).asText?.any Text.isReserved⟩

def unbound : Requirement :=
  ⟨field, value, .libraryName, fun c => !(value c).asText?.any Library.binds⟩

def distinct : Requirement :=
  ⟨"accumulator", ConfigInput.accumulator, .distinctNames, fun c => c.dataName.asText? != c.accumulator.asText?⟩

def width : Requirement :=
  ⟨"indent_width", ConfigInput.indentWidth, .indentWidth, fun c => c.indentWidth.asInt?.any fun n => 1 ≤ n⟩

def version : Requirement :=
  ⟨"version", ConfigInput.version, .version, fun c => c.version = .none || c.version.asText?.isSome⟩

def report (r : Requirement) (st : Store) (input : ConfigInput) : Except Fault Config := do
  throw (.config r.field (← (r.value input).shown st) r.rule)

end Requirement

def nameRequirements (field : String) (value : ConfigInput → Value) (libraryToo : Bool) : List Requirement :=
  .identifier field value :: .unreserved field value :: if libraryToo then [] else [.unbound field value]

def requirements : List Requirement :=
  nameRequirements "function_name" ConfigInput.functionName true ++
    (nameRequirements "data_name" ConfigInput.dataName false ++
      (nameRequirements "accumulator" ConfigInput.accumulator false ++ [.distinct, .width, .version]))

def firstUnmet (rs : List Requirement) (input : ConfigInput) : Option Requirement := rs.find? fun r => !r.met input

variable {st : Store} {input : ConfigInput}

theorem firstUnmet_append (rs more : List Requirement) :
    firstUnmet (rs ++ more) input = (firstUnmet rs input).or (firstUnmet more input) :=
  List.find?_append

theorem firstUnmet_cons (r : Requirement) (more : List Requirement) :
    firstUnmet (r :: more) input = if r.met input then firstUnmet more input else some r := by
  unfold firstUnmet
  cases met : r.met input <;> simp [met]

theorem refuse_bind {α β : Type} (field : String) (v : Value) (rule : ConfigRule) (next : α → Except Fault β) :
    (refuse st field v rule >>= next) = refuse st field v rule := by
  unfold refuse
  cases v.shown st with
  | error f => rfl
  | ok shown => rfl

section

variable {field : String} {value : ConfigInput → Value} {libraryToo : Bool}

theorem checkName_first : checkName st field libraryToo (value input) =
    match firstUnmet (nameRequirements field value libraryToo) input with
    | some r => refuse st r.field (r.value input) r.rule
    | none => .ok ((value input).asText?.getD []) := by
  unfold checkName
  cases given : (value input).asText? with
  | none => simp [firstUnmet, nameRequirements, Requirement.identifier, given]
  | some t =>
    cases named : t.isIdentifier with
    | false => simp [firstUnmet, nameRequirements, Requirement.identifier, given, named]
    | true =>
      -- the names of the library are looked at last, and only for two of the three fields
      cases word : t.isReserved <;> cases libraryToo <;> cases bound : Library.binds t <;>
        simp [firstUnmet, nameRequirements, Requirement.identifier, Requirement.unreserved,
          Requirement.unbound, given, named, word, bound]

theorem asText_of_names (all : firstUnmet (nameRequirements field value libraryToo) input = none) :
    ∃ t, (value input).asText? = some t := by
  have each := List.find?_eq_none.mp all (.identifier field value) List.mem_cons_self
  have named : (Requirement.identifier field value).met input = true := by simpa using each
  obtain ⟨t, given, _⟩ := (Option.any_eq_true _ _).mp named
  exact ⟨t, given⟩

end

theorem belowOne_of_met (met : Requirement.width.met input = true) :
    ∃ n : Nat, 1 ≤ n ∧ input.indentWidth.asInt? = some (n : Int) ∧ belowOne input.indentWidth = .ok false := by
  obtain ⟨n, whole, positive⟩ := (Option.any_eq_true _ _).mp met
  have positive : 1 ≤ n := of_decide_eq_true positive
  refine ⟨n.toNat, by omega, by rw [whole, Int.toNat_of_nonneg (by omega)], ?_⟩
  cases given : input.indentWidth with
  | float x cls mark =>
    rw [given] at whole
    cases whole
  | _ =>
    rw [given] at whole
    simp only [belowOne, whole]
    exact congrArg Except.ok (decide_eq_false (by omega))

theorem checkVersion_first : checkVersion st input.version =
    if Requirement.version.met input then .ok input.version.asText? else
      refuse st "version" input.version .version := by
  unfold checkVersion
  cases given : input.version with
  | text t cls => simp [Requirement.version, given, Value.asText?]
  | _ => simp [Requirement.version, given, Value.asText?]

/-- A name in the check is either refused for the first unmet requirement, or it is the text that is given and
the first unmet requirement is one of those behind. -/
theorem checkName_then (st : Store) (input : ConfigInput) (field : String) (value : ConfigInput → Value)
    (libraryToo : Bool) (more : List Requirement) :
    (∃ r, firstUnmet (nameRequirements field value libraryToo ++ more) input = some r ∧
        checkName st field libraryToo (value input) = refuse st r.field (r.value input) r.rule) ∨
      ∃ t, (value input).asText? = some t ∧ checkName st field libraryToo (value input) = .ok t ∧
        firstUnmet (nameRequirements field value libraryToo ++ more) input = firstUnmet more input := by
  rw [firstUnmet_append, checkName_first]
  cases names : firstUnmet (nameRequirements field value libraryToo) input with
  | some r => exact .inl ⟨r, rfl, rfl⟩
  | none =>
    obtain ⟨t, given⟩ := asText_of_names names
    exact .inr ⟨t, given, by rw [given, Option.getD_some], rfl⟩

def checkLayout (st : Store) (input : ConfigInput) (functionName dataName accumulator : Text) : Except Fault Config := do
  if dataName = accumulator then refuse st "accumulator" input.accumulator .distinctNames
  let indentWidth ← checkWidth st input.indentWidth
  let version ← checkVersion st input.version
  return { functionName, dataName, accumulator, indentWidth, version }

theorem check_eq : check st input = (do
    let functionName ← checkName st "function_name" true input.functionName
    let dataName ← checkName st "data_name" false input.dataName
    let accumulator ← checkName st "accumulator" false input.accumulator
    checkLayout st input functionName dataName accumulator) := rfl

theorem checkLayout_first {f d a : Text} (data : input.dataName.asText? = some d)
    (joined : input.accumulator.asText? = some a)
    (compared : firstUnmet [.distinct, .width, .version] input = some .width →
      belowOne input.indentWidth = .ok true) :
    checkLayout st input f d a = match firstUnmet [.distinct, .width, .version] input with
      | some r => r.report st input
      | none => .ok ⟨f, d, a, input.indentWidth, input.version.asText?⟩ := by
  have apart : Requirement.distinct.met input = decide (d ≠ a) := by
    simp [Requirement.distinct, data, joined, bne, Bool.beq_eq_decide_eq]
  unfold checkLayout
  rw [firstUnmet_cons, firstUnmet_cons, firstUnmet_cons] at compared ⊢
  by_cases same : d = a
  · have unmet : Requirement.distinct.met input = false := by rw [apart, decide_eq_false (not_not_intro same)]
    rw [if_pos same, refuse_bind, unmet]
    rfl
  · have met : Requirement.distinct.met input = true := by rw [apart, decide_eq_true same]
    rw [if_neg same, if_pos met]
    rw [if_pos met] at compared
    show ((belowOne input.indentWidth >>= _) >>= _) = _
    cases width : Requirement.width.met input with
    | false =>
      rw [width] at compared
      rw [compared rfl]
      exact refuse_bind ..
    | true =>
      obtain ⟨_, _, _, wide⟩ := belowOne_of_met width
      rw [wide]
      show (checkVersion st input.version >>= _) = _
      rw [checkVersion_first]
      cases version : Requirement.version.met input with
      | false => exact refuse_bind ..
      | true => rfl

/-- What the values of a configuration come to: a report of the first requirement that they do not meet, or the
configuration made of them. -/
theorem check_first (compared : firstUnmet requirements input = some .width → belowOne input.indentWidth = .ok true) :
    check st input = match firstUnmet requirements input with
    | some r => r.report st input
    | none => .ok ⟨input.functionName.asText?.getD [], input.dataName.asText?.getD [],
        input.accumulator.asText?.getD [], input.indentWidth, input.version.asText?⟩ := by
  unfold requirements at compared ⊢
  rw [check_eq]
  rcases checkName_then st input "function_name" ConfigInput.functionName true _ with
    ⟨r, first, refused⟩ | ⟨f, function, passed, later⟩
  · rw [first, refused, refuse_bind]
    rfl
  rw [later] at compared ⊢
  rw [passed, function]
  rcases checkName_then st input "data_name" ConfigInput.dataName false _ with
    ⟨r, first, refused⟩ | ⟨d, data, passed, later⟩
  · show (checkName st "data_name" false input.dataName >>= _) = _
    rw [first, refused, refuse_bind]
    rfl
  rw [later] at compared ⊢
  show (checkName st "data_name" false input.dataName >>= _) = _
  rw [passed, data]
  rcases checkName_then st input "accumulator" ConfigInput.accumulator false _ with
    ⟨r, first, refused⟩ | ⟨a, joined, passed, later⟩
  · show (checkName st "accumulator" false input.accumulator >>= _) = _
    rw [first, refused, refuse_bind]
    rfl
  rw [later] at compared ⊢
  show (checkName st "accumulator" false input.accumulator >>= _) = _
  rw [passed, joined]
  exact checkLayout_first data joined compared

theorem indentUnit_written {c : Config} {width : Nat} (whole : c.indentWidth.asInt? = some (width : Int))
    (small : width < memoryLimit) : c.indentUnit = .ok (Text.blanks width) := by
  have one : (wording " ").length = 1 := rfl
  rw [indentUnit, repeated_of_small whole small (by rwa [one, Nat.mul_one])]
  simp [Text.blanks, wording, Text.ofString]

end Config

namespace Buffer

variable {b : Buffer} {st : Store} {width : Nat}

theorem literals_written (whole : b.config.indentWidth.asInt? = some (width : Int)) (positive : 1 ≤ width)
    (small : width < memoryLimit)
    (literals : ∀ s ∈ b.segments, ∃ m t, s = .literal m t ∧ m * width < memoryLimit) :
    ∃ source, b.source st = .ok source := by
  -- the greatest depth at which blanks of this width fit
  have deepest : (memoryLimit - 1) / width * width ≤ memoryLimit - 1 := Nat.div_mul_le_self _ _
  have few : (memoryLimit - 1) / width ≤ memoryLimit - 1 := Nat.div_le_self _ _
  have limited : 0 < memoryLimit := by decide
  have stated : ∀ s ∈ b.segments, ∃ m ≤ (memoryLimit - 1) / width, ∃ t,
      b.statement st s = .ok (.ofInt (m : Nat), .ok t) := by
    intro s member
    obtain ⟨m, t, rfl, fits⟩ := literals s member
    exact ⟨m, (Nat.le_div_iff_mul_le (by omega)).mpr (by omega), _, rfl⟩
  obtain ⟨rs, written⟩ := @rowsAfter_written b width st whole small _ (by omega) (by omega) _ stated none
    fun _ same => by cases same
  exact ⟨Text.ofRows rs, by rw [source, rows, written]; rfl⟩

end Buffer

namespace Config

def namedLikeWord : ConfigInput := { dataName := .ofText (wording "if"), indentWidth := .ofText (wording "4") }

def oneWide : ConfigInput := { indentWidth := .bool true }

end Config

end RenderSource
