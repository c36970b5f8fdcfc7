import RenderSource.Proofs.Code.Reading
import RenderSource.Proofs.Expression.Emission
/-!
Source of a descriptor reads back as the expression of the descriptor. No two expressions share a source,
whatever commas, quotes and brackets stand in keys and constants.
-/
namespace RenderSource.Descriptor

variable {st : Store} {dataName : Text}

def textCall : Descriptor → String × Descriptor
  | output expr true => ("escape_html", expr)
  | output expr false => ("to_text", expr)
  | d => ("to_text", d)

theorem textTree_eq (d : Descriptor) : d.textTree st dataName =
    .call (.name (wording d.textCall.1)) [d.textCall.2.tree st dataName] [] := by
  cases d with
  | output expr escape => cases escape <;> rw [textTree, tree] <;> rfl
  | _ => rfl

/-- Source of a descriptor that takes over nothing but names that are free for use is one expression, that of the
descriptor. -/
theorem source_reads_back (d : Descriptor) {t : Text} (data : dataName.IsName)
    (names : ∀ g ∈ d.borrowed, g.IsName) :
    (d.source st dataName = .ok t → Term.readAll t = .ok (d.tree st dataName)) ∧
    (d.textSource st dataName = .ok t → Term.readAll t =
      .ok (.call (.name (wording d.textCall.1)) [d.textCall.2.tree st dataName] [])) := by
  refine ⟨fun done => ?_, fun done => ?_⟩
  · have written := source_written d done
    have spelled : t = (d.tree st dataName).spelled := written.spelled
    rw [spelled]
    exact Term.readAll_spelled (written.emitted data names)
  · obtain ⟨spelled, emitted⟩ := textSource_tree done data names
    rw [spelled, ← textTree_eq]
    exact Term.readAll_spelled emitted

def samplePath : Descriptor :=
  .filter (wording "sep") (.accessor [.plain (.ofText (wording "a, \")(")), .plain (.ofInt (-1)),
    .const (.ref 0)]) [.output (.call (wording "card") [.accessor []]) true]

def samplePathText : Text :=
  wording ("DEFAULT_FILTERS[\"sep\"](lookup(data, \"a, \\\")(\", -1, " ++
    "[\"a\\\"\\n\",None,datetime.datetime(1970, 1, 1, tzinfo=datetime.timezone.utc) + " ++
    "datetime.timedelta(milliseconds=1)]), escape_html(card(data)))")

theorem stepSource_index {n : Int} {t : Text} (figures : Decimal.ofInt? n = some t) :
    stepSource st dataName (.plain (.ofInt n)) = .ok t := by
  rw [Value.ofInt, stepSource_int, shown_int]
  simp only [Option.bind_none, figures]

theorem samplePath_source :
    samplePath.source sampleStore (wording "data") = .ok samplePathText := by
  have key : stepSource sampleStore (wording "data") (.plain (.ofText (wording "a, \")("))) =
      .ok (wording "\"a, \\\")(\"") := by
    rw [stepSource.eq_def]
    rfl
  have index : stepSource sampleStore (wording "data") (.plain (.ofInt (-1))) = .ok (wording "-1") := by
    have one : Decimal.digits 10 1 = [1] := by rw [Decimal.digits, dif_neg (by decide)]
    have figures : Decimal.ofInt (.negSucc 0) = wording "-1" := by
      rw [Decimal.ofInt, Decimal.ofNat, one]
      rfl
    have short : Decimal.tooLong (.negSucc 0) = false := by decide +kernel
    have whole : Decimal.ofInt? (-1) = some (wording "-1") := by
      rw [← figures, Decimal.ofInt?]
      exact if_neg (Bool.eq_false_iff.mp short)
    exact stepSource_index whole
  have nested : stepSource sampleStore (wording "data") (.const (.ref 0)) =
      source sampleStore (wording "data") (.const (.ref 0)) := stepSource_nested fun v same => by cases same
  rw [samplePath, source, source, stepSources, stepSources, stepSources, stepSources, key, index, nested,
    source, LibraryFunction.literalOf, sampleStore_literal, sources, sources, source, source, sources, sources,
    source]
  have known : (LibraryFunction.filter? (wording "sep")).isNone = false := by decide
  have named : (wording "card").isIdentifier = true := by decide
  have quoted : (wording "sep").quote = wording "\"sep\"" := by decide
  rw [known, named, quoted]
  show Except.ok (calling _ [calling _ [_, _, _, _], calling _ [calling _ [_]]]) = _
  simp only [calling, Text.joinWith, wording_append]
  exact congrArg (Except.ok ∘ wording) (by decide +kernel)

theorem samplePath_reads_back :
    samplePath.source sampleStore (wording "data") = .ok samplePathText ∧
    Term.readAll samplePathText = .ok (samplePath.tree sampleStore (wording "data")) := by
  have data : (wording "data").IsName := by decide
  have names : ∀ g ∈ samplePath.borrowed, g.IsName := by decide
  exact ⟨samplePath_source, (source_reads_back samplePath data names).1 samplePath_source⟩

/-- A form that a class gives a step need not read. -/
theorem namedNumber_unread :
    (accessor [plain namedNumber]).source Store.empty (wording "data") = .ok (wording "lookup(data, <Level.HIGH: 3>)") ∧
      ∃ left, Term.readAll (wording "lookup(data, <Level.HIGH: 3>)") = .error left := by
  constructor
  · rw [source, stepSources, namedNumber, stepSource_int, shown_int, stepSources]
    rfl
  · exact error_of_toBool (by decide +kernel)

end RenderSource.Descriptor
