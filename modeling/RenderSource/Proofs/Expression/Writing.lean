import RenderSource.Expression.Source
import RenderSource.Proofs.Literal.Plain
import RenderSource.Proofs.Run.Steps
/-!
Which source a descriptor has, as a derivation that follows the tree. Writing gives source by one of
these derivations only; proofs about source go by induction over them.
-/
namespace RenderSource.Descriptor

/-- Where a descriptor stands: as an expression, or as a step of a path. -/
inductive Place
  | expression
  | step

inductive Written (st : Store) (dataName : Text) : Place → Descriptor → Text → Prop
  | const {v : Value} {t : Text} (literal : v.literal st = .ok t) :
      Written st dataName .expression (const v) t
  | data : Written st dataName .expression (accessor []) dataName
  | lookup {step : Descriptor} {path : List Descriptor} {ts : List Text}
      (length : (step :: path).length = ts.length)
      (each : ∀ q ∈ (step :: path).zip ts, Written st dataName .step q.1 q.2) :
      Written st dataName .expression (accessor (step :: path))
        (calling (wording "lookup") (dataName :: ts))
  | filter {name : Text} {value : Descriptor} {args : List Descriptor} {t : Text} {ts : List Text}
      {h : LibraryFunction} (known : LibraryFunction.filter? name = some h)
      (first : Written st dataName .expression value t) (length : args.length = ts.length)
      (each : ∀ q ∈ args.zip ts, Written st dataName .expression q.1 q.2) :
      Written st dataName .expression (filter name value args)
        (calling (wording "DEFAULT_FILTERS[" ++ name.quote ++ wording "]") (t :: ts))
  | markup {name : Text} {value : Descriptor} {flag : Bool} {t : Text}
      (inner : Written st dataName .expression value t) :
      Written st dataName .expression (markup name value flag)
        (calling (wording (if flag then "bool_attr_filter" else "attr_filter")) [name.quote, t])
  | call {renderer : Text} {args : List Descriptor} {ts : List Text}
      (named : renderer.isIdentifier = true) (length : args.length = ts.length)
      (each : ∀ q ∈ args.zip ts, Written st dataName .expression q.1 q.2) :
      Written st dataName .expression (call renderer args) (calling renderer ts)
  | output {expr : Descriptor} {escape : Bool} {t : Text}
      (inner : Written st dataName .expression expr t) :
      Written st dataName .expression (output expr escape)
        (calling (wording (if escape then "escape_html" else "to_text")) [t])
  | key (t : Text) (cls : Derived) : Written st dataName .step (plain (.text t cls)) t.quote
  | index {n : Int} {cls : Option IntClass} {t : Text} (plainly : cls.bind IntClass.shown = none)
      (figures : Decimal.ofInt? n = some t) : Written st dataName .step (plain (.int n cls)) t
  /-- The class of an integer gives it another form than its figures. -/
  | form {n : Int} {cls : Option IntClass} {t : Text} (own : cls.bind IntClass.shown = some t) :
      Written st dataName .step (plain (.int n cls)) t
  | nested {d : Descriptor} {t : Text} (inner : Written st dataName .expression d t) :
      Written st dataName .step d t

variable {st : Store} {dataName : Text}

theorem forall_zip_cons {P : Descriptor → Text → Prop} {d : Descriptor} {ds : List Descriptor} {t : Text}
    {ts : List Text} (first : P d t) (more : ds.length = ts.length ∧ ∀ q ∈ ds.zip ts, P q.1 q.2) :
    (d :: ds).length = (t :: ts).length ∧ ∀ q ∈ (d :: ds).zip (t :: ts), P q.1 q.2 := by
  refine ⟨congrArg (· + 1) more.1, fun q member => ?_⟩
  rcases List.mem_cons.mp member with rfl | later
  · exact first
  · exact more.2 q later

theorem stepSource_nested {d : Descriptor} (nested : ∀ v, d ≠ plain v) :
    stepSource st dataName d = source st dataName d := by
  rw [stepSource.eq_def]
  cases d with
  | plain v => exact absurd rfl (nested v)
  | _ => rfl

theorem shown_int (n : Int) (cls : Option IntClass) : (Value.int n cls).shown st =
    match cls.bind IntClass.shown with
    | some t => .ok t
    | none => match Decimal.ofInt? n with
      | some t => .ok t
      | none => .error .badValue := by
  have plain : (Value.int n cls).shown st = Value.plainShown (.int n cls) := rfl
  rw [plain]
  rcases cls with _ | ⟨name, _ | form, text⟩ <;> unfold Value.plainShown <;> dsimp only
  · cases Decimal.ofInt? n <;> rfl
  · cases Decimal.ofInt? n <;> rfl
  · rfl

theorem stepSource_int (n : Int) (cls : Option IntClass) :
    stepSource st dataName (plain (.int n cls)) = (Value.int n cls).shown st := by
  rw [stepSource.eq_def]

theorem stepSource_plain {v : Value} {t : Text} (done : stepSource st dataName (plain v) = .ok t) :
    Written st dataName .step (plain v) t := by
  cases v with
  | int n cls =>
    rw [stepSource_int, shown_int] at done
    cases own : cls.bind IntClass.shown with
    | some form =>
      rw [own] at done
      cases done
      exact .form own
    | none =>
      rw [own] at done
      cases figures : Decimal.ofInt? n with
      | some u =>
        simp only [figures] at done
        cases done
        exact .index own figures
      | none =>
        simp only [figures] at done
        cases done
  | text u cls =>
    rw [stepSource.eq_def] at done
    cases done
    exact .key u cls
  | bool b =>
    rw [stepSource.eq_def] at done
    cases b <;> cases done
  | _ =>
    rw [stepSource.eq_def] at done
    cases done

mutual

theorem source_written (d : Descriptor) {t : Text} (done : source st dataName d = .ok t) :
    Written st dataName .expression d t := by
  cases d with
  | const v =>
    rw [source, LibraryFunction.literalOf] at done
    exact .const (ok_of_mapError done)
  | accessor path =>
    cases path with
    | nil =>
      rw [source] at done
      cases done
      exact .data
    | cons step path =>
      rw [source] at done
      obtain ⟨ts, steps, done⟩ := ok_of_bind done
      cases done
      have each := stepSources_written (step :: path) steps
      exact .lookup each.1 each.2
  | filter name value args =>
    rw [source] at done
    cases known : LibraryFunction.filter? name with
    | none => rw [known] at done; cases done
    | some h =>
      rw [known] at done
      obtain ⟨t, first, done⟩ := ok_of_bind done
      obtain ⟨ts, more, done⟩ := ok_of_bind done
      cases done
      have each := sources_written args more
      exact .filter known (source_written value first) each.1 each.2
  | markup name value flag =>
    rw [source] at done
    obtain ⟨t, inner, done⟩ := ok_of_bind done
    cases done
    exact .markup (source_written value inner)
  | call renderer args =>
    rw [source] at done
    cases named : renderer.isIdentifier with
    | false => rw [named] at done; cases done
    | true =>
      rw [named] at done
      obtain ⟨ts, more, done⟩ := ok_of_bind done
      cases done
      have each := sources_written args more
      exact .call named each.1 each.2
  | output expr escape =>
    rw [source] at done
    obtain ⟨t, inner, done⟩ := ok_of_bind done
    cases done
    exact .output (source_written expr inner)
  | other kind =>
    rw [source] at done
    cases done
  | plain v =>
    rw [source] at done
    cases done

theorem sources_written (ds : List Descriptor) {ts : List Text}
    (done : sources st dataName ds = .ok ts) :
    ds.length = ts.length ∧ ∀ q ∈ ds.zip ts, Written st dataName .expression q.1 q.2 := by
  cases ds with
  | nil =>
    rw [sources] at done
    cases done
    exact ⟨rfl, fun q member => by cases member⟩
  | cons d ds =>
    rw [sources] at done
    obtain ⟨u, first, done⟩ := ok_of_bind done
    obtain ⟨us, more, done⟩ := ok_of_bind done
    cases done
    exact forall_zip_cons (source_written d first) (sources_written ds more)

theorem stepSources_written (ds : List Descriptor) {ts : List Text}
    (done : stepSources st dataName ds = .ok ts) :
    ds.length = ts.length ∧ ∀ q ∈ ds.zip ts, Written st dataName .step q.1 q.2 := by
  cases ds with
  | nil =>
    rw [stepSources] at done
    cases done
    exact ⟨rfl, fun q member => by cases member⟩
  | cons d ds =>
    rw [stepSources] at done
    obtain ⟨u, first, done⟩ := ok_of_bind done
    obtain ⟨us, more, done⟩ := ok_of_bind done
    cases done
    exact forall_zip_cons (stepSource_written d first) (stepSources_written ds more)

theorem stepSource_written (d : Descriptor) {t : Text} (done : stepSource st dataName d = .ok t) :
    Written st dataName .step d t := by
  by_cases value : ∃ v, d = plain v
  · obtain ⟨v, rfl⟩ := value
    exact stepSource_plain done
  · rw [stepSource_nested fun v same => value ⟨v, same⟩] at done
    exact .nested (source_written d done)

end

theorem textSource_written {d : Descriptor} {t : Text} (done : d.textSource st dataName = .ok t) :
    (∃ expr escape, d = output expr escape ∧ Written st dataName .expression d t) ∨
      ∃ u, Written st dataName .expression d u ∧ t = calling (wording "to_text") [u] := by
  rw [textSource] at done
  obtain ⟨u, inner, done⟩ := ok_of_bind done
  have written := source_written d inner
  cases d with
  | output expr escape =>
    cases done
    exact .inl ⟨expr, escape, rfl, written⟩
  | _ => exact .inr ⟨u, written, (Except.ok.inj done).symm⟩

end RenderSource.Descriptor
