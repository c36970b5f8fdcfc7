import RenderSource.Proofs.Code.Spelling
import RenderSource.Proofs.Literal.Steps
import RenderSource.Proofs.Number.FloatReading
/-!
The data that a literal stands for, between the value it is written for and the expression that is
read back. Writing a literal is collecting this data and spelling its expression.
-/
namespace RenderSource

inductive Plain
  | none
  | bool (b : Bool)
  | int (n : Int)
  | float (x : Binary64)
  | text (t : Text)
  | date (ordinal : Nat)
  /-- Milliseconds from the epoch, in UTC or by a clock without an offset. -/
  | moment (inUtc : Bool) (millis : Int)
  | list (items : List Plain)
  | dict (entries : List (Text × Plain))

namespace Plain

def intTerm : Int → Term
  | .ofNat n => .nat n
  | .negSucc n => .negative (.nat (n + 1))

def floatTerm (x : Binary64) : Term := if x.negative then .negative (.float x.negate) else .float x

def calendarTerm (n : String) : Term := .attr (.name (wording "datetime")) (wording n)

def dateTerm (ordinal : Nat) : Term :=
  .call (.attr (calendarTerm "date") (wording "fromordinal")) [.nat ordinal] []

def epochTerm (inUtc : Bool) : Term :=
  .call (calendarTerm "datetime") [.nat 1970, .nat 1, .nat 1]
    (if inUtc then [(wording "tzinfo", .attr (calendarTerm "timezone") (wording "utc"))] else [])

def spanTerm (millis : Int) : Term :=
  .call (calendarTerm "timedelta") [] [(wording "milliseconds", intTerm millis)]

mutual

def term : Plain → Term
  | none => .none
  | bool b => .truth b
  | int n => intTerm n
  | float x => floatTerm x
  | text t => .text t
  | date n => dateTerm n
  | moment inUtc n => .sum (epochTerm inUtc) (spanTerm n)
  | list items => .list (terms items)
  | dict entries => .dict (entryTerms entries)

def terms : List Plain → List Term
  | [] => []
  | p :: ps => term p :: terms ps

def entryTerms : List (Text × Plain) → List (Term × Term)
  | [] => []
  | (t, p) :: es => (.text t, term p) :: entryTerms es

end

theorem terms_eq (ps : List Plain) : terms ps = ps.map term := by
  induction ps with
  | nil => rfl
  | cons p ps ih => rw [terms, ih, List.map_cons]

theorem entryTerms_eq (es : List (Text × Plain)) :
    entryTerms es = es.map fun e => (.text e.1, term e.2) := by
  induction es with
  | nil => rfl
  | cons e es ih => rw [entryTerms, ih, List.map_cons]

theorem spelled_intTerm (n : Int) : (intTerm n).spelled = Decimal.ofInt n := by
  cases n with
  | ofNat n => rfl
  | negSucc n => rfl

theorem spelled_floatTerm {x : Binary64} (finite : x.isFinite = true) :
    (floatTerm x).spelled = x.text := by
  unfold floatTerm
  split
  · rename_i negative
    rw [FloatLayout.text_negative negative finite]
    rfl
  · rfl

theorem spelled_dateTerm (d : Date) : (dateTerm d.ordinal).spelled = d.literal := by
  simp [dateTerm, calendarTerm, Term.spelled, Term.spelledAll, Term.spelledNamed, Text.joinWith,
    Date.literal, wording, Text.ofString]

theorem spelled_moment (m : Moment) :
    (Term.sum (epochTerm m.zone.offset?.isSome) (spanTerm m.millis)).spelled = m.literal := by
  have one : Decimal.ofNat 1 = wording "1" := by
    simp [Decimal.ofNat, Decimal.digits]
    rfl
  have year : Decimal.ofNat 1970 = wording "1970" := by
    simp [Decimal.ofNat, Decimal.digits]
    rfl
  unfold Moment.literal
  cases m.zone.offset? with
  | none =>
    simp [epochTerm, spanTerm, calendarTerm, Term.spelled, Term.spelledAll, Term.spelledNamed,
      Text.joinWith, spelled_intTerm, one, year, wording, Text.ofString]
  | some s =>
    simp [epochTerm, spanTerm, calendarTerm, Term.spelled, Term.spelledAll, Term.spelledNamed,
      Text.joinWith, spelled_intTerm, one, year, wording, Text.ofString]

end Plain

theorem Decimal.ofInt_cases (n : Int) : ofInt? n = some (ofInt n) ∨ ofInt? n = none := by
  unfold ofInt?
  split
  · exact .inr rfl
  · exact .inl rfl

namespace Value

def plainData (v : Value) : Except Offence Plain :=
  match v with
  | .text t _ => .ok (.text t)
  | .none => .ok .none
  | .absent _ => .ok .none
  | .bool b => .ok (.bool b)
  | .int n _ => match Decimal.ofInt? n with
    | some _ => .ok (.int n)
    | .none => .error (.tooLong v)
  | .float x _ _ => if x.isFinite then .ok (.float x) else .error (.nonFinite v)
  | .date d => .ok (.date d.ordinal)
  | .moment m => .ok (.moment m.zone.offset?.isSome m.millis)
  | _ => .error (.unsupported v)

theorem plainData_int {n : Int} {cls : Option IntClass} {p : Plain} (plain : (int n cls).plainData = .ok p) :
    p = .int n ∧ (ofInt n).plainData = .ok (.int n) := by
  unfold ofInt
  unfold plainData at plain ⊢
  dsimp only at plain ⊢
  generalize Decimal.ofInt? n = figures? at *
  cases figures? with
  | none => cases plain
  | some t => cases plain; exact ⟨rfl, rfl⟩

theorem plainData_float {x : Binary64} {cls : Derived} {mark : Nat} {p : Plain}
    (plain : (float x cls mark).plainData = .ok p) : p = .float x ∧ x.isFinite = true := by
  unfold plainData at plain
  dsimp only at plain
  split at plain
  · rename_i finite
    cases plain
    exact ⟨rfl, finite⟩
  · cases plain

/-- The data of a value, by the walk that writes its literal. -/
def dataWithin (st : Store) : Nat → List Address → Value → Except Offence Plain
  | 0, _, .ref a => .error (.cyclic (.ref a))
  | fuel + 1, opened, .ref a =>
    match (Value.ref a).items? st, (Value.ref a).entries? st with
    | some vs, _ =>
      if a ∈ opened then .error (.cyclic (.ref a))
      else (vs.mapM (dataWithin st fuel (a :: opened))).map .list
    | .none, some es =>
      if a ∈ opened then .error (.cyclic (.ref a))
      else ((present es).mapM (entryWith (dataWithin st fuel (a :: opened)))).map .dict
    | .none, .none => .error (.unsupported (.ref a))
  | _, _, v => plainData v

def data (st : Store) (v : Value) : Except Offence Plain := dataWithin st (st.size + 1) [] v

theorem plainLiteral_eq (v : Value) :
    plainLiteral v = (plainData v).map fun p => p.term.spelled := by
  cases v with
  | int n cls =>
    have written := Plain.spelled_intTerm n
    have figures := Decimal.ofInt_cases n
    unfold plainLiteral plainData
    dsimp only
    generalize Decimal.ofInt? n = figures? at *
    rcases figures with rfl | rfl
    · exact congrArg Except.ok written.symm
    · rfl
  | float x cls mark =>
    unfold plainLiteral plainData
    dsimp only
    split
    · rename_i finite
      exact congrArg Except.ok (Plain.spelled_floatTerm finite).symm
    · rfl
  | date d => exact congrArg Except.ok (Plain.spelled_dateTerm d).symm
  | moment m => exact congrArg Except.ok (Plain.spelled_moment m).symm
  | bool b => rfl
  | _ => rfl

theorem literalWithin_eq (st : Store) (fuel : Nat) (opened : List Address) (v : Value) :
    literalWithin st Option.none fuel opened v = (dataWithin st fuel opened v).map fun p => p.term.spelled := by
  induction fuel generalizing opened v with
  | zero =>
    cases v with
    | ref a => rfl
    | _ => exact plainLiteral_eq _
  | succ fuel ih =>
    cases v with
    | ref a =>
      have inner := ih (a :: opened)
      rw [dataWithin]
      cases items : (Value.ref a).items? st with
      | some vs =>
        rw [literalWithin_items items]
        simp only
        split
        · rfl
        · rw [mapM_image vs fun v _ => inner v]
          cases List.mapM (dataWithin st fuel (a :: opened)) vs with
          | error e => rfl
          | ok ps =>
            simp [Except.map, Plain.term, Plain.terms_eq, Term.spelled, Term.spelledAll_eq, listText,
              Function.comp_def]
      | none =>
        cases entries : (Value.ref a).entries? st with
        | some es =>
          rw [literalWithin_entries entries]
          simp only
          split
          · rfl
          · have same := mapM_image (g := fun e : Text × Plain => (e.1, e.2.term.spelled)) (present es)
              fun e _ => entryWith_image e (inner e.2)
            rw [same]
            cases List.mapM (entryWith (dataWithin st fuel (a :: opened))) (present es) with
            | error e => rfl
            | ok ps =>
              simp [Except.map, Plain.term, Plain.entryTerms_eq, Term.spelled, Term.spelledEntries_eq,
                mappingText, Function.comp_def]
        | none => rw [literalWithin_other items entries]; rfl
    | _ => exact plainLiteral_eq _

theorem literal_eq (st : Store) (v : Value) :
    v.literal st = (v.data st).map fun p => p.term.spelled := literalWithin_eq st _ [] v

/-- Whatever the walk preserves holds of all that it collects. The induction is on its fuel, that is
on how deep the containers stand. -/
theorem dataWithin_induction {st : Store} {P : Value → Plain → Prop}
    (plain : ∀ v p, plainData v = .ok p → P v p)
    (list : ∀ a vs ps, (Value.ref a).items? st = some vs → List.Forall₂ P vs ps →
      P (.ref a) (.list ps))
    (dict : ∀ a es qs, (Value.ref a).entries? st = some es →
      List.Forall₂ (fun e q => e.1.asText? = some q.1 ∧ P e.2 q.2) (present es) qs →
        P (.ref a) (.dict qs))
    {fuel : Nat} {opened : List Address} {v : Value} {p : Plain}
    (collected : dataWithin st fuel opened v = .ok p) : P v p := by
  induction fuel generalizing opened v p with
  | zero =>
    cases v with
    | ref a => cases collected
    | _ => exact plain _ _ collected
  | succ fuel ih =>
    cases v with
    | ref a =>
      rw [dataWithin] at collected
      cases items : (Value.ref a).items? st with
      | some vs =>
        simp only [items] at collected
        split at collected
        · cases collected
        · cases parts : vs.mapM (dataWithin st fuel (a :: opened)) with
          | error o => rw [parts] at collected; cases collected
          | ok ps =>
            rw [parts] at collected
            cases collected
            exact list a vs ps items ((mapM_forall₂ parts).imp fun v p done => ih done)
      | none =>
        cases entries : (Value.ref a).entries? st with
        | some es =>
          simp only [items, entries] at collected
          split at collected
          · cases collected
          · cases parts : (present es).mapM (entryWith (dataWithin st fuel (a :: opened))) with
            | error o => rw [parts] at collected; cases collected
            | ok qs =>
              rw [parts] at collected
              cases collected
              refine dict a es qs entries ((mapM_forall₂ parts).imp fun e q done => ?_)
              obtain ⟨key, value⟩ := entryWith_ok done
              exact ⟨key, ih value⟩
        | none =>
          simp only [items, entries] at collected
          cases collected
    | _ => exact plain _ _ collected

end Value

end RenderSource
