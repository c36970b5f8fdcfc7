import RenderSource.Proofs.Literal.Building
/-!
The round trip of literals. Reading the literal of a value as an expression and evaluating it makes the
value again, with the built-in kinds in place of others, without absent entries, and with moments at
their millisecond in UTC or by their own clock.
-/
namespace RenderSource

/-- The cells of an earlier store are those of a later one. -/
structure Store.Kept (st st' : Store) : Prop where
  frames : st'.frames = st.frames
  cells : ∀ a c, st.get? a = some c → st'.get? a = some c

theorem Store.Kept.refl (st : Store) : st.Kept st := ⟨rfl, fun _ _ h => h⟩

theorem Store.Kept.trans {st st' st'' : Store} (first : st.Kept st') (second : st'.Kept st'') :
    st.Kept st'' :=
  ⟨second.frames.trans first.frames, fun a c h => second.cells a c (first.cells a c h)⟩

theorem Store.kept_add (st : Store) (c : Cell) : st.Kept (st.add c).2 := by
  refine ⟨rfl, fun a d here => ?_⟩
  have bound : a < st.cells.size := by
    by_contra beyond
    rw [Store.get?, Array.getElem?_eq_none (Nat.le_of_not_lt beyond)] at here
    cases here
  simp only [Store.get?, Store.add] at here ⊢
  rw [Array.getElem?_push_lt bound]
  rwa [Array.getElem?_eq_getElem bound] at here

theorem Store.get_add (st : Store) (c : Cell) : (st.add c).2.get? st.size = some c := by
  simp [Store.get?, Store.add, Store.size]

def Zone.rebuilt (z : Zone) : Zone := if z.offset?.isSome then .fixed 0 else .naive

/-- A value of one store and what is rebuilt of it in another: sequences become lists and mappings
become dicts, entry by entry in their order without the absent ones; absence elsewhere becomes None. -/
inductive Rebuilt (st st' : Store) : Value → Value → Prop
  | none : Rebuilt st st' .none .none
  | absent (origin : Sentinel) : Rebuilt st st' (.absent origin) .none
  | bool (b : Bool) : Rebuilt st st' (.bool b) (.bool b)
  | int (n : Int) (cls : Option IntClass) : Rebuilt st st' (.int n cls) (.int n Option.none)
  | float (x : Binary64) (cls : Derived) (mark : Nat) :
      Rebuilt st st' (.float x cls mark) (.float x Option.none 0)
  | text (t : Text) (cls : Derived) : Rebuilt st st' (.text t cls) (.text t Option.none)
  | date (d : Date) : Rebuilt st st' (.date d) (.date d)
  | moment {m r : Moment} (valid : r.Valid) (zone : r.zone = m.zone.rebuilt)
      (floor : r.clockMicros = m.micros - m.micros % 1000) : Rebuilt st st' (.moment m) (.moment r)
  | list {v : Value} {a : Address} {vs ws : List Value} (items : v.items? st = some vs)
      (made : st'.get? a = some (.list ws Option.none)) (length : vs.length = ws.length)
      (each : ∀ q ∈ vs.zip ws, Rebuilt st st' q.1 q.2) : Rebuilt st st' v (.ref a)
  | dict {v : Value} {a : Address} {es fs : List (Value × Value)} (entries : v.entries? st = some es)
      (made : st'.get? a = some (.dict fs Option.none))
      (keys : (Value.present es).map (fun e => e.1.asText?.map Value.ofText) = fs.map (some ·.1))
      (each : ∀ q ∈ (Value.present es).zip fs, Rebuilt st st' q.1.2 q.2.2) : Rebuilt st st' v (.ref a)

theorem Rebuilt.later {st st' st'' : Store} {v w : Value} (rebuilt : Rebuilt st st' v w)
    (kept : st'.Kept st'') : Rebuilt st st'' v w := by
  induction rebuilt with
  | none => exact .none
  | absent origin => exact .absent origin
  | bool b => exact .bool b
  | int n cls => exact .int n cls
  | float x cls mark => exact .float x cls mark
  | text t cls => exact .text t cls
  | date d => exact .date d
  | moment valid zone floor => exact .moment valid zone floor
  | list items made length _ ih => exact .list items (kept.cells _ _ made) length ih
  | dict entries made keys _ ih => exact .dict entries (kept.cells _ _ made) keys ih

inductive Reaches (st : Store) (v : Value) : Value → Prop
  | refl : Reaches st v v
  | item {w x : Value} {vs : List Value} (before : Reaches st v w) (items : w.items? st = some vs)
      (member : x ∈ vs) : Reaches st v x
  | entry {w : Value} {es : List (Value × Value)} {e : Value × Value} (before : Reaches st v w)
      (entries : w.entries? st = some es) (member : e ∈ Value.present es) : Reaches st v e.2

/-- What holds of any value that a program can hold: dates are in the calendar, instants fall in years
1 to 9999, and no key is in a mapping twice. -/
def Value.Sound (st : Store) : Value → Prop
  | .date d => d.Valid
  | .moment m => m.Valid ∧ Moment.InYears m.micros
  | v => ∀ es, v.entries? st = some es → (es.filterMap fun e => e.1.asText?).Nodup

theorem Reaches.trans {st : Store} {u v w : Value} (first : Reaches st u v) (second : Reaches st v w) :
    Reaches st u w := by
  induction second with
  | refl => exact first
  | item _ items member ih => exact .item ih items member
  | entry _ entries member ih => exact .entry ih entries member

def textEntry (e : Text × Value) : Value × Value := (.ofText e.1, e.2)

theorem agrees_texts (st : Store) {s t : Text} (different : s ≠ t) :
    (Value.ofText s).agrees st (.ofText t) = .ok false := by
  have apart : Value.ofText s ≠ .ofText t := by
    intro same
    exact different (Value.text.inj same).1
  rw [Value.agrees, if_neg apart]
  simp [Value.equal, Value.equalWithin, Value.ofText, Value.plainEqual, different]

theorem put_fresh (st : Store) {acc : List (Text × Value)} {t : Text} (v : Value)
    (fresh : ∀ e ∈ acc, e.1 ≠ t) : Entries.put st (.ofText t) v (acc.map textEntry) =
      .ok ((acc ++ [(t, v)]).map textEntry) := by
  induction acc with
  | nil => rfl
  | cons e acc ih =>
    have first := agrees_texts st (fresh e (by simp))
    have later := ih fun f member => fresh f (List.mem_cons_of_mem e member)
    simp [Entries.put, textEntry, first, bind, Except.bind, pure, Except.pure] at later ⊢
    rw [later]

theorem foldlM_entries (st : Store) {acc es : List (Text × Value)}
    (distinct : ((acc ++ es).map (·.1)).Nodup) :
    (es.map textEntry).foldlM (fun acc (k, v) =>
      if k.isHashable st then Entries.put st k v acc else .error .wrongType) (acc.map textEntry) =
        Except.ok ((acc ++ es).map textEntry) := by
  induction es generalizing acc with
  | nil =>
    rw [List.append_nil]
    rfl
  | cons e es ih =>
    have fresh : ∀ f ∈ acc, f.1 ≠ e.1 := by
      intro f member same
      rw [List.map_append, List.nodup_append] at distinct
      exact distinct.2.2 f.1 (List.mem_map_of_mem member) e.1 (by simp) same
    have hashable : (textEntry e).1.isHashable st = true := rfl
    rw [List.map_cons, List.foldlM_cons]
    have here := put_fresh st e.2 fresh
    have split : acc ++ e :: es = acc ++ [e] ++ es := by simp
    rw [split] at distinct ⊢
    simp only [hashable, ↓reduceIte]
    change (do
      let acc' ← Entries.put st (.ofText e.1) e.2 (acc.map textEntry)
      (es.map textEntry).foldlM _ acc') = _
    rw [here]
    exact ih distinct

theorem entriesOf_texts (st : Store) {es : List (Text × Value)} (distinct : (es.map (·.1)).Nodup) :
    Value.entriesOf st (es.map textEntry) = .ok (es.map textEntry) :=
  @foldlM_entries st [] es distinct

def Rebuilds (st : Store) (v : Value) (p : Plain) : Prop :=
  ∀ st₁, ∃ w st₂, p.build st₁ = (.ok w, st₂) ∧ Rebuilt st st₂ v w ∧ st₁.Kept st₂

theorem buildAll_rebuilds {st : Store} {vs : List Value} {ps : List Plain}
    (parts : List.Forall₂ (Rebuilds st) vs ps) (st₁ : Store) :
    ∃ ws st₂, Plain.buildAll ps st₁ = (.ok ws, st₂) ∧ List.Forall₂ (Rebuilt st st₂) vs ws ∧
      st₁.Kept st₂ := by
  induction parts generalizing st₁ with
  | nil => exact ⟨[], st₁, rfl, .nil, .refl st₁⟩
  | cons first _ ih =>
    obtain ⟨w, st₂, made, rebuilt, kept⟩ := first st₁
    obtain ⟨ws, st₃, madeAll, rebuiltAll, keptAll⟩ := ih st₂
    refine ⟨w :: ws, st₃, ?_, .cons (rebuilt.later keptAll) rebuiltAll, kept.trans keptAll⟩
    rw [Plain.buildAll, Run.bind_ok made, Run.bind_ok madeAll]
    rfl

theorem buildEntries_rebuilds {st : Store} {es : List (Value × Value)} {qs : List (Text × Plain)}
    (parts : List.Forall₂ (fun e q => e.1.asText? = some q.1 ∧ Rebuilds st e.2 q.2) es qs)
    (st₁ : Store) : ∃ fs : List (Text × Value), ∃ st₂,
      Plain.buildEntries qs st₁ = (.ok (fs.map textEntry), st₂) ∧
      List.Forall₂ (fun e f => e.1.asText? = some f.1 ∧ Rebuilt st st₂ e.2 f.2) es fs ∧
      st₁.Kept st₂ := by
  induction parts generalizing st₁ with
  | nil => exact ⟨[], st₁, rfl, .nil, .refl st₁⟩
  | @cons e q es qs first _ ih =>
    obtain ⟨key, value⟩ := first
    obtain ⟨w, st₂, made, rebuilt, kept⟩ := value st₁
    obtain ⟨fs, st₃, madeAll, rebuiltAll, keptAll⟩ := ih st₂
    refine ⟨(q.1, w) :: fs, st₃, ?_, .cons ⟨key, rebuilt.later keptAll⟩ rebuiltAll,
      kept.trans keptAll⟩
    rw [Plain.buildEntries, Run.bind_ok made, Run.bind_ok madeAll]
    rfl

theorem rebuilds_list {st : Store} {a : Address} {vs : List Value} {ps : List Plain}
    (items : (Value.ref a).items? st = some vs) (parts : List.Forall₂ (Rebuilds st) vs ps) :
    Rebuilds st (.ref a) (.list ps) := by
  intro st₁
  obtain ⟨ws, st₂, made, rebuilt, kept⟩ := buildAll_rebuilds parts st₁
  have grown := Store.kept_add st₂ (.list ws none)
  refine ⟨.ref st₂.size, (st₂.add (.list ws none)).2, ?_, ?_, kept.trans grown⟩
  · rw [Plain.build, Run.bind_ok made, Run.allocate_apply]
  · obtain ⟨length, each⟩ := List.forall₂_iff_zip.mp rebuilt
    exact .list items (Store.get_add st₂ _) length fun q member => (each member).later grown

theorem keys_eq {β : Type} {R : Value × Value → Text × β → Prop} {es : List (Value × Value)}
    {fs : List (Text × β)}
    (parts : List.Forall₂ (fun e f => e.1.asText? = some f.1 ∧ R e f) es fs) :
    es.map (fun e => e.1.asText?) = fs.map fun f => some f.1 := by
  induction parts with
  | nil => rfl
  | cons first _ ih => rw [List.map_cons, List.map_cons, first.1, ih]

theorem keys_distinct {β : Type} {R : Value × Value → Text × β → Prop} {es : List (Value × Value)}
    {fs : List (Text × β)} (distinct : (es.filterMap fun e => e.1.asText?).Nodup)
    (parts : List.Forall₂ (fun e f => e.1.asText? = some f.1 ∧ R e f) (Value.present es) fs) :
    (fs.map (·.1)).Nodup := by
  have some : (Value.present es).filterMap (fun e => e.1.asText?) = fs.map (·.1) := by
    have := congrArg (List.filterMap id) (keys_eq parts)
    simpa [List.filterMap_map, Function.comp_def] using this
  rw [← some]
  exact (List.Sublist.filterMap _ List.filter_sublist).nodup distinct

theorem rebuilds_dict {st : Store} {a : Address} {es : List (Value × Value)}
    {qs : List (Text × Plain)} (entries : (Value.ref a).entries? st = some es)
    (distinct : (es.filterMap fun e => e.1.asText?).Nodup)
    (parts : List.Forall₂ (fun e q => e.1.asText? = some q.1 ∧ Rebuilds st e.2 q.2)
      (Value.present es) qs) : Rebuilds st (.ref a) (.dict qs) := by
  intro st₁
  obtain ⟨fs, st₂, made, rebuilt, kept⟩ := buildEntries_rebuilds parts st₁
  have grown := Store.kept_add st₂ (.dict (fs.map textEntry) none)
  have keys := keys_eq rebuilt
  have distinct' := keys_distinct distinct rebuilt
  refine ⟨.ref st₂.size, (st₂.add (.dict (fs.map textEntry) none)).2, ?_, ?_, kept.trans grown⟩
  · have looked : Run.look (fun st => Value.entriesOf st (fs.map textEntry)) st₂ =
        (.ok (fs.map textEntry), st₂) := by
      rw [Run.look_apply, entriesOf_texts st₂ distinct']
    rw [Plain.build, Run.bind_ok made, Run.bind_ok looked, Run.allocate_apply]
  · obtain ⟨length, each⟩ := List.forall₂_iff_zip.mp rebuilt
    refine .dict entries (Store.get_add st₂ _) ?_ ?_
    · have texts := congrArg (List.map (Option.map Value.ofText)) keys
      simpa [List.map_map, Function.comp_def, textEntry] using texts
    · intro q member
      rw [List.zip_map_right] at member
      obtain ⟨p, inside, rfl⟩ := List.mem_map.mp member
      exact (each inside).2.later grown

theorem rebuilds_value {st : Store} {v w : Value} {p : Plain} (rebuilt : ∀ st', Rebuilt st st' v w)
    (made : ∀ st₁, p.build st₁ = (.ok w, st₁)) : Rebuilds st v p :=
  fun st₁ => ⟨w, st₁, made st₁, rebuilt st₁, .refl st₁⟩

theorem rebuilds_date {st : Store} {d : Date} (valid : d.Valid) :
    Rebuilds st (.date d) (.date d.ordinal) := by
  refine rebuilds_value (fun st' => .date d) fun st₁ => ?_
  rw [Plain.build, Date.ofOrdinal_ordinal valid]
  rfl

theorem Moment.rebuilt_spec {m : Moment} (inside : InYears m.micros) :
    ∃ r, ofClockMicros? m.zone.rebuilt (m.millis * 1000) = some r ∧ r.Valid ∧ r.zone = m.zone.rebuilt ∧
      r.clockMicros = m.micros - m.micros % 1000 := by
  have offset : ∀ s ∈ m.zone.rebuilt.offset?, -86400 < s ∧ s < 86400 := by
    intro s member
    unfold Zone.rebuilt at member
    split at member <;> cases member
    omega
  obtain ⟨r, found, valid, zone, clock⟩ := ofClockMicros_spec m.zone.rebuilt (inYears_floor inside) offset
  refine ⟨r, found, valid, zone, ?_⟩
  rw [clock, Int.fdiv_eq_ediv_of_nonneg _ (by omega)]
  omega

theorem rebuilds_moment {st : Store} {m : Moment} (inside : Moment.InYears m.micros) :
    Rebuilds st (.moment m) (.moment m.zone.offset?.isSome m.millis) := by
  obtain ⟨r, found, valid, zone, floor⟩ := Moment.rebuilt_spec inside
  refine rebuilds_value (fun st' => .moment valid zone floor) fun st₁ => ?_
  rw [Zone.rebuilt] at found
  rw [Plain.build, found]
  rfl

theorem rebuilds_plain {st : Store} {v : Value} {p : Plain} (plain : v.plainData = .ok p)
    (sound : v.Sound st) : Rebuilds st v p := by
  cases v with
  | none => cases plain; exact rebuilds_value (fun _ => .none) fun _ => rfl
  | absent origin => cases plain; exact rebuilds_value (fun _ => .absent origin) fun _ => rfl
  | bool b => cases plain; exact rebuilds_value (fun _ => .bool b) fun _ => rfl
  | text t cls => cases plain; exact rebuilds_value (fun _ => .text t cls) fun _ => rfl
  | date d => cases plain; exact rebuilds_date sound
  | moment m => cases plain; exact rebuilds_moment sound.2
  | int n cls =>
    rw [(Value.plainData_int plain).1]
    exact rebuilds_value (fun _ => .int n cls) fun _ => rfl
  | float x cls mark =>
    rw [(Value.plainData_float plain).1]
    exact rebuilds_value (fun _ => .float x cls mark) fun _ => rfl
  | _ => cases plain

theorem data_rebuilds {st : Store} {v : Value} {p : Plain} (collected : v.data st = .ok p)
    (sound : ∀ w, Reaches st v w → w.Sound st) : Rebuilds st v p := by
  refine Value.dataWithin_induction (P := fun v p => (∀ w, Reaches st v w → w.Sound st) → Rebuilds st v p)
    ?_ ?_ ?_ collected sound
  · intro v p plain sound
    exact rebuilds_plain plain (sound v .refl)
  · intro a vs ps items parts sound
    have each := (List.forall₂_and_left vs ps).mpr ⟨fun _ h => h, parts⟩
    refine rebuilds_list items (each.imp fun v p here => ?_)
    obtain ⟨member, done⟩ := here
    exact done fun w reaches => sound w ((Reaches.item .refl items member).trans reaches)
  · intro a es qs entries parts sound
    have each := (List.forall₂_and_left (Value.present es) qs).mpr ⟨fun _ h => h, parts⟩
    refine rebuilds_dict entries (sound _ .refl es entries) (each.imp fun e q here => ?_)
    obtain ⟨member, key, done⟩ := here
    exact ⟨key, done fun w reaches => sound w ((Reaches.entry .refl entries member).trans reaches)⟩

theorem calendar_names : ∀ n ∈ ["datetime", "date", "fromordinal", "timezone", "utc", "timedelta",
    "tzinfo", "milliseconds"], (wording n).IsName := by decide

namespace Plain

open Term (Emitted)

theorem emitted_calendarTerm {n : String} (fit : (wording n).IsName) :
    Emitted .path (calendarTerm n) :=
  .attr (.name (calendar_names _ (by decide))) fit

theorem emitted_intTerm (n : Int) : Emitted .whole (intTerm n) := by
  cases n with
  | ofNat n => exact .nat n
  | negSucc n => exact .negativeNat (n + 1)

theorem emitted_floatTerm {x : Binary64} (finite : x.isFinite = true) :
    Emitted .whole (floatTerm x) := by
  unfold floatTerm
  split
  · rename_i negative
    have plain : x.negate.negative = false := by simp [Binary64.negate, negative]
    exact .negativeFloat plain finite
  · rename_i plain
    exact .float (by simpa using plain) finite

theorem emitted_dateTerm (n : Nat) : Emitted .whole (dateTerm n) := by
  refine .path (.call (.attr (emitted_calendarTerm ?_) ?_) (fun e member => by cases member) ?_
    (fun e member => by cases member))
  · exact calendar_names _ (by decide)
  · exact calendar_names _ (by decide)
  · intro a member
    rw [List.mem_singleton.mp member]
    exact .nat n

theorem emitted_epochTerm (inUtc : Bool) : Emitted .path (epochTerm inUtc) := by
  have zone : Emitted .whole (.attr (calendarTerm "timezone") (wording "utc")) :=
    .path (.attr (emitted_calendarTerm (calendar_names _ (by decide))) (calendar_names _ (by decide)))
  refine .call (emitted_calendarTerm (calendar_names _ (by decide))) ?_ ?_ ?_
  · intro e member
    cases inUtc with
    | false => cases member
    | true =>
      rw [List.mem_singleton.mp member]
      exact calendar_names _ (by decide)
  · intro a member
    simp only [List.mem_cons, List.not_mem_nil, or_false] at member
    rcases member with rfl | rfl | rfl
    · exact .nat 1970
    · exact .nat 1
    · exact .nat 1
  · intro e member
    cases inUtc with
    | false => cases member
    | true =>
      rw [List.mem_singleton.mp member]
      exact zone

theorem emitted_spanTerm (n : Int) : Emitted .path (spanTerm n) := by
  refine .call (emitted_calendarTerm (calendar_names _ (by decide))) ?_
    (fun a member => by cases member) ?_
  · intro e member
    rw [List.mem_singleton.mp member]
    exact calendar_names _ (by decide)
  · intro e member
    rw [List.mem_singleton.mp member]
    exact emitted_intTerm n

theorem emitted_plainData {v : Value} {p : Plain} (plain : v.plainData = .ok p) :
    Emitted .whole p.term := by
  cases v with
  | none | absent origin => cases plain; exact .none
  | bool b => cases plain; exact .truth b
  | text t cls => cases plain; exact .text t
  | date d => cases plain; exact emitted_dateTerm d.ordinal
  | moment m => cases plain; exact .sum (emitted_epochTerm _) (emitted_spanTerm _)
  | int n cls =>
    rw [(Value.plainData_int plain).1]
    exact emitted_intTerm n
  | float x cls mark =>
    obtain ⟨rfl, finite⟩ := Value.plainData_float plain
    exact emitted_floatTerm finite
  | _ => cases plain

end Plain

theorem data_emitted {st : Store} {v : Value} {p : Plain} (collected : v.data st = .ok p) :
    Term.Emitted .whole p.term := by
  refine Value.dataWithin_induction (P := fun _ p => Term.Emitted .whole p.term) ?_ ?_ ?_ collected
  · intro v p plain
    exact Plain.emitted_plainData plain
  · intro a vs ps _ parts
    rw [Plain.term, Plain.terms_eq]
    refine .list fun t member => ?_
    obtain ⟨p, inside, rfl⟩ := List.mem_map.mp member
    exact forall_of_forall₂ parts p inside
  · intro a es qs _ parts
    rw [Plain.term, Plain.entryTerms_eq]
    refine .dict ?_ ?_
    · intro e member
      obtain ⟨q, _, rfl⟩ := List.mem_map.mp member
      exact .text q.1
    · intro e member
      obtain ⟨q, inside, rfl⟩ := List.mem_map.mp member
      exact forall_of_forall₂ (parts.imp fun e q here => here.2) q inside

/-- The literal of a value reads as an expression that rebuilds the value: reading takes up the whole
text, and evaluation succeeds wherever the calendar is known. -/
theorem literal_round_trip {e : Env} {st st₁ : Store} {v : Value} {t : Text}
    (knows : e.KnowsCalendar st₁.frames) (sound : ∀ w, Reaches st v w → w.Sound st)
    (written : v.literal st = .ok t) :
    ∃ term, Term.readAll t = .ok term ∧ ∃ w st₂, term.evaluate e st₁ = (.ok w, st₂) ∧
      Rebuilt st st₂ v w ∧ st₁.Kept st₂ := by
  rw [Value.literal_eq] at written
  cases collected : v.data st with
  | error o => rw [collected] at written; cases written
  | ok p =>
    rw [collected] at written
    cases written
    refine ⟨p.term, Term.readAll_spelled (data_emitted collected), ?_⟩
    obtain ⟨w, st₂, made, rebuilt, kept⟩ := data_rebuilds collected sound st₁
    exact ⟨w, st₂, (Plain.evaluate_term knows p rfl).trans made, rebuilt, kept⟩

def sampleStore : Store :=
  ⟨#[.tuple [.text (wording "a\"\n") (some (wording "Name")), .absent .own,
    .moment ⟨⟨1970, 1, 1⟩, 1, 0, 0, 1500, .fixed 3600⟩]], #[]⟩

theorem sampleStore_sound : ∀ w, Reaches sampleStore (.ref 0) w → w.Sound sampleStore := by
  have inside : ∀ w, Reaches sampleStore (.ref 0) w → w = .ref 0 ∨ w = .text (wording "a\"\n")
      (some (wording "Name")) ∨ w = .absent .own ∨
        w = .moment ⟨⟨1970, 1, 1⟩, 1, 0, 0, 1500, .fixed 3600⟩ := by
    intro w reaches
    induction reaches with
    | refl => exact .inl rfl
    | item _ items member ih =>
      rcases ih with rfl | rfl | rfl | rfl
      · cases items
        exact .inr (by simpa using member)
      all_goals cases items
    | entry _ entries member ih =>
      rcases ih with rfl | rfl | rfl | rfl <;> cases entries
  intro w reaches
  rcases inside w reaches with rfl | rfl | rfl | rfl
  · intro es entries; cases entries
  · intro es entries; cases entries
  · intro es entries; cases entries
  · refine ⟨⟨by unfold Date.Valid; decide, by decide, by decide, by decide, by decide, ?_⟩, by decide⟩
    intro s offset
    cases offset
    decide

theorem wording_append (s t : String) : wording s ++ wording t = wording (s ++ t) := by
  rw [wording, wording, wording, Text.ofString, Text.ofString, Text.ofString, String.toList_append, List.map_append]

theorem sampleStore_literal : (Value.ref 0).literal sampleStore =
    .ok (wording ("[\"a\\\"\\n\",None,datetime.datetime(1970, 1, 1, " ++
      "tzinfo=datetime.timezone.utc) + datetime.timedelta(milliseconds=1)]")) := by
  have one : Decimal.ofInt 1 = wording "1" := by
    simp [Decimal.ofInt, Decimal.ofNat, Decimal.digits]
    rfl
  have millis : (⟨⟨1970, 1, 1⟩, 1, 0, 0, 1500, .fixed 3600⟩ : Moment).millis = 1 := by decide
  rw [Value.literal, show sampleStore.size + 1 = 1 + 1 from rfl, Value.literalWithin_items rfl,
    if_neg (by decide)]
  have text : Value.literalWithin sampleStore Option.none 1 [0] (.text (wording "a\"\n") (some (wording "Name"))) =
    .ok (wording "\"a\\\"\\n\"") := rfl
  have absent : Value.literalWithin sampleStore Option.none 1 [0] (.absent .own) = .ok (wording "None") := rfl
  have moment : Value.literalWithin sampleStore Option.none 1 [0]
      (.moment ⟨⟨1970, 1, 1⟩, 1, 0, 0, 1500, .fixed 3600⟩) =
    .ok (wording ("datetime.datetime(1970, 1, 1, tzinfo=datetime.timezone.utc) + " ++
      "datetime.timedelta(milliseconds=1)")) := by
    have written : Value.literalWithin sampleStore Option.none 1 [0]
        (.moment ⟨⟨1970, 1, 1⟩, 1, 0, 0, 1500, .fixed 3600⟩) =
      .ok (Moment.literal ⟨⟨1970, 1, 1⟩, 1, 0, 0, 1500, .fixed 3600⟩) := rfl
    have aware : Zone.offset? (.fixed 3600) = some 3600 := rfl
    rw [written, Moment.literal, millis, one, aware]
    dsimp only
    rw [wording_append, wording_append, wording_append]
    exact congrArg (Except.ok ∘ wording) (by decide)
  have listed (a b c : Text) : Value.listText [a, b, c] =
      wording "[" ++ (a ++ wording "," ++ (b ++ wording "," ++ c)) ++ wording "]" := rfl
  simp only [List.mapM_cons, List.mapM_nil, text, absent, moment]
  refine (congrArg Except.ok (listed _ _ _)).trans ?_
  rw [wording_append, wording_append, wording_append, wording_append, wording_append, wording_append]
  exact congrArg (Except.ok ∘ wording) (by decide)

theorem literal_round_trip_tuple : ∃ term,
    Term.readAll (wording ("[\"a\\\"\\n\",None,datetime.datetime(1970, 1, 1, " ++
      "tzinfo=datetime.timezone.utc) + datetime.timedelta(milliseconds=1)]")) = .ok term ∧
    ∃ w st₂, term.evaluate Env.calendar sampleStore = (.ok w, st₂) ∧
      Rebuilt sampleStore st₂ (.ref 0) w ∧ sampleStore.Kept st₂ :=
  literal_round_trip (Env.calendar_knows _) sampleStore_sound sampleStore_literal

end RenderSource
