import RenderSource.Proofs.Code.Fronts
/-!
Items, entries and arguments read back, given that the terms among them do. Each is read up to the
mark behind it, a comma or the bracket that closes the whole.
-/
namespace RenderSource

namespace Term

def ReadsWhole (t : Term) : Prop :=
  ∀ fuel s rest, Stops rest → skipBlanks s = spelled t ++ rest → 4 * (spelled t).length ≤ fuel →
    readWithin fuel s = .ok (t, rest)

theorem nextIs_close {m : Char} (other : m ≠ ' ') (t : Text) : nextIs m (.scalar m :: t) = true := by
  rw [nextIs_cons (by simpa using other)]
  simp

theorem nextIs_other {m c : Char} (different : c ≠ m) (other : c ≠ ' ') (t : Text) :
    nextIs m (.scalar c :: t) = false := by
  rw [nextIs_cons (by simpa using other)]
  simpa using different

theorem nextIs_head {m : Char} {s u : Text} (skipped : skipBlanks s = u)
    (other : u.head? ≠ some (.scalar m)) : nextIs m s = false := by
  rw [nextIs, skipped]
  exact decide_eq_false other

theorem Fresh.nextIs {s : Text} (fresh : Fresh s) {m : Char} (member : m ∈ closers) :
    nextIs m s = false := nextIs_head fresh.unblanked (fresh.opens m member)

theorem joinWith_cons (sep t : Text) {ts : List Text} (some : ts ≠ []) :
    Text.joinWith sep (t :: ts) = t ++ sep ++ Text.joinWith sep ts := by
  cases ts with
  | nil => exact absurd rfl some
  | cons u us => rfl

theorem joinWith_cons_length (sep t : Text) (ts : List Text) :
    t.length ≤ (Text.joinWith sep (t :: ts)).length := by
  cases ts with
  | nil => exact Nat.le_refl _
  | cons u us =>
    rw [joinWith_cons sep t (by simp), List.length_append, List.length_append]
    omega

theorem readItems_last {close : Char} (uncomma : close ≠ ',') (unblank : close ≠ ' ') {fuel : Nat}
    {s rest : Text} {t : Term} (opens : nextIs close s = false)
    (first : readWithin fuel s = .ok (t, .scalar close :: rest)) :
    readItems close (fuel + 1) s = .ok ([t], rest) := by
  rw [readItems, opens, first]
  simp only [Bool.false_eq_true, ↓reduceIte, bind, Except.bind, nextIs_other uncomma unblank,
    readMark_cons unblank]
  rfl

theorem readItems_more {close : Char} {fuel : Nat} {s rest u : Text} {t : Term} {ts : List Term}
    (opens : nextIs close s = false) (first : readWithin fuel s = .ok (t, .scalar ',' :: u))
    (next : readItems close fuel u = .ok (ts, rest)) :
    readItems close (fuel + 1) s = .ok (t :: ts, rest) := by
  rw [readItems, opens, first]
  simp only [Bool.false_eq_true, ↓reduceIte, bind, Except.bind, nextIs_close (by decide : ',' ≠ ' '),
    readMark_cons (by decide : ',' ≠ ' '), next]
  rfl

theorem item_front {t : Term} (emitted : Emitted .whole t) (reads : ReadsWhole t) {close : Char}
    (member : close ∈ closers) {fuel : Nat} {rest : Text} (stops : Stops rest)
    (enough : 4 * (spelled t).length ≤ fuel) :
    nextIs close (spelled t ++ rest) = false ∧ readWithin fuel (spelled t ++ rest) = .ok (t, rest) := by
  have fresh := emitted.fresh stops.plain
  exact ⟨fresh.nextIs member, reads fuel _ rest stops fresh.unblanked enough⟩

theorem readItems_spelled {close : Char} (member : close ∈ closers) (uncomma : close ≠ ',')
    (unblank : close ≠ ' ') {items : List Term} (emitted : ∀ t ∈ items, Emitted .whole t)
    (reads : ∀ t ∈ items, ReadsWhole t) {fuel : Nat} (rest : Text)
    (enough : 4 * (Text.joinWith (wording ",") (spelledAll items)).length + 1 ≤ fuel) :
    readItems close fuel (Text.joinWith (wording ",") (spelledAll items) ++ .scalar close :: rest) =
      .ok (items, rest) := by
  induction items generalizing fuel with
  | nil =>
    obtain ⟨fuel, rfl⟩ := Nat.exists_eq_add_of_lt enough
    rw [readItems]
    simp only [spelledAll, Text.joinWith, List.nil_append, nextIs_close unblank, ↓reduceIte,
      readMark_cons unblank]
    rfl
  | cons t items ih =>
    obtain ⟨fuel, rfl⟩ : ∃ k, fuel = k + 1 := ⟨fuel - 1, by omega⟩
    obtain ⟨here, later⟩ := List.forall_mem_cons.mp emitted
    obtain ⟨first, more⟩ := List.forall_mem_cons.mp reads
    have size := joinWith_cons_length (wording ",") (spelled t) (spelledAll items)
    rw [spelledAll] at enough ⊢
    cases items with
    | nil =>
      obtain ⟨opens, read⟩ := item_front here first member (stops_cons member rest) (by omega : _ ≤ fuel)
      exact readItems_last uncomma unblank opens read
    | cons u items =>
      have some : spelledAll (u :: items) ≠ [] := by simp [spelledAll]
      rw [joinWith_cons _ _ some, List.length_append, List.length_append] at enough
      have one : (wording ",").length = 1 := rfl
      have next := @ih later more fuel (by omega)
      have stops := stops_cons (by decide : ',' ∈ closers)
        (Text.joinWith (wording ",") (spelledAll (u :: items)) ++ .scalar close :: rest)
      obtain ⟨opens, read⟩ := item_front here first member stops (by omega : _ ≤ fuel)
      rw [joinWith_cons _ _ some, List.append_assoc, List.append_assoc]
      exact readItems_more opens read next

theorem readEntries_last {fuel : Nat} {s u rest : Text} {k v : Term} (opens : nextIs '\x7d' s = false)
    (key : readWithin fuel s = .ok (k, .scalar ':' :: u))
    (value : readWithin fuel u = .ok (v, .scalar '\x7d' :: rest)) :
    readEntries (fuel + 1) s = .ok ([(k, v)], rest) := by
  rw [readEntries, opens, key]
  simp only [Bool.false_eq_true, ↓reduceIte, bind, Except.bind, readMark_cons (by decide : ':' ≠ ' '),
    value, nextIs_other (by decide : '\x7d' ≠ ',') (by decide), readMark_cons (by decide : '\x7d' ≠ ' ')]
  rfl

theorem readEntries_more {fuel : Nat} {s u w rest : Text} {k v : Term} {es : List (Term × Term)}
    (opens : nextIs '\x7d' s = false) (key : readWithin fuel s = .ok (k, .scalar ':' :: u))
    (value : readWithin fuel u = .ok (v, .scalar ',' :: w))
    (next : readEntries fuel w = .ok (es, rest)) :
    readEntries (fuel + 1) s = .ok ((k, v) :: es, rest) := by
  rw [readEntries, opens, key]
  simp only [Bool.false_eq_true, ↓reduceIte, bind, Except.bind, readMark_cons (by decide : ':' ≠ ' '),
    value, nextIs_close (by decide : ',' ≠ ' '), readMark_cons (by decide : ',' ≠ ' '), next]
  rfl

theorem entry_front {k v : Term} (key : Emitted .whole k) (value : Emitted .whole v) (readsKey : ReadsWhole k)
    (readsValue : ReadsWhole v) {fuel : Nat} {rest : Text} (stops : Stops rest)
    (enough : 4 * (spelled k ++ wording ":" ++ spelled v).length ≤ fuel) :
    nextIs '\x7d' (spelled k ++ wording ":" ++ spelled v ++ rest) = false ∧
      readWithin fuel (spelled k ++ wording ":" ++ spelled v ++ rest) =
        .ok (k, .scalar ':' :: (spelled v ++ rest)) ∧
      readWithin fuel (spelled v ++ rest) = .ok (v, rest) := by
  rw [List.length_append, List.length_append] at enough
  have colon : Stops (.scalar ':' :: (spelled v ++ rest)) := stops_cons (by decide) _
  obtain ⟨opens, read⟩ := item_front key readsKey (by decide : '\x7d' ∈ closers) colon (by omega : _ ≤ fuel)
  obtain ⟨_, read'⟩ := item_front value readsValue (by decide : '\x7d' ∈ closers) stops (by omega : _ ≤ fuel)
  rw [List.append_assoc, List.append_assoc]
  exact ⟨opens, read, read'⟩

theorem readEntries_spelled {entries : List (Term × Term)}
    (emittedKeys : ∀ e ∈ entries, Emitted .whole e.1) (emitted : ∀ e ∈ entries, Emitted .whole e.2)
    (readsKeys : ∀ e ∈ entries, ReadsWhole e.1) (reads : ∀ e ∈ entries, ReadsWhole e.2) {fuel : Nat}
    (rest : Text)
    (enough : 4 * (Text.joinWith (wording ",") (spelledEntries entries)).length + 1 ≤ fuel) :
    readEntries fuel (Text.joinWith (wording ",") (spelledEntries entries) ++ .scalar '\x7d' :: rest) =
      .ok (entries, rest) := by
  induction entries generalizing fuel with
  | nil =>
    obtain ⟨fuel, rfl⟩ := Nat.exists_eq_add_of_lt enough
    rw [readEntries]
    simp only [spelledEntries, Text.joinWith, List.nil_append,
      nextIs_close (by decide : '\x7d' ≠ ' '), ↓reduceIte, readMark_cons (by decide : '\x7d' ≠ ' ')]
    rfl
  | cons e entries ih =>
    obtain ⟨fuel, rfl⟩ : ∃ k, fuel = k + 1 := ⟨fuel - 1, by omega⟩
    obtain ⟨k, v⟩ := e
    obtain ⟨key, laterKeys⟩ := List.forall_mem_cons.mp emittedKeys
    obtain ⟨value, later⟩ := List.forall_mem_cons.mp emitted
    obtain ⟨readsKey, moreKeys⟩ := List.forall_mem_cons.mp readsKeys
    obtain ⟨readsValue, more⟩ := List.forall_mem_cons.mp reads
    have size := joinWith_cons_length (wording ",") (spelled k ++ wording ":" ++ spelled v)
      (spelledEntries entries)
    rw [spelledEntries] at enough ⊢
    cases entries with
    | nil =>
      obtain ⟨opens, read, read'⟩ := @entry_front k v key value readsKey readsValue fuel _
        (stops_cons (by decide : '\x7d' ∈ closers) rest) (by omega)
      exact readEntries_last opens read read'
    | cons f entries =>
      have some : spelledEntries (f :: entries) ≠ [] := by simp [spelledEntries]
      rw [joinWith_cons _ _ some, List.length_append, List.length_append] at enough
      have one : (wording ",").length = 1 := rfl
      have next := @ih laterKeys later moreKeys more fuel (by omega)
      have stops := stops_cons (by decide : ',' ∈ closers)
        (Text.joinWith (wording ",") (spelledEntries (f :: entries)) ++ .scalar '\x7d' :: rest)
      obtain ⟨opens, read, read'⟩ := @entry_front k v key value readsKey readsValue fuel _ stops (by omega)
      rw [joinWith_cons _ _ some, List.append_assoc, List.append_assoc]
      exact readEntries_more opens read read' next

def spelledArgument (e : Option Text × Term) : Text :=
  match e.1 with
  | some n => n ++ wording "=" ++ spelled e.2
  | Option.none => spelled e.2

def gathered : List (Option Text × Term) → List Term × List (Text × Term)
  | [] => ([], [])
  | (n, t) :: es => withArgument n t (gathered es).1 (gathered es).2

theorem argumentName_fresh {s u : Text} (skipped : skipBlanks s = u) (fresh : Fresh u) :
    argumentName? s = Option.none := by
  have uneven := fresh.unnamed
  unfold argumentName?
  rw [skipped]
  generalize spanName u = p at *
  obtain ⟨n, r⟩ := p
  simp only
  split
  · exact absurd rfl uneven
  · rfl

theorem argumentName_named {n s : Text} (fit : n.IsName) {u : Text}
    (skipped : skipBlanks s = n ++ .scalar '=' :: u) (uneven : u.head? ≠ some (.scalar '=')) :
    argumentName? s = some (n, u) := by
  have some := Text.isEmpty_of_isIdentifier fit.1
  have ends : EndsName (.scalar '=' :: u) := by
    intro c head
    cases head
    decide
  unfold argumentName?
  rw [skipped, spanName_append fit.1 ends]
  simp [some, fit.2, uneven]

theorem name_opens {n : Text} (fit : n.IsName) (u : Text) :
    ∀ m ∈ closers, (n ++ u).head? ≠ some (.scalar m) := fun m member =>
  Text.head?_ne_of_isIdentifier fit.1 (closers_start m member) u

theorem argument_front {n : Option Text} {t : Term} (fit : ∀ w ∈ n, Text.IsName w)
    (emitted : Emitted .whole t) (reads : ReadsWhole t) {fuel : Nat} {s rest : Text}
    (stops : Stops rest) (skipped : skipBlanks s = spelledArgument (n, t) ++ rest)
    (enough : 4 * (spelledArgument (n, t)).length ≤ fuel) :
    nextIs ')' s = false ∧ ∃ u, argumentName? s = n.map (·, u) ∧ (n = Option.none → u = s) ∧
      readWithin fuel u = .ok (t, rest) := by
  have fresh := emitted.fresh stops.plain
  cases n with
  | none => exact ⟨nextIs_head skipped (fresh.opens ')' (by decide)), s,
      argumentName_fresh skipped fresh, fun _ => rfl, reads fuel s rest stops skipped enough⟩
  | some n =>
    simp only [spelledArgument, List.append_assoc] at skipped
    simp only [spelledArgument, List.length_append] at enough
    have named : n.IsName := fit n rfl
    exact ⟨nextIs_head skipped (name_opens named _ ')' (by decide)), spelled t ++ rest,
      argumentName_named named skipped fresh.uneven, (by intro none; cases none),
      reads fuel _ rest stops fresh.unblanked (by omega)⟩

theorem readArguments_last {fuel : Nat} {s u rest : Text} {n : Option Text} {t : Term}
    (opens : nextIs ')' s = false) (name : argumentName? s = n.map (·, u))
    (unnamed : n = Option.none → u = s) (first : readWithin fuel u = .ok (t, .scalar ')' :: rest)) :
    readArguments (fuel + 1) s = .ok (withArgument n t [] [], rest) := by
  rw [readArguments, opens, name]
  cases n with
  | none =>
    cases unnamed rfl
    simp only [Option.map_none, Bool.false_eq_true, ↓reduceIte, bind, Except.bind, first,
      nextIs_other (by decide : ')' ≠ ',') (by decide), readMark_cons (by decide : ')' ≠ ' ')]
    rfl
  | some n =>
    simp only [Option.map_some, Bool.false_eq_true, ↓reduceIte, bind, Except.bind, first,
      nextIs_other (by decide : ')' ≠ ',') (by decide), readMark_cons (by decide : ')' ≠ ' ')]
    rfl

theorem readArguments_more {fuel : Nat} {s u v rest : Text} {n : Option Text} {t : Term}
    {args : List Term} {named : List (Text × Term)} (opens : nextIs ')' s = false)
    (name : argumentName? s = n.map (·, u)) (unnamed : n = Option.none → u = s)
    (first : readWithin fuel u = .ok (t, .scalar ',' :: v))
    (next : readArguments fuel v = .ok ((args, named), rest)) :
    readArguments (fuel + 1) s = .ok (withArgument n t args named, rest) := by
  rw [readArguments, opens, name]
  cases n with
  | none =>
    cases unnamed rfl
    simp only [Option.map_none, Bool.false_eq_true, ↓reduceIte, bind, Except.bind, first,
      nextIs_close (by decide : ',' ≠ ' '), readMark_cons (by decide : ',' ≠ ' '), next]
    rfl
  | some n =>
    simp only [Option.map_some, Bool.false_eq_true, ↓reduceIte, bind, Except.bind, first,
      nextIs_close (by decide : ',' ≠ ' '), readMark_cons (by decide : ',' ≠ ' '), next]
    rfl

theorem argument_unblanked {n : Option Text} {t : Term} (fit : ∀ w ∈ n, Text.IsName w)
    (emitted : Emitted .whole t) {u : Text} (ends : EndsPlain u) :
    skipBlanks (spelledArgument (n, t) ++ u) = spelledArgument (n, t) ++ u := by
  cases n with
  | none => exact (emitted.fresh ends).unblanked
  | some n =>
    have named : n.IsName := fit n rfl
    simp only [spelledArgument, List.append_assoc]
    exact skipBlanks_word named.1 _

theorem arguments_unblanked {es : List (Option Text × Term)}
    (fits : ∀ e ∈ es, ∀ n ∈ e.1, Text.IsName n) (emitted : ∀ e ∈ es, Emitted .whole e.2)
    {u : Text} (stops : Stops u) :
    skipBlanks (Text.joinWith (wording ", ") (es.map spelledArgument) ++ u) =
      Text.joinWith (wording ", ") (es.map spelledArgument) ++ u := by
  cases es with
  | nil => exact stops.skip
  | cons e es =>
    obtain ⟨n, t⟩ := e
    have fit := fits (n, t) (by simp)
    have here := emitted (n, t) (by simp)
    rw [List.map_cons]
    by_cases last : es.map spelledArgument = []
    · rw [last]
      exact argument_unblanked fit here stops.plain
    · rw [joinWith_cons _ _ last, List.append_assoc, List.append_assoc]
      exact argument_unblanked fit here (endsPlain_cons (by decide) (by decide) _)

theorem readArguments_gathered {es : List (Option Text × Term)}
    (fits : ∀ e ∈ es, ∀ n ∈ e.1, Text.IsName n) (emitted : ∀ e ∈ es, Emitted .whole e.2)
    (reads : ∀ e ∈ es, ReadsWhole e.2) {fuel : Nat} {s rest : Text}
    (skipped : skipBlanks s =
      Text.joinWith (wording ", ") (es.map spelledArgument) ++ .scalar ')' :: rest)
    (enough : 4 * (Text.joinWith (wording ", ") (es.map spelledArgument)).length + 1 ≤ fuel) :
    readArguments fuel s = .ok (gathered es, rest) := by
  induction es generalizing fuel s with
  | nil =>
    obtain ⟨fuel, rfl⟩ := Nat.exists_eq_add_of_lt enough
    have close : nextIs ')' s = true := by rw [nextIs, skipped]; rfl
    have mark : readMark ')' s = .ok ((), rest) := by rw [readMark, skipped]; rfl
    rw [readArguments, close, mark]
    rfl
  | cons e es ih =>
    obtain ⟨fuel, rfl⟩ : ∃ k, fuel = k + 1 := ⟨fuel - 1, by omega⟩
    obtain ⟨n, t⟩ := e
    obtain ⟨fit, laterFits⟩ := List.forall_mem_cons.mp fits
    obtain ⟨here, later⟩ := List.forall_mem_cons.mp emitted
    obtain ⟨first, more⟩ := List.forall_mem_cons.mp reads
    have size := joinWith_cons_length (wording ", ") (spelledArgument (n, t)) (es.map spelledArgument)
    rw [List.map_cons] at skipped enough
    cases es with
    | nil =>
      obtain ⟨opens, u, name, unnamed, read⟩ := @argument_front n t fit here first fuel s _
        (stops_cons (by decide : ')' ∈ closers) rest) skipped (by omega)
      exact readArguments_last opens name unnamed read
    | cons f es =>
      have some : (f :: es).map spelledArgument ≠ [] := by simp
      rw [joinWith_cons _ _ some] at skipped enough
      simp only [List.length_append] at enough
      rw [List.append_assoc, List.append_assoc] at skipped
      have two : (wording ", ").length = 2 := rfl
      obtain ⟨opens, u, name, unnamed, read⟩ := @argument_front n t fit here first fuel s _
        (stops_cons (by decide : ',' ∈ closers) _) skipped (by omega)
      have unblanked := arguments_unblanked laterFits later (stops_cons (by decide : ')' ∈ closers) rest)
      have next := @ih laterFits later more fuel
        (.scalar ' ' :: (Text.joinWith (wording ", ") ((f :: es).map spelledArgument) ++
          .scalar ')' :: rest)) (by rw [skipBlanks_blank]; exact unblanked) (by omega)
      exact readArguments_more opens name unnamed read next

def arguments (args : List Term) (named : List (Text × Term)) : List (Option Text × Term) :=
  args.map (Option.none, ·) ++ named.map fun e => (some e.1, e.2)

theorem forall_arguments {args : List Term} {named : List (Text × Term)}
    {P : Option Text × Term → Prop} (byPlace : ∀ a ∈ args, P (Option.none, a))
    (byName : ∀ e ∈ named, P (some e.1, e.2)) : ∀ e ∈ arguments args named, P e := by
  intro e member
  rcases List.mem_append.mp member with place | name
  · obtain ⟨a, inside, rfl⟩ := List.mem_map.mp place
    exact byPlace a inside
  · obtain ⟨f, inside, rfl⟩ := List.mem_map.mp name
    exact byName f inside

theorem spelled_arguments (args : List Term) (named : List (Text × Term)) :
    (arguments args named).map spelledArgument = spelledAll args ++ spelledNamed named := by
  simp [arguments, spelledAll_eq, spelledNamed_eq, Function.comp_def, spelledArgument]

theorem gathered_arguments (args : List Term) (named : List (Text × Term)) :
    gathered (arguments args named) = (args, named) := by
  have byName : gathered (named.map fun e => (some e.1, e.2)) = ([], named) := by
    induction named with
    | nil => rfl
    | cons e named ih => rw [List.map_cons, gathered, ih]; rfl
  unfold arguments
  induction args with
  | nil => exact byName
  | cons a args ih => rw [List.map_cons, List.cons_append, gathered, ih]; rfl

theorem readArguments_spelled {args : List Term} {named : List (Text × Term)}
    (fits : ∀ e ∈ named, e.1.IsName) (emitted : ∀ a ∈ args, Emitted .whole a)
    (emittedNamed : ∀ e ∈ named, Emitted .whole e.2) (reads : ∀ a ∈ args, ReadsWhole a)
    (readsNamed : ∀ e ∈ named, ReadsWhole e.2) {fuel : Nat} (rest : Text)
    (enough : 4 * (Text.joinWith (wording ", ") (spelledAll args ++ spelledNamed named)).length + 1 ≤
      fuel) :
    readArguments fuel (Text.joinWith (wording ", ") (spelledAll args ++ spelledNamed named) ++
      .scalar ')' :: rest) = .ok ((args, named), rest) := by
  have fits' : ∀ e ∈ arguments args named, ∀ n ∈ e.1, Text.IsName n :=
    forall_arguments (fun a _ n none => by cases none)
      (fun e inside n name => by cases name; exact fits e inside)
  have emitted' : ∀ e ∈ arguments args named, Emitted .whole e.2 :=
    forall_arguments emitted emittedNamed
  have reads' : ∀ e ∈ arguments args named, ReadsWhole e.2 := forall_arguments reads readsNamed
  have stops := stops_cons (by decide : ')' ∈ closers) rest
  rw [← spelled_arguments] at enough ⊢
  rw [readArguments_gathered fits' emitted' reads' (arguments_unblanked fits' emitted' stops) enough,
    gathered_arguments]

end Term

end RenderSource
