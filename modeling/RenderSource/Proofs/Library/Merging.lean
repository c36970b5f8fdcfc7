import RenderSource.Library.Collections
import RenderSource.Proofs.Value.Keys
/-!
Merging of dicts. What a merge makes is said by its keys in their order and by its value at each key; the laws
of merging follow from these two.
-/
namespace RenderSource

namespace Store

variable {st : Store} {a b : Address} {c c' : Cell}

theorem get?_set_self (held : st.get? a = some c) (c' : Cell) : (st.set a c').get? a = some c' := by
  have inside : a < st.cells.size := (Array.getElem?_eq_some_iff.mp held).1
  rw [get?, set, Array.getElem?_setIfInBounds_self, if_pos inside]

theorem get?_set_other (other : a ≠ b) (c : Cell) : (st.set a c).get? b = st.get? b := by
  rw [get?, set, Array.getElem?_setIfInBounds, if_neg other, get?]

theorem set_set (st : Store) (a : Address) (c c' : Cell) : (st.set a c).set a c' = st.set a c' := by
  simp only [set, Array.setIfInBounds_setIfInBounds]

theorem set_get? (held : st.get? a = some c) : st.set a c = st := by
  obtain ⟨inside, rfl⟩ := Array.getElem?_eq_some_iff.mp held
  simp [set, Array.setIfInBounds, inside]

namespace AlikeButDicts

theorem refl (st : Store) : st.AlikeButDicts st := ⟨rfl, fun _ => .inl rfl⟩

theorem set {st' : Store} (alike : st.AlikeButDicts st') {es fs : List (Value × Value)} {cls cls' : Derived}
    (dict : st'.get? a = some (.dict es cls)) : st.AlikeButDicts (st'.set a (.dict fs cls')) := by
  constructor
  · exact (size_set st' a _).trans alike.size
  · intro b
    by_cases here : a = b
    · subst here
      refine .inr ?_
      rcases alike.cells a with same | ⟨es₁, cls₁, _, _, before, _⟩
      · exact ⟨es, cls, fs, cls', same ▸ dict, get?_set_self dict _⟩
      · exact ⟨es₁, cls₁, fs, cls', before, get?_set_self dict _⟩
    · rw [get?_set_other here]
      exact alike.cells b

end AlikeButDicts

end Store

namespace Value

variable {st : Store} {k l m : Value}

theorem isKey_refl (st : Store) (k : Value) : k.isKey st k = true := by
  rw [isKey, agrees, if_pos rfl]
  rfl

theorem isKey_congr (key : k.isHashable st = true) (key' : l.isHashable st = true) (key'' : m.isHashable st = true)
    (same : k.isKey st l = true) : k.isKey st m = l.isKey st m := by
  rw [Bool.eq_iff_iff, isKey_iff key key'', isKey_iff key' key'', (isKey_iff key key').mp same]

theorem isKey_comm (key : k.isHashable st = true) (key' : l.isHashable st = true) :
    k.isKey st l = l.isKey st k := by
  rw [Bool.eq_iff_iff, isKey_iff key key', isKey_iff key' key, eq_comm]

end Value

namespace Entries

structure Proper (st : Store) (es : List (Value × Value)) : Prop where
  usable : ∀ k ∈ es.map (·.1), k.isHashable st = true
  apart : (es.map (·.1)).Pairwise fun k l => k.isKey st l = false

def present (es : List (Value × Value)) : List (Value × Value) := es.filter fun e => !e.2.isAbsent

def write (st : Store) (es : List (Value × Value)) (e : Value × Value) : List (Value × Value) :=
  match es with
  | [] => [e]
  | (k, w) :: es => if k.isKey st e.1 then (k, e.2) :: es else (k, w) :: write st es e

/-- Some entries with the present ones of others written over them. -/
def merged (st : Store) (es fs : List (Value × Value)) : List (Value × Value) := (present fs).foldl (write st) es

variable {st st' : Store} {e : Value × Value} {es fs gs ws : List (Value × Value)} {key k v : Value}

theorem put_key (usable : key.isHashable st = true) (v : Value) (es : List (Value × Value)) :
    put st key v es = .ok (write st es (key, v)) := by
  induction es with
  | nil => rfl
  | cons e es ih =>
    rw [put, write, Value.agrees_decided usable]
    cases e.1.isKey st key with
    | true => rfl
    | false =>
      rw [ih]
      rfl

theorem write_alike (alike : st.AlikeButDicts st') (usable : e.1.isHashable st = true)
    (keys : ∀ k ∈ es.map (·.1), k.isHashable st = true) : write st' es e = write st es e := by
  induction es with
  | nil => rfl
  | cons f es ih =>
    obtain ⟨here, later⟩ := List.forall_mem_cons.mp keys
    rw [write, write, alike.isKey here usable, ih later]

theorem valueAt?_cons (st : Store) (e : Value × Value) (es : List (Value × Value)) (key : Value) :
    valueAt? st (e :: es) key = if e.1.isKey st key then some e.2 else valueAt? st es key := by
  rw [valueAt?, List.find?_cons]
  cases e.1.isKey st key <;> rfl

theorem valueAt?_isSome (st : Store) (es : List (Value × Value)) (key : Value) :
    (valueAt? st es key).isSome = (es.map (·.1)).any fun k => k.isKey st key := by
  induction es with
  | nil => rfl
  | cons e es ih =>
    rw [valueAt?_cons, List.map_cons, List.any_cons, ← ih]
    cases e.1.isKey st key <;> rfl

theorem keys_write (st : Store) (es : List (Value × Value)) (e : Value × Value) :
    (write st es e).map (·.1) =
      if (es.map (·.1)).any fun k => k.isKey st e.1 then es.map (·.1) else es.map (·.1) ++ [e.1] := by
  induction es with
  | nil => rfl
  | cons f es ih =>
    rw [write, List.map_cons, List.any_cons]
    cases f.1.isKey st e.1 with
    | true => rfl
    | false =>
      simp only [Bool.false_eq_true, if_false, Bool.false_or, List.map_cons, ih]
      split <;> rfl

theorem valueAt?_write (usable : e.1.isHashable st = true) (key' : key.isHashable st = true)
    (keys : ∀ k ∈ es.map (·.1), k.isHashable st = true) :
    valueAt? st (write st es e) key = if e.1.isKey st key then some e.2 else valueAt? st es key := by
  induction es with
  | nil => exact valueAt?_cons st e [] key
  | cons f es ih =>
    obtain ⟨here, later⟩ := List.forall_mem_cons.mp keys
    rw [write, valueAt?_cons]
    cases same : f.1.isKey st e.1 with
    | true =>
      rw [if_pos rfl, valueAt?_cons, Value.isKey_congr here usable key' same]
      split <;> rfl
    | false =>
      rw [if_neg Bool.false_ne_true, valueAt?_cons, ih later]
      cases first : f.1.isKey st key with
      | false => rfl
      | true =>
        have unlike : e.1.isKey st key = false := by
          rw [Value.isKey_comm usable key', ← Value.isKey_congr here key' usable first, same]
        rw [unlike]
        rfl

namespace Proper

theorem cons (proper : Proper st (e :: es)) : e.1.isHashable st = true ∧
    (∀ k ∈ es.map (·.1), e.1.isKey st k = false) ∧ Proper st es :=
  ⟨proper.usable _ List.mem_cons_self, (List.pairwise_cons.mp proper.apart).1,
    fun k member => proper.usable k (List.mem_cons_of_mem _ member), (List.pairwise_cons.mp proper.apart).2⟩

theorem write (proper : Proper st es) (usable : e.1.isHashable st = true) : Proper st (write st es e) := by
  have keys := keys_write st es e
  cases there : (es.map (·.1)).any fun k => k.isKey st e.1 with
  | true =>
    rw [there, if_pos rfl] at keys
    exact ⟨keys ▸ proper.usable, keys ▸ proper.apart⟩
  | false =>
    rw [there, if_neg Bool.false_ne_true] at keys
    constructor
    · rw [keys]
      exact List.forall_mem_append.mpr ⟨proper.usable, List.forall_mem_singleton.mpr usable⟩
    · rw [keys, List.pairwise_append]
      refine ⟨proper.apart, List.pairwise_singleton _ _, fun k member l last => ?_⟩
      rw [List.mem_singleton.mp last]
      exact Bool.eq_false_iff.mpr (List.any_eq_false.mp there k member)

theorem foldl_write (proper : Proper st es) (usable : ∀ k ∈ ws.map (·.1), k.isHashable st = true) :
    Proper st (ws.foldl (Entries.write st) es) := by
  induction ws generalizing es with
  | nil => exact proper
  | cons w ws ih =>
    obtain ⟨here, later⟩ := List.forall_mem_cons.mp usable
    exact ih (proper.write here) later

theorem present (proper : Proper st es) : Proper st (present es) := by
  have less : ((Entries.present es).map (·.1)).Sublist (es.map (·.1)) := (List.filter_sublist).map _
  exact ⟨fun k member => proper.usable k (less.subset member), proper.apart.sublist less⟩

theorem merged (proper : Proper st es) (proper' : Proper st fs) : Proper st (merged st es fs) :=
  proper.foldl_write proper'.present.usable

theorem valueAt?_rest (proper : Proper st (e :: es)) (usable : key.isHashable st = true)
    (first : e.1.isKey st key = true) : valueAt? st es key = none := by
  obtain ⟨here, apart, rest⟩ := proper.cons
  have unlike : ((es.map (·.1)).any fun k => k.isKey st key) = false := by
    rw [List.any_eq_false]
    intro k member
    rw [Bool.not_eq_true, Value.isKey_comm (rest.usable k member) usable,
      ← Value.isKey_congr here usable (rest.usable k member) first]
    exact apart k member
  rw [← valueAt?_isSome] at unlike
  exact Option.isNone_iff_eq_none.mp (Option.isSome_eq_false_iff.mp unlike)

theorem alike (proper : Proper st es) (alike : st.AlikeButDicts st') : Proper st' es := by
  constructor
  · exact fun k member => (alike.isHashable k).trans (proper.usable k member)
  · refine proper.apart.imp_of_mem fun {k l} member member' unlike => ?_
    rw [alike.isKey (proper.usable k member) (proper.usable l member'), unlike]

end Proper

theorem valueAt?_foldl (proper : Proper st es) (written : Proper st ws) (usable : key.isHashable st = true) :
    valueAt? st (ws.foldl (write st) es) key = (valueAt? st ws key).or (valueAt? st es key) := by
  induction ws generalizing es with
  | nil => rfl
  | cons w ws ih =>
    obtain ⟨here, _, rest⟩ := written.cons
    rw [List.foldl_cons, ih (proper.write here) rest, valueAt?_write here usable proper.usable, valueAt?_cons]
    cases same : w.1.isKey st key with
    | true =>
      rw [written.valueAt?_rest usable same]
      rfl
    | false => rfl

theorem keys_foldl (proper : Proper st es) (written : Proper st ws) :
    (ws.foldl (write st) es).map (·.1) =
      es.map (·.1) ++ (ws.map (·.1)).filter fun k => !(es.map (·.1)).any fun l => l.isKey st k := by
  induction ws generalizing es with
  | nil => exact (List.append_nil _).symm
  | cons w ws ih =>
    obtain ⟨here, apart, rest⟩ := written.cons
    rw [List.foldl_cons, ih (proper.write here) rest, keys_write, List.map_cons, List.filter_cons]
    cases there : (es.map (·.1)).any fun l => l.isKey st w.1 with
    | true => rfl
    | false =>
      have unlike : ∀ k ∈ ws.map (·.1), (!(es.map (·.1) ++ [w.1]).any fun l => l.isKey st k) =
          !(es.map (·.1)).any fun l => l.isKey st k := by
        intro k member
        rw [List.any_append, List.any_cons, apart k member]
        simp
      rw [if_neg Bool.false_ne_true, List.filter_congr unlike, List.append_assoc]
      rfl

theorem valueAt?_present (proper : Proper st es) (usable : key.isHashable st = true) :
    valueAt? st (present es) key = (valueAt? st es key).filter fun v => !v.isAbsent := by
  induction es with
  | nil => rfl
  | cons e es ih =>
    have later := ih proper.cons.2.2
    rw [valueAt?_cons, present, List.filter_cons]
    cases same : e.1.isKey st key with
    | true =>
      have rest := proper.valueAt?_rest usable same
      rw [rest] at later
      cases missing : e.2.isAbsent with
      | true => exact later.trans (by simp [Option.filter_some, missing])
      | false => simp [valueAt?_cons, same, Option.filter_some, missing]
    | false =>
      cases missing : e.2.isAbsent with
      | true => exact later
      | false =>
        refine Eq.trans ?_ later
        simp [valueAt?_cons, same, present]

theorem ext_keys (proper : Proper st es) (proper' : Proper st fs) (keys : es.map (·.1) = fs.map (·.1))
    (values : ∀ key, key.isHashable st = true → valueAt? st es key = valueAt? st fs key) : es = fs := by
  induction es generalizing fs with
  | nil => exact (List.map_eq_nil_iff.mp keys.symm).symm
  | cons e es ih =>
    cases fs with
    | nil => cases keys
    | cons f fs =>
      obtain ⟨first, later⟩ := List.cons.inj keys
      obtain ⟨here, _, rest⟩ := proper.cons
      have first : e.1 = f.1 := first
      have value := values e.1 here
      rw [valueAt?_cons, valueAt?_cons, ← first, Value.isKey_refl] at value
      have whole : e = f := Prod.ext first (Option.some.inj value)
      subst whole
      congr 1
      refine ih rest proper'.cons.2.2 later fun key usable => ?_
      cases found : e.1.isKey st key with
      | true => rw [proper.valueAt?_rest usable found, proper'.valueAt?_rest usable found]
      | false =>
        have equal := values key usable
        rwa [valueAt?_cons, valueAt?_cons, found] at equal

theorem valueAt?_merged (proper : Proper st es) (proper' : Proper st fs) (usable : key.isHashable st = true) :
    valueAt? st (merged st es fs) key =
      ((valueAt? st fs key).filter fun v => !v.isAbsent).or (valueAt? st es key) := by
  rw [merged, valueAt?_foldl proper proper'.present usable, valueAt?_present proper' usable]

theorem keys_merged (proper : Proper st es) (proper' : Proper st fs) :
    (merged st es fs).map (·.1) =
      es.map (·.1) ++ ((present fs).map (·.1)).filter fun k => !(es.map (·.1)).any fun l => l.isKey st k :=
  keys_foldl proper proper'.present

theorem merged_idle (proper : Proper st es) (proper' : Proper st fs)
    (idle : ∀ key, key.isHashable st = true →
      ((valueAt? st fs key).filter fun v => !v.isAbsent).or (valueAt? st es key) = valueAt? st es key) :
    merged st es fs = es := by
  have nothing : ((present fs).map (·.1)).filter (fun k => !(es.map (·.1)).any fun l => l.isKey st k) = [] := by
    rw [List.filter_eq_nil_iff]
    intro k member
    have usable := proper'.present.usable k member
    have there : (valueAt? st (present fs) k).isSome = true := by
      rw [valueAt?_isSome, List.any_eq_true]
      exact ⟨k, member, Value.isKey_refl st k⟩
    rw [← valueAt?_isSome, ← idle k usable, ← valueAt?_present proper' usable, Option.isSome_or, there]
    simp
  apply ext_keys (proper.merged proper') proper
  · rw [keys_merged proper proper', nothing, List.append_nil]
  · intro key usable
    rw [valueAt?_merged proper proper' usable, idle key usable]

theorem merged_again (proper : Proper st es) (proper' : Proper st fs) :
    merged st (merged st es fs) fs = merged st es fs := by
  apply merged_idle (proper.merged proper') proper'
  intro key usable
  rw [valueAt?_merged proper proper' usable]
  cases (valueAt? st fs key).filter fun v => !v.isAbsent <;> rfl

theorem merged_self (proper : Proper st es) : merged st es es = es := by
  apply merged_idle proper proper
  intro key _
  cases valueAt? st es key with
  | none => rfl
  | some v => cases missing : v.isAbsent <;> simp [Option.filter_some, missing]

/-- At a key the right one of two entries stands before the left one, however three are put together. -/
theorem valueAt?_assoc (proper : Proper st es) (proper' : Proper st fs) (proper'' : Proper st gs)
    (usable : key.isHashable st = true) :
    valueAt? st (merged st (merged st es fs) gs) key = valueAt? st (merged st es (merged st fs gs)) key := by
  rw [valueAt?_merged (proper.merged proper') proper'' usable, valueAt?_merged proper proper' usable,
    valueAt?_merged proper (proper'.merged proper'') usable, valueAt?_merged proper' proper'' usable]
  cases valueAt? st gs key with
  | none => rfl
  | some v =>
    cases missing : v.isAbsent with
    | true => simp [Option.filter_some, missing]
    | false => simp [Option.filter_some, missing]

/-- Where the left one of two entries is also the right one, the keys are the same still. -/
theorem isSome_assoc (proper : Proper st es) (proper' : Proper st fs) (usable : key.isHashable st = true) :
    (valueAt? st (merged st es fs) key).isSome =
      (valueAt? st (merged st es (merged st fs es)) key).isSome := by
  rw [valueAt?_merged proper proper' usable, valueAt?_merged proper (proper'.merged proper) usable,
    valueAt?_merged proper' proper usable]
  cases valueAt? st es key with
  | none => simp
  | some v => simp only [Option.isSome_or, Option.isSome_some, Bool.or_true]

theorem valueAt?_alike (alike : st.AlikeButDicts st') (keys : ∀ k ∈ es.map (·.1), k.isHashable st = true)
    (usable : key.isHashable st = true) : valueAt? st' es key = valueAt? st es key := by
  induction es with
  | nil => rw [valueAt?, valueAt?, List.find?_nil, List.find?_nil]
  | cons e es ih =>
    obtain ⟨here, later⟩ := List.forall_mem_cons.mp keys
    rw [valueAt?_cons, valueAt?_cons, alike.isKey here usable, ih later]

theorem find?_alike (alike : st.AlikeButDicts st') (keys : ∀ k ∈ es.map (·.1), k.isHashable st = true)
    (usable : key.isHashable st = true) : find? st' es key = .ok (valueAt? st es key) := by
  rw [find?_key ((alike.isHashable key).trans usable), valueAt?_alike alike keys usable]

end Entries

namespace Value

open Entries

variable {st st' : Store} {a : Address} {es fs ws : List (Value × Value)} {cls : Derived} {v key source : Value}

theorem assign_dict (alike : st.AlikeButDicts st') (dict : st'.get? a = some (.dict es cls)) (proper : Proper st es)
    (usable : key.isHashable st = true) (v : Value) :
    assign st' (.ref a) key v = .ok (st'.set a (.dict (write st es (key, v)) cls)) := by
  have usable' : key.isHashable st' = true := (alike.isHashable key).trans usable
  simp only [assign, dict]
  rw [usable', put_key usable', write_alike alike usable proper.usable]
  rfl

theorem assignAll_dict (alike : st.AlikeButDicts st') (dict : st'.get? a = some (.dict es cls))
    (proper : Proper st es) (usable : ∀ k ∈ ws.map (·.1), k.isHashable st = true) :
    assignAll (.ref a) ws st' = (.ok (), st'.set a (.dict (ws.foldl (write st) es) cls)) := by
  induction ws generalizing es st' with
  | nil =>
    rw [List.foldl_nil, Store.set_get? dict]
    rfl
  | cons w ws ih =>
    obtain ⟨here, later⟩ := List.forall_mem_cons.mp usable
    rw [assignAll, assign_dict alike dict proper here]
    refine (ih (alike.set dict) (Store.get?_set_self dict _) (proper.write here) later).trans ?_
    rw [Store.set_set, List.foldl_cons]

theorem isTrue_mapping (mapping : source.entries? st = some es) : source.isTrue st = !es.isEmpty := by
  unfold entries? at mapping
  cases source with
  | ref b =>
    rw [cell?] at mapping
    rw [isTrue]
    split at mapping
    · next held => cases mapping; rw [held]; rfl
    · next held => cases mapping; rw [held]; rfl
    · cases mapping
  | _ => cases mapping

/-- What a call does, in a store that may have other dicts than when their keys were compared. -/
theorem extend_dict (alike : st.AlikeButDicts st') (dict : st'.get? a = some (.dict es cls))
    (mapping : source.entries? st' = some fs) (proper : Proper st es) (proper' : Proper st fs) :
    extend (.ref a) source st' = (.ok (.ref a), st'.set a (.dict (merged st es fs) cls)) := by
  rw [extend, isTrue_mapping mapping]
  cases fs with
  | nil =>
    rw [show merged st es [] = es from rfl, Store.set_get? dict]
    rfl
  | cons f fs =>
    have written : assignAll (.ref a) ((f :: fs).filter fun e => !e.2.isAbsent) st' = _ :=
      assignAll_dict alike dict proper proper'.present.usable
    simp only [mapping, written]
    rfl

theorem entries?_dict {b : Address} (dict : st.get? b = some (.dict es cls)) : (ref b).entries? st = some es := by
  rw [entries?, cell?, dict]

theorem entries?_set {b : Address} {cls' : Derived} (dict : st.get? a = some (.dict es cls))
    (other : st.get? b = some (.dict fs cls')) (ms : List (Value × Value)) :
    (ref b).entries? (st.set a (.dict ms cls)) = some (if b = a then ms else fs) := by
  by_cases same : b = a
  · rw [entries?, cell?, same, Store.get?_set_self dict, if_pos rfl]
  · rw [entries?, cell?, Store.get?_set_other (Ne.symm same), other, if_neg same]

/-- Merging is right-biased, and merging the same again changes nothing. Two merges one after the other have the
same keys as one merge of what was merged before, and the same values there, but where the last mapping is the
dict that is merged into: that one has changed by then. -/
theorem extend_merges (st : Store) {a b c d : Address} {es fs gs : List (Value × Value)}
    {cls clsB clsC clsD : Derived} (first : st.get? a = some (.dict es cls))
    (second : st.get? b = some (.dict fs clsB)) (third : st.get? c = some (.dict gs clsC))
    (copy : st.get? d = some (.dict fs clsD)) (apart : d ≠ a)
    (proper : Proper st es) (proper' : Proper st fs) (proper'' : Proper st gs) :
    ∃ (ms left right : List (Value × Value)) (st₁ st₂ st₃ st₄ : Store),
      (extend (.ref a) (.ref b) st = (.ok (.ref a), st₁) ∧ st₁ = st.set a (.dict ms cls) ∧ Proper st₁ ms ∧
        (∀ key, key.isHashable st = true → ∃ old new, find? st es key = .ok old ∧ find? st fs key = .ok new ∧
          find? st₁ ms key = .ok ((new.filter fun v => !v.isAbsent).or old)) ∧
        ms.map (·.1) =
          es.map (·.1) ++ ((present fs).map (·.1)).filter fun k => !(es.map (·.1)).any fun l => l.isKey st k) ∧
      extend (.ref a) (.ref b) st₁ = (.ok (.ref a), st₁) ∧
      (extend (.ref a) (.ref c) st₁ = (.ok (.ref a), st₂) ∧ st₂.get? a = some (.dict left cls)) ∧
      (extend (.ref d) (.ref c) st = (.ok (.ref d), st₃) ∧ extend (.ref a) (.ref d) st₃ = (.ok (.ref a), st₄) ∧
        st₄.get? a = some (.dict right cls)) ∧
      ∀ key, key.isHashable st = true → ∃ x y, find? st₂ left key = .ok x ∧ find? st₄ right key = .ok y ∧
        x.isSome = y.isSome ∧ (c ≠ a → x = y) := by
  have same := Store.AlikeButDicts.refl st
  have once := proper.merged proper'
  have inner := proper'.merged proper''
  have alike₁ := @Store.AlikeButDicts.set _ _ _ same _ (merged st es fs) _ cls first
  have dict₁ := Store.get?_set_self first (.dict (merged st es fs) cls)
  have alike₃ := @Store.AlikeButDicts.set _ _ _ same _ (merged st fs gs) _ clsD copy
  have dict₃ := (Store.get?_set_other apart (.dict (merged st fs gs) clsD)).trans first
  -- where the last dict is the first one, it has been merged into before it is read
  have last : Proper st (if c = a then merged st es fs else gs) := by split <;> assumption
  refine ⟨merged st es fs, merged st (merged st es fs) (if c = a then merged st es fs else gs),
    merged st es (merged st fs gs), st.set a (.dict (merged st es fs) cls), _, st.set d (.dict (merged st fs gs) clsD), _,
    ⟨?once, rfl, once.alike alike₁, ?values, keys_merged proper proper'⟩,
    ?again, ⟨?left, Store.get?_set_self dict₁ _⟩, ⟨?inner, ?right, Store.get?_set_self dict₃ _⟩, ?both⟩
  case once => exact extend_dict same first (entries?_dict second) proper proper'
  case values =>
    intro key usable
    refine ⟨_, _, find?_key usable es, find?_key usable fs, ?_⟩
    rw [find?_alike alike₁ once.usable usable, valueAt?_merged proper proper' usable]
  case again =>
    have next := entries?_set first second (merged st es fs)
    by_cases target : b = a
    · rw [if_pos target] at next
      rw [extend_dict alike₁ dict₁ next once once, merged_self once, Store.set_set]
    · rw [if_neg target] at next
      rw [extend_dict alike₁ dict₁ next once proper', merged_again proper proper', Store.set_set]
  case left => exact extend_dict alike₁ dict₁ (entries?_set first third _) once last
  case inner => exact extend_dict same copy (entries?_dict third) proper' proper''
  case right => exact extend_dict alike₃ dict₃ (entries?_dict (Store.get?_set_self copy _)) proper inner
  case both =>
    intro key usable
    refine ⟨_, _, find?_alike (alike₁.set dict₁) (once.merged last).usable usable,
      find?_alike (alike₃.set dict₃) (proper.merged inner).usable usable, ?_⟩
    by_cases target : c = a
    · obtain rfl : es = gs := by
        subst target
        rw [third] at first
        cases first
        rfl
      rw [if_pos target, merged_self once]
      exact ⟨isSome_assoc proper proper' usable, fun other => absurd target other⟩
    · rw [if_neg target, valueAt?_assoc proper proper' proper'' usable]
      exact ⟨rfl, fun _ => rfl⟩

def oneKey : Store :=
  ⟨#[.dict [(.ofInt 1, .ofText (wording "a")), (.ofText (wording "u"), .absent .own)] .none,
    .dict [(.bool true, .ofText (wording "b")), (.ofText (wording "n"), .absent .own), (.ofText (wording "m"), .none)]
      .none,
    .dict [(.float (.nearestInt 1 1) .none 0, .absent .foreign), (.ofText (wording "u"), .ofInt 5)] .none,
    .dict [(.bool true, .ofText (wording "b")), (.ofText (wording "n"), .absent .own), (.ofText (wording "m"), .none)]
      .none], #[]⟩

theorem extend_merges_oneKey : ∃ ms st₁, extend (.ref 0) (.ref 1) oneKey = (.ok (.ref 0), st₁) ∧
    st₁ = oneKey.set 0 (.dict ms .none) ∧
    ms.map (·.1) = [.ofInt 1, .ofText (wording "u"), .ofText (wording "m")] ∧
    find? st₁ ms (.ofInt 1) = .ok (some (.ofText (wording "b"))) ∧
    extend (.ref 0) (.ref 1) st₁ = (.ok (.ref 0), st₁) := by
  obtain ⟨ms, _, _, st₁, _, _, _, ⟨call, made, _, values, keys⟩, again, _⟩ :=
    extend_merges oneKey (a := 0) (b := 1) (c := 2) (d := 3) rfl rfl rfl rfl (by decide)
      ⟨by decide, by decide⟩ ⟨by decide, by decide⟩
      ⟨by decide, by decide⟩
  obtain ⟨old, new, before, written, after⟩ := values (.ofInt 1) (by decide)
  cases before
  cases written
  exact ⟨ms, st₁, call, made, keys.trans (by decide), after, again⟩

def twoDicts : Store :=
  ⟨#[.dict [(.ofText (wording "k"), .ofInt 1)] .none, .dict [(.ofText (wording "k"), .ofInt 2)] .none,
    .dict [(.ofText (wording "k"), .ofInt 2)] .none], #[]⟩

/-- Where the last mapping is the dict that is merged into, the two ways to merge end in other values. -/
theorem extend_unassociated :
    Proper twoDicts [(.ofText (wording "k"), .ofInt 1)] ∧ Proper twoDicts [(.ofText (wording "k"), .ofInt 2)] ∧
    (extend (.ref 0) (.ref 0) (extend (.ref 0) (.ref 1) twoDicts).2).2.get? 0 =
      some (.dict [(.ofText (wording "k"), .ofInt 2)] .none) ∧
    (extend (.ref 0) (.ref 2) (extend (.ref 2) (.ref 0) twoDicts).2).2.get? 0 =
      some (.dict [(.ofText (wording "k"), .ofInt 1)] .none) :=
  ⟨⟨by decide, by decide⟩, ⟨by decide, by decide⟩, by decide,
    by decide⟩

end Value

end RenderSource
