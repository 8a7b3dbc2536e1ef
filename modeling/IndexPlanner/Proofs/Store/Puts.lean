import IndexPlanner.Proofs.Json.Same
import IndexPlanner.Store.Memory
import Mathlib.Data.List.Forall2
import Mathlib.Data.List.Induction
import Mathlib.Data.Option.Basic

/-! What a store in memory holds after one put and another: under each key the last record put under
it, with the number of times that one was, and these records in the order in which their keys were
first put. All of that rests on sameness of keys being an equivalence. -/
namespace IndexPlanner

/-- Of what is related the first stays; what is put behind a list is new when it is related to
nothing that has stayed. -/
theorem eraseDupsBy_concat {α : Type} (r : α → α → Bool) (l : List α) (a : α) :
    (l ++ [a]).eraseDupsBy r =
      if (l.eraseDupsBy r).any (r a) then l.eraseDupsBy r else l.eraseDupsBy r ++ [a] := by
  have hloop : ∀ kept : List α, List.eraseDupsBy.loop r (l ++ [a]) kept =
      if (List.eraseDupsBy.loop r l kept).any (r a) then List.eraseDupsBy.loop r l kept
      else List.eraseDupsBy.loop r l kept ++ [a] := by
    induction l with
    | nil =>
      intro kept
      rw [List.nil_append, List.eraseDupsBy.loop, List.eraseDupsBy.loop, List.any_reverse]
      cases kept.any (r a) <;> simp [List.eraseDupsBy.loop]
    | cons b l ih =>
      intro kept
      rw [List.cons_append, List.eraseDupsBy.loop, List.eraseDupsBy.loop]
      cases kept.any (r b) with
      | true => exact ih kept
      | false => exact ih (b :: kept)
  exact hloop []

namespace Key

variable {a b : Key}

/-- The key itself, but no zero in it has a sign. -/
def plain (k : Key) : Key := { k with userKey := k.userKey.plain }

theorem same_iff : a.same b = true ↔ a.plain = b.plain := by
  simp [same, plain, Json.Value.same_iff, and_assoc]

theorem same_refl (a : Key) : a.same a = true := same_iff.2 rfl

theorem same_comm (a b : Key) : a.same b = b.same a := by
  rw [Bool.eq_iff_iff, same_iff, same_iff, eq_comm]

theorem same_congr (h : a.same b = true) (c : Key) : a.same c = b.same c := by
  rw [Bool.eq_iff_iff, same_iff, same_iff, same_iff.1 h]

theorem space_eq_of_same (h : a.same b = true) : a.space = b.space := by
  have hplain := congrArg space (same_iff.1 h)
  exact hplain

end Key

namespace MemoryStore

open Json (Value)

variable {r : Record} {l puts : List Record} {keys : List Key}

/-! One put. -/

/-- A put changes what is found under the key of the record, and nothing else. -/
theorem find?_putInto (r : Record) (l : List Record) (key : Key) :
    (putInto r l).find? (·.key.same key) =
      if r.key.same key then
        some { r with generation :=
          ((l.find? (·.key.same key)).map (·.generation + 1)).getD r.generation }
      else l.find? (·.key.same key) := by
  induction l with
  | nil => simp [putInto, List.find?_singleton]
  | cons old l ih =>
    rw [putInto]
    by_cases hold : old.key.same r.key = true
    · rw [if_pos hold, List.find?_cons, List.find?_cons, Key.same_congr hold key]
      cases r.key.same key <;> rfl
    · rw [if_neg hold, List.find?_cons, List.find?_cons, ih]
      cases hkey : r.key.same key with
      | false => rfl
      | true =>
        have hother : old.key.same key = false := by
          rw [Key.same_comm, ← Key.same_congr hkey, Key.same_comm]
          exact Bool.eq_false_iff.2 hold
        rw [hother]

theorem mem_putInto {s : Record} (h : s ∈ putInto r l) : s.key = r.key ∨ s ∈ l := by
  induction l with
  | nil =>
    rw [putInto, List.mem_singleton] at h
    exact .inl (congrArg Record.key h)
  | cons old l ih =>
    rw [putInto] at h
    split at h
    · rcases List.mem_cons.1 h with rfl | h
      · exact .inl rfl
      · exact .inr (List.mem_cons_of_mem old h)
    · rcases List.mem_cons.1 h with rfl | h
      · exact .inr List.mem_cons_self
      · exact (ih h).imp id (List.mem_cons_of_mem old)

/-- No two of the records have the same key. -/
def Distinct (l : List Record) : Prop := l.Pairwise fun a b => a.key.same b.key = false

theorem Distinct.putInto (h : Distinct l) (r : Record) : Distinct (putInto r l) := by
  induction l with
  | nil => exact List.pairwise_singleton _ r
  | cons old l ih =>
    obtain ⟨hold, hl⟩ := List.pairwise_cons.1 h
    rw [MemoryStore.putInto]
    split
    · next hsame =>
      refine List.pairwise_cons.2 ⟨fun s hs => ?_, hl⟩
      rw [← Key.same_congr hsame]
      exact hold s hs
    · next hsame =>
      refine List.pairwise_cons.2 ⟨fun s hs => ?_, ih hl⟩
      rcases mem_putInto hs with hs | hs
      · rw [hs]
        exact Bool.eq_false_iff.2 hsame
      · exact hold s hs

theorem Distinct.find?_eq_some (h : Distinct l) (hr : r ∈ l) :
    l.find? (·.key.same r.key) = some r := by
  induction l with
  | nil => cases hr
  | cons old l ih =>
    obtain ⟨hold, hl⟩ := List.pairwise_cons.1 h
    rcases List.mem_cons.1 hr with rfl | hr
    · rw [List.find?_cons, Key.same_refl]
    · rw [List.find?_cons, hold r hr, ih hl hr]

/-- The records have the keys in their order. -/
def HasKeys (l : List Record) (keys : List Key) : Prop :=
  List.Forall₂ (fun r k => r.key.same k = true) l keys

/-- A put keeps the order of the keys, and a new key comes last. -/
theorem HasKeys.putInto (h : HasKeys l keys) (r : Record) :
    HasKeys (putInto r l) (if keys.any r.key.same then keys else keys ++ [r.key]) := by
  induction h with
  | nil => exact .cons (Key.same_refl r.key) .nil
  | @cons old k l keys hold hrest ih =>
    rw [MemoryStore.putInto, List.any_cons, Key.same_comm r.key k, ← Key.same_congr hold]
    split
    · next hsame =>
      rw [hsame, Bool.true_or, if_pos rfl]
      refine .cons ?_ hrest
      rw [← Key.same_congr hsame]
      exact hold
    · next hsame =>
      rw [Bool.eq_false_iff.2 hsame, Bool.false_or]
      split at ih
      · next hany =>
        rw [if_pos hany]
        exact .cons hold ih
      · next hany =>
        rw [if_neg hany]
        exact .cons hold ih

/-! One put and another. -/

/-- The store after all the records have been put. -/
def putAll (s : MemoryStore) (puts : List Record) : MemoryStore := puts.foldl put s

theorem records_putAll_concat (s : MemoryStore) (puts : List Record) (r : Record) :
    (s.putAll (puts ++ [r])).records = putInto r (s.putAll puts).records := by
  rw [putAll, List.foldl_append]
  rfl

/-- What puts leave under a key: the last record with the key, counted as often as one was put. -/
def lastPut (puts : List Record) (key : Key) : Option Record :=
  (puts.reverse.find? (·.key.same key)).map fun r =>
    { r with generation := puts.countP (·.key.same key) }

/-- The keys of the puts, each where it was first put. -/
def keysOf (puts : List Record) : List Key := (puts.map Record.key).eraseDupsBy Key.same

theorem lastPut_concat (puts : List Record) (r : Record) (key : Key) :
    lastPut (puts ++ [r]) key = if r.key.same key then
      some { r with generation := puts.countP (·.key.same key) + 1 } else lastPut puts key := by
  rw [lastPut, List.reverse_concat, List.find?_cons, List.countP_append, List.countP_singleton]
  cases r.key.same key <;> rfl

theorem generation_lastPut (puts : List Record) (key : Key) :
    ((lastPut puts key).map (·.generation + 1)).getD 1 = puts.countP (·.key.same key) + 1 := by
  rw [lastPut]
  cases hfind : puts.reverse.find? (·.key.same key) with
  | none =>
    have hnone : puts.countP (·.key.same key) = 0 := by
      rw [List.countP_eq_zero]
      exact fun r hr => List.find?_eq_none.1 hfind r (List.mem_reverse.2 hr)
    rw [hnone]
    rfl
  | some r => rfl

theorem find?_putAll (h : ∀ r ∈ puts, r.generation = 1) (key : Key) :
    (putAll {} puts).find? key = lastPut puts key := by
  induction puts using List.reverseRecOn with
  | nil => rfl
  | append_singleton puts r ih =>
    obtain ⟨hputs, hr⟩ := List.forall_mem_append.1 h
    have ih : (putAll {} puts).records.find? (·.key.same key) = lastPut puts key := ih hputs
    rw [find?, records_putAll_concat, find?_putInto, ih, lastPut_concat, hr r List.mem_cons_self,
      generation_lastPut]

theorem distinct_putAll (puts : List Record) : Distinct (putAll {} puts).records := by
  induction puts using List.reverseRecOn with
  | nil => exact List.Pairwise.nil
  | append_singleton puts r ih =>
    rw [records_putAll_concat]
    exact ih.putInto r

theorem hasKeys_putAll (puts : List Record) : HasKeys (putAll {} puts).records (keysOf puts) := by
  induction puts using List.reverseRecOn with
  | nil => exact .nil
  | append_singleton puts r ih =>
    rw [records_putAll_concat, keysOf, List.map_append, List.map_singleton, eraseDupsBy_concat]
    exact ih.putInto r

/-- Each key finds the record in its place. -/
theorem forall₂_find?_putAll (puts : List Record) :
    List.Forall₂ (fun r k => some r = (putAll {} puts).find? k ∧ r.key.space = k.space)
      (putAll {} puts).records (keysOf puts) := by
  have hfound : ∀ r ∈ (putAll {} puts).records, some r = (putAll {} puts).find? r.key :=
    fun r hr => ((distinct_putAll puts).find?_eq_some hr).symm
  refine ((List.forall₂_and_left _ _).2 ⟨hfound, hasKeys_putAll puts⟩).imp ?_
  rintro r k ⟨hr, hsame⟩
  refine ⟨?_, Key.space_eq_of_same hsame⟩
  rw [hr, find?, find?]
  congr 1
  funext r'
  rw [Key.same_comm, Key.same_congr hsame, Key.same_comm]

/-- The records of a namespace are what its keys find. -/
theorem map_some_matching_putAll (puts : List Record) (space : String) :
    ((putAll {} puts).matching ⟨⟨space, none⟩, none⟩).map some =
      ((keysOf puts).filter (·.space == space)).map (putAll {} puts).find? := by
  have hkept : List.Forall₂ (fun r k => some r = (putAll {} puts).find? k ∧ r.key.space = k.space)
      ((putAll {} puts).matching ⟨⟨space, none⟩, none⟩)
      ((keysOf puts).filter (·.space == space)) := by
    refine List.rel_filter ?_ (forall₂_find?_putAll puts)
    rintro r k ⟨_, hspace⟩
    simp [ScanRequest.selects, Key.isIn, hspace]
  rw [← List.forall₂_eq_eq_eq, List.forall₂_map_left_iff, List.forall₂_map_right_iff]
  exact hkept.imp fun r k h => h.1

/-- A store in memory is a map in the order of insertion that counts versions. Whatever records are
put, each of them new, a key finds the last one that was put under it, with the number of times that
one was; and a query of a whole namespace gives one record for each of its keys, the one that the
key finds, in the order in which the keys were first put. -/
theorem map_of_puts (puts : List Record) (h : ∀ r ∈ puts, r.generation = 1) :
    (∀ key, (putAll {} puts).find? key = lastPut puts key) ∧
    ∀ space, ∃ found, ((putAll {} puts).query ⟨⟨space, none⟩, none⟩).1 = .ofRecords found ∧
      found.map some = ((keysOf puts).filter (·.space == space)).map (putAll {} puts).find? :=
  ⟨find?_putAll h, fun space => ⟨_, rfl, map_some_matching_putAll puts space⟩⟩

/-- A new record with a number in it. -/
def numbered (space : String) (key : Value) (n : Int) : Record :=
  ⟨⟨space, none, key⟩, [("n", .ofInt n)], 1⟩

/-- The zero of the floating-point numbers that has a sign. -/
def signedZero : Value := .number (.real { (default : Binary64) with negative := true })

/-- The other one. -/
def unsignedZero : Value := .number (.real default)

/-- Records are put under both zeros and under the integer, and in another namespace, too. -/
def zeros : List Record :=
  [numbered "a" unsignedZero 1, numbered "b" unsignedZero 2, numbered "a" (.ofInt 0) 3,
    numbered "a" signedZero 4]

/-- The two zeros are one key, the integer is another one. -/
theorem map_of_puts_zeros :
    (putAll {} zeros).find? ⟨"a", none, unsignedZero⟩ =
      some { numbered "a" signedZero 4 with generation := 2 } ∧
    ((putAll {} zeros).query ⟨⟨"a", none⟩, none⟩).1 =
      .ofRecords [{ numbered "a" signedZero 4 with generation := 2 },
        numbered "a" (.ofInt 0) 3] := by
  have hnew : ∀ r ∈ zeros, r.generation = 1 := by simp [zeros, numbered]
  obtain ⟨hfind, hquery⟩ := map_of_puts zeros hnew
  obtain ⟨found, hcursor, hfound⟩ := hquery "a"
  have hrecords : found = [{ numbered "a" signedZero 4 with generation := 2 },
      numbered "a" (.ofInt 0) 3] := List.map_injective_iff.2 (Option.some_injective _) hfound
  refine ⟨hfind _, ?_⟩
  rw [hcursor, hrecords]

end MemoryStore

end IndexPlanner
