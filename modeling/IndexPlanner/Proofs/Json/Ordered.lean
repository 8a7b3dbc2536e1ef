import IndexPlanner.Json.Document

/-! Values whose objects keep their members in order. All values that are read are of this kind, and
they are the values that a tree gives back. -/
namespace IndexPlanner.Json

namespace Members

variable {members acc : Members} {key : String} {value : Value}

/-- The keys stand in ascending order, each key once. -/
def Ascending (members : Members) : Prop := members.Pairwise (compare ·.1 ·.1 = .lt)

theorem insert_of_forall_gt (h : ∀ m ∈ members, compare key m.1 = .gt) :
    members.insert key value = members ++ [(key, value)] := by
  induction members with
  | nil => rfl
  | cons m members ih =>
    obtain ⟨k, v⟩ := m
    rw [List.forall_mem_cons] at h
    simp only [insert, h.1]
    rw [ih h.2]
    rfl

theorem foldl_insert_of_ascending (h : Ascending (acc ++ members)) :
    members.foldl (fun acc m => acc.insert m.1 m.2) acc = acc ++ members := by
  induction members generalizing acc with
  | nil => rw [List.foldl_nil, List.append_nil]
  | cons m members ih =>
    have hgt : ∀ m' ∈ acc, compare m.1 m'.1 = .gt := by
      intro m' hm'
      have hlt := (List.pairwise_append.1 h).2.2 m' hm' m List.mem_cons_self
      exact Std.OrientedCmp.gt_of_lt hlt
    rw [List.append_cons] at h
    rw [List.foldl_cons, insert_of_forall_gt hgt, ih h, ← List.append_cons]

/-- Members that are in order stay as they are. -/
theorem ofList_of_ascending (h : Ascending members) : ofList members = members :=
  foldl_insert_of_ascending (List.nil_append members ▸ h)

/-! Members that are put in their places are in order. -/

theorem mem_insert {m : String × Value} (h : m ∈ members.insert key value) :
    m = (key, value) ∨ m ∈ members := by
  induction members with
  | nil => simpa [insert] using h
  | cons m' members ih =>
    obtain ⟨k, v⟩ := m'
    simp only [insert] at h
    split at h
    · simpa using h
    · simp only [List.mem_cons] at h ⊢
      exact h.imp_right .inr
    · simp only [List.mem_cons] at h ⊢
      rcases h with rfl | h
      · exact .inr (.inl rfl)
      · exact (ih h).imp_right .inr

theorem Ascending.insert (h : Ascending members) : Ascending (members.insert key value) := by
  induction members with
  | nil => exact List.pairwise_singleton _ _
  | cons m members ih =>
    obtain ⟨k, v⟩ := m
    obtain ⟨hfirst, hrest⟩ := List.pairwise_cons.1 h
    simp only [Members.insert]
    split
    · next hlt =>
      refine List.pairwise_cons.2 ⟨?_, h⟩
      intro m hm
      rcases List.mem_cons.1 hm with rfl | hm
      · exact hlt
      · exact Std.TransCmp.lt_trans hlt (hfirst m hm)
    · next heq =>
      have hkey : key = k := Std.LawfulEqCmp.eq_of_compare heq
      rw [hkey]
      exact List.pairwise_cons.2 ⟨hfirst, hrest⟩
    · next hgt =>
      refine List.pairwise_cons.2 ⟨?_, ih hrest⟩
      intro m hm
      rcases mem_insert hm with rfl | hm
      · exact Std.OrientedCmp.lt_of_gt hgt
      · exact hfirst m hm

theorem ascending_ofList (members : List (String × Value)) : Ascending (ofList members) := by
  suffices h : ∀ acc : Members, Ascending acc →
      Ascending (members.foldl (fun acc m => acc.insert m.1 m.2) acc) from h [] List.Pairwise.nil
  induction members with
  | nil => exact fun _ h => h
  | cons m members ih => exact fun acc h => ih _ h.insert

theorem mem_ofList {m : String × Value} {members : List (String × Value)} (h : m ∈ ofList members) :
    m ∈ members := by
  suffices hfold : ∀ acc : Members, m ∈ members.foldl (fun acc m => acc.insert m.1 m.2) acc →
      m ∈ acc ∨ m ∈ members by
    simpa using hfold [] h
  clear h
  induction members with
  | nil => exact fun acc h => .inl h
  | cons m' members ih =>
    intro acc h
    rcases ih _ h with h | h
    · rcases mem_insert h with rfl | h
      · exact .inr List.mem_cons_self
      · exact .inl h
    · exact .inr (List.mem_cons_of_mem m' h)

end Members

namespace Value

mutual
/-- All objects in the value have their members in order. -/
def Ordered : Value → Prop
  | array items => AllOrdered items
  | object members => Members.Ascending members ∧ MembersOrdered members
  | _ => True

def AllOrdered : List Value → Prop
  | [] => True
  | v :: vs => Ordered v ∧ AllOrdered vs

def MembersOrdered : List (String × Value) → Prop
  | [] => True
  | (_, v) :: rest => Ordered v ∧ MembersOrdered rest
end

theorem membersOrdered_iff (members : List (String × Value)) :
    MembersOrdered members ↔ ∀ m ∈ members, Ordered m.2 := by
  induction members with
  | nil => simp [MembersOrdered]
  | cons m members ih => rw [MembersOrdered, ih, List.forall_mem_cons]

end Value

namespace Document

open Value (Ordered AllOrdered MembersOrdered)

theorem ofValue_single (key : String) (v : Value) :
    ofValue (.object [(key, v)]) = object [(some key, ofValue v)] := by
  rw [ofValue, ofMembers, ofMembers]

mutual
theorem value?_ofValue {v : Value} (h : v.Ordered) : (ofValue v).value? = some v := by
  cases v with
  | array items =>
    rw [Ordered] at h
    rw [ofValue, value?, items?_ofItems h, Option.map_some]
  | object members =>
    rw [Ordered] at h
    rw [ofValue, value?, members?_ofMembers h.2, Option.map_some, Value.ofMembers,
      Members.ofList_of_ascending h.1]
  | _ => rfl

theorem items?_ofItems {vs : List Value} (h : AllOrdered vs) : items? (ofItems vs) = some vs := by
  cases vs with
  | nil => rfl
  | cons v vs =>
    rw [AllOrdered] at h
    rw [ofItems, items?, value?_ofValue h.1, items?_ofItems h.2]
    rfl

theorem members?_ofMembers {members : List (String × Value)} (h : MembersOrdered members) :
    members? (ofMembers members) = some members := by
  cases members with
  | nil => rfl
  | cons m members =>
    rw [MembersOrdered] at h
    rw [ofMembers, members?, value?_ofValue h.1, members?_ofMembers h.2]
    rfl
end

mutual
/-- What is read is in order. -/
theorem ordered_of_value? {d : Document} {v : Value} (h : d.value? = some v) : v.Ordered := by
  cases d with
  | array items =>
    obtain ⟨vs, hvs, rfl⟩ := Option.map_eq_some_iff.1 h
    exact allOrdered_of_items? hvs
  | object members =>
    obtain ⟨ms, hms, rfl⟩ := Option.map_eq_some_iff.1 h
    refine ⟨Members.ascending_ofList ms, ?_⟩
    have hordered := membersOrdered_of_members? hms
    rw [Value.membersOrdered_iff] at hordered ⊢
    exact fun m hm => hordered m (Members.mem_ofList hm)
  | unreadable => cases h
  | broken => cases h
  | _ =>
    cases h
    trivial

theorem allOrdered_of_items? {ds : List Document} {vs : List Value} (h : items? ds = some vs) :
    AllOrdered vs := by
  cases ds with
  | nil =>
    cases h
    trivial
  | cons d ds =>
    obtain ⟨v, hv, h⟩ := Option.bind_eq_some_iff.1 h
    obtain ⟨vs', hvs, h⟩ := Option.bind_eq_some_iff.1 h
    cases h
    exact ⟨ordered_of_value? hv, allOrdered_of_items? hvs⟩

theorem membersOrdered_of_members? {members : List (Option String × Document)}
    {ms : List (String × Value)} (h : members? members = some ms) : MembersOrdered ms := by
  match members with
  | [] =>
    cases h
    trivial
  | (none, _) :: _ => cases h
  | (some k, d) :: rest =>
    obtain ⟨v, hv, h⟩ := Option.bind_eq_some_iff.1 h
    obtain ⟨ms', hms, h⟩ := Option.bind_eq_some_iff.1 h
    cases h
    exact ⟨ordered_of_value? hv, membersOrdered_of_members? hms⟩
end

end Document

end IndexPlanner.Json
