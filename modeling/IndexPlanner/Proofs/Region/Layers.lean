import IndexPlanner.Proofs.Json.Quoted
import IndexPlanner.Region

/-! Points inside of texts. A point may be spelled by a text, which may be spelled by another text,
and so on. Every text is longer than the string that it spells, so there is a last one. What is in
the last one counts, however many texts are around it. -/
namespace IndexPlanner

open Json (Members Value)

namespace Json.Value

/-- The value inside of so many texts, each of them written as a string in the next. -/
def layered (v : Value) : Nat → Value
  | 0 => v
  | n + 1 => .string (layered v n).text

/-- The value is the same after it has been written and read again. -/
def ReadsBack (v : Value) : Prop := Value.read v.text = some v

/-- A bound on the number of texts that lie inside each other. -/
def room : Value → Nat
  | .string t => t.length + 1
  | _ => 0

variable {v : Value}

/-- Strings are read back, so only other values have to be asked. -/
theorem readsBack_of (h : v.isString = false → v.ReadsBack) : v.ReadsBack := by
  cases v with
  | string s => exact read_text_string s
  | _ => exact h rfl

theorem readsBack_layered (h : v.ReadsBack) (n : Nat) : (v.layered n).ReadsBack := by
  cases n with
  | zero => exact h
  | succ n => exact read_text_string (v.layered n).text

end Json.Value

namespace GeoPoint

/-- How a point is found in a value: so many texts are read, one inside the other, until there is an
object, which spells a point or not, or something else. -/
inductive Unfolds : Nat → Value → Option GeoPoint → Prop
  | text {n : Nat} {t : String} {v : Value} {p : Option GeoPoint} (hread : Value.read t = some v)
      (h : Unfolds n v p) : Unfolds (n + 1) (.string t) p
  | unreadable {t : String} (hread : Value.read t = none) : Unfolds 1 (.string t) none
  | object (members : Members) : Unfolds 0 (.object members) (ofMembers? members)
  | other {v : Value} (hstring : v.string? = none) (hobject : v.object? = none) : Unfolds 0 v none

/-- A text counts as what it spells. -/
theorem ofText?_eq (t : String) : ofText? t = (Value.read t).bind ofValue? := by
  rw [ofText?]
  split
  · next h => rw [h, Option.bind_some, ofValue?]
  · next h => rw [h, Option.bind_some, ofValue?]
  · next hstring hobject =>
    cases h : Value.read t with
    | none => rfl
    | some v =>
      cases v with
      | string s => exact absurd h (hstring s)
      | object members => exact absurd h (hobject members)
      | _ => rfl

theorem ofValue?_string (t : String) : ofValue? (.string t) = (Value.read t).bind ofValue? := by
  rw [ofValue?, ofText?_eq]

/-- All that is found is the point of the value. -/
theorem Unfolds.eq_ofValue? {n : Nat} {v : Value} {p : Option GeoPoint} (h : Unfolds n v p) :
    p = ofValue? v := by
  induction h with
  | text hread _ ih => rw [ofValue?_string, hread, Option.bind_some, ih]
  | unreadable hread => rw [ofValue?_string, hread, Option.bind_none]
  | object members => rfl
  | @other v hstring hobject =>
    cases v with
    | string t => cases hstring
    | object members => cases hobject
    | _ => rfl

theorem exists_unfolds_zero {v : Value} (h : v.string? = none) : ∃ p, Unfolds 0 v p := by
  cases v with
  | string t => cases h
  | object members => exact ⟨_, .object members⟩
  | _ => exact ⟨none, .other rfl rfl⟩

/-- The texts inside of a text come to an end, for each is shorter than the one around it. -/
theorem exists_unfolds_text (t : String) : ∃ n ≤ t.length + 1, ∃ p, Unfolds n (.string t) p := by
  cases hread : Value.read t with
  | none => exact ⟨1, by omega, none, .unreadable hread⟩
  | some v =>
    cases hstring : v.string? with
    | none =>
      obtain ⟨p, hp⟩ := exists_unfolds_zero hstring
      exact ⟨1, by omega, p, .text hread hp⟩
    | some s =>
      obtain rfl := Value.string?_eq_some_iff.1 hstring
      have hshorter := Value.length_of_read hread
      obtain ⟨n, hn, p, hp⟩ := exists_unfolds_text s
      exact ⟨n + 1, by omega, p, .text hread hp⟩
termination_by t.length

theorem unfolds_ofValue? (v : Value) : ∃ n ≤ v.room, Unfolds n v (ofValue? v) := by
  cases hstring : v.string? with
  | none =>
    obtain ⟨p, hp⟩ := exists_unfolds_zero hstring
    exact ⟨0, Nat.zero_le _, hp.eq_ofValue? ▸ hp⟩
  | some t =>
    obtain rfl := Value.string?_eq_some_iff.1 hstring
    obtain ⟨n, hn, p, hp⟩ := exists_unfolds_text t
    exact ⟨n, hn, hp.eq_ofValue? ▸ hp⟩

/-- A value counts the same inside of texts. -/
theorem ofValue?_layered {v : Value} (h : v.ReadsBack) (n : Nat) :
    ofValue? (v.layered n) = ofValue? v := by
  induction n with
  | zero => rfl
  | succ n ih =>
    have hread : Value.read (v.layered n).text = some (v.layered n) := Value.readsBack_layered h n
    rw [Value.layered, ofValue?_string, hread, Option.bind_some, ih]

end GeoPoint

namespace Region

/-- Reading a point through texts ends and changes nothing. A text that spells a string is longer
than the string. So the point of every value is found after so many texts that the value has room
for, and nothing else is found. A region contains a value that reads back, as every string does,
just when it contains the value inside of any number of texts. -/
theorem contains_layered :
    (∀ t s, Value.read t = some (.string s) → s.length < t.length) ∧
    (∀ v, (∃ n ≤ v.room, GeoPoint.Unfolds n v (GeoPoint.ofValue? v)) ∧
      ∀ n p, GeoPoint.Unfolds n v p → p = GeoPoint.ofValue? v) ∧
    ∀ v : Value, (v.isString = false → v.ReadsBack) →
      ∀ (r : Region) (n : Nat), r.contains (v.layered n) = r.contains v := by
  refine ⟨fun _ _ => Value.length_of_read, fun v => ⟨GeoPoint.unfolds_ofValue? v,
    fun _ _ h => h.eq_ofValue?⟩, fun v hv r n => ?_⟩
  rw [contains, contains, GeoPoint.ofValue?_layered (Value.readsBack_of hv)]

/-! A point, and the texts around it. -/

/-- The point on the equator at one degree east. -/
def eastOfOrigin : Value :=
  .ofMembers [("type", .string "Point"), ("coordinates", .array [.ofInt 1, .ofInt 0])]

/-- The point as it is written. -/
def eastText : String := "\x7b\"coordinates\":[1,0],\"type\":\"Point\"\x7d"

theorem readsBack_eastOfOrigin : eastOfOrigin.ReadsBack := by
  have htext : eastOfOrigin.text = eastText := by decide +kernel
  have htokens : Json.Token.ofText eastText =
      [.openObject, .text (some "coordinates"), .colon, .openArray, .number (some (.ofInt 1)),
        .comma, .number (some (.ofInt 0)), .closeArray, .comma, .text (some "type"), .colon,
        .text (some "Point"), .closeObject] := by decide +kernel
  rw [Value.ReadsBack, htext, Value.read, Json.Document.read, htokens]
  rfl

/-- The text of a text is longer than it, the point is found in one text, and three texts around it
make no difference. -/
theorem contains_layered_eastOfOrigin :
    Value.read (Value.string eastText).text = some (.string eastText) ∧
    eastText.length < (Value.string eastText).text.length ∧
    GeoPoint.Unfolds 1 (eastOfOrigin.layered 1) (some ⟨.ofInt 1, .ofInt 0⟩) ∧
    GeoPoint.ofValue? (eastOfOrigin.layered 1) = some ⟨.ofInt 1, .ofInt 0⟩ ∧
    (eastOfOrigin.isString = false → eastOfOrigin.ReadsBack) ∧
    ∀ r : Region, r.contains (eastOfOrigin.layered 3) = r.contains eastOfOrigin := by
  obtain ⟨hlonger, hfound, hlayered⟩ := contains_layered
  have hread := Value.read_text_string eastText
  have hunfolds : GeoPoint.Unfolds 1 (eastOfOrigin.layered 1) (some ⟨.ofInt 1, .ofInt 0⟩) :=
    .text readsBack_eastOfOrigin (.object _)
  exact ⟨hread, hlonger _ _ hread, hunfolds, ((hfound _).2 _ _ hunfolds).symm,
    fun _ => readsBack_eastOfOrigin,
    fun r => hlayered eastOfOrigin (fun _ => readsBack_eastOfOrigin) r 3⟩

end Region

end IndexPlanner
