import IndexPlanner.Json.Reader

/-! A text that spells a string is longer than the string: its quotes come on top, and an escape
is never shorter than the character it stands for. -/
namespace IndexPlanner.Json

namespace Piece

/-- A piece spells at most one character. -/
theorem length_join {ps : List Piece} {cs : List Char} (h : join ps = some cs) :
    cs.length ≤ ps.length := by
  fun_induction join ps generalizing cs with
  | case1 => simp_all
  | case2 _ _ ih | case3 _ _ _ _ _ ih | case6 _ _ _ _ _ ih | case8 _ _ _ _ ih =>
    obtain ⟨ds, hd, rfl⟩ := Option.map_eq_some_iff.1 h
    have := ih hd
    simp only [List.length_cons] at *
    omega
  | case4 | case5 | case7 => simp at h

end Piece

namespace Token

/-- The pieces of the string that is being read. -/
def Mode.size : Mode → Nat
  | .text taken => taken.length
  | .escape taken => taken.length
  | .unit taken _ _ => taken.length
  | _ => 0

theorem ofLiteral_ne_text (cs : List Char) (s : Option String) : ofLiteral cs ≠ text s := by
  unfold ofLiteral
  split <;> simp

theorem ofWord_ne_text (meaning : Option Bool) (s : Option String) : ofWord meaning ≠ text s := by
  cases meaning <;> simp [ofWord]

@[simp] theorem start_size (c : Char) : (start c).2.size = 0 := by
  unfold start
  split <;> try rfl
  split <;> rfl

theorem start_ne_text (c : Char) (s : Option String) : text s ∉ (start c).1 := by
  unfold start
  split <;> try simp
  split <;> simp

/-- A step adds at most one piece. -/
theorem step_size (m : Mode) (c : Char) : (step m c).2.size ≤ m.size + 1 := by
  unfold step
  split <;> (repeat' split) <;> first | (rw [start_size]; omega) | simp [Mode.size]

/-- A string that a step completes is no longer than what was taken for it. -/
theorem step_text {m : Mode} {c : Char} {s : String} (h : text (some s) ∈ (step m c).1) :
    s.length ≤ m.size := by
  cases m with
  | text taken =>
    simp only [step] at h
    repeat' split at h
    · have ht := Token.text.inj (List.mem_singleton.1 h)
      obtain ⟨cs, hcs, hs⟩ := Option.map_eq_some_iff.1 ht.symm
      have := Piece.length_join hcs
      rw [← hs, String.length_ofList]
      simpa [Mode.size] using this
    all_goals simp at h
  | between => exact absurd h (start_ne_text c _)
  | number taken =>
    simp only [step] at h
    split at h
    · simp at h
    · rcases List.mem_cons.1 h with h | h
      · exact absurd h.symm (ofLiteral_ne_text _ _)
      · exact absurd h (start_ne_text c _)
  | word next rest meaning =>
    simp only [step] at h
    repeat' split at h
    · simp at h
    · exact absurd (List.mem_singleton.1 h).symm (ofWord_ne_text _ _)
    · simp at h
  | escape taken =>
    simp only [step] at h
    repeat' split at h
    all_goals simp at h
  | unit taken missing value =>
    simp only [step] at h
    split at h
    all_goals simp at h
  | stuck => simp [step] at h

/-- A string among the tokens is shorter than the text together with what was taken before. -/
theorem length_of_mem_scan {m : Mode} {cs : List Char} {s : String}
    (h : text (some s) ∈ scan m cs) : s.length < m.size + cs.length := by
  induction cs generalizing m with
  | nil =>
    cases m <;> simp [scan, finish] at h
    exact absurd h.symm (ofLiteral_ne_text _ _)
  | cons c cs ih =>
    rw [scan] at h
    rcases List.mem_append.1 h with h | h
    · have := step_text h
      simp only [List.length_cons]
      omega
    · have := ih h
      have := step_size m c
      simp only [List.length_cons]
      omega

end Token

namespace Reading

/-- Nothing but a whole string has been read to the end, or something is open. -/
def NoString : Reading → Prop
  | .open _ stack => stack ≠ []
  | finished d trailing => trailing = true ∨ ∀ s, d ≠ .string s

theorem NoString.put {d : Document} (h : ∀ s, d ≠ .string s) (stack : List Frame) :
    NoString (put d stack) := by
  unfold Reading.put
  split <;> simp [NoString, h]

theorem container_ne_string {outer : List Frame} {d : Document} (h : ∀ s, d ≠ .string s)
    (s : String) : container outer d ≠ .string s := by
  unfold container
  split
  · exact h s
  · simp

theorem put_of_ne_nil {d : Document} {stack : List Frame} (h : stack ≠ []) :
    NoString (put d stack) := by
  unfold put
  split <;> simp_all [NoString]

@[simp] theorem fail_noString (stack : List Frame) : NoString (fail stack) := .inl rfl

theorem value_noString {stack : List Frame} {t : Token}
    (h : stack ≠ [] ∨ ∀ s, t ≠ .text (some s)) : NoString (value stack t) := by
  rcases h with h | h
  · unfold value
    split <;> first | exact put_of_ne_nil h | exact fail_noString _ | simp [NoString]
  · unfold value
    split <;> first
      | exact absurd rfl (h _)
      | exact fail_noString _
      | exact NoString.put (by simp) _
      | simp [NoString]

theorem key_noString (stack : List Frame) (t : Token) : NoString (key stack t) := by
  unfold key
  repeat' split
  all_goals first | exact fail_noString _ | simp [NoString]

theorem step_noString {r : Reading} (h : NoString r) (t : Token) : NoString (step r t) := by
  cases r with
  | finished d trailing => exact .inl rfl
  | «open» expect stack =>
    have hs : stack ≠ [] := h
    unfold step
    split <;> first
      | exact fail_noString _
      | exact key_noString _ _
      | exact NoString.put (container_ne_string (by simp)) _
      | exact .inl rfl
      | (simp_all [NoString]; done)
      | exact value_noString (.inl (by simp_all))

theorem foldl_noString {r : Reading} (h : NoString r) (ts : List Token) :
    NoString (ts.foldl step r) := by
  induction ts generalizing r with
  | nil => exact h
  | cons t ts ih => exact ih (step_noString h t)

theorem NoString.result_ne {r : Reading} (h : NoString r) (s : String) :
    r.result ≠ (.string s, false) := by
  cases r with
  | «open» expect stack => simp [result]
  | finished d trailing =>
    rcases h with rfl | h
    · simp [result]
    · simp [result, h s]

/-- The tokens of a text that is a string are that string alone. -/
theorem eq_of_result {ts : List Token} {s : String}
    (h : (ts.foldl step (.open .value [])).result = (.string s, false)) :
    ts = [.text (some s)] := by
  cases ts with
  | nil => simp [result] at h
  | cons t ts =>
    by_cases ht : ∀ u, t ≠ .text (some u)
    · exact absurd h (foldl_noString (value_noString (.inr ht)) ts |>.result_ne s)
    · obtain ⟨u, rfl⟩ : ∃ u, t = .text (some u) := by simpa using ht
      cases ts with
      | nil => simp_all [step, value, put, result]
      | cons t ts =>
        exact absurd h (foldl_noString (r := .finished (.string u) true) (.inl rfl) ts
          |>.result_ne s)

end Reading

namespace Document

theorem value?_eq_string {d : Document} {s : String} (h : d.value? = some (.string s)) :
    d = .string s := by
  cases d <;> simp [value?, Value.ofMembers] at h ⊢
  exact h

end Document

/-- A text that spells a string is longer than it. -/
theorem Value.length_of_read {t s : String} (h : Value.read t = some (.string s)) :
    s.length < t.length := by
  unfold Value.read at h
  split at h
  · next d hd =>
    obtain rfl := Document.value?_eq_string h
    have ht := Reading.eq_of_result hd
    have hs : Token.text (some s) ∈ Token.scan .between t.toList := by
      rw [show Token.scan .between t.toList = _ from ht]
      exact .head _
    have := Token.length_of_mem_scan hs
    simpa [Token.Mode.size, String.length_toList] using this
  · simp at h

end IndexPlanner.Json
