import IndexPlanner.Json.Printer
import IndexPlanner.Json.Reader
import Mathlib.Tactic.SplitIfs

/-! Strings in quotes. A character that is written inside of quotes, as itself or behind a
backslash, is read as one piece that stands for it. So the text of a string is read as the string. -/
namespace IndexPlanner.Json

namespace Piece

/-- The piece adds the character to what the pieces behind it spell. -/
def StandsFor (piece : Piece) (c : Char) : Prop :=
  ∀ rest, join (piece :: rest) = (join rest).map (c :: ·)

theorem standsFor_char (c : Char) : (char c).StandsFor c := fun _ => rfl

/-- A unit that is no half of a pair is a character of its own. -/
theorem standsFor_unit {n : Nat} (h : n < 0xD800) : (unit n).StandsFor (Char.ofNat n) := by
  have hhigh : isHigh n = false := by simp [isHigh, Nat.not_le.2 h]
  have hlow : isLow n = false := by
    simp only [isLow, Bool.and_eq_false_iff, decide_eq_false_iff_not]
    omega
  intro rest
  match rest with
  | [] => simp [join, hhigh, hlow]
  | .char c :: rest => simp [join, hhigh, hlow]
  | .unit m :: rest => simp [join, hhigh, hlow]

end Piece

namespace Token

open Piece (StandsFor)

/-- A letter behind a backslash is read as the character that it stands for. -/
theorem scan_escape {d c : Char} (hd : d ≠ 'u') (h : escaped? d = some c) (taken : List Piece)
    (cs : List Char) : scan (.text taken) ('\\' :: d :: cs) = scan (.text (.char c :: taken)) cs := by
  simp [scan, step, hd, h]

theorem hexValue?_digitChar : ∀ d < 16, Text.hexValue? (Nat.digitChar d) = some d := by decide

/-- The four digits behind a backslash are read as their number. -/
theorem scan_unitDigits {n : Nat} (h : n < 0x100) (taken : List Piece) (cs : List Char) :
    scan (.text taken) (['\\', 'u'] ++ unitDigits n ++ cs) = scan (.text (.unit n :: taken)) cs := by
  have hhigh := hexValue?_digitChar (n / 16) (by omega)
  have hlow := hexValue?_digitChar (n % 16) (by omega)
  have hzero : Text.hexValue? '0' = some 0 := by decide
  have hn : 16 * (n / 16) + n % 16 = n := Nat.div_add_mod n 16
  simp [scan, step, unitDigits, hzero, hhigh, hlow, hn]

theorem scan_plain {c : Char} (hquote : c ≠ '"') (hslash : c ≠ '\\') (h : ¬ c.toNat < 0x20)
    (taken : List Piece) (cs : List Char) :
    scan (.text taken) (c :: cs) = scan (.text (.char c :: taken)) cs := by
  simp only [scan, step, hquote, hslash, h, if_false, List.nil_append]

/-- A written character is read as a piece that stands for it. -/
theorem exists_piece (c : Char) : ∃ piece : Piece, piece.StandsFor c ∧ ∀ taken cs,
    scan (.text taken) (escapeChar c ++ cs) = scan (.text (piece :: taken)) cs := by
  unfold escapeChar
  split_ifs with h₁ h₂ h₃ h₄ h₅ h₆ h₇ h₈
  -- the characters that have a letter of their own behind the backslash
  iterate 7
    subst c
    exact ⟨_, Piece.standsFor_char _, scan_escape (by decide) (by decide)⟩
  · have hunit := Piece.standsFor_unit (n := c.toNat) (by omega)
    rw [Char.ofNat_toNat] at hunit
    exact ⟨_, hunit, scan_unitDigits (by omega)⟩
  · exact ⟨_, Piece.standsFor_char c, scan_plain h₁ h₂ h₈⟩

/-- Written characters are read as pieces that spell them. -/
theorem exists_pieces (t : List Char) : ∃ ps : List Piece, Piece.join ps = some t ∧ ∀ taken cs,
    scan (.text taken) (t.flatMap escapeChar ++ cs) = scan (.text (ps.reverse ++ taken)) cs := by
  induction t with
  | nil => exact ⟨[], rfl, fun _ _ => rfl⟩
  | cons c t ih =>
    obtain ⟨piece, hpiece, hscan⟩ := exists_piece c
    obtain ⟨ps, hps, hscans⟩ := ih
    refine ⟨piece :: ps, by rw [hpiece, hps, Option.map_some], fun taken cs => ?_⟩
    rw [List.flatMap_cons, List.append_assoc, hscan, hscans, List.reverse_cons, List.append_assoc,
      List.singleton_append]

theorem ofText_quoted (s : String) : ofText (quoted s) = [text (some s)] := by
  obtain ⟨ps, hps, hscan⟩ := exists_pieces s.toList
  have hclose : scan (.text ps.reverse) ['"'] = [text (some s)] := by
    simp [scan, step, finish, hps]
  calc ofText (quoted s)
      = scan .between ('"' :: (s.toList.flatMap escapeChar ++ ['"'])) := by
        rw [ofText, quoted, String.toList_ofList]
        rfl
    _ = scan (.text []) (s.toList.flatMap escapeChar ++ ['"']) := rfl
    _ = [text (some s)] := by rw [hscan, List.append_nil, hclose]

end Token

/-- A string in quotes is read back. -/
theorem Value.read_text_string (s : String) :
    Value.read (Value.string s).text = some (.string s) := by
  have htokens : Token.ofText (Value.string s).text = [.text (some s)] := Token.ofText_quoted s
  rw [Value.read, Document.read, htokens]
  rfl

end IndexPlanner.Json
