/-! Cutting a text at a separator. The pieces, put back together with the separator between them,
give the text again. -/
namespace IndexPlanner.Text

/-- The pieces between the separators; a text without one is a single piece. -/
def pieces (separator : Char) : List Char → List (List Char)
  | [] => [[]]
  | c :: cs =>
    if c = separator then [] :: pieces separator cs
    else match pieces separator cs with
      | [] => [[c]]
      | p :: ps => (c :: p) :: ps

/-- The text before the first separator and the text after it, if there is one. -/
def cutAt (separator : Char) : List Char → Option (List Char × List Char)
  | [] => none
  | c :: cs =>
    if c = separator then some ([], cs)
    else (cutAt separator cs).map fun p => (c :: p.1, p.2)

/-- The texts with a separator between them. -/
def joinWith (separator : String) : List String → String
  | [] => ""
  | [s] => s
  | s :: t :: rest => s ++ separator ++ joinWith separator (t :: rest)

/-- A letter of the ASCII alphabet in lower case, any other character itself. -/
def asciiLower (s : String) : String := String.ofList (s.toList.map Char.toLower)

theorem pieces_ne_nil (separator : Char) (cs : List Char) : pieces separator cs ≠ [] := by
  cases cs with
  | nil => simp [pieces]
  | cons c cs =>
    rw [pieces]
    split
    · simp
    · split <;> simp

example : pieces ';' "a;;b".toList = ["a".toList, [], "b".toList] := by decide
example : cutAt '=' "k=v=w".toList = some ("k".toList, "v=w".toList) := by decide

end IndexPlanner.Text
