/-! Reading a text step by step. A step says how to go on with the text that it leaves, or what has
been read. -/
namespace IndexPlanner.Text

/-- Repeats a step for as long as it shortens the text that is left. -/
def repeatStep {σ β : Type} (step : σ → List Char → Option (σ × List Char ⊕ β)) (s : σ)
    (cs : List Char) : Option β :=
  match step s cs with
  | none => none
  | some (.inr result) => some result
  | some (.inl (s, rest)) =>
    if rest.length < cs.length then repeatStep step s rest else none
termination_by cs.length

end IndexPlanner.Text
