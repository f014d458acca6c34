/-!
# Reading a text step by step

A step looks at the rest of a text and takes some of it; `scan` repeats a step until it has a result.  A step that goes
on without taking anything is a failure, so every scan ends.
-/

namespace ChatModeration.Text

/-- How a scan goes on after a step. -/
inductive Next (σ α : Type) where
  | more (state : σ)
  | done (result : α)

/-- Repeats a step and returns its result and what is left of the text. -/
def scan {σ α : Type} (step : σ → List Char → Option (Next σ α × List Char)) (state : σ) (cs : List Char) :
    Option (α × List Char) :=
  match step state cs with
  | none => none
  | some (.done a, rest) => some (a, rest)
  | some (.more state, rest) => if rest.length < cs.length then scan step state rest else none
termination_by cs.length

end ChatModeration.Text
