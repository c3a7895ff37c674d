import Glean.Extraction.Error

/-!
# Glean.Extraction.Source

What extraction asks of a document.  Schemas read through this interface only,
so any tree that can list matches, give its text and look up an attribute can
stand behind them.
-/

namespace Glean

/-- Nodes that can be queried. -/
class Source (ν : Type) where
  /-- Every node under this one that the selector matches, in document order.
  No match is no error; only a selector that cannot be read is. -/
  select : ν → String → Except ExtractionError (List ν)
  /-- The text of the node and of all it holds. -/
  text : ν → String
  /-- The value of an attribute, if the node has it. -/
  attr? : ν → String → Option String

/-! ## Collecting answers -/

/-- The answers of a fallible function along a list, or its first failure. -/
def collect {α β ε : Type} (f : α → Except ε β) : List α → Except ε (List β)
  | [] => .ok []
  | x :: rest =>
    match f x with
    | .error e => .error e
    | .ok y => (collect f rest).map (y :: ·)

variable {α β ε : Type} {f : α → Except ε β}

theorem collect_cons_ok {x : α} {y : β} {rest : List α} (h : f x = .ok y) :
    collect f (x :: rest) = (collect f rest).map (y :: ·) := by
  simp [collect, h]

theorem collect_cons_error {x : α} {e : ε} {rest : List α} (h : f x = .error e) :
    collect f (x :: rest) = .error e := by
  simp [collect, h]

/-- One answer per element. -/
theorem length_of_collect {xs : List α} {ys : List β} (h : collect f xs = .ok ys) :
    ys.length = xs.length := by
  induction xs generalizing ys with
  | nil => cases h; rfl
  | cons x rest ih =>
    cases hx : f x with
    | error e => rw [collect_cons_error hx] at h; cases h
    | ok y =>
      rw [collect_cons_ok hx] at h
      cases hr : collect f rest with
      | error e => rw [hr] at h; cases h
      | ok zs => rw [hr] at h; cases h; simp [ih hr]

end Glean
