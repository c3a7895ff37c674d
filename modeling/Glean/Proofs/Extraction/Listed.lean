import Glean.Proofs.Extraction.Refusal

/-!
# Glean.Proofs.Extraction.Listed

The simplest source: a node that lists its text, its attributes and, for each
selector that matches anything, the matches.  Theorems about every source are
shown on it at concrete nodes.
-/

namespace Glean

/-- A node with everything that can be asked of it written down. -/
inductive Listed where
  | node (text : String) (attributes : List (String × String))
    (matching : List (String × List Listed))

/-- A selector that is not listed matches nothing; none is refused. -/
instance : Source Listed where
  select | .node _ _ matching, selector => .ok ((matching.lookup selector).getD [])
  text | .node text _ _ => text
  attr? | .node _ attributes _, name => attributes.lookup name

namespace Listed

/-- A node without attributes below which nothing matches. -/
def leaf (text : String) : Listed := .node text [] []

theorem answers (selectors : List String) : Answers Listed selectors := by
  intro selector _ root
  cases root
  exact ⟨_, rfl⟩

theorem onlyRefuses : OnlyRefuses Listed := by
  intro root selector e h
  cases root
  cases h

end Listed

end Glean
