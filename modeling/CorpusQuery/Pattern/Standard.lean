import CorpusQuery.Pattern
import CorpusQuery.Pattern.Reader
import CorpusQuery.Pattern.Search

namespace CorpusQuery
namespace Pattern

/-!
# The engine of the program

Patterns are read into trees, and the expression of a tree is searched for.  A
pattern whose expression would take too much room is refused.
-/

instance Engine.standard : Engine where
  compile? text := do
    let tree ← Tree.ofText? text
    let (expression, _) ← tree.expression? {}
    if expression.size ≤ Expression.sizeLimit then
      some ⟨fun content => expression.occursIn content.toList⟩
    else none

end Pattern
end CorpusQuery
