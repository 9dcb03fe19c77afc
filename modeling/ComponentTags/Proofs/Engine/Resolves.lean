/-
# What names stand for in components

A name that the template of a component does not bind stands for its field of that name, or else for a
function that was given for the rendering, or else for a function of the engine, or else for what the
template language has under this name (`Session.Resolves`).
-/
import ComponentTags.Proofs.Engine.Traced

namespace ComponentTags

open Template

variable {L : Language}

/-! ### Functions and their numbers -/

namespace Engine

end Engine

namespace Session

variable {S : Session L} {r : Registration L} {v : Value} {n : Text}

end Session

end ComponentTags
