import DocSignature.Python.Grammar
import DocSignature.Grammar.Table

/-!
# The parse tables of Python

The tables are computed from the grammar once, when the program starts.
-/

set_option autoImplicit false

namespace DocSignature.Python

/-- The parse tables of Python. -/
def tables : DocSignature.Grammar.Table := .ofGrammar grammar identifierStart

end DocSignature.Python
