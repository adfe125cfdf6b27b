import Stencil.Text.Basic

/-!
# Names of a routine

The names that a generated routine binds for its own use.
-/

namespace Stencil.Routine

/-- The factory that receives the two converters and returns the routine. -/
def factoryName : Text := "_kiln_factory"

/-- The routine itself. -/
def renderName : Text := "render"

/-- The parameters of the factory. -/
def escapeParameter : Text := "_kiln_escape"

@[inherit_doc escapeParameter]
def textParameter : Text := "_kiln_str"

/-- The converter that escapes. -/
def escapeName : Text := "_kiln_e"

/-- The converter that does not escape. -/
def textName : Text := "_kiln_s"

/-- The list of output pieces. -/
def bufferName : Text := "_kiln_buf"

/-- The operation that adds an output piece. -/
def appendName : Text := "_kiln_append"

/-- The value of the fragment being appended. -/
def valueName : Text := "_kiln_value"

end Stencil.Routine
