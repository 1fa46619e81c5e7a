import ClassLink.Text.Blank
/-!
# Linking options
-/

namespace ClassLink

/-- How a domain links its classes. -/
structure Options where
  /-- Structural problems fail the link. -/
  strict : Bool
  /-- Every linked class is written to the log. -/
  trace : Bool
  /-- Classes are verified. -/
  verify : Bool
deriving DecidableEq, Repr, Inhabited

namespace Options

/-- Verify, tolerate and do not trace. -/
def standard : Options := ⟨false, false, true⟩

/-- Structural problems fail the link. -/
def strictly : Options := { standard with strict := true }

/-- Classes are not verified. -/
def unverified : Options := { standard with verify := false }

/-- A setting that switches an option on. -/
def isOn (setting : String) : Bool :=
  let word := Text.trim setting.toList
  word = "1".toList || word = "true".toList || word = "yes".toList

/-- The standard options, as changed by the settings of the environment for strict linking and
for tracing; a setting that is missing switches nothing on. -/
def ofSettings (strict trace : Option String) : Options :=
  { standard with strict := strict.any isOn, trace := trace.any isOn }

end Options

end ClassLink
