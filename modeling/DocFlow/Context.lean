import DocFlow.Host

/-!
# Contexts

What a specification is read in: the functions of the host program, which it may call by name, and
the offset at which its wall-clock times are meant.
-/

namespace DocFlow

/-- What a specification is read in. -/
structure Context where
  registry : Registry
  offset : Calendar.Offset

def Context.default : Context := ⟨.empty, .utc⟩

end DocFlow
