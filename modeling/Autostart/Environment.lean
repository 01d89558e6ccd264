/-!
# The environment

What the variables of the environment say. Only lookups matter, so an environment is a function.
-/

namespace Autostart

/-- The value of each variable that is set. -/
abbrev Environment := String → Option String

end Autostart
