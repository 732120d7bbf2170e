/-!
# Paths

Paths are texts with slashes between their parts. A path that starts with a slash does not depend on
where it is looked up.
-/

namespace KeyStore.Path

/-- Whether the path starts at the root. -/
def isAbsolute (path : String) : Bool := path.toList.head? = some '/'

/-- The path `path` as seen from the directory `base`. -/
def join (base path : String) : String :=
  if isAbsolute path then path
  else if base.toList.getLast? = some '/' ∨ base = "" then base ++ path
  else base ++ "/" ++ path

end KeyStore.Path
