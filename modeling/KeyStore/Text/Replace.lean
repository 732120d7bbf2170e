/-!
# Replacing inside a text

Every occurrence of one text, found from left to right without overlaps, gives way to another.
-/

namespace KeyStore.Text

/-- Goes on after `skip` more characters of an occurrence that was replaced already. -/
def replaceFrom (old new : List Char) : Nat → List Char → List Char
  | _, [] => []
  | skip + 1, _ :: rest => replaceFrom old new skip rest
  | 0, c :: rest =>
    if old.isPrefixOf (c :: rest) then new ++ replaceFrom old new (old.length - 1) rest
    else c :: replaceFrom old new 0 rest

/-- The text with `new` for every occurrence of `old`, which is not empty. -/
def replaceAll (old new s : List Char) : List Char := replaceFrom old new 0 s

end KeyStore.Text
