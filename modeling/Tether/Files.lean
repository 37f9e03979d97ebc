import Tether.Table

/-!
The files in reach, as octets by path. A dot in a path and a doubled slash lead nowhere else.
-/

namespace Tether

abbrev Files := Table (List UInt8)

namespace Files

/-- The steps of a path. -/
def steps (path : String) : List String :=
  (path.toList.splitOn '/').map String.ofList

/-- A path without steps that lead nowhere. A path that cannot be a file's has none. -/
def normal? (path : String) : Option String :=
  let all := steps path
  let start := if path.toList.head? == some '/' then "/" else ""
  if all.getLast?.any fun step => step == "" || step == "." then none
  else some (start ++ "/".intercalate (all.filter fun step => !(step == "" || step == ".")))

/-- What the file at a path holds. -/
def read? (files : Files) (path : String) : Option (List UInt8) :=
  (normal? path).bind files.get?

end Files

end Tether
