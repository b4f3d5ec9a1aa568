/-!
# libbase

`Trim` of libbase, which the USB HAL applies to what it reads. Its source is not among that of the
services, so it is a parameter of which nothing is assumed. Where a run is evaluated it is the
documented one, which takes the white space off both ends.
-/

namespace Redfin

class Libbase where
  trim : String → String

export Libbase (trim)

namespace Libbase.Documented

def isSpace (c : Char) : Bool := c ∈ [' ', '\t', '\n', '\x0b', '\x0c', '\r']

scoped instance : Libbase where
  trim s := String.ofList ((s.toList.dropWhile isSpace).reverse.dropWhile isSpace).reverse

end Libbase.Documented

end Redfin
