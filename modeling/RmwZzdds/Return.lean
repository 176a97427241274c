import Mathlib.Init

/-!
# Return codes

The `rmw_ret_t` values of the rmw interface.
-/

namespace RmwZzdds

/-- A return code of the rmw interface. -/
inductive Ret where
  | ok
  | error
  | timeout
  | unsupported
  | badAlloc
  | invalidArgument
  | incorrectRmwImplementation
  | nodeNameNonExistent
deriving DecidableEq, Repr

end RmwZzdds
