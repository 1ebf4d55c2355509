import Mathlib.Tactic

/-!
# Exceptions

The exception classes which the modelled code raises, lets escape or names in
an `except` clause. `other` stands for any further subclass of `Exception`.
-/

namespace OrbitBhyve.Python

inductive PyErr where
  | typeError
  | valueError
  | overflowError
  | runtimeError
  | bleakError
  | timeoutError
  | osError
  | bleHandshakeError
  | bleNotConnectable
  | updateFailed
  | other
  deriving DecidableEq, Repr

end OrbitBhyve.Python
