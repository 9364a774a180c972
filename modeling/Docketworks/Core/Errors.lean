import Docketworks.Library.Transaction

/-!
# How a request is refused

The exceptions the services raise for an expected refusal, by class.  A message is the source's
own text, with its `%(name)s` placeholders as they stand; the values a placeholder is filled with
are not part of the model.
-/

namespace Docketworks

/-- The class of the exception that refuses a request, with its text. -/
inductive Refusal where
  /-- `InvalidInputError` and its subclasses: the operation is invalid for this input. -/
  | invalidInput (message : String)
  /-- `AccessDeniedError`: the signed-in person may not perform the operation. -/
  | accessDenied (message : String)
  /-- `ConflictError`: the request conflicts with the current state of a resource. -/
  | conflict (message : String)
  /-- `PreconditionFailedError`: the version named by the request is not the current one. -/
  | preconditionFailed (message : String)
  /-- Django's `ValidationError`, raised by a model's own checks. -/
  | validation (message : String)
  /-- `ValueError` and its subclasses. -/
  | value (message : String)
  | doesNotExist (model : String)
  /-- The database refuses the write: a constraint, a column's range, a missing row. -/
  | database (constraint : String)
deriving DecidableEq, Repr

end Docketworks
