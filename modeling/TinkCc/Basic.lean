import Mathlib.Algebra.Group.Int.Defs
import Mathlib.Algebra.Group.Nat.Defs
/-!
# Basic — bytes and statuses

`absl::string_view`, `std::string` and `std::vector<uint8_t>` are byte lists.  A `Status` is an `absl::Status` that is
not OK: a code and a message.  A function returning `absl::Status` returns `Except Status Unit`, one returning
`absl::StatusOr<T>` returns `Except Status T`, so an OK error cannot be built.
-/
namespace Tink

abbrev Bytes := List UInt8

/-- `absl::StatusCode`, the codes the modelled functions return or compare with. -/
inductive StatusCode
  | invalidArgument
  | outOfRange
  | failedPrecondition
  | internal
  | unavailable
  | unknown
  | notFound
  | alreadyExists
  | unimplemented
  | unauthenticated
  | permissionDenied
  deriving DecidableEq, Repr

structure Status where
  code    : StatusCode
  message : String
  deriving DecidableEq, Repr

end Tink
