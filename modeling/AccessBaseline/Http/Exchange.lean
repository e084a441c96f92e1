import AccessBaseline.Interaction
import AccessBaseline.IoFault
import AccessBaseline.Json.Value
import AccessBaseline.Url.Basic

/-! Requests to a service over HTTP, and what comes back. -/
namespace AccessBaseline.Http

structure Request where
  method : String
  url : Url
  bearer : String
  body? : Option Json

/-- What came of a request in the end, redirects followed: a whole reply, one whose body ended early, or none. -/
inductive Delivery where
  | whole (status : Nat) (body : String)
  | cutShort (status : Nat)
  | dropped
  | unreachable (cause : IoFault)
  /-- Anything else that kept a reply back. -/
  | failed (message : String) (causes : List String)

abbrev Exchange := Interaction Request fun _ => Delivery

end AccessBaseline.Http
