/-
Answers of web servers.

What is made of a body is decided where it is read, but not the words in which the reader
of JSON objects to one.  These words come with the answer.
-/
namespace AgentId

/-- A status and the octets that came with it. -/
structure HttpResponse where
  status : Nat
  body : List UInt8
  /-- What the reader of JSON says of the body when it is not what was expected. -/
  objection : String := ""

/-- Whether the status says success. -/
def HttpResponse.isSuccess (r : HttpResponse) : Bool :=
  200 ≤ r.status && r.status < 300

end AgentId
