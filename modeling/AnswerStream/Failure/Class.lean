/-!
The three classes of failure. The class alone decides whether an attempt may be repeated.
-/

namespace AnswerStream

inductive ErrorClass
  | transient
  | auth
  | client
  deriving DecidableEq, Repr

namespace ErrorClass

def retryable : ErrorClass → Bool
  | .transient => true
  | .auth | .client => false

def label : ErrorClass → String
  | .transient => "transient"
  | .auth => "auth"
  | .client => "client"

def description : ErrorClass → String
  | .transient => "Temporary network or server issue"
  | .auth => "Authentication problem"
  | .client => "Request rejected"

def hint : ErrorClass → String
  | .transient => "Wait a moment and try again"
  | .auth => "Refresh your token and try again"
  | .client => "Check the query and configuration"

/-- The class of a status that reports a failure; statuses without a rule count as the client's. -/
def ofStatus (status : Nat) : ErrorClass :=
  if status = 401 ∨ status = 403 then .auth
  else if status = 429 then .transient
  else if 500 ≤ status ∧ status ≤ 599 then .transient
  else .client

end ErrorClass
end AnswerStream
