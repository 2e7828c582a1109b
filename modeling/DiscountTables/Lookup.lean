import DiscountTables.Calendar
import DiscountTables.Registry
import DiscountTables.Text.Basic

namespace DiscountTables

open Text Calendar

inductive ApiError where
  | badRequest (message : String)
  | notFound (message : String)
  | conflict (message : String)
  | internal
  deriving DecidableEq, Repr

namespace ApiError

def status : ApiError → Nat
  | badRequest _ => 400
  | notFound _ => 404
  | conflict _ => 409
  | internal => 500

def reason : ApiError → String
  | badRequest _ => "Bad Request"
  | notFound _ => "Not Found"
  | conflict _ => "Conflict"
  | internal => "Internal Server Error"

def message : ApiError → String
  | badRequest m | notFound m | conflict m => m
  | internal => "Unexpected error"

def ofEvaluation : EvaluationError → ApiError
  | .noMatch => .notFound EvaluationError.noMatch.message
  | .rulesUnavailable => .internal

end ApiError

structure ErrorResponse where
  timestamp : String
  status : Nat
  error : String
  message : String
  deriving DecidableEq, Repr

def ApiError.response (e : ApiError) (at_ : Instant) : ErrorResponse :=
  ⟨timestamp at_, e.status, e.reason, e.message⟩

def Request.blankFields (r : Request) : List RequestField :=
  RequestField.all.filter fun f => isBlankText (r.get f)

def blankFieldsMessage (fields : List RequestField) : String :=
  "; ".intercalate (fields.map fun f => f.name ++ " must not be blank")

/-- Looks up the discount for a request; a request with blank fields is refused whatever is published. -/
def Registry.fetchDiscount (r : Registry) (request : Request) : Except ApiError Response :=
  match request.blankFields with
  | [] =>
    match r.evaluate request with
    | .ok e => .ok e.response
    | .error e => .error (.ofEvaluation e)
  | fields => .error (.badRequest (blankFieldsMessage fields))

end DiscountTables
