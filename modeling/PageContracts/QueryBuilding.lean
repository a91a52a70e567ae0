import PageContracts.Failure
import PageContracts.Value

/-! # Building query parameters

Query parameters grow by values of any kind, which stand in them as text, and by other query
parameters.
-/
namespace PageContracts.QueryParams

/-- The parameters followed by a pair of a name and a value, which must be given. -/
def add (params : QueryParams) (name : String) (value : Value) : Except Failure QueryParams :=
  match value with
  | .none => .error (.typeStated "a query parameter needs a value")
  | given => given.spoken.map fun text => params.push name text

/-- The parameters followed by others; nothing else can follow them. -/
def merge (params : QueryParams) (other : Value) : Except Failure QueryParams :=
  match other with
  | .query others => .ok (params.append others)
  | _ => .error (.typeBreach "unsupported operand")

/-- Whether a value is the same query parameters. -/
def equals (params : QueryParams) (other : Value) : Bool :=
  match other with
  | .query others => params = others
  | _ => false

end PageContracts.QueryParams
