import PageContracts.Template.Fill

/-! # Addresses

An address is a template filled with the texts and numbers among its arguments, followed by the
query parameters among them. Arguments of any other kind have no place in an address.
-/
namespace PageContracts.Url

/-- The argument as a placeholder takes it: texts are encoded, numbers are used as they are, and so is
an argument whose text is empty, in which nothing is to be encoded. -/
def placeholderValue? (argument : Value) : Option Value :=
  match argument.core with
  | .text s => some (if s = "" then argument else .text (FormEncoding.encode s))
  | .int _ => some argument
  | .float _ => some argument
  | _ => none

/-- The query parameters an argument is. -/
def parameters? : Value → Option QueryParams
  | .query params => some params
  | _ => none

/-- Whether an argument has no place in an address. -/
def isSenseless (argument : Value) : Bool :=
  (placeholderValue? argument).isNone && (parameters? argument).isNone

/-- Query parameters one after the other. -/
def joined (params : List QueryParams) : QueryParams :=
  params.foldl QueryParams.append QueryParams.empty

/-- Whether a text holds a question mark. -/
def hasQuery (url : String) : Bool :=
  url.toList.contains '?'

/-- An address with query parameters behind it. -/
def withParameters (url : String) (params : QueryParams) : String :=
  if params.nonempty then url ++ (if hasQuery url then "&" else "?") ++ params.text else url

/-- A template filled with placeholder values. Without any it is used as it stands. -/
def filled (template : String) (values : List Value) : Except Failure String :=
  if values.isEmpty then .ok template else Template.fill template values

/-- The address of a template and arguments. -/
def make (template : String) (arguments : List Value) : Except Failure String := do
  let url ← filled template (arguments.filterMap placeholderValue?)
  return withParameters url (joined (arguments.filterMap parameters?))

/-- What is logged about an argument that has no place in an address. -/
def senselessMessage (argument : Value) : Except Failure String :=
  (argument.written Value.quoted).map fun shown =>
    "got a querystring argument that makes no sense, " ++ shown

end PageContracts.Url
