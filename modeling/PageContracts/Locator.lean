import PageContracts.Template.Fill

/-! # Locators

A descriptor says how an element is found: a kind and a template whose placeholders are filled
from the arguments of an operation. A resolved locator is final text, ready to be turned into a
selector.
-/
namespace PageContracts

/-- The ways to find an element. -/
inductive LocatorKind where
  | id
  | css
  | name
  | xpath
  | linkText
  | partialLinkText
  | tagName
  | className
  deriving DecidableEq, Repr, Inhabited

namespace LocatorKind

/-- All kinds, in the order they are documented. -/
def all : List LocatorKind :=
  [.id, .css, .name, .xpath, .linkText, .partialLinkText, .tagName, .className]

/-- The name of a kind. -/
def label : LocatorKind → String
  | .id => "id"
  | .css => "css"
  | .name => "name"
  | .xpath => "xpath"
  | .linkText => "link_text"
  | .partialLinkText => "partial_link_text"
  | .tagName => "tag_name"
  | .className => "class_name"

/-- The kind of a name. -/
def ofLabel? (label : String) : Option LocatorKind :=
  all.find? fun kind => kind.label = label

/-- Whether locators of this kind are fragments, composed with the panels around them; the
others are absolute. -/
def composes : LocatorKind → Bool
  | .id | .css => true
  | _ => false

end LocatorKind

/-- A final locator. -/
structure ResolvedLocator where
  kind : LocatorKind
  value : String
  deriving DecidableEq, Repr, Inhabited

namespace ResolvedLocator

/-- A character inside a double-quoted selector string. -/
def quoteChar (c : Char) : List Char :=
  if c = '\\' ∨ c = '"' then ['\\', c] else [c]

/-- A value inside a double-quoted selector string: backslashes and quotes are escaped. -/
def quoteValue (value : String) : String :=
  String.ofList (value.toList.flatMap quoteChar)

/-- Read a double-quoted selector string up to its closing quote: a backslash takes the next
character as it is. The result is the value and the text behind the quote. -/
def readQuoted : List Char → Option (List Char × List Char)
  | [] => none
  | '"' :: rest => some ([], rest)
  | ['\\'] => none
  | '\\' :: c :: rest => (readQuoted rest).map fun (value, after) => (c :: value, after)
  | c :: rest => (readQuoted rest).map fun (value, after) => (c :: value, after)

/-- The selector the browser is asked for. Style selectors and tag names are selectors
already. -/
def selector (locator : ResolvedLocator) : String :=
  match locator.kind with
  | .id => "[id=\"" ++ quoteValue locator.value ++ "\"]"
  | .name => "[name=\"" ++ quoteValue locator.value ++ "\"]"
  | .xpath => "xpath=" ++ locator.value
  | .linkText => "a:text-is(\"" ++ quoteValue locator.value ++ "\")"
  | .partialLinkText => "a:has-text(\"" ++ quoteValue locator.value ++ "\")"
  | .className => "." ++ locator.value
  | .css | .tagName => locator.value

/-- The locator as reports show it. -/
def display (locator : ResolvedLocator) : String :=
  "By." ++ locator.kind.label ++ ": " ++ locator.value

end ResolvedLocator

/-- A declared locator: its kind, its template, and for reads the attribute read instead of the
element's text. -/
structure LocatorDescriptor where
  kind : LocatorKind
  template : String
  readsAttribute : Option String := none
  deriving DecidableEq, Repr, Inhabited

namespace LocatorDescriptor

/-- Whether the descriptor resolves against the panels around it. -/
def isFragment (descriptor : LocatorDescriptor) : Bool :=
  descriptor.kind.composes

/-- The number of arguments the template takes. -/
def placeholders (descriptor : LocatorDescriptor) : Nat :=
  Template.placeholderCount descriptor.template

/-- The template filled with arguments. A template without placeholders is used as it stands,
percent signs included, whatever the arguments. -/
def format (descriptor : LocatorDescriptor) (arguments : List Value) :
    Except Failure String :=
  if descriptor.placeholders = 0 then .ok descriptor.template
  else Template.fill descriptor.template arguments

/-- A text made safe to stand in a template: percent signs are doubled. -/
def escapePercent (text : String) : String :=
  String.ofList (text.toList.flatMap fun c => if c = '%' then ['%', '%'] else [c])

/-- A descriptor of the same kind with literal text after its template. It reads no
attribute. -/
def extended (descriptor : LocatorDescriptor) (suffix : String) : LocatorDescriptor :=
  { kind := descriptor.kind, template := descriptor.template ++ escapePercent suffix }

/-- The descriptor as messages show it. -/
def display (descriptor : LocatorDescriptor) : String :=
  descriptor.kind.label ++ ":" ++ Quoted.quoted descriptor.template

/-- Insert a name into a sorted list of names. -/
def insertSorted (name : String) : List String → List String
  | [] => [name]
  | first :: rest =>
    if name < first then name :: first :: rest else first :: insertSorted name rest

/-- Names in alphabetical order of their code points. -/
def sortNames (names : List String) : List String :=
  names.foldr insertSorted []

/-- The kinds given to a descriptor once a positional value, which is an id, is counted in. -/
def givenKinds (value : Option String) (kinds : List (String × String)) :
    Except Failure (List (String × String)) :=
  match value with
  | none => .ok kinds
  | some id =>
    let given := if kinds.any (·.1 = "id") then kinds else kinds ++ [("id", id)]
    if given.length > 1 ∨ given.any (fun entry => entry.1 = "id" ∧ entry.2 ≠ id) then
      .error (.valueStated
        "a positional locator value is an id and cannot be combined with other kinds")
    else .ok given

/-- Build a descriptor from a positional value or exactly one named kind; kinds given without a
template do not count. -/
def make (value readsAttribute : Option String) (kinds : List (String × Option String)) :
    Except Failure LocatorDescriptor := do
  let given ← givenKinds value
    (kinds.filterMap fun entry => entry.2.map fun template => (entry.1, template))
  match given with
  | [(kindName, template)] =>
    match LocatorKind.ofLabel? kindName with
    | some kind => return { kind, template, readsAttribute }
    | none => throw (.valueStated ("unknown locator kind: " ++ kindName))
  | _ =>
    let names := sortNames (given.map Prod.fst)
    let shown := if names.isEmpty then "none" else Quoted.quotedList names
    throw (.valueStated ("exactly one locator kind is required, got " ++ shown))

end LocatorDescriptor

/-- The value with which a parameter type tries out a template; only texts and integers may feed
a placeholder. -/
def sampleOf? (type : TypeRef) : Option Value :=
  if type = .text then some (.text " ")
  else if type = .integer then some (.int 0)
  else none

/-- A locator whose arguments do not fit, reported for an operation. -/
def arityFailure (operation message : String) : Failure :=
  { kind := .locatorArity, message := operation ++ ": " ++ message, operation := some operation }

/-- Sample values for parameter types, up to the first type that has none. -/
def samplesOf (operation : String) : List TypeRef → Except Failure (List Value)
  | [] => .ok []
  | type :: rest =>
    match sampleOf? type with
    | none =>
      if type.hashable then
        .error (arityFailure operation
          ("unsupported locator argument type " ++ type.quotedName))
      else .error (.typeBreach "unhashable type")
    | some sample => (samplesOf operation rest).map (sample :: ·)

/-- Check that the trailing parameters of an operation can feed its locator: as many as there
are placeholders, texts and integers only, and accepted by the template. An operation without a
locator takes no trailing parameters. -/
def checkArguments (descriptor : Option LocatorDescriptor) (types : List TypeRef)
    (operation : String) : Except Failure Unit :=
  match descriptor with
  | none =>
    if types.isEmpty then .ok ()
    else .error (arityFailure operation
      (toString types.length ++ " trailing parameter(s) but no locator to format"))
  | some descriptor =>
    if types.length ≠ descriptor.placeholders then
      .error (arityFailure operation ("locator " ++ descriptor.display ++ " expects " ++
        toString descriptor.placeholders ++ " argument(s), operation supplies " ++
        toString types.length))
    else do
      let samples ← samplesOf operation types
      match descriptor.format samples with
      | .ok _ => .ok ()
      | .error failure =>
        if failure.kind = .wrongType ∨ failure.kind = .wrongValue then
          .error (arityFailure operation ("locator " ++ descriptor.display ++
            " rejects arguments " ++ Quoted.quotedList (types.map TypeRef.name) ++ ": " ++
            failure.message))
        else .error failure

end PageContracts
