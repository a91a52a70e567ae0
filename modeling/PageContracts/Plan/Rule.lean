import PageContracts.Plan.CallPlan

/-! # Rules

Each rule implements the operations of one shape. The shape is a matter of the name, the locator
and the types; whether the parameters fit the locator is checked apart from it.
-/
namespace PageContracts

/-- The rules. -/
inductive Rule where
  /-- The rule that asks for no verb and carries nothing out. -/
  | bare
  | click
  | read
  | setModel
  | setInput
  deriving DecidableEq, Repr, Inhabited

namespace Rule

/-- The standard rules, in the order they are tried. -/
def standard : List Rule :=
  [.click, .read, .setModel, .setInput]

/-- The name of a rule. -/
def label : Rule → String
  | .bare => "MethodGenerator"
  | .click => "ClickGenerator"
  | .read => "ReadGenerator"
  | .setModel => "SetModelGenerator"
  | .setInput => "SetInputGenerator"

/-- The rule of a name. -/
def ofLabel? (label : String) : Option Rule :=
  (bare :: standard).find? fun rule => rule.label = label

/-- The verb with which the names of the rule's operations begin. -/
def verb : Rule → String
  | .bare => ""
  | .click => "click"
  | .read => "read"
  | .setModel | .setInput => "set"

/-- The number of leading parameters that do not feed the locator. -/
def sliceAt : Rule → Nat
  | .bare | .click | .read => 0
  | .setModel | .setInput => 1

/-- Whether the rule needs a locator. -/
def needsLocator : Rule → Bool
  | .setModel => false
  | _ => true

/-- Whether a character may follow a verb: an ASCII capital or digit, an underscore or a dollar
sign. -/
def followsVerb (c : Char) : Bool :=
  ('A' ≤ c && c ≤ 'Z') || Characters.isAsciiDigit c || c = '_' || c = '$'

/-- Whether a name is a verb followed by something. -/
def namedAfter (verb name : List Char) : Bool :=
  verb.isPrefixOf name && ((name.drop verb.length).head?.map followsVerb).getD false

/-- Whether an operation's name and locator suit the rule. -/
def suits (rule : Rule) (operation : Operation) : Bool :=
  namedAfter rule.verb.toList operation.name.toList &&
    (operation.locator.isSome || !rule.needsLocator)

/-- Whether an operation has the rule's shape, its locator's placeholders left aside. -/
def matchesShape (table : ClassTable) (rule : Rule) (operation : Operation) : Bool :=
  rule.suits operation &&
    match rule with
    | .bare => true
    | .click => operation.returnsStandard
    | .read => operation.returnType = some .text
    | .setModel =>
      operation.returnsStandard &&
        match operation.parameterTypes with
        | [type] => table.isModel type
        | _ => false
    | .setInput => operation.returnsStandard && operation.parameterTypes.head? = some .text

/-- Check that the parameters behind the leading ones fit the locator. -/
def checkArguments (rule : Rule) (operation : Operation) : Except Failure Unit :=
  PageContracts.checkArguments operation.locator (operation.parameterTypes.drop rule.sliceAt)
    operation.qualifiedName

/-- Whether an operation has the rule's shape and parameters that fit its locator. -/
def accepts (table : ClassTable) (rule : Rule) (operation : Operation) : Bool :=
  rule.matchesShape table operation &&
    match rule.checkArguments operation with
    | .ok _ => true
    | .error _ => false

/-- The locator of one field of a model: the operation's locator extended by the field's name,
or the element whose id is that name. -/
def fieldLocator (locator : Option LocatorDescriptor) (field : String) : LocatorDescriptor :=
  match locator with
  | some descriptor => descriptor.extended field
  | none => { kind := .id, template := LocatorDescriptor.escapePercent field }

/-- The fields of the model that an operation takes first. -/
def modelFields (table : ClassTable) (operation : Operation) : Except Failure (List Field) :=
  match operation.parameterTypes.head? with
  | none => .ok []
  | some type => do
    match ← table.fieldsOf type with
    | some fields => return fields
    | none => throw (.typeBreach "must be called with a dataclass type or instance")

/-- The primitive calls of an operation. -/
def calls (table : ClassTable) (rule : Rule) (operation : Operation) : List PrimitiveCall :=
  match rule with
  | .bare => []
  | .click => operation.locator.toList.map .click
  | .read =>
    operation.locator.toList.map fun locator =>
      match locator.readsAttribute with
      | some name => if name.isEmpty then .readText locator else .readAttribute locator name
      | none => .readText locator
  | .setModel =>
    ((modelFields table operation).toOption.getD []).map fun field =>
      .setText (fieldLocator operation.locator field.name) 0 (some field.name)
  | .setInput => operation.locator.toList.map fun locator => .setText locator 0 none

/-- Require that it can be told whether the operation takes a model, where the rule has to know. -/
def requireMark (table : ClassTable) (rule : Rule) (operation : Operation) : Except Failure Unit :=
  match rule, operation.parameterTypes with
  | .setModel, [type] =>
    if rule.suits operation && operation.returnsStandard then
      (table.valueOf type modelMember).map fun _ => ()
    else .ok ()
  | _, _ => .ok ()

/-- Require what the rule's calls are made of: a model that is filled field by field must have
fields, even if none at all. -/
def requireFields (table : ClassTable) (rule : Rule) (operation : Operation) :
    Except Failure Unit :=
  if rule = .setModel then (modelFields table operation).map fun _ => () else .ok ()

/-- The way the rule lets an operation end; reads return what they read. -/
def ending (rule : Rule) (operation : Operation) : Option ReturnKind :=
  match rule with
  | .read => none
  | _ => operation.returnKind

/-- The plan of an operation. -/
def plan (table : ClassTable) (rule : Rule) (operation : Operation) : CallPlan where
  operation := operation
  sliceAt := rule.sliceAt
  calls := rule.calls table operation
  ending := rule.ending operation

end Rule
end PageContracts
