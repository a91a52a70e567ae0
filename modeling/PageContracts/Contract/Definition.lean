import PageContracts.Contract.Ancestry
import PageContracts.Contract.ClassBody

/-! # Definitions

Adding classes to the table and changing them. A definition either succeeds as a whole or leaves the
table as it was.
-/
namespace PageContracts

/-- What a locator declaration says: a positional value, the attribute to read, and the named
kinds. -/
structure LocatorDraft where
  value : Option String := none
  readsAttribute : Option String := none
  /-- Whether an attribute is mentioned at all, if only to say that there is none. -/
  mentionsAttribute : Bool := readsAttribute.isSome
  kinds : List (String × Option String) := []
  deriving Repr, Inhabited

namespace LocatorDraft

/-- The descriptor a draft declares, when it names no kinds but the permitted ones. -/
def descriptor (permitted : List String) (draft : LocatorDraft) :
    Except Failure LocatorDescriptor :=
  match draft.kinds.find? fun entry => !permitted.contains entry.1 with
  | some (name, _) => .error (.typeBreach ("unexpected keyword argument " ++ name))
  | none => LocatorDescriptor.make draft.value draft.readsAttribute draft.kinds

/-- The descriptor of an operation, which may be of any kind. -/
def forOperation (draft : LocatorDraft) : Except Failure LocatorDescriptor :=
  draft.descriptor (LocatorKind.all.map LocatorKind.label)

/-- The descriptor of a scope, which is a fragment and reads nothing. -/
def forScope (draft : LocatorDraft) : Except Failure LocatorDescriptor :=
  if draft.mentionsAttribute then .error (.typeBreach "unexpected keyword argument attribute")
  else draft.descriptor [LocatorKind.id.label, LocatorKind.css.label]

end LocatorDraft

/-- A member as it is written down. -/
inductive MemberDraft where
  | function (f : DeclaredFunction) (locator : Option LocatorDraft) (wrapping : Option Wrapping)
  | constant (name : String) (value : Value)
  /-- A second name for an earlier member. -/
  | sameAs (name other : String)
  deriving Repr, Inhabited

namespace MemberDraft

/-- The name a draft declares. -/
def name : MemberDraft → String
  | .function f _ _ => f.normal.name
  | .constant name _ => name
  | .sameAs name _ => name

/-- The name and the member a draft declares; `known` finds the members there are. -/
def member (known : String → Option Member) : MemberDraft → Except Failure (String × Member)
  | .constant name value => .ok (name, .constant value)
  | .sameAs name other =>
    match known other with
    | some found => .ok (name, found)
    | none => .error (.breach .missingKey other)
  | .function f locator wrapping => do
    if !f.isValid then throw (.breach .malformed "invalid syntax")
    let f := f.normal
    let locator ←
      match locator with
      | none => pure none
      | some draft => (draft.forOperation).map some
    let f := { f with locator }
    match wrapping with
    | none => return (f.name, .function f)
    | some how => return (f.name, .wrapped how f)

/-- The members of a class body, declared one after the other. -/
def declareAll : List MemberDraft → List (String × Member) →
    Except Failure (List (String × Member))
  | [], members => .ok members
  | draft :: rest, members => do
    let (name, found) ← draft.member fun known => members.lookup known
    declareAll rest (assign name found members)

end MemberDraft

/-- A class as it is written down. -/
structure ClassDraft where
  name : String
  bases : List TypeRef := []
  members : List MemberDraft := []
  scope : Option LocatorDraft := none
  url : Option Value := none
  deriving Repr, Inhabited

namespace ClassTable

/-- The table with one more class. -/
def append (table : ClassTable) (info : ClassInfo) : ClassTable :=
  ⟨table.classes ++ [info]⟩

/-- A new class over its bases, not yet in the table, of which its ancestors have not been told. -/
def untoldInfo (table : ClassTable) (name : String) (bases : List TypeRef)
    (members : List (String × Member)) : Except Failure ClassInfo := do
  let ref := ClassBody.refFor table.classes.length name members
  if name.contains (Char.ofNat 0) then throw (.valueBreach "null characters in a name")
  let members ← ClassBody.prepare table name bases members
  let members :=
    if (members.lookup descriptionMember).isSome then members
    else members ++ [(descriptionMember, .constant .none)]
  let members :=
    if (members.lookup "__eq__").isSome && (members.lookup hashMember).isNone then
      members ++ [(hashMember, .constant .none)]
    else members
  match Ancestry.over? table (.defined ref) bases with
  | some ancestry =>
    table.nameMembers members
    return { ref, key := name, ancestry, bases, members }
  | none => throw (.typeBreach "cannot create a consistent method resolution order")

/-- A new class over its bases, not yet in the table. -/
def draftInfo (table : ClassTable) (name : String) (bases : List TypeRef)
    (members : List (String × Member)) : Except Failure ClassInfo := do
  let info ← table.untoldInfo name bases members
  ClassBody.requireDescent (table.memberAmong? info.ancestry.tail ClassBody.descentMember)
  return info

/-- Require that a class may carry a declaration that only one capability has. -/
def requireCapability (table : ClassTable) (info : ClassInfo) (wanted : Capability)
    (declaration owners : String) : Except Failure Unit := do
  if (← (table.append info).capability (.defined info.ref)) ≠ some wanted then
    throw (.typeStated (declaration ++ "() only applies to " ++ owners ++
      " contracts, not " ++ info.ref.name))

/-- A class with its scope declared. -/
def withScope (table : ClassTable) (info : ClassInfo) :
    Option LocatorDraft → Except Failure ClassInfo
  | none => .ok info
  | some draft => do
    let scope ← draft.forScope
    table.requireCapability info .panel "scope" "Panel"
    return info.setMember scopeMember (.locator scope)

/-- A class with its address declared. -/
def withUrl (table : ClassTable) (info : ClassInfo) : Option Value → Except Failure ClassInfo
  | none => .ok info
  | some url => do
    table.requireCapability info .page "url" "Page"
    return info.setMember urlMember (.constant url)

/-- Define a class. -/
def define (table : ClassTable) (draft : ClassDraft) : Except Failure ClassTable := do
  let members ← MemberDraft.declareAll draft.members []
  let info ← table.draftInfo draft.name draft.bases members
  let info ← table.withScope info draft.scope
  let info ← table.withUrl info draft.url
  return table.append info

/-- The member that lists what a class leaves open, so that it has no instances. -/
def abstractMember : String := "__abstractmethods__"

/-- A class with a member set. Some members tell what the class is called, and one whether it can
have instances. -/
def withMember (info : ClassInfo) (name : String) (found : Member) : ClassInfo :=
  let info := { info with ref := ClassBody.renamed info.ref name found }
  if ClassBody.nominalNames.contains name then info
  else
    let info := info.setMember name found
    if name = abstractMember then { info with isAbstract := found.toValue.truthy } else info

/-- Set a member of a class that exists; the result is also what the class is called then. -/
def setMember (table : ClassTable) (ref : ClassRef) (draft : MemberDraft) :
    Except Failure (ClassTable × ClassRef) := do
  let (name, found) ← draft.member fun known => (table.ownMembers (.defined ref)).lookup known
  ClassBody.requireSettable name found
  let renamed := ClassBody.renamed ref name found
  return (table.update ref fun info => withMember info name found, renamed)

end ClassTable
end PageContracts
