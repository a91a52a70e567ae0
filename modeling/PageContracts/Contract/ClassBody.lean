import PageContracts.Contract.Marks
import PageContracts.Contract.Signature

/-! # Class bodies

Some members of a class mean something for the class itself: the names it reserves for attributes
of its instances, its full name, and what it asks of the classes that descend from it. They have
to be of the right kind when the class is made, and some of them can never be replaced.
-/
namespace PageContracts.ClassBody

/-- The member that lists the names a class reserves for attributes of its instances. -/
def reservingMember : String := "__slots__"

/-- The member that holds the full name of a class, within the module it is defined in. -/
def qualifiedMember : String := "__qualname__"

/-- The member that holds the module a class is defined in. -/
def moduleMember : String := "__module__"

/-- The member that is called whenever a class descends from the one that has it. -/
def descentMember : String := "__init_subclass__"

/-- A class placed at what a member names. -/
def placeAt (ref : ClassRef) (found : Member) : ClassRef :=
  match found with
  | .constant (.text place) => { ref with place, placed := true }
  | found => { ref with place := found.toValue.display, placed := false }

/-- The reference of a new class, as far as its members tell it. -/
def refFor (number : Nat) (name : String) (members : List (String × Member)) : ClassRef :=
  let ref : ClassRef :=
    match members.lookup qualifiedMember with
    | some (.constant (.text qualified)) => { number, name, qualified }
    | _ => { number, name }
  match members.lookup moduleMember with
  | none => ref
  | some found => placeAt ref found

/-- A class called otherwise by having one of its members set. -/
def renamed (ref : ClassRef) (name : String) (found : Member) : ClassRef :=
  match found with
  | .constant (.text text) =>
    if name = "__name__" then { ref with name := text }
    else if name = qualifiedMember then { ref with qualified := text }
    else if name = moduleMember then placeAt ref found
    else ref
  | found => if name = moduleMember then placeAt ref found else ref

/-- The names that are no members, although they can be set. -/
def nominalNames : List String := ["__name__", qualifiedMember]

/-- A name that may be reserved. -/
def reservable : Value → Except Failure String
  | .text name =>
    if Names.isName name.toList then .ok name
    else .error (.typeBreach "__slots__ must be identifiers")
  | _ => .error (.typeBreach "__slots__ items must be strings")

/-- The names a member reserves. -/
def reservedBy : Member → Except Failure (List String)
  | .constant (.text name) => [Value.text name].mapM reservable
  | .constant (.list items) | .constant (.tuple items) | .constant (.set items) =>
    items.mapM reservable
  | .constant (.map entries) => (entries.map Prod.fst).mapM reservable
  | .constant (.query params) =>
    if params.nonempty then .error (.typeBreach "__slots__ items must be strings") else .ok []
  | _ => .error (.typeBreach "object is not iterable")

/-- The names that stand for the instances' freedom to have any attributes, and to be referred to
without being kept. -/
def freedoms : List String := ["__dict__", "__weakref__"]

/-- The kind of a member that stands for a reserved name. -/
def reservedKind : String := "member_descriptor"

/-- Whether a class reserves names, so that its instances are laid out in a way of its own. -/
def reservesNames (members : List (String × Member)) : Bool :=
  members.any fun entry =>
    match entry.2 with
    | .constant (.other kind _ _) => kind = reservedKind
    | _ => false

/-- The nearest type that lays out its values in a way of its own: those of the language do, and
classes that reserve names. -/
def layout? (table : ClassTable) (type : TypeRef) : Option TypeRef :=
  ((table.ancestry type).find? fun
    | .builtin name => name ≠ Language.commonType
    | .defined ref => reservesNames (table.ownMembers (.defined ref))
    | _ => false).map fun
      | .builtin name =>
        .builtin (if Language.isFailureType name then Language.failureLayout name else name)
      | other => other

/-- The base that settles how the instances of a class are laid out: the first of those whose layout
contains those of the others. -/
def leadingBase? (table : ClassTable) (bases : List TypeRef) : Option TypeRef :=
  bases.foldl (fun leading base =>
    match leading with
    | none => some base
    | some known =>
      match layout? table known, layout? table base with
      | _, none => leading
      | none, some _ => some base
      | some old, some new => if table.descends old new then leading else some base) none

/-- Whether instances of a class have one of the freedoms: to have any attributes, or to be referred
to without being kept. Classes that reserve no names give their instances both. -/
def hasFreedom (table : ClassTable) (freedom : String) (type : TypeRef) : Bool :=
  (table.ancestry type).any fun ancestor =>
    match ancestor with
    | .panel | .page => true
    | .defined _ =>
      match (table.ownMembers ancestor).lookup reservingMember with
      | none => true
      | some listing => ((reservedBy listing).toOption.getD []).contains freedom
    | .builtin name => Language.isFailureType name
    | _ => false

/-- Whether values of a type differ in size. -/
def variesInSize (table : ClassTable) (type : TypeRef) : Bool :=
  (table.ancestry type).any fun ancestor =>
    ["int", "tuple", "bytes", "type"].any fun name => ancestor = .builtin name

/-- A private name as it is kept in a class. -/
def mangled (className name : String) : String :=
  let bare := className.toList.dropWhile (· = '_')
  let ending := name.toList.reverse.take 2
  if name.startsWith "__" && ending ≠ ['_', '_'] && !bare.isEmpty then
    "_" ++ String.ofList bare ++ name
  else name

/-- The members of a class with those for the names it reserves. -/
def withReserved (table : ClassTable) (className : String) (bases : List TypeRef)
    (members : List (String × Member)) : Except Failure (List (String × Member)) :=
  match members.lookup reservingMember with
  | none => .ok members
  | some listing => do
    let names ← reservedBy listing
    if !names.isEmpty && bases.any (variesInSize table) then
      throw (.typeBreach "nonempty __slots__ not supported")
    let free := names.filter freedoms.contains
    let given (freedom : String) : Bool :=
      ((leadingBase? table bases).map (hasFreedom table freedom)).getD false
    if free.eraseDups.length ≠ free.length || free.any given then
      throw (.typeBreach "slot disallowed: we already got one")
    let own := (names.filter fun name => !freedoms.contains name).map (mangled className)
    if own.any fun name => name ≠ qualifiedMember && (members.lookup name).isSome then
      throw (.valueBreach "conflicts with class variable")
    return own.foldl (fun members name =>
      assign name (.constant (.other reservedKind (shown name))) members) members
where
  /-- A member that stands for a reserved name, as messages show it. -/
  shown (name : String) : String :=
    "<member " ++ Quoted.quoted name ++ " of " ++ Quoted.quoted className ++ " objects>"

/-- A member as it is kept under its name: functions under some names belong to the class. -/
def kept (entry : String × Member) : String × Member :=
  match entry with
  | (name, .function f) =>
    if name = descentMember || name = "__class_getitem__" then (name, .wrapped .onClass f) else entry
  | entry => entry

/-- The members that a class gets from its body. -/
def prepare (table : ClassTable) (className : String) (bases : List TypeRef)
    (members : List (String × Member)) : Except Failure (List (String × Member)) := do
  let all ← withReserved table className bases members
  match members.lookup qualifiedMember with
  | none | some (.constant (.text _)) => pure ()
  | some _ => throw (.typeBreach "type __qualname__ must be a str")
  if (all.lookup "__classcell__").isSome then
    throw (.typeBreach "__classcell__ must be a nonlocal cell")
  return (all.filter fun entry => entry.1 ≠ qualifiedMember).map kept

/-- Require that a class may descend from others, given what it finds among them to be called. -/
def requireDescent (found : Option Member) : Except Failure Unit :=
  match found with
  | none => .ok ()
  | some (.wrapped .onClass f) => (Binding.enter f.signature [.none] []).map fun _ => ()
  | some (.wrapped .static f) | some (.function f) =>
    (Binding.enter f.signature [] []).map fun _ => ()
  | some (.constant (.type _)) => .ok ()
  | some _ => .error (.typeBreach "object is not callable")

/-- What a class knows about itself and nobody can set. -/
def fixedNames : List String :=
  ["__base__", "__basicsize__", "__dict__", "__dictoffset__", "__flags__", "__itemsize__",
    "__mro__", "__text_signature__", "__weakrefoffset__"]

/-- Require that a member of a class that exists may be set. -/
def requireSettable (name : String) (found : Member) : Except Failure Unit :=
  if fixedNames.contains name then .error (.missing name)
  else if name = "__bases__" || name = "__class__" then
    .error (.typeBreach ("cannot assign " ++ name))
  else if name = "__name__" || name = qualifiedMember then
    match found with
    | .constant (.text text) =>
      if name = "__name__" && text.contains (Char.ofNat 0) then
        .error (.valueBreach "null characters in a name")
      else .ok ()
    | _ => .error (.typeBreach ("can only assign string to " ++ name))
  else .ok ()

end PageContracts.ClassBody
