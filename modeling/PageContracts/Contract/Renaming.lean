import PageContracts.Contract.Definition

/-! # Renaming classes

A class that is called otherwise is still the same class: everything that refers to it by its
number sees its new name.
-/
namespace PageContracts

namespace ClassRef

/-- The reference to a class, brought up to date when it is the renamed one. -/
def follow (renamed : ClassRef) (ref : ClassRef) : ClassRef :=
  if ref.number = renamed.number then renamed else ref

end ClassRef

namespace Parameter

/-- A parameter in which every class has been replaced. -/
def mapClasses (change : ClassRef → ClassRef) (parameter : Parameter) : Parameter :=
  { parameter with default := parameter.default.map (Value.mapClasses change) }

end Parameter

namespace DeclaredFunction

/-- A function in which every class has been replaced. -/
def mapClasses (change : ClassRef → ClassRef) (f : DeclaredFunction) : DeclaredFunction :=
  { f with parameters := f.parameters.map (Parameter.mapClasses change) }

end DeclaredFunction

namespace Member

/-- A member in which every class has been replaced. -/
def mapClasses (change : ClassRef → ClassRef) : Member → Member
  | .function f => .function (f.mapClasses change)
  | .wrapped how f => .wrapped how (f.mapClasses change)
  | .constant value => .constant (value.mapClasses change)
  | .locator descriptor => .locator descriptor

end Member

namespace Field

/-- A field in which every class has been replaced. -/
def mapClasses (change : ClassRef → ClassRef) (field : Field) : Field :=
  { field with default := field.default.map (Value.mapClasses change) }

end Field

namespace ClassInfo

/-- A class in which every class has been replaced. -/
def mapClasses (change : ClassRef → ClassRef) (info : ClassInfo) : ClassInfo :=
  { info with
    ref := change info.ref
    ancestry := info.ancestry.map (TypeRef.mapClasses change)
    bases := info.bases.map (TypeRef.mapClasses change)
    members := info.members.map fun entry => (entry.1, entry.2.mapClasses change)
    fields := info.fields.map fun fields => fields.map (Field.mapClasses change) }

end ClassInfo

namespace ClassTable

/-- A table in which every class has been replaced. -/
def mapClasses (change : ClassRef → ClassRef) (table : ClassTable) : ClassTable :=
  ⟨table.classes.map (ClassInfo.mapClasses change)⟩

end ClassTable
end PageContracts
