import PageContracts.Contract.ClassBody

/-! # Ancestry

The order in which a class inherits: itself first, every class before its own ancestors, and the
bases in the order they are listed. When no such order exists the class cannot be defined.
-/
namespace PageContracts.Ancestry

/-- Whether a type stands behind the front of one of the rows. -/
def blocked (rows : List (List TypeRef)) (type : TypeRef) : Bool :=
  rows.any fun row => row.tail.contains type

/-- The first front that stands behind no other. -/
def nextFront? (rows : List (List TypeRef)) : Option TypeRef :=
  (rows.filterMap List.head?).find? fun type => !blocked rows type

/-- The rows with a type taken off their fronts. -/
def dropFront (type : TypeRef) (rows : List (List TypeRef)) : List (List TypeRef) :=
  rows.map fun row => if row.head? = some type then row.tail else row

/-- Merge rows into one order that agrees with each of them. The fuel is the number of types in
the rows, of which every step takes one. -/
def merge? : Nat → List (List TypeRef) → Option (List TypeRef)
  | fuel, rows =>
    if rows.all List.isEmpty then some []
    else
      match fuel with
      | 0 => none
      | fuel + 1 =>
        match nextFront? rows with
        | none => none
        | some type => (merge? fuel (dropFront type rows)).map (type :: ·)

/-- The type that every type descends from. -/
def common : TypeRef := .builtin "object"

/-- Whether new types may descend from a type. -/
def isBase : TypeRef → Bool
  | .builtin name => !Language.closedTypes.contains name
  | .optional _ => false
  | _ => true

/-- Whether types can be bases together: the layouts of any two of them must agree. -/
def layoutsAgree (table : ClassTable) (bases : List TypeRef) : Bool :=
  let layouts := bases.filterMap fun base => ClassBody.layout? table base
  layouts.all fun a => layouts.all fun b => table.descends a b || table.descends b a

/-- The ancestry of a new type over its bases; `none` when the bases repeat or contradict each
other, or when one of them cannot be a base. What every type descends from is left out, and may
only be the last of the bases. -/
def over? (table : ClassTable) (type : TypeRef) (bases : List TypeRef) :
    Option (List TypeRef) := do
  guard (bases.eraseDups.length = bases.length && bases.all isBase)
  guard (!bases.dropLast.contains common)
  let bases := bases.filter (· ≠ common)
  let rows := bases.map table.ancestry ++ [bases]
  let ancestry ← merge? ((rows.map List.length).foldl Nat.add 0) rows
  guard (layoutsAgree table bases)
  return type :: ancestry

end PageContracts.Ancestry
