import PageContracts.Value

/-! # The content of a document

What a settings document holds. Its collections are numbered and refer to each other by number,
so that one can be part of several others, and even of itself; seen from a place in the document
it is a value in which a collection inside itself is only hinted at.
-/
namespace PageContracts.Document

/-- A part of a document: a plain value, a collection, or two parts that belong together. -/
inductive Part where
  | plain (value : Value)
  | collection (number : Nat)
  | pair (first second : Part)
  deriving Repr, Inhabited

/-- A collection. The keys of a map and the items of a set are plain values. -/
inductive Collection where
  | list (items : List Part)
  | map (entries : List (Value × Part))
  | set (items : List Value)
  deriving Repr, Inhabited

/-- The content of a document: its collections, each at the place of its number, and the part that
is all of it. -/
structure Content where
  collections : Array Collection := #[]
  root : Part := .plain .none
  deriving Repr, Inhabited

namespace Collection

/-- Whether a collection holds nothing. -/
def isEmpty : Collection → Bool
  | .list items => items.isEmpty
  | .map entries => entries.isEmpty
  | .set items => items.isEmpty

/-- What stands for a collection inside itself. -/
def hint : Collection → Value
  | .list _ => .other "list" "[...]"
  | .map _ => .other "dict" "\x7b...\x7d"
  | .set _ => .other "set" "set(...)"

end Collection

namespace Part

/-- The value of a part, given the values of collections. -/
def valueBy (look : Nat → Value) : Part → Value
  | .plain value => value
  | .collection number => look number
  | .pair first second => .tuple [first.valueBy look, second.valueBy look]

end Part

namespace Collection

/-- The value of a collection, given the values of the collections in it. -/
def valueBy (look : Nat → Value) : Collection → Value
  | .list items => .list (items.map fun item => item.valueBy look)
  | .map entries => .map (entries.map fun entry => (entry.1, entry.2.valueBy look))
  | .set items => .set items

end Collection

namespace Content

/-- A document that holds an empty map. -/
def empty : Content :=
  { collections := #[.map []], root := .collection 0 }

/-- The collection that a part is, if it is one. -/
def collection? (content : Content) : Part → Option Collection
  | .collection number => content.collections[number]?
  | _ => none

/-- The value of a collection as seen from inside others. -/
def look (content : Content) (outer : List Nat) : Nat → Nat → Value
  | 0, _ => .none
  | fuel + 1, number =>
    match content.collections[number]? with
    | none => .none
    | some collection =>
      if outer.contains number then collection.hint
      else collection.valueBy (content.look (number :: outer) fuel)

/-- The value of a part. A collection lies inside at most all others, so there is enough fuel to
meet it again. -/
def value (content : Content) (part : Part) : Value :=
  part.valueBy (content.look [] (content.collections.size + 1))

/-- Whether a part counts as true where a condition is wanted. -/
def truthy (content : Content) (part : Part) : Bool :=
  match part with
  | .plain value => value.truthy
  | .pair .. => true
  | .collection _ => ((content.collection? part).map fun found => !found.isEmpty).getD false

/-- The part under a text key; absent when there is none or when the part is no map. -/
def entry? (content : Content) (part : Part) (key : String) : Option Part :=
  match content.collection? part with
  | some (.map entries) => (entries.find? fun entry => entry.1.isText key).map Prod.snd
  | _ => none

/-- The parts that a part is made of, one after the other: items, keys, bytes or characters;
`none` when it is not made of parts. -/
def members? (content : Content) (part : Part) : Option (List Part) :=
  match part with
  | .plain (.text s) => some (s.toList.map fun c => .plain (.text (String.ofList [c])))
  | .plain (.bytes b) => some (b.map fun byte => .plain (.int byte.toNat))
  | .pair first second => some [first, second]
  | .collection _ =>
    match content.collection? part with
    | some (.list items) => some items
    | some (.map entries) => some (entries.map fun entry => .plain entry.1)
    | some (.set items) => some (items.map .plain)
    | none => none
  | _ => none

end Content
end PageContracts.Document
