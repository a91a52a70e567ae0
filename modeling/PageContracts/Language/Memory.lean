import PageContracts.Language.Meaning

/-! # Memory of an evaluation

What the evaluation of expressions keeps: the classes there are, the names that have been bound, the
frames of functions without a name and of rows made item by item, the rows that give their items one
by one, and whatever may change. A frame is only ever inside one made before it.

What may change is held under a number, together with what it last was; before anything is done with
it, that is brought up to date.
-/
namespace PageContracts.Language

/-- The names that the body of a function, or what a row is made of, has of its own. -/
structure Frame where
  names : List (String × Meaning) := []
  /-- The names that belong to the frame, whether they are bound yet or not. -/
  own : List String := []
  /-- The frame around it. -/
  outer : Option Nat := none
  /-- Whether it belongs to a row, which lets its names be bound around it. -/
  isRow : Bool := false
  /-- Whether nothing around it is seen but what is always there. -/
  isClosed : Bool := false
  /-- What the body has given so far, one by one. -/
  yielded : List Meaning := []
  deriving Repr, Inhabited

/-- Where the items of a row come from that gives them one by one. -/
inductive Source where
  | row (items : List Meaning)
  /-- The items of a row that may change while they are gone through, from a place on. -/
  | live (number place : Nat)
  /-- The items of a set or map that must keep its size while they are gone through. -/
  | guarded (number size : Nat) (items : List Meaning)
  /-- What the body of a function gives one by one. -/
  | body (frame : Nat) (body : Expression)
  | counted (next : Int) (count : Nat) (step : Int)
  /-- What a function makes of the items of rows. -/
  | mapped (f : Meaning) (rows : List Nat)
  /-- The items that a function holds of; without one those that hold themselves. -/
  | filtered (f : Meaning) (row : Nat)
  | zipped (isStrict : Bool) (rows : List Nat)
  | numbered (next : Int) (row : Nat)
  /-- What a function gives until it gives something known. -/
  | called (f last : Meaning)
  /-- What a function gives until there is no more. -/
  | asked (f : Meaning)
  /-- What a function gives for one number after the other, upwards until there is no more, or downwards
  as often as a count says. -/
  | indexed (f : Meaning) (next : Int) (count : Option Nat)
  /-- What an expression means for the items of loops; those of the open ones, innermost first, and
  the loops that are still to be opened. -/
  | made (item : Expression) (frame : Nat) (opened : List (Nat × Expression))
      (closed : List Expression)
  deriving Repr, Inhabited

/-- Names that an expression can change as the entries of a map: the number of the map in the memory,
and the names as they were put into it. -/
structure NameView where
  number : Nat
  names : List (String × Meaning)
  deriving Repr, Inhabited

/-- What an evaluation keeps. -/
structure Memory where
  table : ClassTable := {}
  /-- The names bound where the expression stands. -/
  locals : List (String × Meaning) := []
  /-- The names bound for everything. -/
  globals : List (String × Meaning) := []
  frames : Array Frame := #[]
  sources : Array Source := #[]
  /-- Whatever may change, as it is now, each at the place of its number. -/
  cells : Array Meaning := #[]
  /-- Members of classes that are more than the table can tell, or that may change. -/
  members : List ((Nat × String) × Meaning) := []
  /-- The names bound where the expression stands, as the entries of a map. -/
  localsView : Option NameView := none
  /-- The names bound for everything, as the entries of a map. -/
  globalsView : Option NameView := none
  /-- The maps that hold the attributes of instances for which they have been asked for: the numbers
  of the instances and of their maps. -/
  attributeMaps : List (Nat × Nat) := []
  /-- What functions without a name have been told about themselves, by their numbers and the names they
  have it under. -/
  notes : List ((Nat × String) × Meaning) := []
  /-- The classes that classes are instances of, by their numbers, where it is not the type of types. -/
  kinds : List (Nat × ClassRef) := []
  /-- How many calls are under way. -/
  depth : Nat := 0
  deriving Repr, Inhabited

/-- An evaluation: it may change the memory, and may fail. -/
abbrev Eval (α : Type) : Type :=
  EStateM Failure Memory α

/-- The result of a pure computation that may fail. -/
instance : MonadLift (Except Failure) Eval where
  monadLift result := fun memory =>
    match result with
    | .ok value => .ok value memory
    | .error failure => .error failure memory

namespace Memory

/-- What a name means within frames: a meaning, a failure, or nothing there. -/
inductive Found where
  | bound (item : Meaning)
  | unbound (message : String)
  /-- The frames have no such name; the last of them may be closed. -/
  | absent (isClosed : Bool)
  deriving Repr, Inhabited

/-- Look for a name in a frame and those around it; `isHere` tells whether it is the frame that asks.
The fuel is more than the number of frames. -/
def findFrom (memory : Memory) (name : String) : Nat → Bool → Option Nat → Found
  | 0, _, _ => .absent false
  | _, _, none => .absent false
  | fuel + 1, isHere, some number =>
    match memory.frames[number]? with
    | none => .absent false
    | some frame =>
      match frame.names.lookup name with
      | some item => .bound item
      | none =>
        if frame.own.contains name then
          .unbound <|
            if isHere then "cannot access local variable " ++ Quoted.quoted name ++
              " where it is not associated with a value"
            else "cannot access free variable " ++ Quoted.quoted name ++
              " where it is not associated with a value in enclosing scope"
        else if frame.isClosed then .absent true
        else findFrom memory name fuel false frame.outer

/-- Look for a name in a frame and those around it. -/
def find (memory : Memory) (frame : Option Nat) (name : String) : Found :=
  memory.findFrom name (memory.frames.size + 1) true frame

/-- The memory without what was kept of a member of a class. -/
def forget (memory : Memory) (number : Nat) (name : String) : Memory :=
  { memory with members := memory.members.filter fun entry => entry.1 ≠ (number, name) }

/-- The entries of a map that is held under a number. -/
def entriesAt (memory : Memory) (number : Nat) : List (String × Meaning) :=
  match (memory.cells[number]?).map Meaning.core with
  | some (.map entries) => entries.filterMap fun (key, item) => key.text?.map fun label => (label, item)
  | _ => []

/-- The names whose entries have been changed since they were put into a map. -/
def changedIn (memory : Memory) (view : NameView) : List (String × Meaning) :=
  (memory.entriesAt view.number).filter fun (label, item) =>
    match view.names.lookup label with
    | some old => !Meaning.isIdentical old item
    | none => true

/-- Names with the changes made to them by way of a map. -/
def merged (memory : Memory) (names : List (String × Meaning)) (view : Option NameView) :
    List (String × Meaning) :=
  (((view.map memory.changedIn).getD []).foldl fun known (label, item) => assign label item known)
    names

/-- Names as the entries of a map; the map stays the same one as long as it is kept. -/
def viewOf (memory : Memory) (names : List (String × Meaning)) (view : Option NameView) :
    Meaning × NameView × Memory :=
  let content := Meaning.map (names.map fun (label, item) => (.text label, item))
  match view with
  | some view =>
    (.held view.number content, { view with names },
      { memory with cells := memory.cells.set! view.number content })
  | none =>
    let number := memory.cells.size
    (.held number content, { number, names }, { memory with cells := memory.cells.push content })

/-- The frame in which a name is bound that is bound in a frame: rows let their names be bound around
them. -/
def binderOf (memory : Memory) : Nat → Option Nat → Option Nat
  | 0, _ => none
  | _, none => none
  | fuel + 1, some number =>
    match memory.frames[number]? with
    | none => none
    | some frame => if frame.isRow then memory.binderOf fuel frame.outer else some number

/-- A name bound in a frame. -/
def assignIn (memory : Memory) (number : Nat) (name : String) (item : Meaning) : Memory :=
  { memory with
    frames := memory.frames.modify number fun frame =>
      { frame with names := assign name item frame.names } }

/-- A name bound by an expression that stands in a frame, or in none. What a row binds outside of all
functions is bound for everything. -/
def bind (memory : Memory) (frame : Option Nat) (name : String) (item : Meaning) : Memory :=
  match frame, memory.binderOf (memory.frames.size + 1) frame with
  | none, _ => { memory with locals := assign name item memory.locals }
  | some _, some number => memory.assignIn number name item
  | some _, none => { memory with globals := assign name item memory.globals }

mutual

/-- Something with everything in it that may change held under numbers. -/
def own : Meaning → Array Meaning → Meaning × Array Meaning
  | .list items, cells =>
    let (items, cells) := ownAll items cells
    keep (.list items) cells
  | .set false items, cells =>
    let (items, cells) := ownAll items cells
    keep (.set false items) cells
  | .map entries, cells =>
    let (entries, cells) := ownEntries entries cells
    keep (.map entries) cells
  | .instanceOf ofClass attributes traits (some inner), cells =>
    let (attributes, cells) := ownNamed attributes cells
    let (inner, cells) := own inner cells
    keep (.instanceOf ofClass attributes traits (some inner)) cells
  | .instanceOf ofClass attributes traits none, cells =>
    let (attributes, cells) := ownNamed attributes cells
    keep (.instanceOf ofClass attributes traits none) cells
  | .flaw name arguments attributes, cells =>
    let (arguments, cells) := ownAll arguments cells
    let (attributes, cells) := ownNamed attributes cells
    keep (.flaw name arguments attributes) cells
  | .bytearray bytes, cells => keep (.bytearray bytes) cells
  | .closure slots body frame, cells => keep (.closure slots body frame) cells
  | .wrapped kind parts, cells => keep (.wrapped kind parts) cells
  | .thing typeName look [], cells => keep (.thing typeName look []) cells
  | .constant (.float .nan), cells => keep (.constant (.float .nan)) cells
  | .tuple items, cells =>
    let (items, cells) := ownAll items cells
    (.tuple items, cells)
  | .set true items, cells =>
    let (items, cells) := ownAll items cells
    (.set true items, cells)
  | .view kind of items, cells =>
    let (of, cells) := own of cells
    (.view kind of items, cells)
  | item, cells => (item, cells)

/-- Several things with everything in them that may change held under numbers. -/
def ownAll : List Meaning → Array Meaning → List Meaning × Array Meaning
  | [], cells => ([], cells)
  | first :: rest, cells =>
    let (first, cells) := own first cells
    let (rest, cells) := ownAll rest cells
    (first :: rest, cells)

/-- Map entries with everything in them that may change held under numbers. -/
def ownEntries : List (Meaning × Meaning) → Array Meaning → List (Meaning × Meaning) × Array Meaning
  | [], cells => ([], cells)
  | (key, value) :: rest, cells =>
    let (key, cells) := own key cells
    let (value, cells) := own value cells
    let (rest, cells) := ownEntries rest cells
    ((key, value) :: rest, cells)

/-- Attributes with everything in them that may change held under numbers. -/
def ownNamed : List (String × Meaning) → Array Meaning → List (String × Meaning) × Array Meaning
  | [], cells => ([], cells)
  | (name, value) :: rest, cells =>
    let (value, cells) := own value cells
    let (rest, cells) := ownNamed rest cells
    ((name, value) :: rest, cells)

/-- Hold something under the next number. -/
def keep (item : Meaning) (cells : Array Meaning) : Meaning × Array Meaning :=
  (.held cells.size item, cells.push item)

end

/-- Something that holds itself, as it is shown there. -/
def endless (content : Meaning) : Meaning :=
  match content.core with
  | .map _ => .constant (.other "dict" "\x7b...\x7d")
  | .list _ => .constant (.other "list" "[...]")
  | _ => .constant (.other content.typeName "...")

/-- What is held under a number as it was last written: an instance whose attributes are kept in a map
has those of the map. -/
def contentAt (memory : Memory) (number : Nat) (last : Meaning) : Meaning :=
  match memory.cells[number]?.getD last with
  | .instanceOf ofClass attributes traits inner =>
    let attributes := (memory.attributeMaps.lookup number).elim attributes memory.entriesAt
    .instanceOf ofClass attributes traits inner
  | content => content

/-- Something as it is now. It is followed as deep as the fuel says, and not into itself. -/
def refresh (memory : Memory) : Nat → List Nat → Meaning → Meaning
  | 0, _, item => item
  | fuel + 1, around, item =>
    let one := memory.refresh fuel around
    match item with
    | .held number last =>
      let content := memory.contentAt number last
      if around.contains number then .held number (endless content)
      else .held number (memory.refresh fuel (number :: around) content)
    | .type (.defined ref) =>
      .type (.defined (memory.table.current ref))
    | .tuple items => .tuple (items.map one)
    | .list items => .list (items.map one)
    | .set isFrozen items => .set isFrozen (items.map one)
    | .view kind of items =>
      let of := one of
      match of.core with
      | .map entries => .view kind of (Meaning.viewed kind entries)
      | _ => .view kind of items
    | .map entries => .map (entries.map fun (key, value) => (one key, one value))
    | .generic origin arguments => .generic origin (arguments.map one)
    | .slice start stop step => .slice (one start) (one stop) (one step)
    | .method of name => .method (one of) name
    | .declared f of => .declared f (of.map one)
    | .bound f receiver => .bound (one f) (one receiver)
    | .wrapped kind parts => .wrapped kind (parts.map one)
    | .memoryview whole => .memoryview (one whole)
    | .flaw name arguments attributes =>
      .flaw name (arguments.map one) (attributes.map fun (label, value) => (label, one value))
    | .instanceOf ofClass attributes traits inner =>
      .instanceOf (memory.table.current ofClass)
        (attributes.map fun (name, value) => (name, one value)) traits (inner.map one)
    | item => item

/-- How deep things that are brought up to date stand inside one another at most. -/
def refreshDepth : Nat := 1000

end Memory

namespace Eval

/-- Open a frame; the result is its number. -/
def openFrame (frame : Frame) : Eval Nat := do
  let memory ← get
  set { memory with frames := memory.frames.push frame }
  return memory.frames.size

/-- Start a row that gives its items one by one; the result is its number. -/
def start (source : Source) : Eval Nat := do
  let memory ← get
  set { memory with sources := memory.sources.push source }
  return memory.sources.size

/-- Where the items of a row come from now on. -/
def setSource (number : Nat) (source : Source) : Eval Unit :=
  modify fun memory => { memory with sources := memory.sources.set! number source }

/-- Something as it is now. -/
def fresh (item : Meaning) : Eval Meaning := do
  return (← get).refresh Memory.refreshDepth [] item

/-- Several things as they are now. -/
def freshAll (items : List Meaning) : Eval (List Meaning) :=
  items.mapM fresh

/-- What is given by name as it is now. -/
def freshNamed (named : List (String × Meaning)) : Eval (List (String × Meaning)) :=
  named.mapM fun (name, item) => do return (name, ← fresh item)

/-- Something with everything in it that may change held under numbers. -/
def owned (item : Meaning) : Eval Meaning := do
  let memory ← get
  let (item, cells) := Memory.own item memory.cells
  set { memory with cells }
  return item

/-- Something with everything in it that may change held under numbers, but not itself. -/
def ownedContent (item : Meaning) : Eval Meaning := do
  return (← owned item).bare

/-- Change what is held under a number. -/
def write (number : Nat) (content : Meaning) : Eval Unit :=
  modify fun memory => { memory with cells := memory.cells.set! number content }

/-- Change what something holds, if it is held under a number. -/
def rewrite (item content : Meaning) : Eval Unit :=
  match item with
  | .held number _ => write number content
  | _ => return ()

/-- The attributes of an instance as the entries of a map, the same one as long as the instance is
there. -/
def attributeMap (item content : Meaning) : Eval Meaning := do
  match item with
  | .held number _ => do
    let memory ← get
    match memory.attributeMaps.lookup number with
    | some place =>
      write place content
      return .held place content
    | none =>
      let place := memory.cells.size
      set { memory with
        cells := memory.cells.push content
        attributeMaps := (number, place) :: memory.attributeMaps }
      return .held place content
  | _ => return content

/-- Change the attributes of an instance, and the map that holds them if there is one. -/
def rewriteAttributes (item : Meaning) (attributes : List (String × Meaning)) : Eval Unit := do
  match item with
  | .held number (.instanceOf ofClass _ traits inner) => do
    write number (.instanceOf ofClass attributes traits inner)
    match (← get).attributeMaps.lookup number with
    | some place =>
      write place (.map (attributes.map fun (label, value) => (.text label, value)))
    | none => return ()
  | _ => return ()

/-- The greatest number of calls under way. -/
def callLimit : Nat := 900

/-- Evaluate the body of a function, unless too many calls are under way. -/
def inCall (body : Eval Meaning) : Eval Meaning := do
  let depth := (← get).depth
  if callLimit < depth then throw (.breach .tooDeep "maximum recursion depth exceeded")
  modify fun memory => { memory with depth := depth + 1 }
  let result ← body
  modify fun memory => { memory with depth }
  return result

/-- The greatest number of items that are taken of a row. -/
def itemLimit : Nat := Nat.pow 2 20

/-- Take items as long as there are some. The fuel is the greatest number of items. -/
def collect (next : Eval (Option Meaning)) : Nat → List Meaning → Eval (List Meaning)
  | 0, _ => throw (.breach .exhausted "out of memory")
  | fuel + 1, taken => do
    match ← next with
    | some item => collect next fuel (item :: taken)
    | none => return taken.reverse

/-- Go on until there is an answer. The fuel is the greatest number of steps. -/
def untilSome {α : Type} (step : Eval (Option α)) : Nat → Eval α
  | 0 => throw (.breach .exhausted "out of memory")
  | fuel + 1 => do
    match ← step with
    | some answer => return answer
    | none => untilSome step fuel

end Eval

/-- The parts of an evaluation that refer to one another: what an expression means in a frame, what
calling something gives, what a method gives, what something has under a name, the number of the row
that goes through something, the next item of a row, and what a sign between two operands gives. -/
structure Machine where
  evaluate : Option Nat → Expression → Eval Meaning
  call : Meaning → List Meaning → List (String × Meaning) → Eval Meaning
  method : Meaning → String → List Meaning → List (String × Meaning) → Eval Meaning
  access : Meaning → String → Eval Meaning
  openRow : Meaning → Eval Nat
  next : Nat → Eval (Option Meaning)
  operate : String → Meaning → Meaning → Eval Meaning

namespace Machine

/-- A machine that has nothing left to go on with. -/
def exhausted : Machine :=
  let fail {α : Type} : Eval α := throw (.breach .tooDeep "maximum recursion depth exceeded")
  { evaluate := fun _ _ => fail
    call := fun _ _ _ => fail
    method := fun _ _ _ _ => fail
    access := fun _ _ => fail
    openRow := fun _ => fail
    next := fun _ => fail
    operate := fun _ _ _ => fail }

/-- All items of something. -/
def items (machine : Machine) (item : Meaning) : Eval (List Meaning) := do
  match (← Eval.fresh item).bare with
  | .tuple items => return items
  | .list items => return items
  | _ =>
    let row ← machine.openRow item
    Eval.collect (machine.next row) Eval.itemLimit []

/-- Whether a condition on something holds; the class of an instance may say so. -/
def holds (machine : Machine) (item : Meaning) : Eval Bool := do
  let item ← Eval.fresh item
  match item.bare with
  | .instanceOf .. =>
    return (← Eval.fresh (← machine.call (.type (.builtin "bool")) [item] [])).truthy
  | _ => return item.truthy

/-- Whether a comparison of two operands holds. -/
def compares (machine : Machine) (sign : String) (left right : Meaning) : Eval Bool := do
  machine.holds (← machine.operate sign left right)

/-- Something that gives its items one by one, as a list of them; anything else as it is. -/
def settled (machine : Machine) (item : Meaning) : Eval Meaning := do
  match item.bare with
  | .iterator .. => return .list (← machine.items item)
  | _ => return item

end Machine
end PageContracts.Language
