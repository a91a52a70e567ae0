import PageContracts.Contract.Model
import PageContracts.Proofs.Sources

/-! # Lineages

Classes are defined one after the other, each over classes that are known already. So every class has a
place in the table that agrees with its number, its ancestry begins with itself, and none of its
ancestors is ever missing; a class that is added changes nothing about those that are there. -/
namespace PageContracts

open Runs

namespace Ancestry

theorem mem_of_nextFront? {rows : List (List TypeRef)} {type : TypeRef}
    (h : nextFront? rows = some type) : ∃ row ∈ rows, type ∈ row := by
  obtain ⟨row, listed, front⟩ := List.mem_filterMap.mp (List.mem_of_find?_eq_some h)
  exact ⟨row, listed, List.mem_of_mem_head? front⟩

/-- What is merged comes from the rows. -/
theorem mem_of_merge? {fuel : Nat} {rows : List (List TypeRef)} {order : List TypeRef}
    (h : merge? fuel rows = some order) {type : TypeRef} (listed : type ∈ order) :
    ∃ row ∈ rows, type ∈ row := by
  induction fuel generalizing rows order with
  | zero =>
    unfold merge? at h
    split at h
    · cases h
      exact (List.not_mem_nil listed).elim
    · cases h
  | succ fuel ih =>
    unfold merge? at h
    split at h
    · cases h
      exact (List.not_mem_nil listed).elim
    · cases found : nextFront? rows with
      | none =>
        rw [found] at h
        cases h
      | some front =>
        rw [found] at h
        obtain ⟨rest, merged, rfl⟩ := Option.map_eq_some_iff.mp h
        rcases List.mem_cons.mp listed with rfl | behind
        · exact mem_of_nextFront? found
        · obtain ⟨shorter, dropped, inside⟩ := ih merged behind
          obtain ⟨row, held, rfl⟩ := List.mem_map.mp dropped
          refine ⟨row, held, ?_⟩
          split at inside
          · exact List.mem_of_mem_tail inside
          · exact inside

/-- An ancestry begins with the type itself, and goes on with bases and what they descend from. -/
theorem over?_eq_some {table : ClassTable} {type : TypeRef} {bases ancestry : List TypeRef}
    (h : over? table type bases = some ancestry) :
    ∃ rest, ancestry = type :: rest ∧
      ∀ other ∈ rest, other ∈ bases ∨ ∃ base ∈ bases, other ∈ table.ancestry base := by
  unfold over? at h
  obtain ⟨_, -, h⟩ := Option.bind_eq_some_iff.mp h
  obtain ⟨_, -, h⟩ := Option.bind_eq_some_iff.mp h
  obtain ⟨rest, merged, h⟩ := Option.bind_eq_some_iff.mp h
  obtain ⟨_, -, same⟩ := Option.bind_eq_some_iff.mp h
  refine ⟨rest, (Option.some.inj same).symm, fun other listed => ?_⟩
  obtain ⟨row, held, inside⟩ := mem_of_merge? merged listed
  rcases List.mem_append.mp held with mapped | last
  · obtain ⟨base, given, rfl⟩ := List.mem_map.mp mapped
    exact .inr ⟨base, (List.mem_filter.mp given).1, inside⟩
  · rw [List.mem_singleton.mp last] at inside
    exact .inl (List.mem_filter.mp inside).1

end Ancestry

namespace ClassTable

/-- All classes among some types are in the table. -/
def Knows (table : ClassTable) (types : List TypeRef) : Prop :=
  ∀ ref, TypeRef.defined ref ∈ types → ref.number < table.classes.length

/-- Every class stands at its number, its ancestry begins with itself, and its ancestors are there. -/
structure Coherent (table : ClassTable) : Prop where
  numbered : ∀ (i : Nat) info, table.classes[i]? = some info → info.ref.number = i
  headed : ∀ info ∈ table.classes, info.ancestry.head? = some (.defined info.ref)
  known : ∀ info ∈ table.classes, table.Knows info.ancestry

/-- A class that is ready to be added to a table, over some bases. -/
structure Ready (table : ClassTable) (bases : List TypeRef) (info : ClassInfo) : Prop where
  number : info.ref.number = table.classes.length
  ancestry : Ancestry.over? table (.defined info.ref) bases = some info.ancestry

section Adding

variable {table : ClassTable} {bases : List TypeRef} {info : ClassInfo}

theorem coherent_nil : (⟨[]⟩ : ClassTable).Coherent where
  numbered _ _ found := nomatch found
  headed _ listed := (List.not_mem_nil listed).elim
  known _ listed := (List.not_mem_nil listed).elim

theorem Coherent.knows_ancestry (coherent : table.Coherent) {base : TypeRef} {types : List TypeRef}
    (known : table.Knows types) (listed : base ∈ types) : table.Knows (table.ancestry base) := by
  intro ref inside
  unfold ClassTable.ancestry at inside
  split at inside
  · next own =>
    cases found : table.info? own with
    | none =>
      rw [found] at inside
      exact (List.not_mem_nil inside).elim
    | some info =>
      rw [found] at inside
      exact coherent.known info (List.mem_of_getElem? found) ref inside
  · split at inside
    · cases List.mem_singleton.mp inside
    · obtain ⟨_, -, same⟩ := List.mem_map.mp inside
      cases same
  · cases List.mem_singleton.mp inside
    exact known ref listed

theorem Ready.tail_known (ready : table.Ready bases info) (coherent : table.Coherent)
    (known : table.Knows bases) : table.Knows info.ancestry.tail := by
  obtain ⟨rest, same, origin⟩ := Ancestry.over?_eq_some ready.ancestry
  rw [same]
  intro ref listed
  rcases origin _ listed with base | ⟨base, given, inherited⟩
  · exact known ref base
  · exact coherent.knows_ancestry known given ref inherited

theorem Ready.headed (ready : table.Ready bases info) :
    info.ancestry = .defined info.ref :: info.ancestry.tail := by
  obtain ⟨rest, same, -⟩ := Ancestry.over?_eq_some ready.ancestry
  rw [same]
  rfl

theorem length_append (table : ClassTable) (info : ClassInfo) :
    (table.append info).classes.length = table.classes.length + 1 := List.length_append

theorem Knows.append {types : List TypeRef} (known : table.Knows types) :
    (table.append info).Knows types := by
  intro ref listed
  rw [length_append]
  exact Nat.lt_succ_of_lt (known ref listed)

theorem knows_append_new (ready : table.Ready bases info) :
    (table.append info).Knows [.defined info.ref] := by
  intro ref listed
  cases List.mem_singleton.mp listed
  rw [length_append, ready.number]
  exact Nat.lt_succ_self _

/-- A class over known bases can be added. -/
theorem Coherent.append (coherent : table.Coherent) (known : table.Knows bases)
    (ready : table.Ready bases info) : (table.append info).Coherent where
  numbered i other found := by
    change (table.classes ++ [info])[i]? = some other at found
    by_cases old : i < table.classes.length
    · rw [List.getElem?_append_left old] at found
      exact coherent.numbered i other found
    · have last : i = table.classes.length := by
        obtain ⟨bounded, -⟩ := List.getElem?_eq_some_iff.mp found
        rw [List.length_append, List.length_singleton] at bounded
        omega
      rw [last, List.getElem?_concat_length] at found
      cases found
      rw [ready.number, last]
  headed other listed := by
    rcases List.mem_append.mp listed with old | new
    · exact coherent.headed other old
    · rw [List.mem_singleton.mp new, ready.headed]
      rfl
  known other listed := by
    rcases List.mem_append.mp listed with old | new
    · exact (coherent.known other old).append
    · rw [List.mem_singleton.mp new, ready.headed]
      intro ref inside
      rcases List.mem_cons.mp inside with itself | behind
      · exact knows_append_new ready ref (itself ▸ List.mem_singleton_self _)
      · exact (ready.tail_known coherent known).append ref behind

theorem info?_append_of_lt {ref : ClassRef} (old : ref.number < table.classes.length) :
    (table.append info).info? ref = table.info? ref :=
  List.getElem?_append_left old

theorem info?_append_new {ref : ClassRef} (new : ref.number = table.classes.length) :
    (table.append info).info? ref = some info := by
  rw [info?, new]
  exact List.getElem?_concat_length

end Adding

section Reading

variable {table : ClassTable} {bases types : List TypeRef} {info : ClassInfo}

/-- The classes among some types. -/
def infos (table : ClassTable) (types : List TypeRef) : List ClassInfo :=
  types.filterMap fun
    | .defined ref => table.info? ref
    | _ => none

theorem lineage_eq_infos (table : ClassTable) (type : TypeRef) :
    table.lineage type = table.infos (table.ancestry type) := rfl

theorem infos_cons {ref : ClassRef} (found : table.info? ref = some info) :
    table.infos (.defined ref :: types) = info :: table.infos types :=
  List.filterMap_cons_some found

theorem infos_append (known : table.Knows types) : (table.append info).infos types = table.infos types := by
  refine List.filterMap_congr fun type listed => ?_
  cases type with
  | defined ref => exact info?_append_of_lt (known ref listed)
  | _ => rfl

theorem ancestry_append (known : table.Knows types) {type : TypeRef} (listed : type ∈ types) :
    (table.append info).ancestry type = table.ancestry type := by
  cases type with
  | defined ref =>
    unfold ClassTable.ancestry
    dsimp only
    rw [info?_append_of_lt (known ref listed)]
  | _ => rfl

theorem lineage_append (coherent : table.Coherent) {type : TypeRef} (known : table.Knows [type]) :
    (table.append info).lineage type = table.lineage type := by
  have itself := List.mem_singleton_self type
  rw [lineage_eq_infos, ancestry_append known itself,
    infos_append (coherent.knows_ancestry known itself), lineage_eq_infos]

/-- The lineage of a class that has just been added is the class itself and what its ancestors were
before. -/
theorem lineage_append_new (coherent : table.Coherent) (known : table.Knows bases)
    (ready : table.Ready bases info) :
    (table.append info).lineage (.defined info.ref) = info :: table.infos info.ancestry.tail := by
  have itself : (table.append info).info? info.ref = some info := info?_append_new ready.number
  have ancestry : (table.append info).ancestry (.defined info.ref) = info.ancestry := by
    unfold ClassTable.ancestry
    dsimp only
    rw [itself]
    rfl
  rw [lineage_eq_infos, ancestry, ready.headed, infos_cons itself]
  exact congrArg (info :: ·) (infos_append (ready.tail_known coherent known))

/-- The lineage of a class that is in the table begins with the class. -/
theorem Coherent.lineage_of_info? (coherent : table.Coherent) {ref : ClassRef}
    (found : table.info? ref = some info) :
    ∃ rest, table.lineage (.defined ref) = info :: rest := by
  have itself : table.info? info.ref = some info := by
    rw [info?, coherent.numbered _ _ found]
    exact found
  have headed := coherent.headed info (List.mem_of_getElem? found)
  have ancestry : table.ancestry (.defined ref) = info.ancestry := by
    unfold ClassTable.ancestry
    dsimp only
    rw [found]
    rfl
  obtain ⟨rest, split⟩ := List.head?_eq_some_iff.mp headed
  refine ⟨table.infos rest, ?_⟩
  rw [lineage_eq_infos, ancestry, split, infos_cons itself]

end Reading

section Defining

variable {table later : ClassTable} {name : String} {bases : List TypeRef} {info : ClassInfo}
  {members : List (String × Member)}

/-- A class that differs from one that is ready in neither its reference nor its ancestry. -/
theorem Ready.of_same {other : ClassInfo} (ready : table.Ready bases info)
    (ref : other.ref = info.ref) (ancestry : other.ancestry = info.ancestry) :
    table.Ready bases other where
  number := by rw [ref, ready.number]
  ancestry := by rw [ref, ancestry, ready.ancestry]

theorem refFor_number (number : Nat) (name : String) (members : List (String × Member)) :
    (ClassBody.refFor number name members).number = number := by
  have placed (ref : ClassRef) (found : Member) :
      (ClassBody.placeAt ref found).number = ref.number := by
    unfold ClassBody.placeAt
    split <;> rfl
  unfold ClassBody.refFor
  split <;> split <;> first | rfl | exact placed _ _

/-- A new class is ready to be added, and has no fields yet. -/
theorem draftInfo_eq_ok (h : table.draftInfo name bases members = .ok info) :
    table.Ready bases info ∧ info.fields = none := by
  obtain ⟨untold, made, h⟩ := except_bind_eq_ok.mp h
  obtain ⟨_, -, h⟩ := except_bind_eq_ok.mp h
  cases h
  unfold untoldInfo at made
  dsimp only at made
  split at made
  · cases made
  · obtain ⟨prepared, -, made⟩ := except_bind_eq_ok.mp made
    split at made
    · next ancestry found =>
      obtain ⟨_, -, made⟩ := except_bind_eq_ok.mp made
      cases made
      exact ⟨⟨refFor_number _ _ _, found⟩, rfl⟩
    · cases made

theorem setMember_ready (ready : table.Ready bases info) (name : String) (found : Member) :
    table.Ready bases (info.setMember name found) :=
  ready.of_same rfl rfl

theorem withScope_eq_ok {scope : Option LocatorDraft} {placed : ClassInfo}
    (h : table.withScope info scope = .ok placed) (ready : table.Ready bases info) :
    table.Ready bases placed := by
  cases scope with
  | none =>
    cases h
    exact ready
  | some draft =>
    obtain ⟨descriptor, -, h⟩ := except_bind_eq_ok.mp h
    obtain ⟨_, -, h⟩ := except_bind_eq_ok.mp h
    cases h
    exact setMember_ready ready _ _

theorem withUrl_eq_ok {url : Option Value} {addressed : ClassInfo}
    (h : table.withUrl info url = .ok addressed) (ready : table.Ready bases info) :
    table.Ready bases addressed := by
  cases url with
  | none =>
    cases h
    exact ready
  | some address =>
    obtain ⟨_, -, h⟩ := except_bind_eq_ok.mp h
    cases h
    exact setMember_ready ready _ _

/-- Defining a class adds one that was ready. -/
theorem define_eq_ok {draft : ClassDraft} (h : table.define draft = .ok later) :
    ∃ info, table.Ready draft.bases info ∧ later = table.append info := by
  obtain ⟨members, -, h⟩ := except_bind_eq_ok.mp h
  obtain ⟨plain, drafted, h⟩ := except_bind_eq_ok.mp h
  obtain ⟨placed, scoping, h⟩ := except_bind_eq_ok.mp h
  obtain ⟨addressed, addressing, h⟩ := except_bind_eq_ok.mp h
  cases h
  have ready := withScope_eq_ok scoping (draftInfo_eq_ok drafted).1
  exact ⟨addressed, withUrl_eq_ok addressing ready, rfl⟩

/-- A class that has been made a record type has the fields it inherits with its own set among them, and
no member of its own in the place of their list. -/
structure Recorded (table : ClassTable) (info : ClassInfo) (own : List String) (recorded : ClassInfo) :
    Prop where
  ref : recorded.ref = info.ref
  ancestry : recorded.ancestry = info.ancestry
  unlisted : recorded.members.lookup fieldsMember = none
  fields : ∃ inherited added : List Field,
    table.inheritedFields info = .ok inherited ∧ added.map Field.name = own ∧
    recorded.fields = some (added.foldl (fun all field => setField field all) inherited)

theorem named_of_mapM {default : String → Except Failure (Option Value)} {names : List String}
    {fields : List Field}
    (h : names.mapM (fun name => do return { name := name, default := ← default name : Field }) =
      .ok fields) : fields.map Field.name = names := by
  have made := mapM_eq_ok h
  clear h
  induction made with
  | nil => rfl
  | cons first _ ih =>
    obtain ⟨default, -, same⟩ := except_bind_eq_ok.mp first
    cases same
    exact congrArg (_ :: ·) ih

theorem withFields_eq_ok {own : List String} {recorded : ClassInfo}
    (h : table.withFields info own = .ok recorded) : table.Recorded info own recorded := by
  unfold withFields at h
  extract_lets members followsUp described rest at h
  have passed : rest () = .ok recorded := by
    split at h
    · split at h
      · cases h
      · exact h
    · exact h
  obtain ⟨inherited, inherits, passed⟩ := except_bind_eq_ok.mp passed
  obtain ⟨added, adds, passed⟩ := except_bind_eq_ok.mp passed
  -- each of the four demands on the fields may only be met
  dsimp only at passed
  split at passed
  · cases passed
  split at passed
  · cases passed
  split at passed
  · cases passed
  split at passed
  · cases passed
  cases passed
  have cleared : members.lookup fieldsMember = none := by
    refine List.lookup_eq_none_iff.mpr fun entry kept => ?_
    have apart := (List.mem_filter.mp kept).2
    simp only [Bool.and_eq_true, decide_eq_true_eq] at apart
    exact bne_iff_ne.mpr apart.1.symm
  refine ⟨rfl, rfl, ?_, inherited, added, inherits, named_of_mapM adds, rfl⟩
  dsimp only
  split
  · exact cleared
  · rw [lookup_assign, if_neg (by decide), cleared]

theorem Recorded.ready {own : List String} {recorded : ClassInfo}
    (h : table.Recorded info own recorded) (ready : table.Ready bases info) :
    table.Ready bases recorded :=
  ready.of_same h.ref h.ancestry

/-- Where a class has been made a record type, it was made one for some reason; elsewhere it is as
before. -/
def MadeRecord (table : ClassTable) (reason : Bool) (info : ClassInfo) (own : List String)
    (made : ClassInfo) : Prop :=
  if reason then table.Recorded info own made else made = info

theorem MadeRecord.ready {reason : Bool} {own : List String} {made : ClassInfo}
    (h : table.MadeRecord reason info own made) (ready : table.Ready bases info) :
    table.Ready bases made := by
  unfold MadeRecord at h
  split at h
  · exact h.ready ready
  · rw [h]
    exact ready

theorem madeRecord_of_eq_ok {reason : Bool} {own : List String} {made : ClassInfo}
    (h : (if reason then table.withFields info own else pure info) = .ok made) :
    table.MadeRecord reason info own made := by
  unfold MadeRecord
  split at h
  · next asked =>
    rw [if_pos asked]
    exact withFields_eq_ok h
  · next unasked =>
    rw [if_neg unasked]
    cases h
    rfl

theorem except_ite_bind {ε α γ : Type} (c : Bool) (yes no : Except ε α) (next : α → Except ε γ) :
    (if c then yes >>= next else no >>= next) = (if c then yes else no) >>= next := by
  cases c <;> rfl

/-- Defining a model adds a class that was ready. It has been made a record type if that was asked for,
and again for being a model unless it passed for one by then. -/
theorem defineModel_eq_ok {own : List Field} {isRecord isModel : Bool}
    (h : table.defineModel name bases own isRecord isModel = .ok later) :
    ∃ draft asked info, table.Ready bases draft ∧ draft.fields = none ∧
      table.MadeRecord isRecord draft (own.map Field.name).eraseDups asked ∧
      table.MadeRecord (isModel && !(table.append asked).isRecordType (.defined asked.ref)) asked
        (own.map Field.name).eraseDups info ∧
      later = table.append
        (if isModel then info.setMember modelMember (.constant (.bool true)) else info) := by
  obtain ⟨draft, drafted, h⟩ := except_bind_eq_ok.mp h
  dsimp only at h
  rw [except_ite_bind] at h
  obtain ⟨asked, first, h⟩ := except_bind_eq_ok.mp h
  rw [except_ite_bind] at h
  obtain ⟨info, second, h⟩ := except_bind_eq_ok.mp h
  cases h
  obtain ⟨ready, unlisted⟩ := draftInfo_eq_ok drafted
  exact ⟨{ draft with annotated := (own.map Field.name).eraseDups }, asked, info,
    ready.of_same rfl rfl, unlisted, madeRecord_of_eq_ok first, madeRecord_of_eq_ok second, rfl⟩

theorem ready_of_defineModel {own : List Field} {isRecord isModel : Bool}
    (h : table.defineModel name bases own isRecord isModel = .ok later) :
    ∃ info, table.Ready bases info ∧ later = table.append info := by
  obtain ⟨draft, asked, info, ready, -, first, second, rfl⟩ := defineModel_eq_ok h
  have ready := second.ready (first.ready ready)
  refine ⟨_, ?_, rfl⟩
  split
  · exact setMember_ready ready _ _
  · exact ready

/-- The classes of a program after some more of them have been defined, one after the other, each over
known classes. -/
inductive Grown (start : ClassTable) : ClassTable → Prop
  | refl : Grown start start
  | define {table later : ClassTable} {draft : ClassDraft} (grown : Grown start table)
      (known : table.Knows draft.bases) (defined : table.define draft = .ok later) :
      Grown start later
  | defineModel {table later : ClassTable} {name : String} {bases : List TypeRef} {own : List Field}
      {isRecord isModel : Bool} (grown : Grown start table) (known : table.Knows bases)
      (defined : table.defineModel name bases own isRecord isModel = .ok later) : Grown start later

/-- The classes of a program, all of which have been defined so. -/
def Built (table : ClassTable) : Prop :=
  Grown ⟨[]⟩ table

/-- What every class that is ready leaves true when it is added stays true. -/
theorem Grown.invariant {start : ClassTable} {P : ClassTable → Prop} (grown : Grown start later)
    (first : P start)
    (step : ∀ table bases info, table.Knows bases → table.Ready bases info → P table →
      P (table.append info)) : P later := by
  induction grown with
  | refl => exact first
  | define grown known defined ih =>
    obtain ⟨info, ready, rfl⟩ := define_eq_ok defined
    exact step _ _ _ known ready ih
  | defineModel grown known defined ih =>
    obtain ⟨info, ready, rfl⟩ := ready_of_defineModel defined
    exact step _ _ _ known ready ih

theorem Built.coherent (built : table.Built) : table.Coherent :=
  built.invariant coherent_nil fun _ _ _ known ready coherent => coherent.append known ready

/-- Classes that are defined later change no lineage. -/
theorem Grown.lineage_eq (grown : table.Grown later) (coherent : table.Coherent) {type : TypeRef}
    (known : table.Knows [type]) : later.lineage type = table.lineage type := by
  have all : later.Coherent ∧ later.Knows [type] ∧ later.lineage type = table.lineage type := by
    refine grown.invariant (P := fun between => between.Coherent ∧ between.Knows [type] ∧
      between.lineage type = table.lineage type) ⟨coherent, known, rfl⟩ ?_
    rintro between bases info bound ready ⟨coherent, known, same⟩
    exact ⟨coherent.append bound ready, known.append, (lineage_append coherent known).trans same⟩
  exact all.2.2

end Defining

end ClassTable
end PageContracts
