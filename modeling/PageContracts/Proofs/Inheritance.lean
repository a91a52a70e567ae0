import PageContracts.Proofs.Declarations
import PageContracts.Proofs.Lineages

/-! # Inherited fields

A class is made a record type for being a model only if it does not pass for one yet, and it passes for
one as soon as one of its ancestors is one. So below a record type the fields that a model annotates
itself are left out, and those that it has are the ones of its nearest ancestor alone. -/
namespace PageContracts

open Runs

namespace ClassTable

section Setting

variable {field : Field} {fields added : List Field} {name : String}

theorem name_mem_setField :
    name ∈ (setField field fields).map Field.name ↔
      name = field.name ∨ name ∈ fields.map Field.name := by
  induction fields with
  | nil => simp [setField]
  | cons first rest ih =>
    unfold setField
    split
    · next same => simp [same]
    · rw [List.map_cons, List.mem_cons, ih, List.map_cons, List.mem_cons]
      exact or_left_comm

theorem name_mem_foldl_setField :
    name ∈ (added.foldl (fun all field => setField field all) fields).map Field.name ↔
      name ∈ added.map Field.name ∨ name ∈ fields.map Field.name := by
  induction added generalizing fields with
  | nil => simp
  | cons first rest ih =>
    rw [List.foldl_cons, ih, name_mem_setField, List.map_cons, List.mem_cons, or_left_comm, or_assoc]

theorem setField_of_fresh (fresh : field.name ∉ fields.map Field.name) :
    setField field fields = fields ++ [field] := by
  induction fields with
  | nil => rfl
  | cons first rest ih =>
    rw [List.map_cons, List.mem_cons, not_or] at fresh
    rw [setField, if_neg (Ne.symm fresh.1), ih fresh.2]
    rfl

/-- Fields under new names come last, in their order. -/
theorem foldl_setField_of_fresh (apart : (added.map Field.name).Nodup)
    (fresh : ∀ name ∈ added.map Field.name, name ∉ fields.map Field.name) :
    added.foldl (fun all field => setField field all) fields = fields ++ added := by
  induction added generalizing fields with
  | nil => exact (List.append_nil fields).symm
  | cons first rest ih =>
    obtain ⟨single, apart⟩ := List.nodup_cons.mp apart
    have new := fresh first.name List.mem_cons_self
    rw [List.foldl_cons, setField_of_fresh new, ih apart ?_, List.append_assoc]
    · rfl
    · intro name listed
      rw [List.map_append, List.mem_append, not_or]
      refine ⟨fresh name (List.mem_cons_of_mem _ listed), ?_⟩
      intro same
      rw [List.map_singleton, List.mem_singleton] at same
      exact single (same ▸ listed)

theorem nodup_eraseDups (names : List String) : names.eraseDups.Nodup := by
  induction bound : names.length using Nat.strongRecOn generalizing names with
  | _ n ih =>
    cases names with
    | nil => exact List.nodup_nil
    | cons first rest =>
      rw [List.eraseDups_cons]
      refine List.nodup_cons.mpr ⟨?_, ?_⟩
      · rw [List.mem_eraseDups]
        intro again
        simpa using (List.mem_filter.mp again).2
      · refine ih _ ?_ _ rfl
        rw [← bound, List.length_cons]
        exact Nat.lt_succ_of_le (List.length_filter_le _ _)

end Setting

/-- No class has a member of its own in the place of the list of its fields, or of what tells how it was
made a record type. -/
def Plain (table : ClassTable) : Prop :=
  ∀ info ∈ table.classes,
    info.members.lookup fieldsMember = none ∧ info.members.lookup settingsMember = none

/-- The fields of the nearest of some types that has been made a record type. -/
def nearestFields (table : ClassTable) (types : List TypeRef) : Option (List Field) :=
  (table.infos types).findSome? ClassInfo.fields

/-- The fields that are handed down by some types, the farthest first. -/
def handedDown (table : ClassTable) (types : List TypeRef) : List Field :=
  types.reverse.foldl (fun fields type =>
    ((table.nearestFields (table.ancestry type)).getD []).foldl
      (fun all field => setField field all) fields) []

/-- What a class says about its fields. -/
def ownListing (info : ClassInfo) : Option (List Field ⊕ Member) :=
  match info.members.lookup fieldsMember with
  | some found => some (.inr found)
  | none => info.fields.map .inl

theorem fieldListing?_eq (table : ClassTable) (type : TypeRef) :
    table.fieldListing? type = (table.lineage type).findSome? ownListing := rfl

section Listing

variable {table : ClassTable} {types : List TypeRef} {info : ClassInfo}

theorem mem_classes_of_mem_infos (h : info ∈ table.infos types) : info ∈ table.classes := by
  obtain ⟨type, -, found⟩ := List.mem_filterMap.mp h
  cases type with
  | defined ref => exact List.mem_of_getElem? found
  | _ => cases found

theorem ownListing_of_unlisted (unlisted : info.members.lookup fieldsMember = none) :
    ownListing info = info.fields.map .inl := by
  rw [ownListing, unlisted]

theorem Plain.findSome?_ownListing (plain : table.Plain) (types : List TypeRef) :
    (table.infos types).findSome? ownListing = (table.nearestFields types).map .inl := by
  have unlisted : ∀ info ∈ table.infos types, info.members.lookup fieldsMember = none :=
    fun info found => (plain info (mem_classes_of_mem_infos found)).1
  unfold nearestFields
  generalize table.infos types = infos at unlisted
  induction infos with
  | nil => rfl
  | cons first rest ih =>
    obtain ⟨itself, others⟩ := List.forall_mem_cons.mp unlisted
    rw [List.findSome?_cons, List.findSome?_cons, ownListing_of_unlisted itself]
    cases first.fields with
    | none => exact ih others
    | some fields => rfl

theorem Plain.fieldListing?_eq (plain : table.Plain) (type : TypeRef) :
    table.fieldListing? type = (table.nearestFields (table.ancestry type)).map .inl :=
  plain.findSome?_ownListing _

theorem Plain.fieldNames_eq (plain : table.Plain) (type : TypeRef) :
    Operation.fieldNames table type =
      ((table.nearestFields (table.ancestry type)).getD []).map Field.name := by
  unfold Operation.fieldNames fieldsOf
  rw [plain.fieldListing?_eq]
  cases table.nearestFields (table.ancestry type) <;> rfl

theorem fieldNames_of_lineage {later : ClassTable} {type : TypeRef}
    (same : later.lineage type = table.lineage type) :
    Operation.fieldNames later type = Operation.fieldNames table type := by
  unfold Operation.fieldNames fieldsOf
  rw [fieldListing?_eq, fieldListing?_eq, same]

theorem mem_of_nearestFields {fields : List Field} (h : table.nearestFields types = some fields) :
    ∃ info ∈ table.infos types, info.fields = some fields :=
  List.exists_of_findSome?_eq_some h

theorem Plain.requireSettings_of_some (plain : table.Plain) {type : TypeRef} {fields : List Field}
    (found : table.nearestFields (table.ancestry type) = some fields) :
    table.requireSettings type = .ok () := by
  obtain ⟨lister, inside, lists⟩ := mem_of_nearestFields found
  unfold requireSettings
  split
  · next info first =>
    have held : info ∈ table.infos (table.ancestry type) := List.mem_of_find?_eq_some first
    rw [(plain info (mem_classes_of_mem_infos held)).2]
    rfl
  · next absent =>
    have passed := List.find?_eq_none.mp absent lister inside
    rw [lists] at passed
    simp at passed

/-- The fields that a class inherits are those that its ancestors hand down. -/
theorem Plain.inheritedFields_eq (plain : table.Plain) (info : ClassInfo) :
    table.inheritedFields info = .ok (table.handedDown info.ancestry.tail) := by
  unfold inheritedFields handedDown
  refine Eq.trans ?_ List.foldlM_pure
  congr 1
  funext fields type
  rw [plain.fieldListing?_eq]
  cases found : table.nearestFields (table.ancestry type) with
  | none => rfl
  | some own =>
    have fieldsOf : table.fieldsOf type = .ok (some own) := by
      rw [ClassTable.fieldsOf, plain.fieldListing?_eq, found]
      rfl
    simp only [Option.map_some, fieldsOf, plain.requireSettings_of_some found]
    rfl

end Listing

section HandingDown

variable {table : ClassTable} {types : List TypeRef} {name : String} {fields : List Field}

theorem name_mem_handedDown :
    name ∈ (table.handedDown types).map Field.name ↔
      ∃ type ∈ types, name ∈ ((table.nearestFields (table.ancestry type)).getD []).map Field.name := by
  have gathered (row : List TypeRef) (fields : List Field) :
      name ∈ (row.foldl (fun fields type =>
          ((table.nearestFields (table.ancestry type)).getD []).foldl
            (fun all field => setField field all) fields) fields).map Field.name ↔
        (∃ type ∈ row,
            name ∈ ((table.nearestFields (table.ancestry type)).getD []).map Field.name) ∨
          name ∈ fields.map Field.name := by
    induction row generalizing fields with
    | nil => simp
    | cons first rest ih =>
      rw [List.foldl_cons, ih, name_mem_foldl_setField, List.exists_mem_cons_iff, or_left_comm,
        or_assoc]
  have all := gathered types.reverse []
  rw [List.map_nil, or_iff_left List.not_mem_nil] at all
  rw [handedDown, all]
  simp only [List.mem_reverse]

/-- What the nearest record type lists is handed down. -/
theorem Coherent.handedDown_of_nearest (coherent : table.Coherent)
    (nearest : table.nearestFields types = some fields) (listed : name ∈ fields.map Field.name) :
    name ∈ (table.handedDown types).map Field.name := by
  obtain ⟨info, inside, lists⟩ := mem_of_nearestFields nearest
  obtain ⟨type, given, found⟩ := List.mem_filterMap.mp inside
  cases type with
  | defined ref =>
    obtain ⟨rest, lineage⟩ := coherent.lineage_of_info? found
    have nearest : table.nearestFields (table.ancestry (.defined ref)) = some fields := by
      rw [nearestFields, ← lineage_eq_infos, lineage, List.findSome?_cons, lists]
    refine name_mem_handedDown.mpr ⟨.defined ref, given, ?_⟩
    rw [nearest]
    exact listed
  | _ => cases found

end HandingDown

/-- A class keeps fields of these names: it has them in this order, and an operation that takes it types
them in this order. -/
structure Keeps (table : ClassTable) (type : TypeRef) (names : List String) : Prop where
  fields : Operation.fieldNames table type = names
  typed : ∀ operation : Operation, operation.parameterTypes = [type] →
    Rule.setModel.calls table operation =
      names.map fun field => .setText (operation.fieldAim field) 0 (some field)

theorem keeps_iff {table : ClassTable} {type : TypeRef} {names : List String} :
    table.Keeps type names ↔ Operation.fieldNames table type = names := by
  constructor
  · exact Keeps.fields
  · intro fields
    refine ⟨fields, fun operation takes => ?_⟩
    rw [Rule.calls_setModel takes, fields]

section Modelling

variable {table later : ClassTable} {name : String} {bases : List TypeRef} {own : List Field}
  {isRecord : Bool} {info : ClassInfo}

theorem Plain.of_append (plain : (table.append info).Plain) :
    table.Plain ∧ info.members.lookup fieldsMember = none :=
  ⟨fun other listed => plain other (List.mem_append_left _ listed),
    (plain info (List.mem_append_right _ (List.mem_singleton_self info))).1⟩

/-- A class that has just been added lists its own fields or has those of its nearest ancestor. -/
theorem nearestFields_append_new (coherent : table.Coherent) (known : table.Knows bases)
    (ready : table.Ready bases info) :
    (table.append info).nearestFields ((table.append info).ancestry (.defined info.ref)) =
      info.fields.or (table.nearestFields info.ancestry.tail) := by
  rw [nearestFields, ← lineage_eq_infos, lineage_append_new coherent known ready,
    List.findSome?_cons]
  cases info.fields <;> rfl

theorem fieldListing?_append_new (coherent : table.Coherent) (known : table.Knows bases)
    (ready : table.Ready bases info) (plain : table.Plain) :
    (table.append info).fieldListing? (.defined info.ref) =
      (ownListing info).or ((table.nearestFields info.ancestry.tail).map .inl) := by
  rw [fieldListing?_eq, lineage_append_new coherent known ready, List.findSome?_cons,
    plain.findSome?_ownListing]
  cases ownListing info <;> rfl

theorem Recorded.added {names : List String} {recorded : ClassInfo}
    (h : table.Recorded info names recorded) (plain : table.Plain) :
    ∃ added : List Field, added.map Field.name = names ∧
      recorded.fields = some (added.foldl (fun all field => setField field all)
        (table.handedDown recorded.ancestry.tail)) := by
  obtain ⟨inherited, added, inherits, named, fields⟩ := h.fields
  rw [plain.inheritedFields_eq, ← h.ancestry] at inherits
  cases inherits
  exact ⟨added, named, fields⟩

/-- A model either has been made a record type, or passed for one already. -/
theorem fields_of_defineModel (coherent : table.Coherent) (known : table.Knows bases)
    (defined : table.defineModel name bases own isRecord true = .ok later) (plain : later.Plain) :
    ∃ info, table.Ready bases info ∧ later = table.append info ∧
      ((∃ added : List Field, added.map Field.name = (own.map Field.name).eraseDups ∧
          info.fields = some (added.foldl (fun all field => setField field all)
            (table.handedDown info.ancestry.tail)) ∧
          (isRecord = true ∨ table.nearestFields info.ancestry.tail = none)) ∨
        isRecord = false ∧ info.fields = none ∧
          ∃ fields, table.nearestFields info.ancestry.tail = some fields) := by
  obtain ⟨draft, asked, info, ready, bare, first, second, same⟩ := defineModel_eq_ok defined
  rw [if_pos rfl] at same
  subst same
  obtain ⟨plainBefore, unlisted⟩ := plain.of_append
  rw [ClassInfo.setMember, lookup_assign, if_neg (by decide)] at unlisted
  have readyAsked := first.ready ready
  have marked := setMember_ready (second.ready readyAsked) modelMember (.constant (.bool true))
  refine ⟨_, marked, rfl, ?_⟩
  change ((∃ added : List Field, _ ∧ info.fields = _ ∧
    (_ ∨ table.nearestFields info.ancestry.tail = none)) ∨ _ ∧ info.fields = none ∧
      ∃ fields, table.nearestFields info.ancestry.tail = some fields)
  have listing := fieldListing?_append_new coherent known readyAsked plainBefore
  cases isRecord with
  | true =>
    rw [MadeRecord, if_pos rfl] at first
    obtain ⟨added, named, fields⟩ := first.added plainBefore
    have passes : (table.append asked).isRecordType (.defined asked.ref) = true := by
      rw [isRecordType, listing, ownListing_of_unlisted first.unlisted, fields]
      rfl
    rw [MadeRecord, passes, if_neg (by decide)] at second
    subst second
    exact .inl ⟨added, named, fields, .inl rfl⟩
  | false =>
    rw [MadeRecord, if_neg (by decide)] at first
    subst first
    cases passes : (table.append asked).isRecordType (.defined asked.ref) with
    | true =>
      rw [MadeRecord, passes, if_neg (by decide)] at second
      subst second
      rw [isRecordType, listing, ownListing_of_unlisted unlisted, bare] at passes
      cases nearest : table.nearestFields info.ancestry.tail with
      | none =>
        rw [nearest] at passes
        cases passes
      | some fields => exact .inr ⟨rfl, bare, fields, rfl⟩
    | false =>
      rw [MadeRecord, passes, if_pos (by decide)] at second
      obtain ⟨added, named, fields⟩ := second.added plainBefore
      refine .inl ⟨added, named, fields, .inr ?_⟩
      rw [second.ancestry]
      rw [isRecordType, listing] at passes
      cases nearest : table.nearestFields asked.ancestry.tail with
      | none => rfl
      | some fields =>
        rw [nearest, Option.isSome_or, Option.map_some, Option.isSome_some, Bool.or_true] at passes
        cases passes

/-- A model keeps the fields of its bases and its own ones if and only if it is made a record type in its
own right, or is the first of its kind, or has none of its own and its nearest record type lists all that
is handed down. Classes that are defined later change nothing about it. -/
theorem keeps_iff_of_defineModel (built : table.Built) (known : table.Knows bases)
    (defined : table.defineModel name bases own isRecord true = .ok later) (plain : later.Plain) :
    ∃ info inherited, later = table.append info ∧ table.inheritedFields info = .ok inherited ∧
      ((∀ field ∈ own, field.name ∉ inherited.map Field.name) →
        ∀ final, later.Grown final →
          (final.Keeps (.defined info.ref)
              (inherited.map Field.name ++ (own.map Field.name).eraseDups) ↔
            isRecord = true ∨ table.nearestFields info.ancestry.tail = none ∨
              own = [] ∧ (table.nearestFields info.ancestry.tail).map (List.map Field.name) =
                some (inherited.map Field.name))) := by
  have coherent := built.coherent
  obtain ⟨info, ready, rfl, cases⟩ := fields_of_defineModel coherent known defined plain
  have plainBefore := plain.of_append.1
  refine ⟨info, _, rfl, plainBefore.inheritedFields_eq info, fun fresh final grown => ?_⟩
  have lineage := grown.lineage_eq (coherent.append known ready) (knows_append_new ready)
  rw [keeps_iff, fieldNames_of_lineage lineage, plain.fieldNames_eq,
    nearestFields_append_new coherent known ready]
  rcases cases with ⟨added, named, fields, reason⟩ | ⟨unasked, bare, fields, nearest⟩
  · -- made a record type: its own fields have been set behind those that are handed down
    have apart : (added.map Field.name).Nodup := named ▸ nodup_eraseDups _
    have new : ∀ name ∈ added.map Field.name,
        name ∉ (table.handedDown info.ancestry.tail).map Field.name := by
      intro name listed
      rw [named, List.mem_eraseDups] at listed
      obtain ⟨field, given, rfl⟩ := List.mem_map.mp listed
      exact fresh field given
    have all := foldl_setField_of_fresh apart new
    refine iff_of_true ?_ (reason.imp_right .inl)
    rw [fields, all, ← named]
    exact List.map_append
  · rw [bare, nearest, unasked]
    have once : (own.map Field.name).eraseDups = [] ↔ own = [] := by
      cases own <;> simp [List.eraseDups_cons]
    constructor
    · intro kept
      have kept : fields.map Field.name =
          (table.handedDown info.ancestry.tail).map Field.name ++ (own.map Field.name).eraseDups := kept
      -- whatever the nearest record type lists is inherited, so it is no field of the class's own
      have none : own = [] := by
        refine List.eq_nil_iff_forall_not_mem.mpr fun field given => ?_
        have listed : field.name ∈ fields.map Field.name := by
          rw [kept, List.mem_append, List.mem_eraseDups]
          exact .inr (List.mem_map_of_mem given)
        exact fresh field given (coherent.handedDown_of_nearest nearest listed)
      rw [once.mpr none, List.append_nil] at kept
      exact .inr (.inr ⟨none, congrArg some kept⟩)
    · rintro (asked | absent | ⟨none, same⟩)
      · cases asked
      · cases absent
      · rw [once.mpr none, List.append_nil]
        exact Option.some.inj same

end Modelling

end ClassTable

namespace Parcels

/-- The class of letters. -/
def letter : ClassRef := { number := 0, name := "Letter" }

/-- The class of parcels, which are letters. -/
def parcel : ClassRef := { number := 1, name := "Parcel" }

/-- The program with letters, which have a recipient. -/
def letters : ClassTable where
  classes := [
    { ref := letter, key := "Letter", ancestry := [.defined letter]
      members := [(descriptionMember, .constant (.text "Letter(recipient: 'str')")),
        (modelMember, .constant (.bool true))]
      fields := some [{ name := "recipient" }], annotated := ["recipient"] }]

/-- The program with letters and parcels, which have a weight besides. -/
def parcels : ClassTable :=
  letters.append
    { ref := parcel, key := "Parcel", ancestry := [.defined parcel, .defined letter]
      bases := [.defined letter]
      members := [(descriptionMember, .constant .none), (modelMember, .constant (.bool true))]
      annotated := ["weight"] }

theorem letters_defined :
    (⟨[]⟩ : ClassTable).defineModel "Letter" [] [{ name := "recipient" }] false true =
      .ok letters := by
  unfold ClassTable.defineModel ClassTable.draftInfo ClassTable.untoldInfo
  simp only [String.contains_char_eq]
  rfl

theorem parcels_defined :
    letters.defineModel "Parcel" [.defined letter] [{ name := "weight" }] false true =
      .ok parcels := by
  unfold ClassTable.defineModel ClassTable.draftInfo ClassTable.untoldInfo
  simp only [String.contains_char_eq]
  rfl

theorem parcels_plain : parcels.Plain :=
  List.forall_mem_cons.mpr ⟨⟨rfl, rfl⟩, List.forall_mem_singleton.mpr ⟨rfl, rfl⟩⟩

/-- A parcel has a recipient, as every letter, but no weight. -/
theorem weight_left_out :
    letters.Built ∧ letters.Knows [.defined letter] ∧
      letters.defineModel "Parcel" [.defined letter] [{ name := "weight" }] false true =
        .ok parcels ∧ parcels.Plain ∧
      Operation.fieldNames parcels (.defined parcel) = ["recipient"] ∧
      ¬ parcels.Keeps (.defined parcel) ["recipient", "weight"] := by
  have built : letters.Built :=
    .defineModel .refl (fun _ listed => (List.not_mem_nil listed).elim) letters_defined
  have known : letters.Knows [.defined letter] := by
    intro ref listed
    cases List.mem_singleton.mp listed
    decide
  refine ⟨built, known, parcels_defined, parcels_plain, rfl, ?_⟩
  obtain ⟨info, inherited, same, inherits, keeps⟩ :=
    ClassTable.keeps_iff_of_defineModel built known parcels_defined parcels_plain
  have last := List.append_cancel_left (congrArg ClassTable.classes same)
  cases last
  cases inherits
  intro kept
  have fresh : ∀ field ∈ [({ name := "weight" } : Field)], field.name ∉ ["recipient"] := by
    decide
  rcases (keeps fresh parcels .refl).mp kept with asked | absent | ⟨none, -⟩
  · cases asked
  · cases absent
  · cases none

end Parcels

end PageContracts
