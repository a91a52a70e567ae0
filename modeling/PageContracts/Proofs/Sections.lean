import PageContracts.Proofs.Loading

/-! # Failures of settings

Which texts of a settings file make the loader fail with something else than a failure of the
configuration. Looking up a setting never fails. A section is asked for as a map, and what the file
holds under its name need not be one; and a text that is a document may still hold a number or a date
that does not exist. -/
namespace PageContracts

namespace Settings

open Runs
open Document (Collection Content Part)

/-- A result is a map just when a condition holds, and otherwise a breach of the host language's
rules. -/
inductive MapJustWhen (condition : Prop) : Except Failure Value → Prop
  | map {entries : List (Value × Value)} (holds : condition) :
      MapJustWhen condition (.ok (.map entries))
  | breach {failure : Failure} (fails : ¬ condition)
      (kind : failure.kind ∈ [.wrongType, .wrongValue, .missingAttribute]) :
      MapJustWhen condition (.error failure)

variable {condition other : Prop} {result : Except Failure Value}

theorem MapJustWhen.congr (same : condition ↔ other) (h : MapJustWhen condition result) :
    MapJustWhen other result := by
  cases h with
  | map holds => exact .map (same.mp holds)
  | breach fails kind => exact .breach (fails ∘ same.mpr) kind

section Shapes

variable {content : Content} {part : Part} {parts members : List Part}
  {entries : List (Value × Value)}

theorem mapOf_mapJustWhen (items entries : List (Value × Value)) :
    MapJustWhen (∀ item ∈ items, item.1.hashable = true) (Value.mapOf items entries) := by
  induction items generalizing entries with
  | nil => exact .map (List.forall_mem_nil _)
  | cons item rest ih =>
    rw [Value.mapOf]
    split
    · next fit =>
      refine (ih _).congr ⟨fun others => ?_, fun all => (List.forall_mem_cons.mp all).2⟩
      exact List.forall_mem_cons.mpr ⟨fit, others⟩
    · next unfit =>
      refine .breach (fun all => ?_) List.mem_cons_self
      exact unfit (List.forall_mem_cons.mp all).1

/-- A part that can stand for an entry of a map: two parts, of which the first may be a key. -/
def IsEntry (content : Content) (part : Part) : Prop :=
  ∃ key value, content.members? part = some [key, value] ∧ (content.value key).hashable = true

theorem isEntry_iff_of_ok {entry : Value × Value} (made : entryOf content part = .ok entry) :
    IsEntry content part ↔ entry.1.hashable = true := by
  unfold entryOf at made
  split at made
  · cases made
  · next key value pair =>
    cases made
    constructor
    · rintro ⟨_, _, same, fit⟩
      cases pair.symm.trans same
      exact fit
    · exact fun fit => ⟨key, value, pair, fit⟩
  · cases made

theorem not_isEntry_of_error {failure : Failure} (failed : entryOf content part = .error failure) :
    ¬ IsEntry content part ∧
      failure.kind ∈ [.wrongType, .wrongValue, .missingAttribute] := by
  unfold entryOf at failed
  split at failed
  · next whole =>
    cases failed
    refine ⟨?_, by decide⟩
    rintro ⟨_, _, pair, -⟩
    cases whole.symm.trans pair
  · cases failed
  · next uneven row =>
    cases failed
    refine ⟨?_, by decide⟩
    rintro ⟨key, value, pair, -⟩
    exact uneven key value (Option.some.inj (row.symm.trans pair))

theorem mapOf_parts (parts : List Part) (entries : List (Value × Value)) :
    MapJustWhen ((∀ part ∈ parts, IsEntry content part) ∧
      ∀ entry ∈ entries, entry.1.hashable = true) (mapOf content parts entries) := by
  induction parts generalizing entries with
  | nil =>
    refine (mapOf_mapJustWhen entries []).congr ⟨fun fit => ?_, And.right⟩
    exact ⟨List.forall_mem_nil _, fit⟩
  | cons part rest ih =>
    rw [mapOf]
    cases made : entryOf content part with
    | ok entry =>
      refine (ih (entries ++ [entry])).congr ?_
      rw [List.forall_mem_append, List.forall_mem_singleton, List.forall_mem_cons,
        isEntry_iff_of_ok made]
      tauto
    | error failure =>
      obtain ⟨unfit, kind⟩ := not_isEntry_of_error made
      have fails : ¬ ((∀ one ∈ part :: rest, IsEntry content one) ∧
          ∀ entry ∈ entries, entry.1.hashable = true) :=
        fun all => unfit (all.1 part List.mem_cons_self)
      cases earlier : Value.mapOf entries [] with
      | ok value => exact .breach fails kind
      | error other =>
        have breach := mapOf_mapJustWhen entries []
        rw [earlier] at breach
        cases breach with
        | breach _ kind => exact .breach fails kind

/-- What can be told as a map: whatever counts as false, a map, and what is made of entries. -/
inductive IsSection (content : Content) (part : Part) : Prop
  | nothing (falsy : content.truthy part = false)
  | map {entries : List (Value × Part)} (same : content.collection? part = some (.map entries))
  | rows {members : List Part} (parted : content.members? part = some members)
      (all : ∀ member ∈ members, IsEntry content member)

theorem sectionMap_mapJustWhen (part : Part) :
    MapJustWhen (IsSection content part) (sectionMap content part) := by
  rw [sectionMap]
  cases truth : content.truthy part with
  | false => exact .map (.nothing truth)
  | true =>
    have full : content.truthy part ≠ false := by
      rw [truth]
      exact Bool.noConfusion
    rw [if_neg (show ¬ (!true) = true by decide)]
    split
    · next entries same => exact .map (.map same)
    · next members parted noMap =>
      refine (mapOf_parts members []).congr ⟨fun all => .rows parted all.1, fun proper => ?_⟩
      cases proper with
      | nothing falsy => exact (full falsy).elim
      | map same => exact (noMap _ same).elim
      | rows again all =>
        cases parted.symm.trans again
        exact ⟨all, List.forall_mem_nil _⟩
    · next whole noMap =>
      refine .breach (fun proper => ?_) List.mem_cons_self
      cases proper with
      | nothing falsy => exact full falsy
      | map same => exact noMap _ same
      | rows parted _ => cases whole.symm.trans parted

/-- The settings are a map, and what they have under a name can be told as one. -/
def HasSection (content : Content) (name : String) : Prop :=
  (∃ entries, content.collection? content.root = some (.map entries)) ∧
    IsSection content ((content.entry? content.root name).getD (.plain .none))

theorem sectionOf_mapJustWhen (name : String) :
    MapJustWhen (HasSection content name) (sectionOf content name) := by
  unfold sectionOf
  split
  · next entries same =>
    exact (sectionMap_mapJustWhen _).congr ⟨fun proper => ⟨⟨entries, same⟩, proper⟩, And.right⟩
  · next noMap =>
    refine .breach ?_ (by decide)
    rintro ⟨⟨entries, same⟩, -⟩
    exact noMap entries same

end Shapes

section Texts

variable {files : FileStore} {path : FilePath}

/-- A path that can be asked for, where a text that can be taken apart holds no number, date or other
scalar that does not exist. -/
structure Readable (files : FileStore) (path : FilePath) : Prop where
  short : files.locate path ≠ .error .tooLong
  sound : ∀ text defect, textAt? files path = some text → contentOf text = .error defect →
    defect = .malformed

theorem kind_failureOf {defect : Document.Defect} :
    (failureOf path defect).kind = .configuration ↔ defect = .malformed := by
  cases defect <;> simp [failureOf, Failure.own, Failure.valueBreach, Failure.typeBreach,
    Failure.missing, Failure.breach]

theorem find?_eq_error {failure : Failure} :
    files.find? path = .error failure ↔
      files.locate path = .error .tooLong ∧ failure = PathFault.tooLong.failure path := by
  unfold FileStore.find?
  constructor
  · intro failed
    split at failed
    · cases failed
    · next long =>
      cases failed
      exact ⟨long, rfl⟩
    · cases failed
  · rintro ⟨long, rfl⟩
    rw [long]

theorem find?_eq_file {text : String} (there : textAt? files path = some text) :
    files.find? path = .ok (some (.file text)) := by
  unfold textAt? at there
  split at there
  · next found =>
    cases there
    exact found
  · cases there

/-- The settings at a path cannot be had if the path is too long, or if the text there is defective. -/
theorem contentAt_eq_error {failure : Failure} :
    contentAt files path = .error failure ↔
      (files.locate path = .error .tooLong ∧ failure = PathFault.tooLong.failure path) ∨
      ∃ text defect, textAt? files path = some text ∧ contentOf text = .error defect ∧
        failure = failureOf path defect := by
  constructor
  · intro failed
    unfold contentAt at failed
    split at failed
    · next unfound =>
      cases failed
      exact .inl (find?_eq_error.mp unfound)
    · next text found =>
      have there : textAt? files path = some text := by rw [textAt?, found]
      cases read : contentOf text with
      | ok content =>
        rw [read] at failed
        cases failed
      | error defect =>
        rw [read] at failed
        cases failed
        exact .inr ⟨text, defect, there, read, rfl⟩
    · cases failed
  · rintro (long | ⟨text, defect, there, read, rfl⟩)
    · rw [contentAt, find?_eq_error.mpr long]
    · rw [contentAt, find?_eq_file there]
      dsimp only
      rw [read]
      rfl

theorem readable_iff :
    Readable files path ↔
      ∀ failure, contentAt files path = .error failure → failure.kind = .configuration := by
  constructor
  · intro readable failure failed
    rcases contentAt_eq_error.mp failed with ⟨long, -⟩ | ⟨text, defect, there, read, rfl⟩
    · exact (readable.short long).elim
    · exact kind_failureOf.mpr (readable.sound text defect there read)
  · intro proper
    constructor
    · intro long
      have kind := proper _ (contentAt_eq_error.mpr (.inl ⟨long, rfl⟩))
      cases kind
    · intro text defect there read
      have failed := contentAt_eq_error.mpr (.inr ⟨text, defect, there, read, rfl⟩)
      exact kind_failureOf.mp (proper _ failed)

end Texts

section Surfacing

variable {β α : Type} {number : Nat} {loader : SettingsLoader} {world : World β}

/-- Only a failure of the configuration comes out of a run. -/
def OnlyConfiguration (result : EStateM.Result Failure (World β) α) : Prop :=
  ∀ failure later, result = .error failure later → failure.kind = .configuration

theorem onlyConfiguration_ok {value : α} {later : World β} :
    OnlyConfiguration (.ok value later : EStateM.Result Failure (World β) α) := by
  intro failure _ same
  cases same

theorem onlyConfiguration_error {failure : Failure} {later : World β} :
    OnlyConfiguration (.error failure later : EStateM.Result Failure (World β) α) ↔
      failure.kind = .configuration := by
  constructor
  · exact fun only => only failure later rfl
  · rintro kind _ _ ⟨⟩
    exact kind

/-- What comes out of the loader of a number, and out of asking for the shared one: looking up never
fails, a section is a map or no section at all, and reading a file goes wrong in other ways than as a
failure of the configuration just when the file is not readable. -/
structure Surfaces (world : World β) (number : Nat) (loader : SettingsLoader) : Prop where
  get : ∀ key default, ∃ value records,
    Settings.get number key default world = .ok value { world with records }
  mapped : ∀ name, HasSection loader.sections name →
    ∃ entries, getSection number name world = .ok (.map entries) world
  unmapped : ∀ name, ¬ HasSection loader.sections name →
    ∃ failure, getSection number name world = .error failure world ∧
      failure.kind ∈ [.wrongType, .wrongValue, .missingAttribute]
  reload : OnlyConfiguration (Settings.reload number world) ↔ Readable world.files loader.path
  load : ∀ asked, OnlyConfiguration (Settings.load asked world) ↔
    (Unready world → Readable world.files (pathFor world asked))

/-- A section is a map, or asking for it is a breach of the host language's rules. -/
theorem getSection_cases (found : world.loaders[number]? = some loader) (name : String) :
    (HasSection loader.sections name ∧
      ∃ entries, getSection number name world = .ok (.map entries) world) ∨
    (¬ HasSection loader.sections name ∧
      ∃ failure, getSection number name world = .error failure world ∧
        failure.kind ∈ [.wrongType, .wrongValue, .missingAttribute]) := by
  have gives := getSection_apply found name
  have shape : MapJustWhen (HasSection loader.sections name) (sectionOf loader.sections name) :=
    sectionOf_mapJustWhen name
  revert gives shape
  cases sectionOf loader.sections name with
  | ok value =>
    intro gives shape
    cases shape with
    | map has => exact .inl ⟨has, _, gives⟩
  | error failure =>
    intro gives shape
    cases shape with
    | breach hasNot kind => exact .inr ⟨hasNot, failure, gives, kind⟩

/-- A run that ends as reading the settings at a path does. -/
theorem onlyConfiguration_iff_readable {result : EStateM.Result Failure (World β) α}
    {files : FileStore} {path : FilePath}
    (ends : (∃ sections value later, contentAt files path = .ok sections ∧
        result = .ok value later) ∨
      ∃ failure later, contentAt files path = .error failure ∧ result = .error failure later) :
    OnlyConfiguration result ↔ Readable files path := by
  rw [readable_iff]
  rcases ends with ⟨sections, value, later, content, rfl⟩ | ⟨failure, later, content, rfl⟩
  · constructor
    · intro _ failure failed
      cases content.symm.trans failed
    · exact fun _ => onlyConfiguration_ok
  · rw [onlyConfiguration_error]
    constructor
    · intro kind other failed
      cases content.symm.trans failed
      exact kind
    · exact fun all => all failure content

theorem reload_onlyConfiguration (found : world.loaders[number]? = some loader) :
    OnlyConfiguration (reload number world) ↔ Readable world.files loader.path := by
  obtain ⟨records, reloads⟩ := reload_apply found
  apply onlyConfiguration_iff_readable
  cases content : contentAt world.files loader.path with
  | ok sections =>
    rw [content] at reloads
    exact .inl ⟨sections, _, _, rfl, reloads⟩
  | error failure =>
    rw [content] at reloads
    exact .inr ⟨failure, _, rfl, reloads⟩

theorem load_onlyConfiguration (asked : Option String)
    (shared : ∀ number, world.sharedLoader = some number →
      ∃ loader, world.loaders[number]? = some loader) :
    OnlyConfiguration (load asked world) ↔
      (Unready world → Readable world.files (pathFor world asked)) := by
  by_cases unready : Unready world
  · obtain ⟨number, later, -, -, -, loads⟩ := load_of_unready asked unready
    have ends : OnlyConfiguration (load asked world) ↔
        Readable world.files (pathFor world asked) := by
      apply onlyConfiguration_iff_readable
      cases content : contentAt world.files (pathFor world asked) with
      | ok sections =>
        rw [content] at loads
        exact .inl ⟨sections, _, _, rfl, loads.1⟩
      | error failure =>
        rw [content] at loads
        exact .inr ⟨failure, _, rfl, loads.1⟩
    exact ends.trans ⟨fun readable _ => readable, fun readable => readable unready⟩
  · have some := unready
    simp only [Unready, not_forall] at some
    obtain ⟨number, named, ready⟩ := some
    obtain ⟨loader, found⟩ := shared number named
    have isReady : loader.ready = true :=
      eq_true_of_ne_false fun idle => ready ⟨loader, found, idle⟩
    rw [load_of_ready asked named found isReady]
    exact ⟨fun _ there => (unready there).elim, fun _ => onlyConfiguration_ok⟩

/-- What comes out of a loader, whatever it has read and whatever stands in the files and the
environment. -/
theorem surfaces_of_found (found : world.loaders[number]? = some loader)
    (shared : ∀ number, world.sharedLoader = some number →
      ∃ loader, world.loaders[number]? = some loader) :
    Surfaces world number loader where
  get key default := by
    obtain ⟨records, gives⟩ := get_eq_ok found key default
    exact ⟨_, records, gives⟩
  mapped name has := by
    rcases getSection_cases found name with ⟨-, gives⟩ | ⟨hasNot, -⟩
    · exact gives
    · exact (hasNot has).elim
  unmapped name hasNot := by
    rcases getSection_cases found name with ⟨has, -⟩ | ⟨-, fails⟩
    · exact (hasNot has).elim
    · exact fails
  reload := reload_onlyConfiguration found
  load asked := load_onlyConfiguration asked shared

end Surfacing

/-- A world with a settings file in which a number stands where a section is wanted. -/
def numberWorld : World Unit where
  browser := ()
  clock := default
  files := ⟨[(["config"], .directory), (["config", "autopanel.yaml"], .file "finder: 5")]⟩

/-- The world in which those settings have been loaded. -/
def numberLoaded : World Unit :=
  { numberWorld with
    loaders := [{
      path := standardPath
      sections := { collections := #[.map [(.text "finder", .plain (.int 5))]]
                    root := .collection 0 }
      ready := true }]
    sharedLoader := some 0 }

/-- Looking up goes on to work where asking for the section does not. -/
theorem number_looked_up :
    numberLoaded.loaders[0]? = some numberLoaded.loaders[0] ∧
      (∀ number, numberLoaded.sharedLoader = some number →
        ∃ loader, numberLoaded.loaders[number]? = some loader) ∧
      (∃ value records, get 0 "finder" .none numberLoaded =
        .ok value { numberLoaded with records }) ∧
      ∃ failure, getSection 0 "finder" numberLoaded = .error failure numberLoaded ∧
        failure.kind ∈ [.wrongType, .wrongValue, .missingAttribute] := by
  have found : numberLoaded.loaders[0]? = some numberLoaded.loaders[0] := rfl
  have shared : ∀ number, numberLoaded.sharedLoader = some number →
      ∃ loader, numberLoaded.loaders[number]? = some loader := by
    rintro _ ⟨⟩
    exact ⟨_, rfl⟩
  have surfaces := surfaces_of_found found shared
  have hasNot : ¬ HasSection numberLoaded.loaders[0].sections "finder" := by
    rintro ⟨-, falsy | same | ⟨parted, -⟩⟩
    · cases falsy
    · cases same
    · cases parted
  exact ⟨found, shared, surfaces.get "finder" .none, surfaces.unmapped "finder" hasNot⟩

/-- The kind of failure that asking for a section of the settings at a path ends with. -/
def sectionFault? (files : FileStore) (path : FilePath) (name : String) : Option FailureKind :=
  match contentAt files path with
  | .ok sections =>
    match sectionOf sections name with
    | .ok _ => none
    | .error failure => some failure.kind
  | .error _ => none

theorem load_of_sectionFault {β : Type} {world : World β} {asked : Option String} {name : String}
    {kind : FailureKind} (unready : Unready world)
    (fault : sectionFault? world.files (pathFor world asked) name = some kind)
    (apart : kind ≠ .configuration) :
    ∃ number later, load asked world = .ok number later ∧
      ¬ OnlyConfiguration (getSection number name later) := by
  obtain ⟨number, later, -, -, -, loads⟩ := load_of_unready asked unready
  unfold sectionFault? at fault
  cases content : contentAt world.files (pathFor world asked) with
  | error failure =>
    rw [content] at fault
    cases fault
  | ok sections =>
    rw [content] at fault loads
    obtain ⟨loaded, found⟩ := loads
    have gives := getSection_apply found name
    refine ⟨number, later, loaded, fun only => apart ?_⟩
    dsimp only at fault gives
    cases result : sectionOf sections name with
    | ok value =>
      rw [result] at fault
      cases fault
    | error failure =>
      rw [result] at fault gives
      rw [← Option.some.inj fault]
      exact only failure later gives

/-- The file is loaded, and then asking for the section fails with a breach of the host language's
rules. -/
theorem number_is_no_section :
    ∃ number later, load none numberWorld = .ok number later ∧
      ¬ OnlyConfiguration (getSection number "finder" later) := by
  have unready : Unready numberWorld := nofun
  have fault : sectionFault? numberWorld.files (pathFor numberWorld none) "finder" =
      some .wrongType := by
    decide +kernel
  exact load_of_sectionFault unready fault (by decide)

end Settings
end PageContracts
