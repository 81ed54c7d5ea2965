import PartialUpdate.Proofs.Expansion

/-!
# Reading stripped items

Stripped items are read as well, and as the same types, only that no updates are declared on
them.  So nothing is generated from what stripping leaves.
-/

namespace PartialUpdate

/-!
# Types without updates
-/

namespace MemberInfo

/-- The member as it is without attributes that declare updates. -/
def withoutUpdates (member : MemberInfo) : MemberInfo :=
  { member with excluded := false, specs := [] }

end MemberInfo

namespace TypeInfo

def withoutUpdates (info : TypeInfo) : TypeInfo :=
  { info with
    members := info.members.map MemberInfo.withoutUpdates
    extensible := false
    markers := []
    typeSpecs := [] }

theorem isSource_withoutUpdates (info : TypeInfo) : info.withoutUpdates.isSource = false := by
  simp [isSource, withoutUpdates, MemberInfo.withoutUpdates]

end TypeInfo

namespace TypeTable

def withoutUpdates (table : TypeTable) : TypeTable :=
  ⟨table.types.map TypeInfo.withoutUpdates⟩

theorem sources_withoutUpdates (table : TypeTable) : table.withoutUpdates.sources = [] := by
  rw [sources, List.filter_eq_nil_iff]
  intro info hmem hsource
  rcases List.mem_map.mp hmem with ⟨source, _hsource, rfl⟩
  rw [TypeInfo.isSource_withoutUpdates] at hsource
  cases hsource

end TypeTable

/-!
# Attributes that stay
-/

namespace Attribute

variable {written : Attribute}

theorem eq_of_isNamed {name other : String} (h : written.isNamed name = true)
    (hother : written.isNamed other = true) : name = other := by
  unfold isNamed PathSyntax.isWord at h hother
  split at h
  · rename_i hrooted hsteps
    simp only [hrooted, hsteps, Bool.and_eq_true, beq_iff_eq] at h hother
    exact h.2.symm.trans hother.2
  · cases h

theorem isForeign_of_isNamed {name : String} (h : written.isNamed name = true)
    (hname : name ∉ helperNames) : written.isForeign = true := by
  rw [isForeign_eq, List.all_eq_true]
  intro helper hhelper
  rw [Bool.not_eq_true', Bool.eq_false_iff]
  intro hnamed
  exact hname (eq_of_isNamed h hnamed ▸ hhelper)

theorem onStruct_of_isForeign (h : written.isForeign = true) :
    written.onStruct = .ok .unrelated := by
  rw [onStruct, Option.isNone_iff_eq_none.mp h]

theorem onField_of_isForeign (h : written.isForeign = true) :
    written.onField = .ok .unrelated := by
  rw [onField, Option.isNone_iff_eq_none.mp h]

theorem naming_filter_isForeign (attributes : List Attribute) :
    Naming.ofAttributes (attributes.filter isForeign) = Naming.ofAttributes attributes := by
  have hfilter : (attributes.filter isForeign).filter
        (fun written => written.isNamed Naming.attributeName) =
      attributes.filter (fun written => written.isNamed Naming.attributeName) := by
    rw [List.filter_filter]
    apply List.filter_congr
    intro written _hmem
    cases hnamed : written.isNamed Naming.attributeName with
    | false => rfl
    | true =>
        rw [isForeign_of_isNamed hnamed (by decide)]
        rfl
  have hclauses : Naming.clausesOfAll (attributes.filter isForeign) =
      Naming.clausesOfAll attributes := by
    rw [Naming.clausesOfAll, hfilter, Naming.clausesOfAll]
  simp only [Naming.ofAttributes, Naming.errors, Naming.collected, hclauses]

end Attribute

/-!
# Fields
-/

namespace FieldSyntax

theorem stripped_stripped (field : FieldSyntax) : field.stripped.stripped = field.stripped := by
  simp [stripped]

theorem naming_stripped (field : FieldSyntax) : field.stripped.naming = field.naming :=
  Attribute.naming_filter_isForeign field.attributes

theorem declarations_stripped (field : FieldSyntax) :
    forall declared, declared ∈ field.stripped.declarations -> declared = .unrelated := by
  intro declared hmem
  rcases List.mem_filterMap.mp hmem with ⟨written, hwritten, hdeclared⟩
  rw [Attribute.onField_of_isForeign (List.mem_filter.mp hwritten).2] at hdeclared
  exact (Option.some.inj hdeclared).symm

theorem errors_stripped (field : FieldSyntax) :
    field.stripped.errors = (failure? field.naming).toList := by
  have hnone : field.stripped.attributes.filterMap (fun written => failure? written.onField) =
      [] := by
    rw [List.filterMap_eq_nil_iff]
    intro written hwritten
    rw [Attribute.onField_of_isForeign (List.mem_filter.mp hwritten).2]
    rfl
  rw [errors, naming_stripped, hnone, List.append_nil]

theorem member_stripped (container : Naming) (field : FieldSyntax) (name : String) :
    field.stripped.member container name = (field.member container name).withoutUpdates := by
  have hspecs : field.stripped.specs = [] := by
    rw [specs, List.filterMap_eq_nil_iff]
    intro declared hmem
    rw [declarations_stripped field declared hmem]
  have hignored : field.stripped.isIgnored = false := by
    rw [isIgnored, List.any_eq_false]
    intro declared hmem
    rw [declarations_stripped field declared hmem]
    exact Bool.false_ne_true
  rw [member, hspecs, hignored, naming_stripped]
  rfl

end FieldSyntax

namespace FieldsSyntax

theorem stripped_stripped (fields : FieldsSyntax) :
    fields.stripped.stripped = fields.stripped := by
  cases fields with
  | unit => rfl
  | named fields | unnamed fields =>
      simp only [stripped, List.map_map, Function.comp_def, FieldSyntax.stripped_stripped]

theorem named?_stripped (fields : FieldsSyntax) :
    fields.stripped.named? = fields.named?.map (fun named =>
      named.map (fun (name, span, field) => (name, span, field.stripped))) := by
  cases fields with
  | named fields =>
      simp only [stripped, named?, Option.map_some, List.filterMap_map, List.map_filterMap]
      congr 1
      apply List.filterMap_congr
      intro field _hmem
      rcases field with ⟨attributes, visibility, _ | ⟨name, span⟩, type, comma⟩ <;> rfl
  | unnamed fields => rfl
  | unit => rfl

end FieldsSyntax

/-!
# Structures
-/

namespace StructSyntax

theorem stripped_stripped (item : StructSyntax) : item.stripped.stripped = item.stripped := by
  simp [stripped, FieldsSyntax.stripped_stripped]

theorem naming_stripped (item : StructSyntax) : item.stripped.naming = item.naming :=
  Attribute.naming_filter_isForeign item.attributes

theorem namedFields_stripped (item : StructSyntax) :
    item.stripped.namedFields =
      item.namedFields.map (fun (name, span, field) => (name, span, field.stripped)) := by
  show item.fields.stripped.named?.getD [] = _
  rw [FieldsSyntax.named?_stripped, namedFields]
  cases item.fields.named? <;> rfl

theorem declarations_stripped (item : StructSyntax) :
    forall entry, entry ∈ item.stripped.declarations -> entry.1 = .unrelated := by
  intro entry hmem
  rcases List.mem_filterMap.mp hmem with ⟨written, hwritten, hentry⟩
  rw [Attribute.onStruct_of_isForeign (List.mem_filter.mp hwritten).2] at hentry
  exact congrArg Prod.fst (Option.some.inj hentry).symm

theorem markers_stripped (item : StructSyntax) : item.stripped.markers = [] := by
  rw [markers, List.filterMap_eq_nil_iff]
  rintro ⟨declared, span⟩ hmem
  rw [show declared = .unrelated from item.declarations_stripped _ hmem]

theorem typeSpecs_stripped (item : StructSyntax) : item.stripped.typeSpecs = [] := by
  rw [typeSpecs, List.filterMap_eq_nil_iff]
  rintro ⟨declared, span⟩ hmem
  rw [show declared = .unrelated from item.declarations_stripped _ hmem]

theorem targets_stripped (item : StructSyntax) : item.stripped.targets = [] := by
  rw [targets, List.filterMap_eq_nil_iff]
  rintro ⟨declared, span⟩ hmem
  rw [show declared = .unrelated from item.declarations_stripped _ hmem]

theorem info_stripped (item : StructSyntax) : item.stripped.info = item.info.withoutUpdates := by
  simp only [info, TypeInfo.withoutUpdates, isExtensible, markers_stripped, typeSpecs_stripped,
    targets_stripped, naming_stripped, namedFields_stripped, List.map_map, Function.comp_def,
    FieldSyntax.member_stripped]
  rfl

theorem errors_stripped {item : StructSyntax} (h : item.errors = []) :
    item.stripped.errors = [] := by
  rw [errors, List.append_eq_nil_iff, List.append_eq_nil_iff] at h
  rcases h with ⟨⟨_hattributes, hnaming⟩, hfields⟩
  have hown : item.stripped.attributes.filterMap (fun written => failure? written.onStruct) =
      [] := by
    rw [List.filterMap_eq_nil_iff]
    intro written hwritten
    rw [Attribute.onStruct_of_isForeign (List.mem_filter.mp hwritten).2]
    rfl
  have hnamed : item.stripped.fieldErrors = [] := by
    rw [fieldErrors] at hfields ⊢
    rw [show item.stripped.fields.named? = _ from FieldsSyntax.named?_stripped item.fields]
    cases hfound : item.fields.named? with
    | none => simp [markers_stripped, typeSpecs_stripped]
    | some fields =>
        rw [hfound] at hfields
        simp only [List.flatMap_eq_nil_iff, Option.map_some, List.mem_map] at hfields ⊢
        rintro _ ⟨⟨name, span, field⟩, hmem, rfl⟩
        have herrors : field.errors = [] := hfields _ hmem
        rw [FieldSyntax.errors, List.append_eq_nil_iff] at herrors
        show field.stripped.errors = []
        rw [FieldSyntax.errors_stripped, herrors.1]
  rw [errors, hown, naming_stripped, hnaming, hnamed]
  rfl

end StructSyntax

/-!
# Items
-/

namespace Item

theorem stripped_stripped (item : Item) : item.stripped.stripped = item.stripped := by
  cases item with
  | struct item => exact congrArg struct item.stripped_stripped
  | _ => rfl

theorem info?_stripped (item : Item) :
    item.stripped.info? = item.info?.map TypeInfo.withoutUpdates := by
  cases item with
  | struct item => exact congrArg some item.info_stripped
  | _ => rfl

theorem error?_stripped {item : Item} (h : item.error? = none) : item.stripped.error? = none := by
  cases item with
  | struct item =>
      have herrors := DeclarationError.ofList?_eq_none_iff.mp h
      exact DeclarationError.ofList?_eq_none_iff.mpr (StructSyntax.errors_stripped herrors)
  | _ => rfl

end Item

namespace TypeTable

theorem insert_withoutUpdates (table : TypeTable) (info : TypeInfo) :
    table.withoutUpdates.insert info.withoutUpdates = (table.insert info).withoutUpdates := by
  rcases table with ⟨types⟩
  apply congrArg mk
  show insertInto info.withoutUpdates (types.map TypeInfo.withoutUpdates) =
    (insertInto info types).map TypeInfo.withoutUpdates
  induction types with
  | nil => rfl
  | cons known rest ih =>
      have hname : (known.withoutUpdates.name == info.withoutUpdates.name) =
          (known.name == info.name) := rfl
      rw [List.map_cons, insertInto, hname, insertInto]
      split
      · rfl
      · rw [ih]
        rfl

theorem modify_withoutUpdates (table : TypeTable) (owner : String) {change : TypeInfo -> TypeInfo}
    (hchange : forall info, (change info).withoutUpdates = change info.withoutUpdates) :
    table.withoutUpdates.modify owner change = (table.modify owner change).withoutUpdates := by
  rcases table with ⟨types⟩
  apply congrArg mk
  show modifyIn owner change (types.map TypeInfo.withoutUpdates) =
    (modifyIn owner change types).map TypeInfo.withoutUpdates
  induction types with
  | nil => rfl
  | cons known rest ih =>
      have hname : (known.withoutUpdates.name == owner) = (known.name == owner) := rfl
      rw [List.map_cons, modifyIn, hname, modifyIn]
      split
      · rw [List.map_cons, hchange]
      · rw [ih]
        rfl

theorem withMembers_withoutUpdates (table : TypeTable) (item : Item) :
    table.withoutUpdates.withMembers item.stripped =
      (table.withMembers item).withoutUpdates := by
  cases item with
  | implementation item =>
      rw [Item.stripped, withMembers, withMembers]
      cases item.owner? with
      | none => rfl
      | some owner => exact modify_withoutUpdates table owner (fun _info => rfl)
  | _ => rfl

theorem foldl_insert_withoutUpdates (infos : List TypeInfo) (table : TypeTable) :
    (infos.map TypeInfo.withoutUpdates).foldl insert table.withoutUpdates =
      (infos.foldl insert table).withoutUpdates := by
  induction infos generalizing table with
  | nil => rfl
  | cons info rest ih =>
      rw [List.map_cons, List.foldl_cons, insert_withoutUpdates, ih, List.foldl_cons]

theorem foldl_withMembers_withoutUpdates (items : List Item) (table : TypeTable) :
    (items.map Item.stripped).foldl withMembers table.withoutUpdates =
      (items.foldl withMembers table).withoutUpdates := by
  induction items generalizing table with
  | nil => rfl
  | cons item rest ih =>
      rw [List.map_cons, List.foldl_cons, withMembers_withoutUpdates, ih, List.foldl_cons]

theorem ofItems_stripped (items : List Item) :
    ofItems (items.map Item.stripped) = (ofItems items).withoutUpdates := by
  have hdeclared : (items.map Item.stripped).filterMap Item.info? =
      (items.filterMap Item.info?).map TypeInfo.withoutUpdates := by
    rw [List.filterMap_map, List.map_filterMap]
    exact List.filterMap_congr (fun item _hmem => Item.info?_stripped item)
  have hempty : empty.withoutUpdates = empty := rfl
  rw [ofItems, hdeclared, ← hempty, foldl_insert_withoutUpdates,
    foldl_withMembers_withoutUpdates]
  rfl

end TypeTable

/-!
# Nothing to generate
-/

namespace Generation

theorem generate_of_no_sources {table : TypeTable} {config : GeneratorConfig}
    {runtime : List Token} (hsources : table.sources = [])
    (hruntime : runtimePath config = .ok runtime) (cancelled : Bool) :
    generate table config cancelled = .ok ⟨⟨runtime, [], []⟩, [], [], []⟩ := by
  cases cancelled with
  | true =>
      rw [generate, hruntime, hsources]
      rfl
  | false =>
      have hsortMethods : Analysis.sortMethods [] = [] := List.mergeSort_nil
      have hsort : Diagnostic.sort [] = [] := List.mergeSort_nil
      have hanalysis : analyze table config false = ⟨[], [], []⟩ := by
        rw [analyze, Analysis.ofSourcesUnless, if_neg Bool.false_ne_true, hsources,
          Analysis.ofSources, Analysis.merge]
        simp only [List.map_nil, List.flatMap_nil, hsortMethods, Analysis.claim, List.append_nil,
          hsort]
      have hnames : Aggregation.sortedNames [] = [] := List.mergeSort_nil
      have hemitted : emitted config runtime [] = .ok ⟨⟨runtime, [], []⟩, []⟩ := by
        rw [emitted, Emission.ofMethods]
        simp only [List.map_nil, Emission.gather, bind, Except.bind, List.filter_nil, hnames]
        rfl
      have hclean : withoutErrors [] [] = [] := rfl
      rw [generate_eq_ofAnalysis hruntime, hanalysis, ofAnalysis, hclean, hemitted]
      simp only [bind, Except.bind, List.append_nil, hsort, hclean]
      rfl

end Generation

/-!
# Stripped units
-/

namespace Reading

/-- Stripping takes away the attributes that declare updates and leaves all else in its place,
and a second time it takes away nothing.  What it leaves is read as the same types without
updates, from which nothing is generated. -/
theorem ofItems_map_stripped {items : List Item} {reading : Reading}
    (h : ofItems items = .ok reading) :
    (items.map Item.stripped).map Item.stripped = items.map Item.stripped
    ∧ List.Forall₂ Item.IsStripped (items.map Item.stripped) items
    ∧ exists again, ofItems (items.map Item.stripped) = .ok again
      ∧ again.table = reading.table.withoutUpdates
      ∧ forall config runtime cancelled, Generation.runtimePath config = .ok runtime ->
        exists generation, generate again.table config cancelled = .ok generation
          ∧ generation.tokens = [] ∧ generation.methods = [] ∧ generation.diagnostics = []
          ∧ generation.cancelled = [] := by
  rcases ofItems_eq_ok_iff.mp h with ⟨hnone, rfl⟩
  refine ⟨?_, ?_, ⟨TypeTable.ofItems (items.map Item.stripped),
    Places.ofItems (items.map Item.stripped)⟩, ?_, TypeTable.ofItems_stripped items, ?_⟩
  · simp only [List.map_map, Function.comp_def, Item.stripped_stripped]
  · rw [List.forall₂_map_left_iff, List.forall₂_same]
    intro item _hmem
    exact Item.stripped_isStripped item
  · refine ofItems_eq_ok_iff.mpr ⟨?_, rfl⟩
    rw [List.filterMap_map, List.filterMap_eq_nil_iff]
    intro item hmem
    exact Item.error?_stripped (List.filterMap_eq_nil_iff.mp hnone item hmem)
  · intro config runtime cancelled hruntime
    have hsources : (TypeTable.ofItems (items.map Item.stripped)).sources = [] := by
      rw [TypeTable.ofItems_stripped, TypeTable.sources_withoutUpdates]
    exact ⟨_, Generation.generate_of_no_sources hsources hruntime cancelled, rfl, rfl, rfl, rfl⟩

/-!
A target, a source with a field that is renamed and kept out of updates, and a structure without
field names.
-/

def helpersText : String :=
  "#[update_target(extensible)] struct User \x7b pub age: u8 \x7d "
    ++ "#[update(target = User)] struct Patch \x7b "
    ++ "#[update_ignore] #[serde(rename = r\"years\")] pub age: u8 \x7d "
    ++ "struct Pair(#[update_ignore] u8);"

def helpersRest : TypeTable where
  types := [
    { name := "User", members := [.plain "age" (.scalar "u8")] },
    { name := "Patch", members := [{ MemberInfo.plain "age" (.scalar "u8") with
        storedName := "years" }] },
    { name := "Pair" }]

theorem file_helpersText :
    (Syntax.file helpersText).toOption.any (fun parsed =>
      (parsed.2.filterMap Item.error?).isEmpty
        && decide ((TypeTable.ofItems parsed.2).sources.map TypeInfo.name = ["Patch"])
        && decide ((TypeTable.ofItems parsed.2).withoutUpdates = helpersRest)) = true := by
  decide +kernel

theorem ofItems_map_stripped_helpersText :
    exists attributes items reading again runtime generation,
      Syntax.file helpersText = .ok (attributes, items) ∧ ofItems items = .ok reading
      ∧ reading.table.sources.map TypeInfo.name = ["Patch"]
      ∧ ofItems (items.map Item.stripped) = .ok again ∧ again.table = helpersRest
      ∧ Generation.runtimePath {} = .ok runtime
      ∧ generate again.table {} false = .ok generation ∧ generation.tokens = [] := by
  rcases exists_of_any_toOption file_helpersText with ⟨⟨attributes, items⟩, hfile, hchecked⟩
  simp only [Bool.and_eq_true, decide_eq_true_eq, List.isEmpty_iff] at hchecked
  rcases hchecked with ⟨⟨hnone, hsources⟩, htable⟩
  have hread : ofItems items = .ok ⟨TypeTable.ofItems items, Places.ofItems items⟩ :=
    ofItems_eq_ok_iff.mpr ⟨hnone, rfl⟩
  rcases ofItems_map_stripped hread with ⟨_htwice, _hstripped, again, hagain, hrest, hgenerates⟩
  rcases Generation.exists_runtimePath "UpdateExt" with ⟨runtime, hruntime⟩
  rcases hgenerates {} runtime false hruntime with ⟨generation, hgenerate, htokens, _hclean⟩
  exact ⟨attributes, items, _, again, runtime, generation, hfile, hread, hsources, hagain,
    hrest.trans htable, hruntime, hgenerate, htokens⟩

end Reading
end PartialUpdate
