import PartialUpdate.Proofs.Bindings
import PartialUpdate.Proofs.Compilation
import PartialUpdate.Proofs.Generation
import PartialUpdate.Proofs.Text

/-!
# Names that are taken

A function that is generated for a type is named like no field of the type and like no function
or constant that is understood in the blocks of the type, wherever in the text they stand.  A
function or constant in a form that is not understood takes no name.
-/

namespace PartialUpdate

/-!
# Unqualified names
-/

namespace Text

theorem afterQualifier?_eq_none_iff {text : List Char} :
    afterQualifier? text = none ↔ ¬ [':', ':'] <:+: text := by
  induction text with
  | nil => simp [afterQualifier?]
  | cons c rest ih =>
      rw [List.infix_cons_iff, afterQualifier?]
      cases hrest : afterQualifier? rest with
      | some tail =>
          have hlater : [':', ':'] <:+: rest := by
            by_contra hnone
            rw [ih.mpr hnone] at hrest
            cases hrest
          simp [hlater]
      | none =>
          have hlater := ih.mp hrest
          cases rest with
          | nil => simp
          | cons next more =>
              simp only [List.head?_cons, List.tail_cons, ite_eq_right_iff, reduceCtorEq, imp_false,
                Bool.and_eq_true, beq_iff_eq, Option.some.injEq, hlater, or_false,
                List.cons_prefix_cons, List.nil_prefix, and_true]
              rw [eq_comm (a := c), eq_comm (a := next)]

theorem afterQualifier?_of_eq_some {text tail : List Char} (h : afterQualifier? text = some tail) :
    afterQualifier? tail = none := by
  induction text with
  | nil => cases h
  | cons c rest ih =>
      rw [afterQualifier?] at h
      cases hrest : afterQualifier? rest with
      | some later =>
          rw [hrest] at h
          cases h
          exact ih hrest
      | none =>
          rw [hrest] at h
          simp only [Option.ite_none_right_eq_some, Option.some.injEq] at h
          rw [← h.2]
          exact afterQualifier?_eq_none_iff.mpr
            (fun hinside => afterQualifier?_eq_none_iff.mp hrest
              (hinside.trans (List.tail_suffix rest).isInfix))

theorem trim_infix (text : List Char) : trim text <:+: text := by
  rcases (trim_isTrimming text).around with ⟨before, after, htext, _hbefore, _hafter⟩
  exact ⟨before, after, by rw [List.append_assoc]; exact htext.symm⟩

theorem trim_trim (text : List Char) : trim (trim text) = trim text := by
  have htrimmed := trim_isTrimming text
  exact trim_eq_of_isTrimming
    ⟨⟨[], [], by simp, by simp, by simp⟩, htrimmed.first, htrimmed.last⟩

end Text

theorem simpleTypeName_simpleTypeName (name : String) :
    simpleTypeName (simpleTypeName name) = simpleTypeName name := by
  have hplain : Text.afterQualifier? ((Text.afterQualifier? name.toList).getD name.toList) =
      none := by
    cases hname : Text.afterQualifier? name.toList with
    | none => exact hname
    | some tail => exact Text.afterQualifier?_of_eq_some hname
  have htrimmed := Text.afterQualifier?_eq_none_iff.mpr
    (fun hinside => Text.afterQualifier?_eq_none_iff.mp hplain
      (hinside.trans (Text.trim_infix _)))
  unfold simpleTypeName
  rw [String.toList_ofList, htrimmed, Option.getD_none, Text.trim_trim]

/-!
# What items give to a type
-/

namespace TypeInfo

/-- The type with further functions and constants, of which those count that are understood. -/
def gaining (info : TypeInfo) (members : List ImplMember) : TypeInfo :=
  { info with
    methods := info.methods
      ++ (members.filter ImplMember.understood).map (fun member => member.name.name) }

theorem gaining_nil (info : TypeInfo) : info.gaining [] = info := by
  simp [gaining]

theorem gaining_gaining (info : TypeInfo) (members more : List ImplMember) :
    (info.gaining members).gaining more = info.gaining (members ++ more) := by
  simp [gaining]

end TypeInfo

namespace Item

def declaredNames (items : List Item) : List String :=
  (items.filterMap info?).map TypeInfo.name

def fieldsOf (type : String) : Item -> List String
  | .struct item => if item.name.name = type then item.namedFields.map Prod.fst else []
  | .enumeration _ | .implementation _ | .other _ => []

def membersOf (type : String) : Item -> List ImplMember
  | .implementation item => if item.owner? = some type then item.members else []
  | .struct _ | .enumeration _ | .other _ => []

end Item

namespace TypeTable

variable {table : TypeTable} {items : List Item}

theorem find?_of_mem (hnodup : table.names.Nodup) {info : TypeInfo} (hmem : info ∈ table.types) :
    table.find? info.name = some info := by
  cases hfound : table.find? info.name with
  | none =>
      rw [find?, List.find?_eq_none] at hfound
      exact absurd (beq_self_eq_true info.name) (hfound info hmem)
  | some other =>
      have hname : other.name = info.name := by
        simpa using List.find?_some hfound
      have hother := List.mem_of_find?_eq_some hfound
      rw [List.inj_on_of_nodup_map hnodup hother hmem hname]

theorem insertInto_of_not_mem {info : TypeInfo} {types : List TypeInfo}
    (h : info.name ∉ types.map TypeInfo.name) : insertInto info types = types ++ [info] := by
  induction types with
  | nil => rfl
  | cons known rest ih =>
      rw [List.map_cons, List.mem_cons, not_or] at h
      have hne : (known.name == info.name) = false := beq_false_of_ne (Ne.symm h.1)
      rw [insertInto, hne, ih h.2]
      rfl

theorem types_foldl_insert {infos : List TypeInfo} (table : TypeTable)
    (h : (table.names ++ infos.map TypeInfo.name).Nodup) :
    (infos.foldl insert table).types = table.types ++ infos := by
  induction infos generalizing table with
  | nil => simp
  | cons info rest ih =>
      have hnew : info.name ∉ table.types.map TypeInfo.name := by
        intro hmem
        exact (List.nodup_append.mp h).2.2 _ hmem _ List.mem_cons_self rfl
      have htypes : (table.insert info).types = table.types ++ [info] :=
        insertInto_of_not_mem hnew
      have hnames : (table.insert info).names = table.names ++ [info.name] := by
        rw [names, htypes, List.map_append]
        rfl
      rw [List.foldl_cons, ih, htypes, List.append_assoc]
      · rfl
      · rw [hnames, List.append_assoc]
        exact h

/-!
Members change what is found under the name of their type, and no names.
-/

section

variable {owner : String} {change : TypeInfo -> TypeInfo}
variable (hname : forall info, (change info).name = info.name)

include hname

theorem names_modify : (table.modify owner change).names = table.names := by
  rcases table with ⟨types⟩
  unfold modify names
  induction types with
  | nil => rfl
  | cons known rest ih =>
      unfold modifyIn
      split
      · simp [hname]
      · simpa using ih

theorem find?_modify (name : String) :
    (table.modify owner change).find? name =
      if owner = name then (table.find? name).map change else table.find? name := by
  rcases table with ⟨types⟩
  unfold modify find?
  induction types with
  | nil => simp [modifyIn]
  | cons known rest ih =>
      rw [modifyIn]
      split
      · rename_i howner
        rw [beq_iff_eq] at howner
        rw [List.find?_cons, List.find?_cons, hname, howner]
        by_cases hsame : owner = name
        · simp [hsame]
        · simp [hsame, beq_false_of_ne hsame]
      · rename_i howner
        rw [beq_iff_eq] at howner
        rw [List.find?_cons, List.find?_cons]
        cases hsame : known.name == name with
        | true =>
            have hne : owner ≠ name := fun heq => howner ((beq_iff_eq.mp hsame).trans heq.symm)
            simp [hne]
        | false => simpa using ih

end

theorem names_withMembers (table : TypeTable) (item : Item) :
    (table.withMembers item).names = table.names := by
  unfold withMembers
  split
  · split
    · exact names_modify (fun _info => rfl)
    · rfl
  · rfl

theorem find?_withMembers (table : TypeTable) (item : Item) (name : String) :
    (table.withMembers item).find? name =
      (table.find? name).map (fun info => info.gaining (item.membersOf name)) := by
  cases item with
  | implementation item =>
      rw [withMembers, Item.membersOf]
      cases item.owner? with
      | none => simp [TypeInfo.gaining_nil]
      | some owner =>
          show (table.modify owner _).find? name = _
          rw [find?_modify]
          · by_cases hsame : owner = name
            · rw [if_pos hsame, if_pos (congrArg some hsame)]
              rfl
            · simp [hsame, TypeInfo.gaining_nil]
          · intro _info
            rfl
  | struct _ | enumeration _ | other _ =>
      simp [withMembers, Item.membersOf, TypeInfo.gaining_nil]

theorem names_foldl_withMembers (table : TypeTable) (items : List Item) :
    (items.foldl withMembers table).names = table.names := by
  induction items generalizing table with
  | nil => rfl
  | cons item rest ih => rw [List.foldl_cons, ih, names_withMembers]

theorem find?_foldl_withMembers (table : TypeTable) (items : List Item) (name : String) :
    (items.foldl withMembers table).find? name =
      (table.find? name).map (fun info => info.gaining (items.flatMap (Item.membersOf name))) := by
  induction items generalizing table with
  | nil => simp [TypeInfo.gaining_nil]
  | cons item rest ih =>
      rw [List.foldl_cons, ih, find?_withMembers, Option.map_map, List.flatMap_cons]
      simp only [Function.comp_def, TypeInfo.gaining_gaining]

theorem types_declared (hnodup : (Item.declaredNames items).Nodup) :
    ((items.filterMap Item.info?).foldl insert empty).types = items.filterMap Item.info? :=
  types_foldl_insert empty hnodup

theorem names_ofItems (hnodup : (Item.declaredNames items).Nodup) :
    (ofItems items).names = Item.declaredNames items := by
  rw [ofItems, names_foldl_withMembers, names, types_declared hnodup]
  rfl

theorem find?_ofItems (hnodup : (Item.declaredNames items).Nodup) (name : String) :
    (ofItems items).find? name =
      ((items.filterMap Item.info?).find? (fun info => info.name == name)).map
        (fun info => info.gaining (items.flatMap (Item.membersOf name))) := by
  rw [ofItems, find?_foldl_withMembers, find?, types_declared hnodup]

end TypeTable

/-!
# What a method leaves alone
-/

namespace Generation

open CodeReader (BlockHead FoundFunction)

variable {table : TypeTable} {config : GeneratorConfig} {generation : Generation}

/-- The table has the types of a clean method, and on them its name is free. -/
theorem exists_types_of_mem_clean {method : UpdateMethod} (hmem : method ∈ clean table config) :
    exists source target, source ∈ table.types ∧ source.name = method.sourceType
      ∧ table.find? method.targetType = some target
      ∧ (forall member, member ∈ target.members -> member.name ≠ method.methodName)
      ∧ method.methodName ∉ target.methods
      ∧ (method.inherent = false -> method.methodName ∉ source.methods) := by
  have hanalysis := Analysis.mem_unitMethods_of_mem (mem_withoutErrors.mp hmem).1
  rcases Analysis.exists_keeps_of_mem_unitMethods hanalysis with
    ⟨source, marker, hsource, _hmarker, hadmissible, hkeeps, _hpaths⟩
  rcases hadmissible.target with ⟨target, hfound, hsuits⟩
  have htarget : method.targetType = simpleTypeName marker.targetType :=
    congrArg (fun key => key.1) hkeeps.key
  have hname : method.methodName = config.markerMethod marker :=
    congrArg (fun key => key.2.1) hkeeps.key
  have htype : method.sourceType = source.name := congrArg (fun key => key.2.2) hkeeps.key
  have hinherent : method.inherent = config.defaults.requiresExtensible marker := hkeeps.inherent
  refine ⟨source, target, (List.mem_filter.mp hsource).1, htype.symm, ?_, ?_, ?_, ?_⟩
  · rw [TypeTable.get?, simpleTypeName_simpleTypeName] at hfound
    rw [htarget]
    exact hfound
  · rw [hname]
    exact hsuits.member
  · rw [hname]
    exact hsuits.inherent
  · rw [hname, hinherent]
    exact hsuits.own

inductive StandsFor (generated : GeneratedMethod) : BlockHead -> FoundFunction -> Prop
  | onTarget (body : Option (List Token)) :
      generated.declared.inherent = true ->
        StandsFor generated (.type generated.target) (CodeReader.found generated body)
  | declared (trait : Identifier) (body : Option (List Token)) :
      generated.declared.inherent = false ->
        StandsFor generated (.trait trait) (CodeReader.found generated body)
  | defined (trait source : Identifier) (body : Option (List Token)) :
      generated.declared.inherent = false -> source.name = generated.declared.sourceType ->
        StandsFor generated (.traitFor trait source) (CodeReader.found generated body)

namespace Follows

variable {emission : Emission}

theorem exists_standsFor (h : Follows table config generation emission) {head : BlockHead}
    {function : FoundFunction}
    (hmem : (head, function) ∈
      CodeReader.functions generation.code.runtime.length generation.tokens) :
    exists generated, generated ∈ Emission.written (clean table config)
      ∧ StandsFor generated head function := by
  rw [tokens, h.code, h.emits.runtime, h.emits.functions_code, List.mem_append, List.mem_flatMap,
    List.mem_map] at hmem
  rcases hmem with ⟨extension, hext, htrait⟩ | ⟨generated, hgenerated, heq⟩
  · rcases List.mem_append.mp htrait with hdeclared | hdefined
    · rcases List.mem_map.mp hdeclared with ⟨generated, hgenerated, heq⟩
      cases heq
      rcases h.emits.mem_members_of_mem_trait hext hgenerated with ⟨hmember, _hextends, _hok⟩
      have hmember := Emission.mem_members.mp hmember
      exact ⟨generated, hmember.1, .declared _ _ hmember.2⟩
    · rcases List.mem_map.mp hdefined with ⟨generated, hgenerated, heq⟩
      cases heq
      rcases h.emits.mem_members_of_mem_trait hext hgenerated with ⟨hmember, hextends, _hok⟩
      have hmember := Emission.mem_members.mp hmember
      exact ⟨generated, hmember.1,
        .defined _ _ _ hmember.2 (Emission.name_of_ofName hextends.type)⟩
  · cases heq
    rw [h.emits.functions, List.mem_filter] at hgenerated
    exact ⟨generated, hgenerated.1, .onTarget _ hgenerated.2⟩

end Follows
end Generation

/-!
# Functions and the names in the items
-/

namespace Item

variable {items : List Item}

def HasNoField (items : List Item) (type name : String) : Prop :=
  forall item, item ∈ items -> name ∉ item.fieldsOf type

/-- No function or constant of the type has the name, of those that count. -/
def HasNoMember (counts : ImplMember -> Bool) (items : List Item) (type name : String) : Prop :=
  forall item, item ∈ items -> forall member, member ∈ item.membersOf type ->
    counts member = true -> member.name.name ≠ name

def IsFree (counts : ImplMember -> Bool) (items : List Item) (type name : String) : Prop :=
  HasNoField items type name ∧ HasNoMember counts items type name

theorem hasNoField_of_find? (hnodup : (declaredNames items).Nodup) {type name : String}
    {info : TypeInfo} (hfound : (TypeTable.ofItems items).find? type = some info)
    (hfree : forall member, member ∈ info.members -> member.name ≠ name) :
    HasNoField items type name := by
  intro item hitem hfield
  cases item with
  | struct item =>
      rw [fieldsOf] at hfield
      split at hfield
      · rename_i htype
        have hdeclared : item.info ∈ items.filterMap info? :=
          List.mem_filterMap.mpr ⟨_, hitem, rfl⟩
        rw [TypeTable.find?_ofItems hnodup, Option.map_eq_some_iff] at hfound
        rcases hfound with ⟨found, hfound, rfl⟩
        have hname : found.name = item.info.name := by
          have hfoundName := List.find?_some hfound
          rw [beq_iff_eq] at hfoundName
          exact hfoundName.trans htype.symm
        have hsame : found = item.info :=
          List.inj_on_of_nodup_map hnodup (List.mem_of_find?_eq_some hfound) hdeclared hname
        rcases List.mem_map.mp hfield with ⟨field, hmem, rfl⟩
        have hmember : field.2.2.member (item.naming.toOption.getD {}) field.1 ∈ found.members := by
          rw [hsame]
          exact List.mem_map_of_mem hmem
        exact hfree _ hmember rfl
      · cases hfield
  | enumeration _ | implementation _ | other _ => cases hfield

theorem hasNoMember_of_find? (hnodup : (declaredNames items).Nodup) {type name : String}
    {info : TypeInfo} (hfound : (TypeTable.ofItems items).find? type = some info)
    (hfree : name ∉ info.methods) : HasNoMember ImplMember.understood items type name := by
  rw [TypeTable.find?_ofItems hnodup, Option.map_eq_some_iff] at hfound
  rcases hfound with ⟨found, _hfound, rfl⟩
  intro item hitem member hmember hunderstood hname
  apply hfree
  apply List.mem_append_right
  apply List.mem_map.mpr
  exact ⟨member, List.mem_filter.mpr
    ⟨List.mem_flatMap.mpr ⟨item, hitem, hmember⟩, hunderstood⟩, hname⟩

end Item

namespace CodeReader

/-- The function is named like no field of the type that it updates, and like no function or
constant of that type or, in a trait, of the source. -/
def IsApart (counts : ImplMember -> Bool) (items : List Item) :
    BlockHead × FoundFunction -> Prop
  | (.type target, function) => Item.IsFree counts items target.name function.name.name
  | (.trait _, function) => Item.IsFree counts items function.target.name function.name.name
  | (.traitFor _ source, function) =>
      Item.IsFree counts items function.target.name function.name.name
        ∧ Item.HasNoMember counts items source.name function.name.name

end CodeReader

namespace Generation.StandsFor

open CodeReader (BlockHead FoundFunction IsApart)

variable {items : List Item} {config : GeneratorConfig}

theorem isApart {generated : GeneratedMethod} {head : BlockHead} {function : FoundFunction}
    (h : StandsFor generated head function) (hnodup : (Item.declaredNames items).Nodup)
    (hmem : generated ∈ Emission.written (clean (TypeTable.ofItems items) config)) :
    IsApart ImplMember.understood items (head, function) := by
  rcases exists_types_of_mem_clean (Emission.mem_written.mp hmem).1 with
    ⟨source, target, hsource, hsourceName, htarget, hfields, hmembers, hown⟩
  have hwrites := Emission.writes_of_method_eq_ok (Emission.mem_written.mp hmem).2
  rw [← Emission.name_of_ofName hwrites.target] at htarget
  rw [← Emission.name_of_ofName hwrites.name] at hfields hmembers hown
  have hfield := Item.hasNoField_of_find? hnodup htarget hfields
  have hmember := Item.hasNoMember_of_find? hnodup htarget hmembers
  cases h with
  | onTarget _body _hinherent => exact ⟨hfield, hmember⟩
  | declared _trait _body _hown => exact ⟨hfield, hmember⟩
  | defined _trait type _body hnot htype =>
      have hnames : (TypeTable.ofItems items).names.Nodup := by
        rw [TypeTable.names_ofItems hnodup]
        exact hnodup
      have hfound := TypeTable.find?_of_mem hnames hsource
      rw [hsourceName, ← htype] at hfound
      exact ⟨⟨hfield, hmember⟩, Item.hasNoMember_of_find? hnodup hfound (hown hnot)⟩

end Generation.StandsFor

/-!
# Functions generated from a text
-/

namespace Compilation

open CodeReader (IsApart)

variable {text : String} {config : GeneratorConfig}

/-- A function that is generated has a name of its own, as far as the functions and constants in
the items are understood. -/
theorem generateText_isApart {generation : Generation} {attributes : List Token}
    {items : List Item} (hfile : Syntax.file text = .ok (attributes, items))
    (hnodup : (Item.declaredNames items).Nodup)
    (h : generateText text config = .ok generation) :
    forall found, found ∈
        CodeReader.functions generation.code.runtime.length generation.tokens ->
      IsApart ImplMember.understood items found := by
  rcases generateText_eq_ok_iff.mp h with ⟨attributes', items', hfile', _hnone, hgenerate⟩
  rw [hfile] at hfile'
  cases hfile'
  rcases Generation.exists_follows hgenerate with ⟨emission, hfollows⟩
  rintro ⟨head, function⟩ hmem
  rcases hfollows.exists_standsFor hmem with ⟨generated, hwritten, hstands⟩
  exact hstands.isApart hnodup hwritten

/-!
A type with a constant that has parameters, and a function of the same name that is declared on
another type.
-/

def clashingText : String :=
  "#[update_target(extensible)] pub struct User \x7b pub age: String \x7d "
    ++ "impl User \x7b pub fn rename(&self) \x7b\x7d pub const to_update<T>: u8 = 0; \x7d "
    ++ "#[update(target = User, extensible)] pub struct Patch \x7b pub age: String \x7d"

def clashingSource : TypeInfo where
  name := "Patch"
  members := [.plain "age" .text]
  markers := [{ targetType := "User", extensibleTargetRequired := some true }]

def clashing : TypeTable where
  types :=
    [{ name := "User", members := [.plain "age" .text], methods := ["rename"],
       extensible := true },
      clashingSource]

def clashingMembers : List ImplMember :=
  [⟨.plain "rename", true⟩, ⟨.plain "to_update", false⟩]

def clashingMethod : UpdateMethod where
  sourceType := "Patch"
  targetType := "User"
  methodName := "to_update"
  bindings := Generation.patchMethod.bindings
  inherent := true
  location := Generation.patchLocation

def clashingWritten : GeneratedMethod where
  declared := clashingMethod
  name := .plain "to_update"
  target := .plain "User"
  source := some (.plain "Patch")
  calls := Generation.patchWritten.calls

theorem file_clashingText :
    (Syntax.file clashingText).toOption.map (fun parsed =>
        (Item.declaredNames parsed.2, parsed.2.flatMap (Item.membersOf "User"),
          (parsed.2.filterMap Item.error?).length, TypeTable.ofItems parsed.2)) =
      some (["User", "Patch"], clashingMembers, 0, clashing) := by
  decide +kernel

theorem analyze_clashing : analyze clashing {} false = ⟨[clashingMethod], [], []⟩ := by
  have hresolve : resolve clashingSource clashing {} =
      ⟨[{ Generation.patchResolved with requiresExtensibleTarget := true }], []⟩ := rfl
  exact Analysis.analyze_of_single rfl hresolve rfl rfl

theorem exists_generate_clashing :
    exists runtime, generate clashing {} false =
      .ok ⟨⟨runtime, [], [clashingWritten]⟩, [clashingMethod], [], []⟩ := by
  rcases Generation.exists_runtimePath "UpdateExt" with ⟨runtime, hruntime⟩
  have hclean : Generation.withoutErrors [] [clashingMethod] = [clashingMethod] := rfl
  have hsort : Diagnostic.sort [] = [] := List.mergeSort_nil
  have hwritten : Emission.method clashingMethod = .ok clashingWritten := rfl
  refine ⟨runtime, ?_⟩
  rw [Generation.generate_eq_ofAnalysis hruntime, analyze_clashing, Generation.ofAnalysis,
    Generation.emitted, hclean, Emission.ofMethods_function runtime hwritten rfl]
  simp only [Except.mapError, bind, Except.bind, List.append_nil, hsort, hclean]
  rfl

theorem exists_function_clashingText :
    exists attributes items generation head function,
      Syntax.file clashingText = .ok (attributes, items)
      ∧ Item.declaredNames items = ["User", "Patch"]
      ∧ items.flatMap (Item.membersOf "User") = clashingMembers
      ∧ generateText clashingText {} = .ok generation ∧ generation.diagnostics = []
      ∧ (head, function) ∈
          CodeReader.functions generation.code.runtime.length generation.tokens
      ∧ head = .type (.plain "User") ∧ function.name = .plain "to_update" := by
  have hchecked := file_clashingText
  cases hfile : Syntax.file clashingText with
  | error e =>
      rw [hfile] at hchecked
      cases hchecked
  | ok parsed =>
      rcases parsed with ⟨attributes, items⟩
      rw [hfile] at hchecked
      simp only [Except.toOption, Option.map_some, Option.some.injEq, Prod.mk.injEq,
        List.length_eq_zero_iff] at hchecked
      rcases hchecked with ⟨hnames, hmembers, hnone, htable⟩
      rcases exists_generate_clashing with ⟨runtime, hgenerate⟩
      rw [← htable] at hgenerate
      have hcompiled : generateText clashingText {} = .ok _ :=
        generateText_eq_ok_iff.mpr ⟨attributes, items, hfile, hnone, hgenerate⟩
      refine ⟨attributes, items, _, .type clashingWritten.target,
        CodeReader.found clashingWritten (some (clashingWritten.body runtime)), rfl, hnames,
        hmembers, hcompiled, rfl, ?_, rfl, rfl⟩
      have hread := CodeReader.functions_tokens ⟨runtime, [], [clashingWritten]⟩
      rw [Generation.tokens, hread]
      exact List.mem_singleton_self _

theorem generateText_isApart_clashingText :
    exists attributes items generation found,
      Syntax.file clashingText = .ok (attributes, items) ∧ (Item.declaredNames items).Nodup
      ∧ generateText clashingText {} = .ok generation
      ∧ found ∈ CodeReader.functions generation.code.runtime.length generation.tokens
      ∧ IsApart ImplMember.understood items found := by
  rcases exists_function_clashingText with
    ⟨attributes, items, generation, head, function, hfile, hnames, _hmembers, hgenerate, _hnone,
      hmem, _hhead, _hname⟩
  have hnodup : (Item.declaredNames items).Nodup := by
    rw [hnames]
    decide
  exact ⟨attributes, items, generation, (head, function), hfile, hnodup, hgenerate, hmem,
    generateText_isApart hfile hnodup hgenerate _ hmem⟩

/-- A constant that is not understood keeps no function from its name, and nothing is
reported. -/
theorem not_isApart_clashingText :
    exists attributes items generation found,
      Syntax.file clashingText = .ok (attributes, items) ∧ (Item.declaredNames items).Nodup
      ∧ generateText clashingText {} = .ok generation ∧ generation.diagnostics = []
      ∧ found ∈ CodeReader.functions generation.code.runtime.length generation.tokens
      ∧ ¬ IsApart (fun _ => true) items found := by
  rcases exists_function_clashingText with
    ⟨attributes, items, generation, head, function, hfile, hnames, hmembers, hgenerate, hnone,
      hmem, rfl, hname⟩
  have hnodup : (Item.declaredNames items).Nodup := by
    rw [hnames]
    decide
  refine ⟨attributes, items, generation, _, hfile, hnodup, hgenerate, hnone, hmem, ?_⟩
  rintro ⟨_hfield, hapart⟩
  have hconstant : ⟨.plain "to_update", false⟩ ∈ items.flatMap (Item.membersOf "User") := by
    rw [hmembers]
    exact List.mem_cons_of_mem _ List.mem_cons_self
  rcases List.mem_flatMap.mp hconstant with ⟨item, hitem, hmember⟩
  apply hapart item hitem _ hmember rfl
  rw [hname]

end Compilation
end PartialUpdate
