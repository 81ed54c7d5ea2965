import PartialUpdate.Proofs.Compilation
import PartialUpdate.Proofs.Generation
import PartialUpdate.Proofs.Placement

/-!
# Modules and files

A module that is expanded keeps all of its items but for the attributes that declare updates.
Its last item and the errors behind it are those of a file with the same items, wherever the
items stand in it.
-/

namespace PartialUpdate

/-!
# Items without the attributes that declare updates
-/

namespace Attribute

def helperNames : List String :=
  ["update", "update_property", "update_ignore", "update_target"]

def withoutHelpers (attributes : List Attribute) : List Attribute :=
  attributes.filter (fun written => helperNames.all (fun name => !written.isNamed name))

theorem isForeign_eq (written : Attribute) :
    written.isForeign = helperNames.all (fun name => !written.isNamed name) := by
  have hnames : helperNames = UpdateAttribute.all.map UpdateAttribute.name := rfl
  rw [hnames, List.all_map, isForeign, UpdateAttribute.of?, Bool.eq_iff_iff]
  simp

theorem filter_isForeign (attributes : List Attribute) :
    attributes.filter isForeign = withoutHelpers attributes :=
  List.filter_congr (fun written _hmem => isForeign_eq written)

end Attribute

/-- A field whose helper attributes are gone, and nothing else. -/
structure FieldSyntax.IsStripped (stripped field : FieldSyntax) : Prop where
  attributes : stripped.attributes = Attribute.withoutHelpers field.attributes
  rest : { stripped with attributes := field.attributes } = field

inductive FieldsSyntax.IsStripped : FieldsSyntax -> FieldsSyntax -> Prop
  | named {stripped fields : List FieldSyntax} :
      List.Forall₂ FieldSyntax.IsStripped stripped fields ->
        IsStripped (.named stripped) (.named fields)
  | unnamed {stripped fields : List FieldSyntax} :
      List.Forall₂ FieldSyntax.IsStripped stripped fields ->
        IsStripped (.unnamed stripped) (.unnamed fields)
  | unit : IsStripped .unit .unit

structure StructSyntax.IsStripped (stripped item : StructSyntax) : Prop where
  attributes : stripped.attributes = Attribute.withoutHelpers item.attributes
  fields : stripped.fields.IsStripped item.fields
  rest : { stripped with attributes := item.attributes, fields := item.fields } = item

/-- Structures lose the helper attributes, on them and on their fields; other items stay. -/
inductive Item.IsStripped : Item -> Item -> Prop
  | struct {stripped item : StructSyntax} :
      stripped.IsStripped item -> IsStripped (.struct stripped) (.struct item)
  | enumeration (item : EnumSyntax) : IsStripped (.enumeration item) (.enumeration item)
  | implementation (item : ImplSyntax) : IsStripped (.implementation item) (.implementation item)
  | other (tokens : List Token) : IsStripped (.other tokens) (.other tokens)

theorem FieldSyntax.stripped_isStripped (fields : List FieldSyntax) :
    List.Forall₂ IsStripped (fields.map stripped) fields := by
  rw [List.forall₂_map_left_iff, List.forall₂_same]
  intro field _hmem
  exact ⟨Attribute.filter_isForeign field.attributes, rfl⟩

theorem FieldsSyntax.stripped_isStripped (fields : FieldsSyntax) :
    fields.stripped.IsStripped fields := by
  cases fields with
  | named fields => exact .named (FieldSyntax.stripped_isStripped fields)
  | unnamed fields => exact .unnamed (FieldSyntax.stripped_isStripped fields)
  | unit => exact .unit

theorem Item.stripped_isStripped (item : Item) : item.stripped.IsStripped item := by
  cases item with
  | struct item =>
      exact .struct ⟨Attribute.filter_isForeign item.attributes,
        FieldsSyntax.stripped_isStripped item.fields, rfl⟩
  | enumeration item => exact .enumeration item
  | implementation item => exact .implementation item
  | other tokens => exact .other tokens

/-!
# Two ways to one generation
-/

namespace Generation

variable {table : TypeTable} {config : GeneratorConfig} {generation : Generation}

theorem diagnostics_ascending (h : generate table config false = .ok generation) :
    generation.diagnostics.Pairwise
      (fun a b => Ordered.keyLe a.sortKey b.sortKey = true) := by
  rcases exists_follows h with ⟨emission, hfollows⟩
  rw [hfollows.diagnostics]
  exact Ordered.pairwise_sort Ordered.keyLe_isLinear Diagnostic.sortKey _

end Generation

namespace Compilation

/-- From the same items, wherever they stand, the same is generated. -/
theorem generateText_of_unplaced_eq {text : String} {config : GeneratorConfig}
    {attributes : List Token} {fileItems items : List Item} {generation : Generation}
    (hfile : Syntax.file text = .ok (attributes, fileItems))
    (hsame : fileItems.map Item.unplaced = items.map Item.unplaced)
    (hnone : items.filterMap Item.error? = [])
    (hgenerate : generate (TypeTable.ofItems items) config false = .ok generation) :
    generateText text config = .ok generation := by
  refine generateText_eq_ok_iff.mpr ⟨attributes, fileItems, hfile, ?_, ?_⟩
  · rw [← Item.errors_unplaced, hsame, Item.errors_unplaced]
    exact hnone
  · rw [← TypeTable.ofItems_unplaced, hsame, TypeTable.ofItems_unplaced]
    exact hgenerate

end Compilation

namespace Expansion

/-- A module is replaced by itself without helper attributes, with the tokens that are generated
from a file of the same items as its last item, and by one failing invocation for each error of
that generation, in order. -/
theorem expand_agrees {arguments item : List Token} {expansion : Expansion}
    (h : expand arguments item = .ok expansion) :
    exists config lead attributes items generation stripped,
      GeneratorConfig.ofArguments arguments = .ok config
      ∧ Syntax.module item = .ok ⟨lead, some (attributes, items)⟩
      ∧ (forall text fileAttributes fileItems,
          Syntax.file text = .ok (fileAttributes, fileItems) ->
            fileItems.map Item.unplaced = items.map Item.unplaced ->
              Compilation.generateText text config = .ok generation)
      ∧ List.Forall₂ Item.IsStripped stripped items
      ∧ generation.diagnostics.Pairwise
          (fun a b => Ordered.keyLe a.sortKey b.sortKey = true)
      ∧ printed (expand arguments item) =
          ModuleSyntax.tokens ⟨lead, some (attributes, stripped ++ [.other generation.tokens])⟩
            ++ (generation.diagnostics.filter Diagnostic.isError).flatMap
              (fun diagnostic => failing diagnostic.display) := by
  rcases expand_eq_ok_iff.mp h with
    ⟨config, lead, attributes, items, generation, hconfig, hmodule, hnone, hgenerate, rfl⟩
  refine ⟨config, lead, attributes, items, generation, items.map Item.stripped, hconfig, hmodule,
    ?_, ?_, Generation.diagnostics_ascending hgenerate, by rw [h]; rfl⟩
  · intro text fileAttributes fileItems hfile hsame
    exact Compilation.generateText_of_unplaced_eq hfile hsame hnone hgenerate
  · rw [List.forall₂_map_left_iff, List.forall₂_same]
    intro item _hmem
    exact Item.stripped_isStripped item

/-!
A module with a source whose function is generated, and a source whose target is not known.
-/

def modelsText : String :=
  "pub struct User \x7b pub age: String \x7d "
    ++ "#[update(target = User)] pub struct Patch \x7b pub age: String \x7d "
    ++ "#[update(target = Ghost)] pub struct Lost \x7b pub age: String \x7d"

def modelsModule : List Token :=
  (Token.lex? ("mod models \x7b " ++ modelsText ++ " \x7d")).getD []

def modelsStruct (name : String) (attributes : List Attribute) : Item :=
  .struct
    { attributes := attributes
      visibility := [Token.word "pub"]
      name := .plain name
      nameSpan := Span.unplaced
      generics := []
      conditions := []
      fields := .named
        [{ attributes := []
           visibility := [Token.word "pub"]
           name := some (.plain "age", Span.unplaced)
           type := .path false [.plain (.plain "String")]
           comma := false }] }

def modelsMarker (target : String) : Attribute where
  inner := false
  item := ⟨PathSyntax.ofWord "update",
    .list .parenthesis (Token.word "target" :: Token.operator "=" ++ [Token.word target])⟩
  span := Span.unplaced

def modelsItems : List Item :=
  [modelsStruct "User" [], modelsStruct "Patch" [modelsMarker "User"],
    modelsStruct "Lost" [modelsMarker "Ghost"]]

theorem file_modelsText :
    (Syntax.file modelsText).toOption.map (fun parsed => parsed.2.map Item.unplaced) =
      some modelsItems := by
  decide +kernel

theorem module_modelsModule :
    ((Syntax.module modelsModule).toOption.bind ModuleSyntax.body).map
        (fun body => body.2.map Item.unplaced) =
      some modelsItems := by
  decide +kernel

def lost : TypeInfo where
  name := "Lost"
  members := [.plain "age" .text]
  markers := [{ targetType := "Ghost" }]

def models : TypeTable where
  types := [{ name := "User", members := [.plain "age" .text] }, Generation.patch, lost]

theorem declared_modelsItems :
    (modelsItems.filterMap Item.error?).length = 0 ∧ TypeTable.ofItems modelsItems = models := by
  decide +kernel

def lostDiagnostic : Diagnostic where
  problem := .targetTypeNotFound "Ghost"
  location :=
    { sourceType := "Lost", targetType := some "Ghost", method := some "to_update" }

theorem analyze_models :
    analyze models {} false = ⟨[Generation.patchMethod], [lostDiagnostic], []⟩ := by
  have hsources : models.sources = [Generation.patch, lost] := rfl
  have hresolve : resolve Generation.patch models {} = ⟨[Generation.patchResolved], []⟩ := rfl
  have hpatch := Analysis.ofSource_of_single hresolve rfl rfl
  have hlost : UnitAnalysis.ofSource models {} lost = ⟨[], [lostDiagnostic]⟩ :=
    Analysis.ofSource_of_dropped rfl rfl
  have hsort : Diagnostic.sort [lostDiagnostic] = [lostDiagnostic] := List.mergeSort_singleton _
  rw [analyze, Analysis.ofSourcesUnless, if_neg Bool.false_ne_true, Analysis.ofSources, hsources,
    List.map_cons, List.map_singleton, hpatch, hlost, Analysis.merge_of_single rfl]
  exact congrArg (fun diagnostics => Analysis.mk _ diagnostics []) hsort

theorem exists_generate_models :
    exists generation, generate models {} false = .ok generation
      ∧ generation.methods = [Generation.patchMethod]
      ∧ generation.diagnostics = [lostDiagnostic] := by
  rcases Generation.exists_runtimePath "UpdateExt" with ⟨runtime, hruntime⟩
  have hclean : Generation.withoutErrors [lostDiagnostic] [Generation.patchMethod] =
      [Generation.patchMethod] := rfl
  have hsort : Diagnostic.sort [lostDiagnostic] = [lostDiagnostic] := List.mergeSort_singleton _
  have hwritten : Emission.method Generation.patchMethod = .ok Generation.patchWritten := rfl
  have hemitted : exists traits,
      Emission.ofMethods {} runtime [Generation.patchMethod] = .ok ⟨⟨runtime, traits, []⟩, []⟩ :=
    ⟨_, Emission.ofMethods_singleton runtime hwritten rfl rfl⟩
  rcases hemitted with ⟨traits, hemitted⟩
  refine ⟨⟨⟨runtime, traits, []⟩, [Generation.patchMethod], [lostDiagnostic], []⟩, ?_, rfl, rfl⟩
  rw [Generation.generate_eq_ofAnalysis hruntime, analyze_models, Generation.ofAnalysis,
    Generation.emitted, hclean, hemitted]
  simp only [Except.mapError, bind, Except.bind, List.append_nil, hsort, hclean]
  rfl

theorem exists_items_models :
    exists lead attributes items fileAttributes fileItems,
      Syntax.module modelsModule = .ok ⟨lead, some (attributes, items)⟩
      ∧ Syntax.file modelsText = .ok (fileAttributes, fileItems)
      ∧ items.map Item.unplaced = modelsItems ∧ fileItems.map Item.unplaced = modelsItems := by
  have hmodule := module_modelsModule
  have hfile := file_modelsText
  rcases hparsed : Syntax.module modelsModule with _ | ⟨lead, _ | ⟨attributes, items⟩⟩
  · rw [hparsed] at hmodule
    cases hmodule
  · rw [hparsed] at hmodule
    cases hmodule
  · rcases hread : Syntax.file modelsText with _ | ⟨fileAttributes, fileItems⟩
    · rw [hread] at hfile
      cases hfile
    · rw [hparsed] at hmodule
      rw [hread] at hfile
      exact ⟨lead, attributes, items, fileAttributes, fileItems, rfl, rfl,
        Option.some.inj hmodule, Option.some.inj hfile⟩

theorem expand_agrees_models :
    exists expansion lead attributes stripped generation,
      expand [] modelsModule = .ok expansion
      ∧ Compilation.generateText modelsText {} = .ok generation
      ∧ generation.methods = [Generation.patchMethod]
      ∧ printed (expand [] modelsModule) =
          ModuleSyntax.tokens ⟨lead, some (attributes, stripped ++ [.other generation.tokens])⟩
            ++ failing lostDiagnostic.display := by
  rcases exists_items_models with
    ⟨lead, attributes, items, fileAttributes, fileItems, hmodule, hfile, hitems, hfileItems⟩
  rcases exists_generate_models with ⟨generation, hgenerate, hmethods, hdiagnostics⟩
  have hconfig : GeneratorConfig.ofArguments [] = .ok {} := rfl
  have hnone : items.filterMap Item.error? = [] := by
    rw [← Item.errors_unplaced, hitems]
    exact List.length_eq_zero_iff.mp declared_modelsItems.1
  have htable : TypeTable.ofItems items = models := by
    rw [← TypeTable.ofItems_unplaced, hitems]
    exact declared_modelsItems.2
  rw [← htable] at hgenerate
  have hexpand := expand_eq_ok_iff.mpr
    ⟨{}, lead, attributes, items, generation, hconfig, hmodule, hnone, hgenerate, rfl⟩
  rcases expand_agrees hexpand with
    ⟨config, lead', attributes', items', generation', stripped, hconfig', hmodule', htext,
      _hstripped, _hsorted, hprinted⟩
  cases hconfig.symm.trans hconfig'
  cases hmodule.symm.trans hmodule'
  have hsame := hfileItems.trans hitems.symm
  have hown := Compilation.generateText_of_unplaced_eq hfile hsame hnone hgenerate
  cases hown.symm.trans (htext modelsText fileAttributes fileItems hfile hsame)
  refine ⟨_, lead, attributes, stripped, generation, hexpand, hown, hmethods, ?_⟩
  rw [hprinted, hdiagnostics]
  have herrors : [lostDiagnostic].filter Diagnostic.isError = [lostDiagnostic] := rfl
  rw [herrors, List.flatMap_singleton]

end Expansion
end PartialUpdate
