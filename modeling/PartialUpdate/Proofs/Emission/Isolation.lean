import PartialUpdate.Proofs.Emission.Functions
import PartialUpdate.Proofs.Emission.Names

/-!
# Methods that fail beside others

A method is left out of an emission when something that it is written with does not hold: a name
or an expression of its own, or a name of the trait that it belongs to.  That is decided for each
method by itself.  The tokens of an emission are those of the methods that pass, and they hold
each of these once: in the trait of its source, or in a block of its target.
-/

namespace PartialUpdate

/-- Everything that the method is written with holds, its trait included. -/
structure UpdateMethod.IsWritable (config : GeneratorConfig) (method : UpdateMethod) : Prop where
  own : forall fragment, fragment ∈ method.fragments -> fragment.Holds
  inTrait : method.inherent = false ->
    forall fragment, fragment ∈ Fragment.ofTrait config method.sourceType -> fragment.Holds

namespace Emission

variable {config : GeneratorConfig} {runtime : List Token} {methods : List UpdateMethod}
  {emission : Emission}

/-!
# Emissions without reports
-/

theorem trips_iff : Trips config methods ↔
    exists declared, declared ∈ methods ∧ Trips config [declared] := by
  constructor
  · rintro (⟨declared, hmem, htrapped⟩ | ⟨declared, hmem, hrest⟩)
    · exact ⟨declared, hmem, Or.inl ⟨declared, List.mem_singleton_self declared, htrapped⟩⟩
    · exact ⟨declared, hmem, Or.inr ⟨declared, List.mem_singleton_self declared, hrest⟩⟩
  · rintro ⟨declared, hmem, ⟨other, hother, htrapped⟩ | ⟨other, hother, hrest⟩⟩
    · cases List.mem_singleton.mp hother
      exact Or.inl ⟨_, hmem, htrapped⟩
    · cases List.mem_singleton.mp hother
      exact Or.inr ⟨_, hmem, hrest⟩

theorem exists_ofMethods_iff_not_trips :
    (exists emission, ofMethods config runtime methods = .ok emission) ↔
      ¬ Trips config methods := by
  rw [← ofMethods_eq_error_iff config runtime methods]
  cases ofMethods config runtime methods with
  | ok emission => simp
  | error name => simp

theorem exists_ofMethods_iff :
    (exists emission, ofMethods config runtime methods = .ok emission) ↔
      forall declared, declared ∈ methods ->
        exists alone, ofMethods config runtime [declared] = .ok alone := by
  simp only [exists_ofMethods_iff_not_trips]
  rw [trips_iff]
  simp only [not_exists, not_and]

theorem exists_ofMethods_of_subset {chosen : List UpdateMethod}
    (hsubset : forall declared, declared ∈ chosen -> declared ∈ methods)
    (h : ofMethods config runtime methods = .ok emission) :
    exists part, ofMethods config runtime chosen = .ok part := by
  have halone := exists_ofMethods_iff.mp ⟨emission, h⟩
  exact exists_ofMethods_iff.mpr (fun declared hmem => halone declared (hsubset declared hmem))

namespace Emits

theorem diagnostics_eq_nil_iff (h : Emits config runtime methods emission) :
    emission.diagnostics = [] ↔
      forall declared, declared ∈ methods -> declared.IsWritable config := by
  constructor
  · intro hnone declared hmem
    rcases h.written_or_reported hmem with
      ⟨generated, hok, hwritten⟩ | ⟨diagnostic, hdiagnostic, _hreported⟩
    · have horigin := (writes_of_method_eq_ok hok).origin
      refine ⟨(method_meets declared).ok.mp ⟨generated, hok⟩, ?_⟩
      intro hown
      rw [← horigin] at hown ⊢
      have hsource := mem_traitSources.mpr ⟨generated, mem_members.mpr ⟨hwritten, hown⟩, rfl⟩
      rcases h.trait_or_reported hsource with hextension | ⟨diagnostic, hdiagnostic, _hreported⟩
      · exact (extensionTrait_meets config _ _).ok.mp hextension
      · rw [hnone] at hdiagnostic
        cases hdiagnostic
    · rw [hnone] at hdiagnostic
      cases hdiagnostic
  · intro hwritable
    apply List.eq_nil_iff_forall_not_mem.mpr
    intro diagnostic hdiagnostic
    rcases (h.isError_of_mem hdiagnostic).2 with
      ⟨declared, hmem, hreported, _hlocation⟩ | ⟨source, hsource, hreported, _hlocation⟩
    · rcases (method_meets declared).ok.mpr (hwritable declared hmem).own with ⟨generated, hok⟩
      rw [hok] at hreported
      cases hreported
    · rcases mem_traitSources_iff.mp hsource with ⟨declared, hmem, hown, _hhold, rfl⟩
      rcases (extensionTrait_meets config (members methods) declared.sourceType).ok.mpr
          ((hwritable declared hmem).inTrait hown) with ⟨extension, hok⟩
      rw [traitOf, hok] at hreported
      cases hreported

end Emits

/-- Whether the method is emitted without a report when it is the only one. -/
def passesAlone (config : GeneratorConfig) (runtime : List Token) (declared : UpdateMethod) :
    Bool :=
  match ofMethods config runtime [declared] with
  | .ok alone => alone.diagnostics.isEmpty
  | .error _ => false

theorem passesAlone_iff (h : ofMethods config runtime methods = .ok emission)
    {declared : UpdateMethod} (hmem : declared ∈ methods) :
    passesAlone config runtime declared = true ↔ declared.IsWritable config := by
  rcases exists_ofMethods_iff.mp ⟨emission, h⟩ declared hmem with ⟨alone, halone⟩
  have hnone := (emits_of_ofMethods_eq_ok halone).diagnostics_eq_nil_iff
  rw [passesAlone, halone]
  simpa using hnone

/-!
# Leaving methods out

What is written of a method does not depend on the others, and neither do the names of a trait.
-/

theorem written_filter (p : UpdateMethod -> Bool) (methods : List UpdateMethod) :
    written (methods.filter p) =
      (written methods).filter (fun generated => p generated.declared) := by
  unfold written
  rw [List.filterMap_filter, List.filter_filterMap]
  congr 1
  funext declared
  cases houtcome : method declared with
  | error problem => cases p declared <;> rfl
  | ok generated =>
      have horigin := (writes_of_method_eq_ok houtcome).origin
      simp only [written?, Option.filter_some, horigin]

theorem sortedNames_eq_filter {names others : List String} {keep : String -> Bool}
    (h : forall name, name ∈ names ↔ name ∈ others ∧ keep name = true) :
    Aggregation.sortedNames names = (Aggregation.sortedNames others).filter keep := by
  have hperm : names.eraseDups.Perm (others.eraseDups.filter keep) := by
    apply (List.perm_ext_iff_of_nodup (nodup_eraseDups names)
      ((nodup_eraseDups others).filter keep)).mpr
    intro name
    rw [List.mem_filter, List.mem_eraseDups, List.mem_eraseDups]
    exact h name
  have hnodup : (names.eraseDups.map id).Nodup := by
    rw [List.map_id]
    exact nodup_eraseDups names
  have hsort := Ordered.sort_eq_of_perm Ordered.textLe_isLinear id hperm hnodup
  have hfilter := Ordered.filter_sort Ordered.textLe_isLinear id keep others.eraseDups
  exact hsort.trans hfilter.symm

theorem members_filter (p : UpdateMethod -> Bool) (methods : List UpdateMethod) :
    members (methods.filter p) =
      (members methods).filter (fun generated => p generated.declared) := by
  simp only [members, written_filter, List.filter_filter, Bool.and_comm]

theorem extensionTrait_congr {members others : List GeneratedMethod} {source : String}
    (h : members.filter (fun method => method.declared.sourceType == source) =
      others.filter (fun method => method.declared.sourceType == source)) :
    extensionTrait config members source = extensionTrait config others source := by
  rw [extensionTrait_eq, extensionTrait_eq, h]

theorem own_of_mem_written {generated : GeneratedMethod} (hmem : generated ∈ written methods) :
    forall fragment, fragment ∈ generated.declared.fragments -> fragment.Holds :=
  (method_meets generated.declared).ok.mp ⟨generated, (mem_written.mp hmem).2⟩

theorem isWritable_of_inherent {generated : GeneratedMethod} (hmem : generated ∈ written methods)
    (hinherent : generated.declared.inherent = true) :
    generated.declared.IsWritable config := by
  refine ⟨own_of_mem_written hmem, ?_⟩
  intro hown
  rw [hinherent] at hown
  cases hown

/-- A method that is written belongs to what passes as soon as its trait can be written. -/
theorem isWritable_iff_of_mem_members {generated : GeneratedMethod}
    (hmem : generated ∈ members methods) :
    generated.declared.IsWritable config ↔
      (written? (traitOf config methods generated.declared.sourceType)).isSome = true := by
  rcases mem_members.mp hmem with ⟨hwritten, hown⟩
  have htrait :=
    (extensionTrait_meets config (members methods) generated.declared.sourceType).ok
  rw [Option.isSome_iff_exists]
  simp only [written?_eq_some]
  constructor
  · intro hwritable
    exact htrait.mpr (hwritable.inTrait hown)
  · intro hextension
    exact ⟨own_of_mem_written hwritten, fun _ => htrait.mp hextension⟩

section Kept

variable {keep : UpdateMethod -> Bool} {kept : Emission}
  (hkeep : forall declared, declared ∈ methods ->
    (keep declared = true ↔ declared.IsWritable config))

include hkeep

theorem functions_filter :
    (written (methods.filter keep)).filter (fun generated => generated.declared.inherent) =
      (written methods).filter (fun generated => generated.declared.inherent) := by
  rw [written_filter, List.filter_filter]
  apply List.filter_congr
  intro generated hmem
  cases hinherent : generated.declared.inherent with
  | false => rfl
  | true =>
      have hdeclared := (mem_written.mp hmem).1
      exact (hkeep _ hdeclared).mpr (isWritable_of_inherent hmem hinherent)

theorem traitSources_filter :
    traitSources (methods.filter keep) =
      (traitSources methods).filter (fun source =>
        (written? (traitOf config methods source)).isSome) := by
  apply sortedNames_eq_filter
  intro source
  rw [members_filter]
  simp only [List.mem_map, List.mem_filter]
  constructor
  · rintro ⟨generated, ⟨hmem, hkept⟩, rfl⟩
    have hdeclared := (mem_written.mp (mem_members.mp hmem).1).1
    exact ⟨⟨generated, hmem, rfl⟩,
      (isWritable_iff_of_mem_members hmem).mp ((hkeep _ hdeclared).mp hkept)⟩
  · rintro ⟨⟨generated, hmem, rfl⟩, hsome⟩
    have hdeclared := (mem_written.mp (mem_members.mp hmem).1).1
    exact ⟨generated,
      ⟨hmem, (hkeep _ hdeclared).mpr ((isWritable_iff_of_mem_members hmem).mpr hsome)⟩, rfl⟩

theorem traitOf_filter {source : String}
    (hsome : (written? (traitOf config methods source)).isSome = true) :
    traitOf config (methods.filter keep) source = traitOf config methods source := by
  apply extensionTrait_congr
  rw [members_filter, List.filter_filter]
  apply List.filter_congr
  intro generated hmem
  by_cases hsource : generated.declared.sourceType = source
  · subst hsource
    have hdeclared := (mem_written.mp (mem_members.mp hmem).1).1
    have hkept := (hkeep _ hdeclared).mpr ((isWritable_iff_of_mem_members hmem).mpr hsome)
    rw [hkept, Bool.and_true]
  · have hne : (generated.declared.sourceType == source) = false := by
      simpa using hsource
    rw [hne, Bool.false_and]

theorem Emits.code_filter (h : Emits config runtime methods emission)
    (hkept : Emits config runtime (methods.filter keep) kept) : kept.code = emission.code := by
  have hfunctions : kept.code.functions = emission.code.functions := by
    rw [hkept.functions, h.functions]
    exact functions_filter hkeep
  have htraits : kept.code.traits = emission.code.traits := by
    rw [hkept.traits, h.traits, traitSources_filter hkeep, List.filterMap_filter]
    apply List.filterMap_congr
    intro source _hsource
    split
    · rename_i hsome
      rw [traitOf_filter hkeep hsome]
    · rename_i hnone
      exact (Option.not_isSome_iff_eq_none.mp hnone).symm
  cases hcode : kept.code with
  | mk runtime' traits functions =>
      have hruntime := hkept.runtime.trans h.runtime.symm
      rw [hcode] at hfunctions htraits hruntime
      cases hcode' : emission.code with
      | mk runtime'' traits' functions' =>
          rw [hcode'] at hfunctions htraits hruntime
          cases hfunctions
          cases htraits
          cases hruntime
          rfl

end Kept

end Emission

/-!
# Where the functions stand
-/

namespace UpdateMethod

def belongsToTraitOf (source : String) (method : UpdateMethod) : Bool :=
  !method.inherent && method.sourceType == source

end UpdateMethod

namespace CodeReader

def functionsIn (length : Nat) (block : BlockHead × List Token) : List FoundFunction :=
  scan (function? length) block.2

/-- The method as the trait of its source declares it. -/
structure ShowsDeclaration (config : GeneratorConfig) (declared : UpdateMethod) (head : BlockHead)
    (function : FoundFunction) : Prop where
  name : Identifier.ofName declared.methodName = .ok function.name
  target : Identifier.ofName declared.targetType = .ok function.target
  parameter : function.source = none
  body : function.body = none
  inTrait : exists traitName, head = .trait traitName
    ∧ Identifier.ofName (declared.sourceType ++ config.extensionSuffix) = .ok traitName

/-- The function of the method, with a call for each of its bindings. -/
structure ShowsDefinition (config : GeneratorConfig) (length : Nat) (declared : UpdateMethod)
    (head : BlockHead) (function : FoundFunction) : Prop where
  implements : Implements config declared.inherent declared.key head function
  calls : exists body calls, function.body = some body ∧ body? length body = some calls
    ∧ List.Forall₂ (fun binding generated => Emission.call binding = .ok generated)
        declared.bindings calls

/-- Two blocks, of which the first declares the methods and the second defines them. -/
def ExtendWith (config : GeneratorConfig) (length : Nat) (methods : List UpdateMethod)
    (blocks : List (BlockHead × List Token)) : Prop :=
  exists declaration definition, blocks = [declaration, definition]
    ∧ List.Forall₂ (fun declared => ShowsDeclaration config declared declaration.1)
        methods (functionsIn length declaration)
    ∧ List.Forall₂ (fun declared => ShowsDefinition config length declared definition.1)
        methods (functionsIn length definition)

def HoldsOnly (config : GeneratorConfig) (length : Nat) (declared : UpdateMethod)
    (block : BlockHead × List Token) : Prop :=
  exists function, functionsIn length block = [function]
    ∧ ShowsDefinition config length declared block.1 function

/-- The blocks in the tokens: for each source in ascending order its trait with its methods, and
then a block for each function of a target; the methods stand in the order of the list. -/
structure Arranges (config : GeneratorConfig) (length : Nat) (methods : List UpdateMethod)
    (tokens : List Token) (sources : List String)
    (traits : List (List (BlockHead × List Token)))
    (functions : List (BlockHead × List Token)) : Prop where
  blocks : scan block? tokens = traits.flatten ++ functions
  ascending : sources.Pairwise (fun a b => a < b)
  mem_sources : forall source, source ∈ sources ↔
    exists declared, declared ∈ methods ∧ declared.belongsToTraitOf source = true
  traits : List.Forall₂
    (fun source => ExtendWith config length (methods.filter (·.belongsToTraitOf source)))
    sources traits
  functions : List.Forall₂ (HoldsOnly config length)
    (methods.filter UpdateMethod.inherent) functions

end CodeReader

namespace Emission

open CodeReader (Arranges ExtendWith HoldsOnly ShowsDeclaration ShowsDefinition found functionsIn
  ownBody traitBlocks functionContent)

variable {config : GeneratorConfig} {runtime : List Token} {methods : List UpdateMethod}
  {emission : Emission}

section Blocks

variable {declared : UpdateMethod} {generated : GeneratedMethod}

theorem declares_of_writes (h : Writes declared generated) (hown : declared.inherent = false)
    {name : Identifier}
    (hname : Identifier.ofName (declared.sourceType ++ config.extensionSuffix) = .ok name) :
    ShowsDeclaration config declared (.trait name) (found generated none) :=
  ⟨h.name, h.target, h.own hown, rfl, name, rfl, hname⟩

theorem defines_of_writes_inTrait (h : Writes declared generated)
    (hown : declared.inherent = false) {name type : Identifier}
    (hname : Identifier.ofName (declared.sourceType ++ config.extensionSuffix) = .ok name)
    (htype : Identifier.ofName declared.sourceType = .ok type) :
    ShowsDefinition config runtime.length declared (.traitFor name type)
      (found generated (some (ownBody runtime generated))) := by
  refine ⟨⟨h.name, h.target, ?_, ?_⟩, ?_⟩
  · intro hinherent
    rw [hown] at hinherent
    cases hinherent
  · intro _hown
    exact ⟨name, type, rfl, h.own hown, hname, htype⟩
  · exact ⟨_, generated.calls, rfl, CodeReader.body?_ownBody runtime generated, h.calls⟩

theorem defines_of_writes_onTarget (h : Writes declared generated)
    (hinherent : declared.inherent = true) :
    ShowsDefinition config runtime.length declared (.type generated.target)
      (found generated (some (generated.body runtime))) := by
  refine ⟨⟨h.name, h.target, ?_, ?_⟩, ?_⟩
  · intro _hinherent
    rcases h.source hinherent with ⟨source, hparameter, hsource⟩
    exact ⟨source, rfl, hparameter, hsource⟩
  · intro hown
    rw [hinherent] at hown
    cases hown
  · exact ⟨_, generated.calls, rfl, CodeReader.body?_body runtime generated, h.calls⟩

end Blocks

theorem forall₂_written
    (h : forall declared, declared ∈ methods -> declared.IsWritable config) :
    List.Forall₂ Writes methods (written methods) := by
  have hsome : forall declared, declared ∈ methods ->
      exists generated, written? (method declared) = some generated := by
    intro declared hmem
    rcases (method_meets declared).ok.mpr (h declared hmem).own with ⟨generated, hok⟩
    exact ⟨generated, written?_eq_some.mpr hok⟩
  apply (forall₂_filterMap hsome).imp
  intro declared generated hwritten
  exact writes_of_method_eq_ok (written?_eq_some.mp hwritten)

theorem traitSources_pairwise (methods : List UpdateMethod) :
    (traitSources methods).Pairwise (fun a b => a < b) := by
  let sources := (members methods).map (fun generated => generated.declared.sourceType)
  have hnodup : (sources.eraseDups.map id).Nodup := by
    rw [List.map_id]
    exact nodup_eraseDups sources
  apply (Ordered.pairwise_sort_of_nodup Ordered.textLe_isLinear id hnodup).imp
  intro a b hab
  have hle : a ≤ b := by simpa [Ordered.textLe] using hab.1
  exact Std.lt_of_le_of_ne hle hab.2

theorem members_ofSource (methods : List UpdateMethod) (source : String) :
    (members methods).filter (fun generated => generated.declared.sourceType == source) =
      written (methods.filter (·.belongsToTraitOf source)) := by
  rw [written_filter, members, List.filter_filter]
  apply List.filter_congr
  intro generated _hmem
  rw [Bool.and_comm]
  rfl

theorem extendWith_traitBlocks {source : String} {extension : ExtensionTrait}
    (h : forall declared, declared ∈ methods -> declared.IsWritable config)
    (hextends : Extends config (members methods) source extension) :
    ExtendWith config runtime.length (methods.filter (·.belongsToTraitOf source))
      (traitBlocks runtime extension) := by
  have hsome : forall declared, declared ∈ methods.filter (·.belongsToTraitOf source) ->
      declared.IsWritable config :=
    fun declared hmem => h declared (List.mem_of_mem_filter hmem)
  have hwritten := forall₂_written hsome
  have hmethods := hextends.methods
  rw [members_ofSource] at hmethods
  have hbelongs : forall declared, declared ∈ methods.filter (·.belongsToTraitOf source) ->
      declared.inherent = false ∧ declared.sourceType = source := by
    intro declared hmem
    simpa [UpdateMethod.belongsToTraitOf] using List.of_mem_filter hmem
  refine ⟨_, _, rfl, ?_, ?_⟩
  · rw [functionsIn, CodeReader.scan_declarations, hmethods, List.forall₂_map_right_iff]
    apply ((List.forall₂_and_left _ _).mpr ⟨hbelongs, hwritten⟩).imp
    rintro declared generated ⟨⟨hown, rfl⟩, hwrites⟩
    exact declares_of_writes hwrites hown hextends.name
  · rw [functionsIn, CodeReader.scan_definitions, hmethods, List.forall₂_map_right_iff]
    apply ((List.forall₂_and_left _ _).mpr ⟨hbelongs, hwritten⟩).imp
    rintro declared generated ⟨⟨hown, rfl⟩, hwrites⟩
    exact defines_of_writes_inTrait hwrites hown hextends.name hextends.type

theorem Emits.exists_arranges (h : Emits config runtime methods emission)
    (hwritable : forall declared, declared ∈ methods -> declared.IsWritable config) :
    exists sources traits functions,
      Arranges config runtime.length methods emission.code.tokens sources traits functions := by
  have hread := CodeReader.scan_code emission.code
  rw [h.runtime] at hread
  have hextends : forall source, source ∈ traitSources methods ->
      exists extension, written? (traitOf config methods source) = some extension := by
    intro source hsource
    rcases mem_traitSources_iff.mp hsource with ⟨declared, hmem, hown, _hhold, rfl⟩
    rcases (extensionTrait_meets config (members methods) declared.sourceType).ok.mpr
        ((hwritable declared hmem).inTrait hown) with ⟨extension, hok⟩
    exact ⟨extension, written?_eq_some.mpr hok⟩
  refine ⟨traitSources methods, emission.code.traits.map (traitBlocks runtime),
    emission.code.functions.map (fun generated =>
      (.type generated.target, functionContent runtime generated)), ?_, ?_, ?_, ?_, ?_⟩
  · rw [hread, List.flatMap_def]
  · exact traitSources_pairwise methods
  · intro source
    rw [mem_traitSources_iff]
    constructor
    · rintro ⟨declared, hmem, hown, _hhold, rfl⟩
      exact ⟨declared, hmem, by simp [UpdateMethod.belongsToTraitOf, hown]⟩
    · rintro ⟨declared, hmem, hbelongs⟩
      have hown : declared.inherent = false ∧ declared.sourceType = source := by
        simpa [UpdateMethod.belongsToTraitOf] using hbelongs
      exact ⟨declared, hmem, hown.1, (hwritable declared hmem).own, hown.2⟩
  · rw [List.forall₂_map_right_iff, h.traits]
    apply (forall₂_filterMap hextends).imp
    intro source extension hwritten
    have hextends := extends_of_extensionTrait_eq_ok (written?_eq_some.mp hwritten)
    exact extendWith_traitBlocks hwritable hextends
  · rw [List.forall₂_map_right_iff, h.functions, ← written_filter]
    have hsome : forall declared, declared ∈ methods.filter UpdateMethod.inherent ->
        declared.IsWritable config :=
      fun declared hmem => hwritable declared (List.mem_of_mem_filter hmem)
    apply ((List.forall₂_and_left _ _).mpr
      ⟨fun declared hmem => List.of_mem_filter hmem, forall₂_written hsome⟩).imp
    rintro declared generated ⟨hinherent, hwrites⟩
    exact ⟨_, CodeReader.scan_functionContent runtime generated,
      defines_of_writes_onTarget hwrites hinherent⟩

/-- What fails beside a method does not change what is emitted of it.  The tokens are those of the
methods that pass by themselves, of which none is reported then, and they hold each of these
methods once and in order. -/
theorem ofMethods_isolates (h : ofMethods config runtime methods = .ok emission) :
    (forall declared, declared ∈ methods ->
        exists alone, ofMethods config runtime [declared] = .ok alone)
      ∧ (exists kept,
          ofMethods config runtime (methods.filter (passesAlone config runtime)) = .ok kept
            ∧ kept.diagnostics = [] ∧ kept.code.tokens = emission.code.tokens)
      ∧ exists sources traits functions,
          Arranges config runtime.length (methods.filter (passesAlone config runtime))
            emission.code.tokens sources traits functions := by
  have hkeep : forall declared, declared ∈ methods ->
      (passesAlone config runtime declared = true ↔ declared.IsWritable config) :=
    fun declared hmem => passesAlone_iff h hmem
  have hwritable : forall declared, declared ∈ methods.filter (passesAlone config runtime) ->
      declared.IsWritable config := by
    intro declared hmem
    rcases List.mem_filter.mp hmem with ⟨hdeclared, hpasses⟩
    exact (hkeep declared hdeclared).mp hpasses
  have hsubset : forall declared, declared ∈ methods.filter (passesAlone config runtime) ->
      declared ∈ methods :=
    fun declared hmem => List.mem_of_mem_filter hmem
  rcases exists_ofMethods_of_subset hsubset h with ⟨kept, hkept⟩
  have hemits := emits_of_ofMethods_eq_ok h
  have hkeptEmits := emits_of_ofMethods_eq_ok hkept
  have hcode := Emits.code_filter hkeep hemits hkeptEmits
  refine ⟨exists_ofMethods_iff.mp ⟨emission, h⟩,
    ⟨kept, hkept, hkeptEmits.diagnostics_eq_nil_iff.mpr hwritable, ?_⟩, ?_⟩
  · rw [hcode]
  · rw [← hcode]
    exact hkeptEmits.exists_arranges hwritable

/-!
Two methods that pass, and beside them one with a field that has no name, one whose trait has
none, and one for a target that has none.
-/

def renameMethod : UpdateMethod where
  sourceType := "Patch"
  targetType := "User"
  methodName := "to_rename"
  bindings :=
    [{ order := 0
       source := .property "name" .text
       target := ⟨"name", .text⟩
       options := ⟨true, true, .set, true, false⟩
       expression := none
       location := (Location.source "Patch").withMember (some "name") }]
  inherent := false
  location := Location.source "Patch"

def mergeMethod : UpdateMethod :=
  { renameMethod with methodName := "to_merge", inherent := true }

def withoutField : UpdateMethod where
  sourceType := "Patch"
  targetType := "User"
  methodName := "to_move"
  bindings :=
    [{ order := 0
       source := .property "first name" .text
       target := ⟨"name", .text⟩
       options := ⟨true, true, .set, true, false⟩
       expression := none
       location := (Location.source "Patch").withMember (some "first name") }]
  inherent := false
  location := Location.source "Patch"

def mixedMethods : List UpdateMethod :=
  [withoutField, renameMethod, { renameMethod with sourceType := "My Patch" },
    { mergeMethod with targetType := "User!" }, mergeMethod]

theorem ofMethods_isolates_mixed :
    exists emission, ofMethods {} [] mixedMethods = .ok emission
      ∧ exists kept sources traits functions,
          ofMethods {} [] [renameMethod, mergeMethod] = .ok kept
            ∧ kept.code.tokens = emission.code.tokens
            ∧ Arranges {} 0 [renameMethod, mergeMethod] emission.code.tokens
                sources traits functions := by
  have halone : forall declared, declared ∈ mixedMethods ->
      exists alone, ofMethods {} [] [declared] = .ok alone := by
    have hok : mixedMethods.all (fun declared => (ofMethods {} [] [declared]).isOk) = true := by
      decide +kernel
    intro declared hmem
    have hdeclared := List.all_eq_true.mp hok declared hmem
    cases halone : ofMethods {} [] [declared] with
    | ok alone => exact ⟨alone, rfl⟩
    | error name =>
        rw [halone] at hdeclared
        cases hdeclared
  have hfilter : mixedMethods.filter (passesAlone {} []) = [renameMethod, mergeMethod] := by
    decide +kernel
  rcases exists_ofMethods_iff.mpr halone with ⟨emission, h⟩
  have happly := ofMethods_isolates h
  rw [hfilter] at happly
  rcases happly.2 with ⟨⟨kept, hkept, _hnone, htokens⟩, sources, traits, functions, harranges⟩
  exact ⟨emission, h, kept, sources, traits, functions, hkept, htokens, harranges⟩

end Emission
end PartialUpdate
