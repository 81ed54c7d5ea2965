import PartialUpdate.Proofs.Emission.Outcome
import PartialUpdate.Proofs.Emission.RoundTrip

/-!
# The functions of an emission

A reader of the emitted tokens finds one function for each method that the code holds, under the
names that were declared and with the calls of the method, and no others.
-/

namespace PartialUpdate
namespace CodeReader

/-- Target, name and source of a function with a body, without regard to how its names are
written. -/
def key? : BlockHead × FoundFunction -> Option MethodKey
  | (.trait _, _) => none
  | (.traitFor _ type, function) =>
      some (function.target.name, function.name.name, type.name)
  | (.type target, function) =>
      function.source.map (fun source => (target.name, function.name.name, source.name))

def keys (length : Nat) (tokens : List Token) : List MethodKey :=
  (functions length tokens).filterMap key?

/-- Whether a function in its block is the one of a key: on the target, of the source, where it
is inherent; otherwise in the trait that extends the source. -/
structure Implements (config : GeneratorConfig) (inherent : Bool) (key : MethodKey)
    (head : BlockHead) (function : FoundFunction) : Prop where
  name : Identifier.ofName key.2.1 = .ok function.name
  target : Identifier.ofName key.1 = .ok function.target
  onTarget : inherent = true ->
    exists source, head = .type function.target ∧ function.source = some source
      ∧ Identifier.ofName key.2.2 = .ok source
  inTrait : inherent = false ->
    exists traitName source, head = .traitFor traitName source ∧ function.source = none
      ∧ Identifier.ofName (key.2.2 ++ config.extensionSuffix) = .ok traitName
      ∧ Identifier.ofName key.2.2 = .ok source

theorem key?_of_implements {config : GeneratorConfig} {inherent : Bool} {key : MethodKey}
    {head : BlockHead} {function : FoundFunction}
    (h : Implements config inherent key head function) : key? (head, function) = some key := by
  have hname := Emission.name_of_ofName h.name
  have htarget := Emission.name_of_ofName h.target
  cases inherent with
  | true =>
      rcases h.onTarget rfl with ⟨source, rfl, hparameter, hsource⟩
      have hsource := Emission.name_of_ofName hsource
      simp only [key?, hparameter, Option.map_some, hname, htarget, hsource]
  | false =>
      rcases h.inTrait rfl with ⟨traitName, source, rfl, _hparameter, _htrait, hsource⟩
      have hsource := Emission.name_of_ofName hsource
      simp only [key?, hname, htarget, hsource]

end CodeReader

namespace Emission

open CodeReader (BlockHead FoundFunction Implements body? found functions_tokens key?
  key?_of_implements keys ownBody traitFunctions)

/-- What the reader finds of a method: its function, and in the body its calls. -/
structure Shows (config : GeneratorConfig) (runtime : List Token) (generated : GeneratedMethod)
    (head : BlockHead) (function : FoundFunction) : Prop where
  implements : Implements config generated.declared.inherent generated.declared.key head function
  body : exists body, function.body = some body
    ∧ body? runtime.length body = some generated.calls

namespace Emits

variable {config : GeneratorConfig} {runtime : List Token} {methods : List UpdateMethod}
  {emission : Emission}

theorem writes_of_mem_written {generated : GeneratedMethod}
    (hmem : generated ∈ written methods) : Writes generated.declared generated :=
  writes_of_method_eq_ok (mem_written.mp hmem).2

theorem shows_function (h : Emits config runtime methods emission)
    {generated : GeneratedMethod} (hmem : generated ∈ emission.code.functions) :
    Shows config runtime generated (.type generated.target)
      (found generated (some (generated.body runtime))) := by
  rw [h.functions, List.mem_filter] at hmem
  have hwrites := writes_of_mem_written hmem.1
  refine ⟨⟨hwrites.name, hwrites.target, ?_, ?_⟩, ?_⟩
  · intro hinherent
    rcases hwrites.source hinherent with ⟨source, hparameter, hsource⟩
    exact ⟨source, rfl, hparameter, hsource⟩
  · intro hown
    rw [hown] at hmem
    cases hmem.2
  · exact ⟨_, rfl, CodeReader.body?_body runtime generated⟩

theorem mem_members_of_mem_trait (h : Emits config runtime methods emission)
    {extension : ExtensionTrait} (hext : extension ∈ emission.code.traits)
    {generated : GeneratedMethod} (hmem : generated ∈ extension.methods) :
    generated ∈ members methods
      ∧ Extends config (members methods) generated.declared.sourceType extension
      ∧ traitOf config methods generated.declared.sourceType = .ok extension := by
  rcases h.mem_traits hext with ⟨source, _hsource, hok, hextends⟩
  rw [hextends.methods, List.mem_filter, beq_iff_eq] at hmem
  rw [hmem.2]
  exact ⟨hmem.1, hextends, hok⟩

theorem shows_trait (h : Emits config runtime methods emission)
    {extension : ExtensionTrait} (hext : extension ∈ emission.code.traits)
    {generated : GeneratedMethod} (hmem : generated ∈ extension.methods) :
    Shows config runtime generated (.traitFor extension.name extension.source)
      (found generated (some (ownBody runtime generated))) := by
  rcases h.mem_members_of_mem_trait hext hmem with ⟨hmember, hextends, _hok⟩
  have hown := (mem_members.mp hmember).2
  have hwrites := writes_of_mem_written (mem_members.mp hmember).1
  refine ⟨⟨hwrites.name, hwrites.target, ?_, ?_⟩, ?_⟩
  · intro hinherent
    rw [hown] at hinherent
    cases hinherent
  · intro _hown
    exact ⟨_, _, rfl, hwrites.own hown, hextends.name, hextends.type⟩
  · exact ⟨_, rfl, CodeReader.body?_ownBody runtime generated⟩

theorem mem_code_methods (h : Emits config runtime methods emission)
    {generated : GeneratedMethod} :
    generated ∈ emission.code.methods ↔
      generated ∈ written methods ∧ (generated.declared.inherent = false ->
        exists extension,
          traitOf config methods generated.declared.sourceType = .ok extension) := by
  unfold GeneratedCode.methods
  rw [List.mem_append, List.mem_flatMap]
  constructor
  · rintro (⟨extension, hext, hmem⟩ | hmem)
    · rcases h.mem_members_of_mem_trait hext hmem with ⟨hmember, _hextends, hok⟩
      exact ⟨(mem_members.mp hmember).1, fun _ => ⟨extension, hok⟩⟩
    · rw [h.functions, List.mem_filter] at hmem
      refine ⟨hmem.1, ?_⟩
      intro hown
      rw [hown] at hmem
      cases hmem.2
  · rintro ⟨hwritten, htrait⟩
    cases hinherent : generated.declared.inherent with
    | true =>
        rw [h.functions, List.mem_filter]
        exact Or.inr ⟨hwritten, hinherent⟩
    | false =>
        rcases htrait hinherent with ⟨extension, hok⟩
        have hmember := mem_members.mpr ⟨hwritten, hinherent⟩
        have hsource := mem_traitSources.mpr ⟨generated, hmember, rfl⟩
        have hextends := extends_of_extensionTrait_eq_ok hok
        refine Or.inl ⟨extension, ?_, ?_⟩
        · rw [h.traits, List.mem_filterMap]
          exact ⟨_, hsource, written?_eq_some.mpr hok⟩
        · rw [hextends.methods, List.mem_filter]
          exact ⟨hmember, beq_self_eq_true _⟩

theorem functions_code (h : Emits config runtime methods emission) :
    CodeReader.functions runtime.length emission.code.tokens =
      emission.code.traits.flatMap (traitFunctions runtime)
        ++ emission.code.functions.map (fun generated =>
          (.type generated.target, found generated (some (generated.body runtime)))) := by
  have hread := functions_tokens emission.code
  rw [h.runtime] at hread
  exact hread

theorem exists_shows (h : Emits config runtime methods emission)
    {generated : GeneratedMethod} (hmem : generated ∈ emission.code.methods) :
    exists head function,
      (head, function) ∈ CodeReader.functions runtime.length emission.code.tokens
        ∧ Shows config runtime generated head function := by
  rw [h.functions_code]
  rcases List.mem_append.mp hmem with htrait | hfunction
  · rcases List.mem_flatMap.mp htrait with ⟨extension, hext, hgenerated⟩
    refine ⟨_, _, ?_, h.shows_trait hext hgenerated⟩
    apply List.mem_append_left
    apply List.mem_flatMap.mpr
    exact ⟨extension, hext, List.mem_append_right _ (List.mem_map_of_mem hgenerated)⟩
  · refine ⟨_, _, ?_, h.shows_function hfunction⟩
    exact List.mem_append_right _ (List.mem_map_of_mem hfunction)

/-- What is found is the declaration of a method, or shows a method of the code. -/
theorem declared_or_shows (h : Emits config runtime methods emission) {head : BlockHead}
    {function : FoundFunction}
    (hmem : (head, function) ∈ CodeReader.functions runtime.length emission.code.tokens) :
    (key? (head, function) = none ∧ function.body = none)
      ∨ exists generated, generated ∈ emission.code.methods
          ∧ Shows config runtime generated head function := by
  rw [h.functions_code, List.mem_append, List.mem_flatMap, List.mem_map] at hmem
  rcases hmem with ⟨extension, hext, htrait⟩ | ⟨generated, hgenerated, heq⟩
  · rcases List.mem_append.mp htrait with hdeclared | hdefined
    · rcases List.mem_map.mp hdeclared with ⟨generated, _hgenerated, heq⟩
      cases heq
      exact Or.inl ⟨rfl, rfl⟩
    · rcases List.mem_map.mp hdefined with ⟨generated, hgenerated, heq⟩
      cases heq
      refine Or.inr ⟨generated, ?_, h.shows_trait hext hgenerated⟩
      exact List.mem_append_left _ (List.mem_flatMap.mpr ⟨extension, hext, hgenerated⟩)
  · cases heq
    refine Or.inr ⟨generated, ?_, h.shows_function hgenerated⟩
    exact List.mem_append_right _ hgenerated

theorem mem_keys (h : Emits config runtime methods emission) {key : MethodKey} :
    key ∈ keys runtime.length emission.code.tokens ↔
      exists generated, generated ∈ emission.code.methods ∧ generated.declared.key = key := by
  unfold keys
  rw [List.mem_filterMap]
  constructor
  · rintro ⟨⟨head, function⟩, hmem, hkey⟩
    rcases h.declared_or_shows hmem with ⟨hnone, _hbody⟩ | ⟨generated, hgenerated, hshows⟩
    · rw [hnone] at hkey
      cases hkey
    · rw [key?_of_implements hshows.implements] at hkey
      cases hkey
      exact ⟨generated, hgenerated, rfl⟩
  · rintro ⟨generated, hgenerated, rfl⟩
    rcases h.exists_shows hgenerated with ⟨head, function, hmem, hshows⟩
    exact ⟨(head, function), hmem, key?_of_implements hshows.implements⟩

end Emits
end Emission
end PartialUpdate
