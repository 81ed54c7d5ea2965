import Mathlib.Algebra.GroupWithZero.Nat
import Mathlib.Data.List.Perm.Basic
import PartialUpdate.Proofs.Stripping

/-!
# What is wrong with the attributes of a unit

Every attribute is read on its own, and what is wrong with a unit is all that is wrong with its
attributes, none of it left out.  There is one exception: where an attribute makes reading stop
without a message, nothing is said about the others.
-/

namespace PartialUpdate

/-!
# Single faults
-/

namespace DeclarationError

variable {α β ε : Type}

theorem faultsOfAll_eq (errors : List DeclarationError) :
    faultsOfAll errors = errors.flatMap faults := by
  induction errors with
  | nil => rw [faultsOfAll, List.flatMap_nil]
  | cons error rest ih => rw [faultsOfAll, ih, List.flatMap_cons]

theorem faults_of (fault : DeclarationFault) : (of fault).faults = [fault] := by
  rw [of, faults]

theorem faults_of_ne_nil (fault : DeclarationFault) : (of fault).faults ≠ [] := by
  rw [faults_of]
  exact List.cons_ne_nil fault []

theorem faults_under (key : String) (error : DeclarationError) :
    (error.under key).faults = error.faults := by
  cases error with
  | single fault place => rw [under, faults, faults]
  | several errors place => rw [under, faults, faults]

def faultsIn : Except DeclarationError α -> List DeclarationFault
  | .ok _ => []
  | .error error => error.faults

theorem faultsIn_map (f : α -> β) (outcome : Except DeclarationError α) :
    faultsIn (outcome.map f) = faultsIn outcome := by
  cases outcome <;> rfl

theorem flatMap_ofList? (errors : List DeclarationError) :
    (ofList? errors).toList.flatMap faults = errors.flatMap faults := by
  rcases errors with _ | ⟨first, _ | ⟨second, rest⟩⟩
  · rfl
  · rfl
  · rw [ofList?, Option.toList_some, List.flatMap_singleton, faults, faultsOfAll_eq]

theorem faultsIn_check (errors : List DeclarationError) (value : α) :
    faultsIn (check errors value) = errors.flatMap faults := by
  rw [← flatMap_ofList?, check]
  cases ofList? errors with
  | none => rfl
  | some error => exact (List.flatMap_singleton faults error).symm

theorem flatMap_failure? (outcome : Except DeclarationError α) :
    (failure? outcome).toList.flatMap faults = faultsIn outcome := by
  cases outcome with
  | ok value => rfl
  | error error => exact List.flatMap_singleton faults error

theorem flatMap_failures {items : List β} (f : β -> Except DeclarationError α) :
    (items.filterMap (fun item => failure? (f item))).flatMap faults =
      items.flatMap (fun item => faultsIn (f item)) := by
  induction items with
  | nil => rfl
  | cons item rest ih =>
      rw [List.flatMap_cons, ← ih]
      cases hitem : f item with
      | ok value => rw [List.filterMap_cons_none (by rw [hitem]; rfl)]; rfl
      | error error => rw [List.filterMap_cons_some (by rw [hitem]; rfl)]; rfl

/-!
# Failures that say something
-/

/-- A failure has at least one fault. -/
def Explains (outcome : Except DeclarationError α) : Prop :=
  forall error, outcome = .error error -> error.faults ≠ []

theorem explains_ok (value : α) : Explains (.ok value) := by
  intro error h
  cases h

theorem explains_of (fault : DeclarationFault) : Explains (α := α) (.error (of fault)) := by
  intro error h
  cases h
  exact faults_of_ne_nil fault

theorem explains_mapError (outcome : Except ε α) (fault : ε -> DeclarationFault) :
    Explains (outcome.mapError (fun e => of (fault e))) := by
  cases outcome with
  | ok value => exact explains_ok value
  | error e => exact explains_of (fault e)

theorem explains_map {outcome : Except DeclarationError α} (h : Explains outcome) (f : α -> β) :
    Explains (outcome.map f) := by
  cases outcome with
  | ok value => exact explains_ok (f value)
  | error error =>
      intro other hother
      cases hother
      exact h error rfl

theorem explains_bind {outcome : Except DeclarationError α}
    {next : α -> Except DeclarationError β} (h : Explains outcome)
    (hnext : forall value, Explains (next value)) : Explains (outcome >>= next) := by
  cases outcome with
  | ok value => exact hnext value
  | error error =>
      intro other hother
      cases hother
      exact h error rfl

theorem faults_ne_nil_of_ofList? {errors : List DeclarationError} {error : DeclarationError}
    (h : forall error, error ∈ errors -> error.faults ≠ []) (hsome : ofList? errors = some error) :
    error.faults ≠ [] := by
  have hall := flatMap_ofList? errors
  rw [hsome, Option.toList_some, List.flatMap_singleton] at hall
  cases errors with
  | nil => cases hsome
  | cons first rest =>
      rw [hall, List.flatMap_cons]
      exact List.append_ne_nil_of_left_ne_nil (h first List.mem_cons_self) _

theorem explains_check {errors : List DeclarationError}
    (h : forall error, error ∈ errors -> error.faults ≠ []) (value : α) :
    Explains (check errors value) := by
  intro error herror
  unfold check at herror
  split at herror
  · cases herror
  · rename_i hsome
    cases herror
    exact faults_ne_nil_of_ofList? h hsome

theorem faults_ne_nil_of_mem_failure? {outcome : Except DeclarationError α}
    (h : Explains outcome) {error : DeclarationError}
    (hmem : error ∈ (failure? outcome).toList) : error.faults ≠ [] := by
  cases outcome with
  | ok value => cases hmem
  | error failed =>
      rw [List.mem_singleton.mp hmem]
      exact h failed rfl

theorem faults_ne_nil_of_mem_failures {items : List β} {f : β -> Except DeclarationError α}
    (h : forall item, Explains (f item)) {error : DeclarationError}
    (hmem : error ∈ items.filterMap (fun item => failure? (f item))) : error.faults ≠ [] := by
  rcases List.mem_filterMap.mp hmem with ⟨item, _hitem, hfailed⟩
  exact faults_ne_nil_of_mem_failure? (h item) (Option.mem_toList.mpr hfailed)

theorem exists_error_iff {outcome : Except DeclarationError α} (h : Explains outcome) :
    (exists error, outcome = .error error) ↔ faultsIn outcome ≠ [] := by
  constructor
  · rintro ⟨error, rfl⟩
    exact h error rfl
  · intro hfaults
    cases outcome with
    | ok value => exact absurd rfl hfaults
    | error error => exact ⟨error, rfl⟩

theorem explains_ofTokens (tokens : List Token) : Explains (Argument.ofTokens tokens) :=
  explains_mapError _ DeclarationFault.malformed

end DeclarationError

open DeclarationError (Explains faultsIn)

namespace ValueReader

variable {α : Type}

theorem explains_ofForms (word : Except DeclarationFault α)
    (value : WrittenValue -> Except DeclarationFault α) (content : AttributeContent) :
    Explains (ofForms word value content) := by
  cases content with
  | word => exact DeclarationError.explains_mapError word id
  | list delimiter tokens =>
      exact DeclarationError.explains_bind (DeclarationError.explains_ofTokens tokens)
        (fun _ => DeclarationError.explains_of _)
  | value expression => exact DeclarationError.explains_mapError (value expression.value) id

theorem explains_ofValues (value : WrittenValue -> Except DeclarationFault α)
    (content : AttributeContent) : Explains (ofValues value content) :=
  explains_ofForms (.error (.wrongForm .word)) value content

theorem explains_text (content : AttributeContent) : Explains (text content) :=
  explains_ofValues _ content

theorem explains_truth (content : AttributeContent) : Explains (truth content) :=
  explains_ofForms _ _ content

theorem explains_handling (content : AttributeContent) : Explains (handling content) :=
  explains_ofValues _ content

theorem explains_typeName (content : AttributeContent) : Explains (typeName content) :=
  explains_ofValues _ content

theorem explains_flag (content : AttributeContent) : Explains (flag content) := by
  cases content with
  | word => exact DeclarationError.explains_ok true
  | value expression => exact DeclarationError.explains_of _
  | list delimiter tokens =>
      apply DeclarationError.explains_bind (DeclarationError.explains_ofTokens tokens)
      intro arguments error herror
      cases herror
      unfold Option.getD
      split
      · rename_i hsome
        apply DeclarationError.faults_ne_nil_of_ofList? _ hsome
        intro single hsingle
        rcases List.mem_map.mp hsingle with ⟨argument, _hargument, rfl⟩
        cases argument <;> exact DeclarationError.faults_of_ne_nil _
      · exact DeclarationError.faults_of_ne_nil .emptyFlagList

end ValueReader

namespace DeclarationKey

variable {σ α : Type}

/-- What is wrong with a value of the key is said. -/
def IsExplicit (key : DeclarationKey σ) : Prop :=
  forall content record, Explains (key.put content record)

theorem isExplicit_ofReader {read : ValueReader α} (h : forall content, Explains (read content))
    (name : String) (put : α -> σ -> σ) : (ofReader name read put).IsExplicit :=
  fun content record => DeclarationError.explains_map (h content) (fun value => put value record)

theorem faults_ne_nil_of_mem_fill {keys : List (DeclarationKey σ)}
    (h : forall key, key ∈ keys -> key.IsExplicit) (arguments : List Argument)
    (given : List String) (record : σ) {error : DeclarationError}
    (hmem : error ∈ (fill keys arguments given record).2) : error.faults ≠ [] := by
  have hcons {fault : DeclarationFault} {errors : List DeclarationError}
      (hmem : error ∈ DeclarationError.of fault :: errors)
      (hrest : error ∈ errors -> error.faults ≠ []) : error.faults ≠ [] := by
    rcases List.mem_cons.mp hmem with rfl | hmem
    · exact DeclarationError.faults_of_ne_nil fault
    · exact hrest hmem
  induction arguments generalizing given record with
  | nil => cases hmem
  | cons argument rest ih =>
      cases argument with
      | literal =>
          rw [fill] at hmem
          exact hcons hmem (ih given record)
      | keyed name content =>
          rw [fill] at hmem
          split at hmem
          · exact hcons hmem (ih given record)
          · rename_i key hfound
            split at hmem
            · exact hcons hmem (ih given record)
            · split at hmem
              · exact ih _ _ hmem
              · rename_i failed hput
                rcases List.mem_cons.mp hmem with rfl | hmem
                · rw [DeclarationError.faults_under]
                  exact h key (List.mem_of_find?_eq_some hfound) content record failed hput
                · exact ih _ _ hmem

theorem explains_readArguments {keys : List (DeclarationKey σ)}
    (h : forall key, key ∈ keys -> key.IsExplicit) (required : List String) (start : σ)
    (arguments : List Argument) : Explains (readArguments keys required start arguments) := by
  apply DeclarationError.explains_check
  intro error hmem
  rcases List.mem_append.mp hmem with hfilled | hmissing
  · exact faults_ne_nil_of_mem_fill h arguments [] start hfilled
  · rcases List.mem_map.mp hmissing with ⟨name, _hname, rfl⟩
    exact DeclarationError.faults_of_ne_nil (.missingKey name)

theorem explains_readContent {keys : List (DeclarationKey σ)}
    (h : forall key, key ∈ keys -> key.IsExplicit) (required : List String) (start : σ)
    {word : Except DeclarationError σ} (hword : Explains word) (content : AttributeContent) :
    Explains (readContent keys required start word content) := by
  cases content with
  | word => exact hword
  | list delimiter tokens =>
      exact DeclarationError.explains_bind (DeclarationError.explains_ofTokens tokens)
        (explains_readArguments h required start)
  | value expression => exact DeclarationError.explains_of _

end DeclarationKey

open DeclarationKey (explains_readContent isExplicit_ofReader)
open ValueReader (explains_text explains_truth explains_handling explains_typeName explains_flag)

theorem MarkerSpec.explains_ofContent (content : AttributeContent) :
    Explains (ofContent content) := by
  apply explains_readContent _ _ _ (DeclarationError.explains_of _)
  intro key hkey
  simp only [keys, List.mem_cons, List.not_mem_nil, or_false] at hkey
  rcases hkey with rfl | rfl | rfl | rfl | rfl
  · exact isExplicit_ofReader explains_typeName _ _
  · exact isExplicit_ofReader explains_text _ _
  · exact isExplicit_ofReader explains_truth _ _
  · exact isExplicit_ofReader explains_truth _ _
  · exact isExplicit_ofReader explains_text _ _

theorem PropertySpec.explains_ofContent (content : AttributeContent) :
    Explains (ofContent content) := by
  apply explains_readContent _ _ _ (DeclarationError.explains_ok _)
  intro key hkey
  simp only [keys, List.mem_cons, List.not_mem_nil, or_false] at hkey
  rcases hkey with rfl | rfl | rfl | rfl | rfl | rfl | rfl | rfl | rfl
  · exact isExplicit_ofReader explains_text _ _
  · exact isExplicit_ofReader explains_text _ _
  · exact isExplicit_ofReader explains_truth _ _
  · exact isExplicit_ofReader explains_truth _ _
  · exact isExplicit_ofReader explains_handling _ _
  · exact isExplicit_ofReader explains_truth _ _
  · exact isExplicit_ofReader explains_truth _ _
  · exact isExplicit_ofReader explains_truth _ _
  · exact isExplicit_ofReader explains_text _ _

theorem TargetSpec.explains_ofContent (content : AttributeContent) :
    Explains (ofContent content) := by
  apply explains_readContent _ _ _ (DeclarationError.explains_ok _)
  intro key hkey
  rw [keys, List.mem_singleton] at hkey
  rw [hkey]
  exact isExplicit_ofReader explains_flag _ _

/-!
# Attributes by themselves
-/

namespace Attribute

def namingFaults (written : Attribute) : List DeclarationFault :=
  if written.isNamed Naming.attributeName then
    match Naming.clauses written.item.content with
    | .ok _ => []
    | .error error => [.malformed error]
  else []

def structFaults (written : Attribute) : List DeclarationFault :=
  match UpdateAttribute.of? written with
  | some .update => faultsIn (MarkerSpec.ofContent written.item.content)
  | some .property => faultsIn (PropertySpec.ofContent written.item.content)
  | some .target => faultsIn (TargetSpec.ofContent written.item.content)
  | some .ignore => [.ignoredStruct]
  | none => written.namingFaults

def fieldFaults (written : Attribute) : List DeclarationFault :=
  match UpdateAttribute.of? written with
  | some .property => faultsIn (PropertySpec.ofContent written.item.content)
  | some .ignore =>
      match written.item.content with
      | .word => []
      | .list .. | .value .. => [.malformed (.other "unexpected token in attribute")]
  | some .update | some .target => [.structAttributeOnField]
  | none => written.namingFaults

theorem namingFaults_of_kind {written : Attribute} {kind : UpdateAttribute}
    (h : UpdateAttribute.of? written = some kind) : written.namingFaults = [] := by
  rw [namingFaults, if_neg]
  intro hnamed
  have hforeign := isForeign_of_isNamed hnamed (by decide)
  rw [isForeign, h] at hforeign
  cases hforeign

theorem structFaults_eq (written : Attribute) :
    written.structFaults = faultsIn written.onStruct ++ written.namingFaults := by
  unfold structFaults onStruct
  cases hkind : UpdateAttribute.of? written with
  | none => rfl
  | some kind =>
      rw [namingFaults_of_kind hkind, List.append_nil]
      cases kind with
      | update => exact (DeclarationError.faultsIn_map _ _).symm
      | property => exact (DeclarationError.faultsIn_map _ _).symm
      | target => exact (DeclarationError.faultsIn_map _ _).symm
      | ignore => exact (DeclarationError.faults_of _).symm

theorem fieldFaults_eq (written : Attribute) :
    written.fieldFaults = written.namingFaults ++ faultsIn written.onField := by
  unfold fieldFaults onField
  cases hkind : UpdateAttribute.of? written with
  | none => exact (List.append_nil _).symm
  | some kind =>
      rw [namingFaults_of_kind hkind, List.nil_append]
      cases kind with
      | property => exact (DeclarationError.faultsIn_map _ _).symm
      | ignore =>
          cases written.item.content with
          | word => rfl
          | list delimiter tokens => exact (DeclarationError.faults_of _).symm
          | value expression => exact (DeclarationError.faults_of _).symm
      | update => exact (DeclarationError.faults_of _).symm
      | target => exact (DeclarationError.faults_of _).symm

theorem explains_onStruct (written : Attribute) : Explains written.onStruct := by
  unfold onStruct
  split
  · exact DeclarationError.explains_map (MarkerSpec.explains_ofContent _) _
  · exact DeclarationError.explains_map (PropertySpec.explains_ofContent _) _
  · exact DeclarationError.explains_map (TargetSpec.explains_ofContent _) _
  · exact DeclarationError.explains_of _
  · exact DeclarationError.explains_ok _

theorem explains_onField (written : Attribute) : Explains written.onField := by
  unfold onField
  split
  · exact DeclarationError.explains_map (PropertySpec.explains_ofContent _) _
  · exact DeclarationError.explains_ok _
  · exact DeclarationError.explains_of _
  · exact DeclarationError.explains_of _
  · exact DeclarationError.explains_of _
  · exact DeclarationError.explains_ok _

end Attribute

theorem Naming.faultsIn_ofAttributes (attributes : List Attribute) :
    faultsIn (ofAttributes attributes) = attributes.flatMap Attribute.namingFaults := by
  rw [ofAttributes, DeclarationError.faultsIn_check]
  induction attributes with
  | nil => rfl
  | cons written rest ih =>
      rw [List.flatMap_cons, ← ih, Attribute.namingFaults]
      rw [errors, clausesOfAll, List.filter_cons]
      cases written.isNamed attributeName with
      | false => rfl
      | true =>
          rw [if_pos rfl, if_pos rfl, List.map_cons]
          cases clauses written.item.content with
          | ok said => rfl
          | error error => rfl

theorem Naming.explains_ofAttributes (attributes : List Attribute) :
    Explains (ofAttributes attributes) := by
  apply DeclarationError.explains_check
  intro error hmem
  rcases List.mem_filterMap.mp hmem with ⟨outcome, _houtcome, hfailed⟩
  rcases Option.map_eq_some_iff.mp hfailed with ⟨failed, _hfailed, rfl⟩
  exact DeclarationError.faults_of_ne_nil (.malformed failed)

/-!
# Units by their attributes
-/

theorem flatten_flatMap_map {α β γ : Type} (items : List α) (parts : α -> List β)
    (f : β -> List γ) :
    (items.flatMap (fun item => (parts item).map f)).flatten =
      items.flatMap (fun item => (parts item).flatMap f) := by
  induction items with
  | nil => rfl
  | cons item rest ih =>
      rw [List.flatMap_cons, List.flatten_append, ← List.flatMap_def, ih, List.flatMap_cons]

namespace FieldSyntax

theorem flatMap_errors_perm (field : FieldSyntax) :
    (field.errors.flatMap DeclarationError.faults).Perm
      (field.attributes.flatMap Attribute.fieldFaults) := by
  rw [errors, List.flatMap_append, DeclarationError.flatMap_failure?, naming,
    Naming.faultsIn_ofAttributes, DeclarationError.flatMap_failures,
    funext Attribute.fieldFaults_eq]
  exact List.flatMap_append_perm _ _ _

theorem faults_ne_nil_of_mem_errors {field : FieldSyntax} {error : DeclarationError}
    (hmem : error ∈ field.errors) : error.faults ≠ [] := by
  rcases List.mem_append.mp hmem with hnaming | hattribute
  · exact DeclarationError.faults_ne_nil_of_mem_failure? (Naming.explains_ofAttributes _) hnaming
  · exact DeclarationError.faults_ne_nil_of_mem_failures Attribute.explains_onField hattribute

end FieldSyntax

namespace StructSyntax

/-- The fields stand in braces, each with its name. -/
def hasNamedFields (item : StructSyntax) : Bool :=
  match item.fields with
  | .named fields => fields.all (fun field => field.name.isSome)
  | .unnamed _ | .unit => false

def attributeFaults (item : StructSyntax) : List (List DeclarationFault) :=
  item.attributes.map Attribute.structFaults
    ++ item.fields.toList.flatMap (fun field => field.attributes.map Attribute.fieldFaults)

theorem fieldErrors_eq {item : StructSyntax} (h : item.hasNamedFields = true) :
    item.fieldErrors = item.fields.toList.flatMap FieldSyntax.errors := by
  unfold hasNamedFields at h
  unfold fieldErrors
  cases hfields : item.fields with
  | unnamed fields =>
      rw [hfields] at h
      cases h
  | unit =>
      rw [hfields] at h
      cases h
  | named fields =>
      rw [hfields] at h
      change fields.all _ = true at h
      show (fields.filterMap _).flatMap _ = fields.flatMap FieldSyntax.errors
      clear hfields
      induction fields with
      | nil => rfl
      | cons field rest ih =>
          rw [List.all_cons, Bool.and_eq_true] at h
          rcases Option.isSome_iff_exists.mp h.1 with ⟨named, hnamed⟩
          rw [List.filterMap_cons_some (by rw [hnamed]; rfl), List.flatMap_cons,
            List.flatMap_cons, ih h.2]

theorem flatMap_errors_perm {item : StructSyntax} (h : item.hasNamedFields = true) :
    (item.errors.flatMap DeclarationError.faults).Perm item.attributeFaults.flatten := by
  have hown : (item.attributes.flatMap (fun written => faultsIn written.onStruct)
        ++ item.attributes.flatMap Attribute.namingFaults).Perm
      (item.attributes.flatMap Attribute.structFaults) := by
    rw [funext Attribute.structFaults_eq]
    exact List.flatMap_append_perm _ _ _
  have hfields : ((item.fields.toList.flatMap FieldSyntax.errors).flatMap
        DeclarationError.faults).Perm
      (item.fields.toList.flatMap
        (fun field => field.attributes.flatMap Attribute.fieldFaults)) := by
    rw [List.flatMap_assoc]
    exact List.Perm.flatMap_left _ (fun field _hmem => field.flatMap_errors_perm)
  rw [errors, fieldErrors_eq h, List.flatMap_append, List.flatMap_append,
    DeclarationError.flatMap_failures, DeclarationError.flatMap_failure?, naming,
    Naming.faultsIn_ofAttributes, attributeFaults, List.flatten_append, ← List.flatMap_def,
    flatten_flatMap_map]
  exact hown.append hfields

theorem faults_ne_nil_of_mem_errors {item : StructSyntax} {error : DeclarationError}
    (hmem : error ∈ item.errors) : error.faults ≠ [] := by
  rw [errors, List.mem_append, List.mem_append] at hmem
  rcases hmem with (hown | hnaming) | hfields
  · exact DeclarationError.faults_ne_nil_of_mem_failures Attribute.explains_onStruct hown
  · exact DeclarationError.faults_ne_nil_of_mem_failure? (Naming.explains_ofAttributes _) hnaming
  · unfold fieldErrors at hfields
    split at hfields
    · rcases List.mem_flatMap.mp hfields with ⟨⟨name, span, field⟩, _hfield, hmem⟩
      exact FieldSyntax.faults_ne_nil_of_mem_errors hmem
    · split at hfields
      · cases hfields
      · rw [List.mem_singleton.mp hfields]
        exact DeclarationError.faults_of_ne_nil .unnamedFields

end StructSyntax

namespace Item

def hasNamedFields : Item -> Bool
  | .struct item => item.hasNamedFields
  | .enumeration _ | .implementation _ | .other _ => true

/-- What is wrong with each attribute of an item; those of structures alone are read. -/
def attributeFaults : Item -> List (List DeclarationFault)
  | .struct item => item.attributeFaults
  | .enumeration _ | .implementation _ | .other _ => []

theorem faults_error?_perm {item : Item} (h : item.hasNamedFields = true) :
    (item.error?.toList.flatMap DeclarationError.faults).Perm item.attributeFaults.flatten := by
  cases item with
  | struct item =>
      rw [error?, StructSyntax.error?, DeclarationError.flatMap_ofList?]
      exact StructSyntax.flatMap_errors_perm h
  | enumeration _ => exact .refl []
  | implementation _ => exact .refl []
  | other _ => exact .refl []

theorem faults_ne_nil_of_error? {item : Item} {error : DeclarationError}
    (h : item.error? = some error) : error.faults ≠ [] := by
  cases item with
  | struct item =>
      exact DeclarationError.faults_ne_nil_of_ofList?
        (fun _error => StructSyntax.faults_ne_nil_of_mem_errors) h
  | enumeration _ => cases h
  | implementation _ => cases h
  | other _ => cases h

end Item

namespace DeclarationError

/-- What is said of the faults: nothing where one of them makes reading stop without a
message. -/
def reported (faults : List DeclarationFault) : List DeclarationFault :=
  if .emptyFlagList ∈ faults then [] else faults

/-- Faults that come in parts are said just as the parts say them, unless a part that says
nothing stands beside one that does. -/
theorem reported_perm_iff {whole : List DeclarationFault} {parts : List (List DeclarationFault)}
    (h : whole.Perm parts.flatten) :
    (reported whole).Perm (parts.flatMap reported) ↔
      (forall faults, faults ∈ parts -> .emptyFlagList ∉ faults)
        ∨ forall faults, faults ∈ parts -> reported faults = [] := by
  by_cases hsilent : .emptyFlagList ∈ whole
  · have hnot : ¬ forall faults, faults ∈ parts -> .emptyFlagList ∉ faults := by
      intro hall
      rcases List.mem_flatten.mp (h.mem_iff.mp hsilent) with ⟨faults, hpart, hmem⟩
      exact hall faults hpart hmem
    rw [reported, if_pos hsilent, List.nil_perm, List.flatMap_eq_nil_iff, or_iff_right hnot]
  · have hall : forall faults, faults ∈ parts -> .emptyFlagList ∉ faults := by
      intro faults hpart hmem
      exact hsilent (h.mem_iff.mpr (List.mem_flatten.mpr ⟨faults, hpart, hmem⟩))
    have hsaid : forall faults, faults ∈ parts -> reported faults = faults :=
      fun faults hpart => if_neg (hall faults hpart)
    have hparts : parts.flatMap reported = parts.flatten := by
      rw [List.flatMap_def, List.map_congr_left hsaid, List.map_id']
    rw [reported, if_neg hsilent, hparts]
    exact iff_of_true h (.inl hall)

end DeclarationError

namespace Reading

/-- What is wrong with each attribute of a unit, taken by itself. -/
def attributeFaults (items : List Item) : List (List DeclarationFault) :=
  items.flatMap Item.attributeFaults

/-- All that is wrong with the attributes is said: as many faults as they have by themselves. -/
def ReportsAll (items : List Item) : Prop :=
  (DeclarationError.reported (faultsIn (ofItems items))).Perm
    ((attributeFaults items).flatMap DeclarationError.reported)

theorem faultsIn_ofItems_perm {items : List Item}
    (h : forall item, item ∈ items -> item.hasNamedFields = true) :
    (faultsIn (ofItems items)).Perm (attributeFaults items).flatten := by
  rw [ofItems, DeclarationError.faultsIn_check]
  induction items with
  | nil => exact .refl []
  | cons item rest ih =>
      have hrest := ih (fun other hmem => h other (List.mem_cons_of_mem item hmem))
      have hitem := Item.faults_error?_perm (h item List.mem_cons_self)
      rw [attributeFaults, List.flatMap_cons, List.flatten_append]
      cases herror : item.error? with
      | none =>
          rw [herror] at hitem
          rw [List.filterMap_cons_none herror]
          exact hitem.append hrest
      | some error =>
          rw [herror, Option.toList_some, List.flatMap_singleton] at hitem
          rw [List.filterMap_cons_some herror, List.flatMap_cons]
          exact hitem.append hrest

theorem explains_ofItems (items : List Item) : Explains (ofItems items) := by
  apply DeclarationError.explains_check
  intro error hmem
  rcases List.mem_filterMap.mp hmem with ⟨item, _hitem, herror⟩
  exact Item.faults_ne_nil_of_error? herror

/-- Reading a unit whose structures have named fields fails exactly where an attribute is wrong
by itself, and then it has all the faults that the attributes have by themselves.  It says all
of them, unless an attribute that makes reading stop without a message stands beside one that
has something to say. -/
theorem ofItems_reports {items : List Item}
    (hnamed : forall item, item ∈ items -> item.hasNamedFields = true) :
    ((exists error, ofItems items = .error error) ↔
        exists faults, faults ∈ attributeFaults items ∧ faults ≠ [])
      ∧ (forall error, ofItems items = .error error ->
        error.faults.Perm (attributeFaults items).flatten
          ∧ error.faults.length = ((attributeFaults items).map List.length).sum
          ∧ (error.isSilent = true ↔
            exists faults, faults ∈ attributeFaults items ∧ .emptyFlagList ∈ faults))
      ∧ (ReportsAll items ↔
        (forall faults, faults ∈ attributeFaults items -> .emptyFlagList ∉ faults)
          ∨ forall faults, faults ∈ attributeFaults items ->
            DeclarationError.reported faults = []) := by
  have hperm := faultsIn_ofItems_perm hnamed
  refine ⟨?_, ?_, DeclarationError.reported_perm_iff hperm⟩
  · rw [DeclarationError.exists_error_iff (explains_ofItems items), ← List.length_pos_iff,
      hperm.length_eq, List.length_pos_iff, ne_eq, List.flatten_eq_nil_iff]
    simp only [not_forall, exists_prop, ne_eq]
  · intro error herror
    rw [herror] at hperm
    change error.faults.Perm _ at hperm
    refine ⟨hperm, ?_, ?_⟩
    · rw [hperm.length_eq, List.length_flatten]
    · rw [DeclarationError.isSilent, List.contains_iff_mem, hperm.mem_iff, List.mem_flatten]

/-!
A unit with attributes that are wrong in several ways, and one whose first attribute makes
reading stop.
-/

def faultyText : String :=
  "#[update] #[serde(rename = 3)] struct Patch \x7b #[update_ignore(age)] age: u8 \x7d "
    ++ "#[update_ignore] struct Name \x7b #[update] #[update_property(first, last)] age: u8 \x7d"

def stoppingText : String :=
  "#[update_target(extensible())] struct User \x7b age: u8 \x7d "
    ++ "#[update_property(first)] struct Patch \x7b age: u8 \x7d"

theorem file_faultyText :
    (Syntax.file faultyText).toOption.any (fun parsed =>
      parsed.2.all Item.hasNamedFields
        && decide ((attributeFaults parsed.2).map List.length = [1, 1, 1, 1, 1, 2])
        && (attributeFaults parsed.2).all (fun faults => !faults.contains .emptyFlagList)) =
      true := by
  decide +kernel

theorem file_stoppingText :
    (Syntax.file stoppingText).toOption.any (fun parsed =>
      parsed.2.all Item.hasNamedFields
        && decide (attributeFaults parsed.2 =
          [[.emptyFlagList], [.unknownKey "first" (PropertySpec.keys.map DeclarationKey.name)]])) =
      true := by
  decide +kernel

theorem ofItems_reports_faultyText :
    exists attributes items error,
      Syntax.file faultyText = .ok (attributes, items)
      ∧ (forall item, item ∈ items -> item.hasNamedFields = true)
      ∧ ofItems items = .error error ∧ error.faults.length = 7 ∧ error.isSilent = false
      ∧ ReportsAll items := by
  rcases exists_of_any_toOption file_faultyText with ⟨⟨attributes, items⟩, hfile, hchecked⟩
  rw [Bool.and_eq_true, Bool.and_eq_true, decide_eq_true_eq, List.all_eq_true,
    List.all_eq_true] at hchecked
  rcases hchecked with ⟨⟨hnamed, hlengths⟩, hsaid⟩
  have hnotSilent : forall faults, faults ∈ attributeFaults items -> .emptyFlagList ∉ faults := by
    intro faults hmem hsilent
    have hnot := hsaid faults hmem
    rw [List.contains_iff_mem.mpr hsilent] at hnot
    cases hnot
  rcases ofItems_reports hnamed with ⟨hfails, hall, hreports⟩
  have hbad : exists faults, faults ∈ attributeFaults items ∧ faults ≠ [] := by
    have hlength : 1 ∈ (attributeFaults items).map List.length := by
      rw [hlengths]
      decide
    rcases List.mem_map.mp hlength with ⟨faults, hmem, hone⟩
    exact ⟨faults, hmem, List.ne_nil_of_length_eq_add_one hone⟩
  rcases hfails.mpr hbad with ⟨error, herror⟩
  rcases hall error herror with ⟨_hperm, hlength, hsilent⟩
  refine ⟨attributes, items, error, hfile, hnamed, herror, ?_, ?_, hreports.mpr (.inl hnotSilent)⟩
  · rw [hlength, hlengths]
    rfl
  · rw [Bool.eq_false_iff]
    intro hstops
    rcases hsilent.mp hstops with ⟨faults, hmem, hfault⟩
    exact hnotSilent faults hmem hfault

/-- The attribute of the first structure makes reading stop, and the unknown key in that of the
second one is not said. -/
theorem not_reportsAll_stoppingText :
    exists attributes items error faults,
      Syntax.file stoppingText = .ok (attributes, items)
      ∧ (forall item, item ∈ items -> item.hasNamedFields = true)
      ∧ ofItems items = .error error ∧ error.isSilent = true
      ∧ faults ∈ attributeFaults items ∧ DeclarationError.reported faults ≠ []
      ∧ ¬ ReportsAll items := by
  rcases exists_of_any_toOption file_stoppingText with ⟨⟨attributes, items⟩, hfile, hchecked⟩
  rw [Bool.and_eq_true, decide_eq_true_eq, List.all_eq_true] at hchecked
  rcases hchecked with ⟨hnamed, hfaults⟩
  have hperm := faultsIn_ofItems_perm hnamed
  rw [hfaults] at hperm
  have hfails : faultsIn (ofItems items) ≠ [] := by
    intro hnil
    rw [hnil] at hperm
    cases List.nil_perm.mp hperm
  rcases (DeclarationError.exists_error_iff (explains_ofItems items)).mpr hfails with
    ⟨error, herror⟩
  have hsilent : .emptyFlagList ∈ faultsIn (ofItems items) := hperm.mem_iff.mpr (by decide)
  refine ⟨attributes, items, error, _, hfile, hnamed, herror, ?_,
    hfaults ▸ List.mem_cons_of_mem _ List.mem_cons_self, by decide, ?_⟩
  · rw [herror] at hsilent
    exact List.contains_iff_mem.mpr hsilent
  · rw [ReportsAll, DeclarationError.reported, if_pos hsilent, List.nil_perm, hfaults]
    decide

end Reading
end PartialUpdate
