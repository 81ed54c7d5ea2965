import PartialUpdate.Proofs.Clashes
import PartialUpdate.Proofs.Stripping

/-!
# What becomes of the attributes that are stripped

Where a unit is read, each attribute that stripping takes off a structure or off a field with a
name stands for one entry of the table, or sets what it is there to set.  Two things are not
accounted for: what stands on fields without names, and a target that takes functions by an
attribute which is not its last one.
-/

namespace PartialUpdate

section

variable {α β : Type} {R : α -> β -> Prop}

theorem forall₂_filter_filterMap {p : α -> Bool} {f : α -> Option β} {items : List α}
    (hkept : forall item, item ∈ items -> p item = true ->
      exists result, f item = some result ∧ R item result)
    (hdropped : forall item, item ∈ items -> p item = false -> f item = none) :
    List.Forall₂ R (items.filter p) (items.filterMap f) := by
  induction items with
  | nil => exact .nil
  | cons item rest ih =>
      have hrest := ih (fun other hmem => hkept other (List.mem_cons_of_mem item hmem))
        (fun other hmem => hdropped other (List.mem_cons_of_mem item hmem))
      cases hitem : p item with
      | true =>
          rcases hkept item List.mem_cons_self hitem with ⟨result, hresult, hrel⟩
          rw [List.filter_cons_of_pos hitem, List.filterMap_cons_some hresult]
          exact .cons hrel hrest
      | false =>
          rw [List.filter_cons_of_neg (Bool.eq_false_iff.mp hitem),
            List.filterMap_cons_none (hdropped item List.mem_cons_self hitem)]
          exact hrest

end

theorem exists_ok_of_no_failures {ε α β : Type} {f : α -> Except ε β} {items : List α}
    (h : items.filterMap (fun item => failure? (f item)) = []) {item : α} (hmem : item ∈ items) :
    exists result, f item = .ok result := by
  have hnone := List.filterMap_eq_nil_iff.mp h item hmem
  cases hresult : f item with
  | ok result => exact ⟨result, rfl⟩
  | error e =>
      rw [hresult] at hnone
      cases hnone

/-!
# Kinds of attributes
-/

namespace Attribute

def ofKind (kind : UpdateAttribute) (attributes : List Attribute) : List Attribute :=
  attributes.filter (fun written => UpdateAttribute.of? written == some kind)

theorem mem_ofKind {kind : UpdateAttribute} {attributes : List Attribute} {written : Attribute} :
    written ∈ ofKind kind attributes ↔
      written ∈ attributes ∧ UpdateAttribute.of? written = some kind := by
  rw [ofKind, List.mem_filter, beq_iff_eq]

theorem perm_kinds (attributes : List Attribute) :
    attributes.Perm (attributes.filter isForeign
      ++ UpdateAttribute.all.flatMap (fun kind => ofKind kind attributes)) := by
  rw [List.perm_iff_count]
  intro written
  have hcount (p : Attribute -> Bool) :
      (attributes.filter p).count written = if p written then attributes.count written else 0 := by
    split
    · rename_i hp
      exact List.count_filter hp
    · rename_i hp
      rw [List.count_eq_zero, List.mem_filter]
      exact fun hmem => hp hmem.2
  simp only [UpdateAttribute.all, List.flatMap_cons, List.flatMap_nil, List.append_nil,
    List.count_append, ofKind, hcount, isForeign]
  rcases Option.eq_none_or_eq_some (UpdateAttribute.of? written) with hkind | ⟨kind, hkind⟩
  · simp [hkind]
  · cases kind <;> simp [hkind]

def saysExtensible (written : Attribute) : Bool :=
  (TargetSpec.ofContent written.item.content).toOption.any TargetSpec.extensible

section

variable {δ σ : Type}

/-- Of all that attributes declare, `pick` takes what those of one kind do. -/
structure Picks (on : Attribute -> Except DeclarationError δ) (kind : UpdateAttribute)
    (read : AttributeContent -> Except DeclarationError σ) (pick : δ -> Option σ) : Prop where
  own : forall {written declared}, on written = .ok declared ->
    UpdateAttribute.of? written = some kind ->
    exists spec, read written.item.content = .ok spec ∧ pick declared = some spec
  other : forall {written declared}, on written = .ok declared ->
    UpdateAttribute.of? written ≠ some kind -> pick declared = none

/-- What declarations of the other kinds leave out is enough, where each declaration has the kind
of its attribute. -/
theorem Picks.of_kinds {on : Attribute -> Except DeclarationError δ}
    {kindOf : δ -> Option UpdateAttribute} {kind : UpdateAttribute}
    {read : AttributeContent -> Except DeclarationError σ} {wrap : σ -> δ} {pick : δ -> Option σ}
    (hkinds : forall {written declared}, on written = .ok declared ->
      UpdateAttribute.of? written = kindOf declared)
    (hon : forall {written}, UpdateAttribute.of? written = some kind ->
      on written = (read written.item.content).map wrap)
    (hwrap : forall spec, pick (wrap spec) = some spec)
    (hpick : forall declared, kindOf declared ≠ some kind -> pick declared = none) :
    Picks on kind read pick where
  own := by
    intro written declared h hkind
    rw [hon hkind] at h
    rcases map_eq_ok h with ⟨spec, hspec, rfl⟩
    exact ⟨spec, hspec, hwrap spec⟩
  other := by
    intro written declared h hkind
    rw [hkinds h] at hkind
    exact hpick declared hkind

theorem Picks.forall₂ {on : Attribute -> Except DeclarationError δ} {kind : UpdateAttribute}
    {read : AttributeContent -> Except DeclarationError σ} {pick : δ -> Option σ}
    (h : Picks on kind read pick) {attributes : List Attribute}
    (hread : attributes.filterMap (fun written => failure? (on written)) = []) :
    List.Forall₂ (fun written spec => read written.item.content = .ok spec)
      (ofKind kind attributes)
      (attributes.filterMap (fun written => (on written).toOption.bind pick)) := by
  apply forall₂_filter_filterMap
  · intro written hmem hkind
    rcases exists_ok_of_no_failures hread hmem with ⟨declared, hdeclared⟩
    rcases h.own hdeclared (beq_iff_eq.mp hkind) with ⟨spec, hspec, hpick⟩
    rw [hdeclared]
    exact ⟨spec, hpick, hspec⟩
  · intro written hmem hkind
    rcases exists_ok_of_no_failures hread hmem with ⟨declared, hdeclared⟩
    rw [hdeclared]
    exact h.other hdeclared (beq_eq_false_iff_ne.mp hkind)

end

end Attribute

open Attribute (ofKind saysExtensible)

/-!
# Fields
-/

namespace FieldSyntax

def hasHelpers (field : FieldSyntax) : Bool :=
  field.attributes.any (fun written => !written.isForeign)

/-- What is stripped off the field is either a spec of the member or excludes it. -/
structure IsRead (field : FieldSyntax) (member : MemberInfo) : Prop where
  name : field.name.map (fun named => named.1.name) = some member.name
  parts : field.attributes.Perm (field.stripped.attributes
    ++ UpdateAttribute.all.flatMap (fun kind => ofKind kind field.attributes))
  specs : List.Forall₂ (fun written spec => PropertySpec.ofContent written.item.content = .ok spec)
    (ofKind .property field.attributes) member.specs
  excluded : member.excluded = true ↔
    exists written, written ∈ ofKind .ignore field.attributes
  marked : ofKind .update field.attributes = []
  targeted : ofKind .target field.attributes = []

end FieldSyntax

namespace FieldDeclaration

def kind? : FieldDeclaration -> Option UpdateAttribute
  | .property _ => some .property
  | .ignored => some .ignore
  | .unrelated => none

def spec? : FieldDeclaration -> Option PropertySpec
  | .property spec => some spec
  | .ignored | .unrelated => none

end FieldDeclaration

namespace Attribute

theorem of?_eq_of_onField {written : Attribute} {declared : FieldDeclaration}
    (h : written.onField = .ok declared) : UpdateAttribute.of? written = declared.kind? := by
  unfold onField at h
  split at h
  · rename_i hkind
    rcases map_eq_ok h with ⟨_spec, _hspec, rfl⟩
    exact hkind
  · rename_i hkind _hcontent
    cases h
    exact hkind
  · cases h
  · cases h
  · cases h
  · rename_i hkind
    cases h
    exact hkind

theorem picks_fieldSpecs :
    Picks onField .property PropertySpec.ofContent FieldDeclaration.spec? := by
  refine .of_kinds of?_eq_of_onField (fun hkind => by rw [onField, hkind]) (fun _spec => rfl) ?_
  intro declared hkind
  cases declared with
  | property spec => exact absurd rfl hkind
  | ignored | unrelated => rfl

end Attribute

namespace FieldSyntax

theorem specs_eq (field : FieldSyntax) :
    field.specs =
      field.attributes.filterMap (fun written =>
        written.onField.toOption.bind FieldDeclaration.spec?) := by
  rw [specs, declarations, List.filterMap_filterMap]
  apply List.filterMap_congr
  intro written _hmem
  rcases written.onField with e | declared
  · rfl
  · cases declared <;> rfl

variable {field : FieldSyntax}

theorem no_failures (h : field.errors = []) :
    field.attributes.filterMap (fun written => failure? written.onField) = [] := by
  rw [errors, List.append_eq_nil_iff] at h
  exact h.2

theorem isIgnored_iff (h : field.errors = []) :
    field.isIgnored = true ↔ exists written, written ∈ ofKind .ignore field.attributes := by
  rw [isIgnored, List.any_eq_true]
  constructor
  · rintro ⟨declared, hmem, hignored⟩
    rcases List.mem_filterMap.mp hmem with ⟨written, hwritten, hsome⟩
    rcases exists_ok_of_no_failures (no_failures h) hwritten with ⟨other, hother⟩
    rw [hother] at hsome
    cases hsome
    cases declared with
    | ignored =>
        exact ⟨written, Attribute.mem_ofKind.mpr ⟨hwritten, Attribute.of?_eq_of_onField hother⟩⟩
    | property spec => cases hignored
    | unrelated => cases hignored
  · rintro ⟨written, hmem⟩
    rcases Attribute.mem_ofKind.mp hmem with ⟨hwritten, hkind⟩
    rcases exists_ok_of_no_failures (no_failures h) hwritten with ⟨declared, hdeclared⟩
    rw [Attribute.of?_eq_of_onField hdeclared] at hkind
    cases declared with
    | ignored =>
        refine ⟨.ignored, List.mem_filterMap.mpr ⟨written, hwritten, ?_⟩, rfl⟩
        rw [hdeclared]
        rfl
    | property spec => cases hkind
    | unrelated => cases hkind

theorem ofKind_eq_nil (h : field.errors = []) {kind : UpdateAttribute}
    (hkind : forall declared : FieldDeclaration, declared.kind? ≠ some kind) :
    ofKind kind field.attributes = [] := by
  rw [List.eq_nil_iff_forall_not_mem]
  intro written hmem
  rcases Attribute.mem_ofKind.mp hmem with ⟨hwritten, hown⟩
  rcases exists_ok_of_no_failures (no_failures h) hwritten with ⟨declared, hdeclared⟩
  exact hkind declared ((Attribute.of?_eq_of_onField hdeclared).symm.trans hown)

theorem isRead_member (h : field.errors = []) (container : Naming) {name : String}
    (hname : field.name.map (fun named => named.1.name) = some name) :
    field.IsRead (field.member container name) where
  name := hname
  parts := Attribute.perm_kinds field.attributes
  specs := by
    show List.Forall₂ _ _ field.specs
    rw [specs_eq]
    exact Attribute.picks_fieldSpecs.forall₂ (no_failures h)
  excluded := isIgnored_iff h
  marked := by
    apply ofKind_eq_nil h
    intro declared
    cases declared <;> simp [FieldDeclaration.kind?]
  targeted := by
    apply ofKind_eq_nil h
    intro declared
    cases declared <;> simp [FieldDeclaration.kind?]

end FieldSyntax

/-!
# Structures
-/

namespace Item

def struct? : Item -> Option StructSyntax
  | .struct item => some item
  | .enumeration _ | .implementation _ | .other _ => none

theorem mem_of_mem_structs {items : List Item} {item : StructSyntax}
    (h : item ∈ items.filterMap struct?) : .struct item ∈ items := by
  rcases List.mem_filterMap.mp h with ⟨other, hmem, hother⟩
  cases other with
  | struct other =>
      cases hother
      exact hmem
  | enumeration _ | implementation _ | other _ => cases hother

end Item

namespace StructSyntax

def readFields (item : StructSyntax) : List FieldSyntax :=
  item.namedFields.map (fun entry => entry.2.2)

/-- The fields without names, which do not become members. -/
def namelessFields (item : StructSyntax) : List FieldSyntax :=
  match item.fields with
  | .named fields => fields.filter (fun field => field.name.isNone)
  | .unnamed fields => fields
  | .unit => []

/-- What is stripped off the structure, and off its fields with names, stands in the table. -/
structure IsRead (item : StructSyntax) (info : TypeInfo) : Prop where
  parts : item.attributes.Perm (item.stripped.attributes
    ++ UpdateAttribute.all.flatMap (fun kind => ofKind kind item.attributes))
  markers : List.Forall₂ (fun written spec => MarkerSpec.ofContent written.item.content = .ok spec)
    (ofKind .update item.attributes) info.markers
  typeSpecs : List.Forall₂
    (fun written spec => PropertySpec.ofContent written.item.content = .ok spec)
    (ofKind .property item.attributes) info.typeSpecs
  ignored : ofKind .ignore item.attributes = []
  members : List.Forall₂ FieldSyntax.IsRead item.readFields info.members

/-- Nothing that is stripped is lost: beside what is read, one attribute is enough for a target
to take functions, and only fields that become members have attributes that are stripped. -/
structure IsAccountedFor (item : StructSyntax) (info : TypeInfo) : Prop
    extends item.IsRead info where
  extensible : info.extensible = (ofKind .target item.attributes).any saysExtensible
  helpers : forall field, field ∈ item.fields.toList -> field.hasHelpers = true ->
    field ∈ item.readFields

end StructSyntax

namespace StructDeclaration

def kind? : StructDeclaration -> Option UpdateAttribute
  | .marker _ => some .update
  | .property _ => some .property
  | .target _ => some .target
  | .unrelated => none

def marker? : StructDeclaration -> Option MarkerSpec
  | .marker spec => some spec
  | .property _ | .target _ | .unrelated => none

def spec? : StructDeclaration -> Option PropertySpec
  | .property spec => some spec
  | .marker _ | .target _ | .unrelated => none

def target? : StructDeclaration -> Option TargetSpec
  | .target spec => some spec
  | .marker _ | .property _ | .unrelated => none

end StructDeclaration

namespace Attribute

theorem of?_eq_of_onStruct {written : Attribute} {declared : StructDeclaration}
    (h : written.onStruct = .ok declared) : UpdateAttribute.of? written = declared.kind? := by
  unfold onStruct at h
  split at h
  · rename_i hkind
    rcases map_eq_ok h with ⟨_spec, _hspec, rfl⟩
    exact hkind
  · rename_i hkind
    rcases map_eq_ok h with ⟨_spec, _hspec, rfl⟩
    exact hkind
  · rename_i hkind
    rcases map_eq_ok h with ⟨_spec, _hspec, rfl⟩
    exact hkind
  · cases h
  · rename_i hkind
    cases h
    exact hkind

theorem picks_markers :
    Picks onStruct .update MarkerSpec.ofContent StructDeclaration.marker? := by
  refine .of_kinds of?_eq_of_onStruct (fun hkind => by rw [onStruct, hkind]) (fun _spec => rfl) ?_
  intro declared hkind
  cases declared with
  | marker spec => exact absurd rfl hkind
  | property _ | target _ | unrelated => rfl

theorem picks_typeSpecs :
    Picks onStruct .property PropertySpec.ofContent StructDeclaration.spec? := by
  refine .of_kinds of?_eq_of_onStruct (fun hkind => by rw [onStruct, hkind]) (fun _spec => rfl) ?_
  intro declared hkind
  cases declared with
  | property spec => exact absurd rfl hkind
  | marker _ | target _ | unrelated => rfl

theorem picks_targets :
    Picks onStruct .target TargetSpec.ofContent StructDeclaration.target? := by
  refine .of_kinds of?_eq_of_onStruct (fun hkind => by rw [onStruct, hkind]) (fun _spec => rfl) ?_
  intro declared hkind
  cases declared with
  | target spec => exact absurd rfl hkind
  | marker _ | property _ | unrelated => rfl

end Attribute

namespace StructSyntax

variable {item : StructSyntax}

theorem filterMap_declarations {σ : Type} (item : StructSyntax)
    {f : StructDeclaration × Span -> Option σ} {pick : StructDeclaration -> Option σ}
    (h : forall declared, f declared = pick declared.1) :
    item.declarations.filterMap f =
      item.attributes.filterMap (fun written => written.onStruct.toOption.bind pick) := by
  rw [declarations, List.filterMap_filterMap]
  apply List.filterMap_congr
  intro written _hmem
  cases written.onStruct with
  | error e => rfl
  | ok declared => exact h (declared, written.span)

theorem markers_eq (item : StructSyntax) :
    item.markers.map Prod.fst =
      item.attributes.filterMap (fun written =>
        written.onStruct.toOption.bind StructDeclaration.marker?) := by
  rw [markers, List.map_filterMap]
  apply filterMap_declarations
  rintro ⟨declared, span⟩
  cases declared <;> rfl

theorem typeSpecs_eq (item : StructSyntax) :
    item.typeSpecs =
      item.attributes.filterMap (fun written =>
        written.onStruct.toOption.bind StructDeclaration.spec?) := by
  apply filterMap_declarations
  rintro ⟨declared, span⟩
  cases declared <;> rfl

theorem targets_eq (item : StructSyntax) :
    item.targets =
      item.attributes.filterMap (fun written =>
        written.onStruct.toOption.bind StructDeclaration.target?) := by
  apply filterMap_declarations
  rintro ⟨declared, span⟩
  cases declared <;> rfl

theorem no_failures (h : item.errors = []) :
    item.attributes.filterMap (fun written => failure? written.onStruct) = [] := by
  rw [errors, List.append_eq_nil_iff, List.append_eq_nil_iff] at h
  exact h.1.1

theorem name_of_mem_namedFields {entry : String × Span × FieldSyntax}
    (hmem : entry ∈ item.namedFields) :
    entry.2.2.name.map (fun named => named.1.name) = some entry.1 := by
  rw [namedFields] at hmem
  cases hfields : item.fields with
  | named fields =>
      rw [hfields, FieldsSyntax.named?, Option.getD_some] at hmem
      rcases List.mem_filterMap.mp hmem with ⟨field, _hfield, hentry⟩
      rcases Option.map_eq_some_iff.mp hentry with ⟨named, hnamed, rfl⟩
      exact congrArg (Option.map fun named => named.1.name) hnamed
  | unnamed fields =>
      rw [hfields] at hmem
      cases hmem
  | unit =>
      rw [hfields] at hmem
      cases hmem

theorem errors_of_mem_namedFields (h : item.errors = []) {entry : String × Span × FieldSyntax}
    (hmem : entry ∈ item.namedFields) : entry.2.2.errors = [] := by
  rw [errors, List.append_eq_nil_iff] at h
  have hfields := h.2
  rw [fieldErrors] at hfields
  rw [namedFields] at hmem
  cases hfound : item.fields.named? with
  | none =>
      rw [hfound] at hmem
      cases hmem
  | some fields =>
      rw [hfound] at hfields hmem
      exact List.flatMap_eq_nil_iff.mp hfields entry hmem

theorem isRead_info (h : item.errors = []) : item.IsRead item.info where
  parts := Attribute.perm_kinds item.attributes
  markers := by
    show List.Forall₂ _ _ (item.markers.map Prod.fst)
    rw [markers_eq]
    exact Attribute.picks_markers.forall₂ (no_failures h)
  typeSpecs := by
    show List.Forall₂ _ _ item.typeSpecs
    rw [typeSpecs_eq]
    exact Attribute.picks_typeSpecs.forall₂ (no_failures h)
  ignored := by
    rw [List.eq_nil_iff_forall_not_mem]
    intro written hmem
    rcases Attribute.mem_ofKind.mp hmem with ⟨hwritten, hkind⟩
    rcases exists_ok_of_no_failures (no_failures h) hwritten with ⟨declared, hdeclared⟩
    rw [Attribute.of?_eq_of_onStruct hdeclared] at hkind
    cases declared <;> cases hkind
  members := by
    show List.Forall₂ _ item.readFields (item.namedFields.map _)
    rw [readFields, List.forall₂_map_left_iff, List.forall₂_map_right_iff, List.forall₂_same]
    intro entry hmem
    exact FieldSyntax.isRead_member (errors_of_mem_namedFields h hmem) _
      (name_of_mem_namedFields hmem)

/-- The last attribute of a target decides. -/
theorem isExtensible_eq (h : item.errors = []) :
    item.isExtensible = (ofKind .target item.attributes).getLast?.any saysExtensible := by
  have htargets := Attribute.picks_targets.forall₂ (no_failures h)
  rw [← targets_eq] at htargets
  have hsays : item.targets.map TargetSpec.extensible =
      (ofKind .target item.attributes).map saysExtensible := by
    rw [← List.forall₂_eq_eq_eq, List.forall₂_map_left_iff, List.forall₂_map_right_iff]
    apply htargets.flip.imp
    intro spec written hspec
    rw [saysExtensible, hspec]
    rfl
  have hlast := congrArg (fun given => given.getLast?.any id) hsays
  rw [List.getLast?_map, Option.any_map, List.getLast?_map, Option.any_map] at hlast
  exact hlast

theorem mem_readFields_iff {field : FieldSyntax} :
    field ∈ item.readFields ↔
      field.name.isSome = true ∧ exists fields, item.fields = .named fields ∧ field ∈ fields := by
  rw [readFields, namedFields]
  cases item.fields with
  | named fields =>
      simp only [FieldsSyntax.named?, Option.getD_some, List.map_filterMap, List.mem_filterMap,
        Option.map_map, Option.map_eq_some_iff, Option.isSome_iff_exists]
      constructor
      · rintro ⟨other, hmem, name, hname, rfl⟩
        exact ⟨⟨name, hname⟩, fields, rfl, hmem⟩
      · rintro ⟨⟨name, hname⟩, others, hothers, hmem⟩
        cases hothers
        exact ⟨field, hmem, name, hname, rfl⟩
  | unnamed fields => simp [FieldsSyntax.named?]
  | unit => simp [FieldsSyntax.named?]

theorem mem_namelessFields_iff {field : FieldSyntax} :
    field ∈ item.namelessFields ↔ field ∈ item.fields.toList ∧ field ∉ item.readFields := by
  rw [mem_readFields_iff, namelessFields]
  cases item.fields with
  | named fields =>
      rw [FieldsSyntax.toList, List.mem_filter, Option.isNone_iff_eq_none]
      constructor
      · rintro ⟨hmem, hname⟩
        refine ⟨hmem, ?_⟩
        rintro ⟨hsome, _⟩
        rw [hname] at hsome
        cases hsome
      · rintro ⟨hmem, hread⟩
        refine ⟨hmem, ?_⟩
        rw [Option.eq_none_iff_forall_ne_some]
        intro name hname
        exact hread ⟨by rw [hname]; rfl, fields, rfl, hmem⟩
  | unnamed fields => simp [FieldsSyntax.toList]
  | unit => simp [FieldsSyntax.toList]

/-- What is read is accounted for exactly where fields without names have nothing to strip and
the last attribute of the target says what any of them says. -/
theorem isAccountedFor_iff {info : TypeInfo} (hread : item.IsRead info)
    (hextensible : info.extensible =
      (ofKind .target item.attributes).getLast?.any saysExtensible) :
    item.IsAccountedFor info ↔
      (forall field, field ∈ item.namelessFields -> field.hasHelpers = false)
        ∧ (ofKind .target item.attributes).getLast?.any saysExtensible =
          (ofKind .target item.attributes).any saysExtensible := by
  constructor
  · intro h
    refine ⟨?_, hextensible.symm.trans h.extensible⟩
    intro field hfield
    rcases mem_namelessFields_iff.mp hfield with ⟨hmem, hnot⟩
    rw [Bool.eq_false_iff]
    exact fun hhelpers => hnot (h.helpers field hmem hhelpers)
  · rintro ⟨hnameless, hlast⟩
    refine ⟨hread, hextensible.trans hlast, ?_⟩
    intro field hmem hhelpers
    by_contra hnot
    have hnone := hnameless field (mem_namelessFields_iff.mpr ⟨hmem, hnot⟩)
    rw [hhelpers] at hnone
    cases hnone

end StructSyntax

/-!
# Entries of the table
-/

namespace TypeTable

variable {infos : List TypeInfo} {name : String}

theorem find?_insert (table : TypeTable) (info : TypeInfo) (name : String) :
    (table.insert info).find? name =
      if info.name = name then some info else table.find? name := by
  rcases table with ⟨types⟩
  unfold insert find?
  induction types with
  | nil => by_cases hname : info.name = name <;> simp [insertInto, hname]
  | cons known rest ih =>
      rw [insertInto]
      split
      · rename_i hknown
        rw [beq_iff_eq] at hknown
        by_cases hname : info.name = name
        · simp [hname]
        · simp [hname, hknown]
      · rename_i hknown
        rw [beq_iff_eq] at hknown
        rw [List.find?_cons, List.find?_cons]
        cases hsame : known.name == name with
        | true =>
            have hne : info.name ≠ name := fun heq => hknown ((beq_iff_eq.mp hsame).trans heq.symm)
            simp [hne]
        | false => simpa using ih

theorem find?_foldl_insert_of_not_mem (table : TypeTable)
    (h : name ∉ infos.map TypeInfo.name) :
    (infos.foldl insert table).find? name = table.find? name := by
  induction infos generalizing table with
  | nil => rfl
  | cons info rest ih =>
      rw [List.map_cons, List.mem_cons, not_or] at h
      rw [List.foldl_cons, ih (table.insert info) h.2, find?_insert, if_neg (Ne.symm h.1)]

theorem find?_ofItems_of_once {items : List Item} {item : StructSyntax}
    (hitem : Item.struct item ∈ items)
    (honce : (Item.declaredNames items).count item.name.name = 1) :
    (ofItems items).find? item.name.name =
      some (item.info.gaining (items.flatMap (Item.membersOf item.name.name))) := by
  rw [ofItems, find?_foldl_withMembers]
  rcases List.append_of_mem hitem with ⟨before, after, hsplit⟩
  have hinfos : items.filterMap Item.info? =
      before.filterMap Item.info? ++ item.info :: after.filterMap Item.info? := by
    rw [hsplit, List.filterMap_append]
    rfl
  have hown : item.info.name = item.name.name := rfl
  have hlater : item.name.name ∉ (after.filterMap Item.info?).map TypeInfo.name := by
    rw [Item.declaredNames, hinfos, List.map_append, List.map_cons, List.count_append, hown,
      List.count_cons_self] at honce
    exact List.count_eq_zero.mp (by omega)
  rw [hinfos, List.foldl_append, List.foldl_cons, find?_foldl_insert_of_not_mem _ hlater,
    find?_insert, if_pos hown, Option.map_some]

end TypeTable

namespace Reading

/-- What is stripped off a structure that is declared once: all that stands on the structure and
on its fields with names is read, and all of it is accounted for exactly where nothing is
stripped off a field without a name and the last attribute of the target decides as any of them
does. -/
theorem ofItems_accounts {items : List Item} {reading : Reading}
    (hread : ofItems items = .ok reading) {item : StructSyntax}
    (hitem : Item.struct item ∈ items)
    (honce : (Item.declaredNames items).count item.name.name = 1) :
    exists info, reading.table.find? item.name.name = some info
      ∧ item.IsRead info
      ∧ info.extensible = (ofKind .target item.attributes).getLast?.any saysExtensible
      ∧ (item.IsAccountedFor info ↔
        (forall field, field ∈ item.namelessFields -> field.hasHelpers = false)
          ∧ (ofKind .target item.attributes).getLast?.any saysExtensible =
            (ofKind .target item.attributes).any saysExtensible) := by
  have hnone := errors_eq_nil hread hitem
  rcases ofItems_eq_ok_iff.mp hread with ⟨_hnone, rfl⟩
  have hown := StructSyntax.isRead_info hnone
  have hinfo : item.IsRead
      (item.info.gaining (items.flatMap (Item.membersOf item.name.name))) :=
    ⟨hown.parts, hown.markers, hown.typeSpecs, hown.ignored, hown.members⟩
  have hextensible := StructSyntax.isExtensible_eq hnone
  exact ⟨_, TypeTable.find?_ofItems_of_once hitem honce, hinfo, hextensible,
    StructSyntax.isAccountedFor_iff hinfo hextensible⟩

/-!
A structure with attributes of each kind, and one without field names on whose field stands what
is no spec.
-/

def fullText : String :=
  "#[update_target] #[update_target(extensible)] #[update(target = User)] #[update_property] "
    ++ "pub struct Patch \x7b #[update_property] #[update_ignore] pub age: u8 \x7d"

def namelessText : String :=
  "pub struct Name(#[update_property(first)] pub String);"

theorem file_fullText :
    (Syntax.file fullText).toOption.any (fun parsed =>
      (parsed.2.filterMap Item.error?).isEmpty
        && decide (Item.declaredNames parsed.2 = ["Patch"])
        && (parsed.2.filterMap Item.struct?).any (fun item =>
          item.name.name == "Patch" && item.namelessFields.isEmpty
            && (ofKind .target item.attributes).getLast?.any saysExtensible
            && (ofKind .target item.attributes).any saysExtensible)) = true := by
  decide +kernel

theorem file_namelessText :
    (Syntax.file namelessText).toOption.any (fun parsed =>
      (parsed.2.filterMap Item.error?).isEmpty
        && decide (Item.declaredNames parsed.2 = ["Name"])
        && (parsed.2.filterMap Item.struct?).any (fun item =>
          item.name.name == "Name" && item.namelessFields.any (fun field =>
            (ofKind .property field.attributes).any (fun written =>
              (PropertySpec.ofContent written.item.content).toOption.isNone)))) = true := by
  decide +kernel

theorem ofItems_accounts_fullText :
    exists attributes items reading item info,
      Syntax.file fullText = .ok (attributes, items) ∧ ofItems items = .ok reading
      ∧ Item.struct item ∈ items ∧ (Item.declaredNames items).count item.name.name = 1
      ∧ reading.table.find? item.name.name = some info
      ∧ item.IsAccountedFor info ∧ info.extensible = true := by
  rcases exists_of_any_toOption file_fullText with ⟨⟨attributes, items⟩, hfile, hchecked⟩
  rw [Bool.and_eq_true, Bool.and_eq_true, decide_eq_true_eq, List.isEmpty_iff,
    List.any_eq_true] at hchecked
  rcases hchecked with ⟨⟨hnone, hnames⟩, item, hmem, hitem⟩
  simp only [Bool.and_eq_true, List.isEmpty_iff, beq_iff_eq] at hitem
  rcases hitem with ⟨⟨⟨hname, hnameless⟩, hlast⟩, hany⟩
  have hread : ofItems items = .ok ⟨TypeTable.ofItems items, Places.ofItems items⟩ :=
    ofItems_eq_ok_iff.mpr ⟨hnone, rfl⟩
  have hstruct := Item.mem_of_mem_structs hmem
  have honce : (Item.declaredNames items).count item.name.name = 1 := by
    rw [hnames, hname]
    decide
  rcases ofItems_accounts hread hstruct honce with ⟨info, hfound, _hread, hextensible, hiff⟩
  refine ⟨attributes, items, _, item, info, hfile, hread, hstruct, honce, hfound,
    hiff.mpr ⟨?_, ?_⟩, hextensible.trans hlast⟩
  · rw [hnameless]
    intro field hfield
    cases hfield
  · rw [hlast, hany]

/-- What is no spec stands on a field, is stripped, and is neither read nor reported. -/
theorem not_isAccountedFor_namelessText :
    exists attributes items reading item field written,
      Syntax.file namelessText = .ok (attributes, items) ∧ ofItems items = .ok reading
      ∧ Item.struct item ∈ items ∧ (Item.declaredNames items).count item.name.name = 1
      ∧ field ∈ item.fields.toList ∧ written ∈ ofKind .property field.attributes
      ∧ (forall spec, PropertySpec.ofContent written.item.content ≠ .ok spec)
      ∧ forall info, ¬ item.IsAccountedFor info := by
  rcases exists_of_any_toOption file_namelessText with ⟨⟨attributes, items⟩, hfile, hchecked⟩
  rw [Bool.and_eq_true, Bool.and_eq_true, decide_eq_true_eq, List.isEmpty_iff,
    List.any_eq_true] at hchecked
  rcases hchecked with ⟨⟨hnone, hnames⟩, item, hmem, hitem⟩
  rw [Bool.and_eq_true, beq_iff_eq, List.any_eq_true] at hitem
  rcases hitem with ⟨hname, field, hfield, hattributes⟩
  rcases List.any_eq_true.mp hattributes with ⟨written, hwritten, hbad⟩
  have honce : (Item.declaredNames items).count item.name.name = 1 := by
    rw [hnames, hname]
    decide
  rcases StructSyntax.mem_namelessFields_iff.mp hfield with ⟨htoList, hnot⟩
  have hhelpers : field.hasHelpers = true := by
    rcases Attribute.mem_ofKind.mp hwritten with ⟨hattribute, hkind⟩
    rw [FieldSyntax.hasHelpers, List.any_eq_true]
    exact ⟨written, hattribute, by rw [Attribute.isForeign, hkind]; rfl⟩
  refine ⟨attributes, items, _, item, field, written, hfile, ofItems_eq_ok_iff.mpr ⟨hnone, rfl⟩,
    Item.mem_of_mem_structs hmem, honce, htoList, hwritten, ?_, ?_⟩
  · intro spec hspec
    rw [hspec] at hbad
    cases hbad
  · exact fun info haccounted => hnot (haccounted.helpers field htoList hhelpers)

end Reading
end PartialUpdate
