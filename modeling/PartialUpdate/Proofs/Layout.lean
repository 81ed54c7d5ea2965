import PartialUpdate.Proofs.InsertionOrder
import PartialUpdate.Proofs.Rendering

/-!
# The layout of the update document

The update document has two levels: operators, and the paths under each operator.  On both levels
the keys stand in the order in which they were first used.  Together with the operands of the last
operations this determines the whole document.
-/

namespace PartialUpdate

/-!
# Documents of two levels
-/

namespace DocumentValue

/-- What stands in a value, which is nothing unless the value is a document. -/
def fields : DocumentValue -> Document
  | .document fields => fields
  | _ => []

end DocumentValue

namespace Document

variable {document fields : Document} {key operator : String} {value : DocumentValue}

theorem mem_of_get? (h : document.get? key = some value) : (key, value) ∈ document := by
  rcases List.lookup_eq_some_iff.mp h with ⟨before, after, hsplit, _hbefore⟩
  rw [hsplit]
  exact List.mem_append_right before List.mem_cons_self

theorem get?_of_mem (hnodup : document.keys.Nodup) (hmem : (key, value) ∈ document) :
    document.get? key = some value := by
  induction document with
  | nil => cases hmem
  | cons field rest ih =>
      have hdistinct := List.nodup_cons.mp hnodup
      rw [get?, List.lookup_cons]
      rcases List.mem_cons.mp hmem with hfirst | hrest
      · rw [← hfirst]
        simp
      · have hne : key ≠ field.1 := by
          intro heq
          exact hdistinct.1 (heq ▸ List.mem_map_of_mem hrest)
        rw [beq_false_of_ne hne]
        exact ih hdistinct.2 hrest

theorem under_of_mem (hnodup : document.keys.Nodup)
    (hmem : (operator, .document fields) ∈ document) : document.under operator = fields := by
  rw [under, get?_of_mem hnodup hmem]

theorem mem_of_mem_under {leaf : String × DocumentValue} (h : leaf ∈ document.under operator) :
    (operator, .document (document.under operator)) ∈ document := by
  unfold under at h ⊢
  split
  · rename_i fields hfields
    exact mem_of_get? hfields
  · rename_i hnone
    split at h
    · rename_i fields hfields
      exact absurd hfields (hnone fields)
    · cases h

/-- What stands under the paths, each value with its operator and its path. -/
def leaves (document : Document) : List ((String × String) × DocumentValue) :=
  document.flatMap (fun field => field.2.fields.map (fun leaf => ((field.1, leaf.1), leaf.2)))

theorem mem_leaves_of_mem {path : String} (hfield : (operator, .document fields) ∈ document)
    (hleaf : (path, value) ∈ fields) : ((operator, path), value) ∈ document.leaves :=
  List.mem_flatMap.mpr ⟨_, hfield, List.mem_map.mpr ⟨_, hleaf, rfl⟩⟩

/-- Under every key stands a document, and no key is written twice on either level. -/
structure IsTwoLevel (document : Document) : Prop where
  operators : document.keys.Nodup
  paths : forall field, field ∈ document ->
    exists fields, field.2 = .document fields ∧ (keys fields).Nodup

theorem IsTwoLevel.mem_leaves_iff (h : document.IsTwoLevel) {place : String × String} :
    (place, value) ∈ document.leaves ↔ document.placed? place = some value := by
  constructor
  · intro hmem
    rcases List.mem_flatMap.mp hmem with ⟨⟨operator, inner⟩, hfield, hleaf⟩
    rcases h.paths _ hfield with ⟨fields, hinner, hnodup⟩
    rcases List.mem_map.mp hleaf with ⟨⟨path, operand⟩, hpath, heq⟩
    cases hinner
    cases heq
    rw [placed?, under_of_mem h.operators hfield]
    exact get?_of_mem hnodup hpath
  · intro hplaced
    have hpath := mem_of_get? hplaced
    exact mem_leaves_of_mem (mem_of_mem_under hpath) hpath

theorem IsTwoLevel.nodup_leaves (h : document.IsTwoLevel) :
    (document.leaves.map Prod.fst).Nodup := by
  have hplaces : document.leaves.map Prod.fst =
      document.flatMap (fun field => (keys field.2.fields).map (Prod.mk field.1)) := by
    simp [leaves, keys, List.map_flatMap, Function.comp_def]
  rw [hplaces, List.nodup_flatMap]
  constructor
  · intro field hfield
    rcases h.paths field hfield with ⟨fields, hinner, hnodup⟩
    rw [hinner]
    exact hnodup.map (fun _ _ heq => (Prod.mk.inj heq).2)
  · apply (List.pairwise_map.mp h.operators).imp
    intro field other hne place hplace hother
    rcases List.mem_map.mp hplace with ⟨_, _, hfirst⟩
    rcases List.mem_map.mp hother with ⟨_, _, hsecond⟩
    rw [← hsecond] at hfirst
    exact hne (Prod.mk.inj hfirst).1

theorem keys_ofFields (fields : List (String × DocumentValue)) :
    keys (ofFields fields) = (fields.map Prod.fst).eraseDups :=
  keys_foldl_eq_eraseDups keys Prod.fst (fun document field => document.insert field.1 field.2)
    (fun document field => keys_insert document field.1 field.2) keys_nil fields

theorem mem_insert {field : String × DocumentValue} (h : field ∈ document.insert key value) :
    field = (key, value) ∨ field ∈ document := by
  induction document with
  | nil => exact Or.inl (List.mem_singleton.mp h)
  | cons first rest ih =>
      rw [insert] at h
      split at h
      · rcases List.mem_cons.mp h with heq | hrest
        · exact Or.inl heq
        · exact Or.inr (List.mem_cons_of_mem first hrest)
      · rcases List.mem_cons.mp h with heq | hrest
        · exact Or.inr (heq ▸ List.mem_cons_self)
        · rcases ih hrest with heq | hmem
          · exact Or.inl heq
          · exact Or.inr (List.mem_cons_of_mem first hmem)

end Document

/-!
# Keys of the update document
-/

namespace UpdateDefinition

/-- The paths of the operations under an operator, in the order in which they were recorded. -/
def pathsUnder (update : UpdateDefinition) (operator : String) : List String :=
  (update.operations.filter (fun operation => operation.operator == operator)).map
    UpdateOperation.path

theorem keys_render (document : Document) (operation : UpdateOperation) :
    (render document operation).keys =
      if operation.operator ∈ document.keys then document.keys
      else document.keys ++ [operation.operator] := by
  rw [render_eq, Document.keys_insert]

theorem keys_toDocument (update : UpdateDefinition) :
    update.toDocument.keys = (update.operations.map UpdateOperation.operator).eraseDups :=
  keys_foldl_eq_eraseDups Document.keys UpdateOperation.operator render keys_render
    Document.keys_nil update.operations

theorem under_foldl_render (operations : List UpdateOperation) (document : Document)
    (operator : String) :
    (operations.foldl render document).under operator =
      ((operations.filter (fun operation => operation.operator == operator)).map
        (fun operation => (operation.path, operation.operand))).foldl
          (fun fields leaf => fields.insert leaf.1 leaf.2) (document.under operator) := by
  induction operations generalizing document with
  | nil => rfl
  | cons first rest ih =>
      rw [List.foldl_cons, ih, under_render]
      by_cases h : operator = first.operator
      · rw [if_pos h, List.filter_cons_of_pos (by simp [h])]
        rfl
      · rw [if_neg h, List.filter_cons_of_neg (by simpa using Ne.symm h)]

theorem keys_under_toDocument (update : UpdateDefinition) (operator : String) :
    (update.toDocument.under operator).keys = (update.pathsUnder operator).eraseDups := by
  have hunder : update.toDocument.under operator =
      Document.ofFields
        ((update.operations.filter (fun operation => operation.operator == operator)).map
          (fun operation => (operation.path, operation.operand))) :=
    under_foldl_render update.operations [] operator
  rw [hunder, Document.keys_ofFields, List.map_map]
  rfl

theorem exists_document_of_mem_render {document : Document} {operation : UpdateOperation}
    (h : forall field, field ∈ document -> exists fields, field.2 = .document fields) :
    forall field, field ∈ render document operation -> exists fields, field.2 = .document fields := by
  intro field hfield
  rw [render_eq] at hfield
  rcases Document.mem_insert hfield with heq | hmem
  · rw [heq]
    exact ⟨_, rfl⟩
  · exact h field hmem

theorem exists_document_of_mem_toDocument (update : UpdateDefinition) :
    forall field, field ∈ update.toDocument -> exists fields, field.2 = .document fields := by
  unfold toDocument
  induction update.operations using List.reverseRecOn with
  | nil =>
      intro field hfield
      cases hfield
  | append_singleton operations operation ih =>
      rw [List.foldl_append]
      exact exists_document_of_mem_render ih

/-!
# The layout
-/

/-- Operators and paths stand in the order of their first operations, each of them once, and every
place holds the operand of the last operation that was recorded for it. -/
structure IsLaidOut (update : UpdateDefinition) (document : Document) : Prop where
  operators : document.keys = (update.operations.map UpdateOperation.operator).eraseDups
  paths : forall field, field ∈ document -> exists fields, field.2 = .document fields
    ∧ Document.keys fields = (update.pathsUnder field.1).eraseDups
  operands : forall key,
    document.placed? key = (update.lastAt? key).map UpdateOperation.operand

variable {update : UpdateDefinition} {document other : Document}

theorem IsLaidOut.isTwoLevel (h : update.IsLaidOut document) : document.IsTwoLevel where
  operators := by
    rw [h.operators]
    exact nodup_eraseDups _
  paths := by
    intro field hfield
    rcases h.paths field hfield with ⟨fields, hinner, hkeys⟩
    refine ⟨fields, hinner, ?_⟩
    rw [hkeys]
    exact nodup_eraseDups _

theorem toDocument_isLaidOut (update : UpdateDefinition) :
    update.IsLaidOut update.toDocument where
  operators := keys_toDocument update
  paths := by
    intro field hfield
    rcases exists_document_of_mem_toDocument update field hfield with ⟨fields, hinner⟩
    have hdistinct : update.toDocument.keys.Nodup := by
      rw [keys_toDocument]
      exact nodup_eraseDups _
    have hunder : update.toDocument.under field.1 = fields :=
      Document.under_of_mem hdistinct (hinner ▸ hfield)
    refine ⟨fields, hinner, ?_⟩
    rw [← hunder]
    exact keys_under_toDocument update field.1
  operands := placed?_toDocument update

theorem IsLaidOut.unique (h : update.IsLaidOut document) (h' : update.IsLaidOut other) :
    document = other := by
  apply eq_of_map_eq (h.operators.trans h'.operators.symm)
  intro field hfield field' hfield' hoperator
  rcases field with ⟨operator, inner⟩
  rcases field' with ⟨_, inner'⟩
  cases hoperator
  rcases h.paths _ hfield with ⟨fields, hinner, hkeys⟩
  rcases h'.paths _ hfield' with ⟨fields', hinner', hkeys'⟩
  cases hinner
  cases hinner'
  have hfields : fields = fields' := by
    apply eq_of_map_eq (hkeys.trans hkeys'.symm)
    intro leaf hleaf leaf' hleaf' hpath
    rcases leaf with ⟨path, operand⟩
    rcases leaf' with ⟨_, operand'⟩
    cases hpath
    have hplaced : document.placed? (operator, path) = some operand :=
      h.isTwoLevel.mem_leaves_iff.mp (Document.mem_leaves_of_mem hfield hleaf)
    have hplaced' : other.placed? (operator, path) = some operand' :=
      h'.isTwoLevel.mem_leaves_iff.mp (Document.mem_leaves_of_mem hfield' hleaf')
    rw [h.operands, ← h'.operands, hplaced'] at hplaced
    cases hplaced
    rfl
  rw [hfields]

theorem isLaidOut_iff : update.IsLaidOut document ↔ document = update.toDocument := by
  constructor
  · intro h
    exact h.unique (toDocument_isLaidOut update)
  · intro h
    rw [h]
    exact toDocument_isLaidOut update

/-!
# Operands
-/

theorem lastAt?_of_last {before after : List UpdateOperation} {operation : UpdateOperation}
    (hsplit : update.operations = before ++ operation :: after)
    (hlast : forall later, later ∈ after -> later.key ≠ operation.key) :
    update.lastAt? operation.key = some operation := by
  have hnone : after.filter (fun later => later.key = operation.key) = [] := by
    apply List.filter_eq_nil_iff.mpr
    intro later hlater
    simpa using hlast later hlater
  rw [lastAt?, hsplit, List.filter_append, List.filter_cons_of_pos (by simp), hnone]
  exact List.getLast?_concat

theorem key_eq_set_iff {operation : UpdateOperation} {path : String} :
    operation.key = ("$set", path) ↔ exists value, operation = .set path value := by
  constructor
  · intro h
    cases operation with
    | set _ value =>
        cases h
        exact ⟨value, rfl⟩
    | addToSet _ _ | addToSetEach _ _ | push _ _ | pushEach _ _ | pullAll _ _ =>
        exact absurd (congrArg Prod.fst h) (by simp [UpdateOperation.key, UpdateOperation.operator])
  · intro h
    rcases h with ⟨value, heq⟩
    rw [heq]
    rfl

theorem places_perm (update : UpdateDefinition) :
    (update.toDocument.leaves.map Prod.fst).Perm
      (update.operations.map UpdateOperation.key).eraseDups := by
  have htwo := (toDocument_isLaidOut update).isTwoLevel
  apply (List.perm_ext_iff_of_nodup htwo.nodup_leaves (nodup_eraseDups _)).mpr
  intro place
  rw [List.mem_eraseDups]
  constructor
  · intro hmem
    rcases List.mem_map.mp hmem with ⟨⟨_, operand⟩, hleaf, rfl⟩
    have hplaced := htwo.mem_leaves_iff.mp hleaf
    rw [placed?_toDocument, Option.map_eq_some_iff] at hplaced
    rcases hplaced with ⟨last, hlast, _⟩
    exact List.mem_map.mpr ⟨last, mem_of_lastAt? hlast⟩
  · intro hmem
    rcases List.mem_map.mp hmem with ⟨operation, hoperation, rfl⟩
    rcases lastAt?_eq_some_of_mem hoperation with ⟨last, hlast⟩
    have hplaced : update.toDocument.placed? operation.key = some last.operand := by
      rw [placed?_toDocument, hlast]
      rfl
    exact List.mem_map.mpr ⟨_, htwo.mem_leaves_iff.mpr hplaced, rfl⟩

/-- The update document is the only one with the layout of the definition.  In particular, the
last `$set` of a path decides its value; and when no two operations share operator and path, each
place holds the operand of its operation, and there are as many places as operations. -/
theorem toDocument_layout (update : UpdateDefinition) :
    (forall document, update.IsLaidOut document ↔ document = update.toDocument)
    ∧ (forall before path value after,
      update.operations = before ++ UpdateOperation.set path value :: after ->
        (forall newer, UpdateOperation.set path newer ∉ after) ->
          update.toDocument.placed? ("$set", path) = some value)
    ∧ ((update.operations.map UpdateOperation.key).Nodup ->
      (forall operation, operation ∈ update.operations ->
        update.toDocument.placed? operation.key = some operation.operand)
      ∧ update.toDocument.leaves.length = update.length) := by
  refine ⟨fun document => isLaidOut_iff, ?_, ?_⟩
  · intro before path value after hsplit hlast
    have hlater : forall later, later ∈ after ->
        later.key ≠ (UpdateOperation.set path value).key := by
      intro later hmem hkey
      rcases key_eq_set_iff.mp hkey with ⟨newer, heq⟩
      exact hlast newer (heq ▸ hmem)
    have hplaced := placed?_toDocument update (UpdateOperation.set path value).key
    rw [lastAt?_of_last hsplit hlater] at hplaced
    exact hplaced
  · intro hnodup
    constructor
    · intro operation hmem
      rw [placed?_toDocument, lastAt?_of_nodup hnodup hmem]
      rfl
    · have hlength := (places_perm update).length_eq
      rw [eraseDups_of_nodup hnodup, List.length_map, List.length_map] at hlength
      exact hlength

def renamedTwice : UpdateDefinition :=
  ⟨[.set "name" (.text "Readers"), .push "log" (.text "renamed"), .set "name" (.text "Editors")]⟩

theorem toDocument_layout_renamedTwice :
    renamedTwice.toDocument.placed? ("$set", "name") = some (.text "Editors")
    ∧ (UpdateDefinition.mk [.push "log" (.text "created"), .set "name" (.text "Editors"),
        .pushEach "history" [.int32 1, .int32 1, .int32 2]]).toDocument.leaves.length = 3 := by
  constructor
  · exact (toDocument_layout renamedTwice).2.1
      [.set "name" (.text "Readers"), .push "log" (.text "renamed")] "name" (.text "Editors") []
      rfl (fun _newer => List.not_mem_nil)
  · exact ((toDocument_layout _).2.2 (by decide)).2

example : renamedTwice.toDocument.keys = ["$set", "$push"] := by
  decide

end UpdateDefinition
end PartialUpdate
