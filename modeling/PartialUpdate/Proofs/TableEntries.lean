import PartialUpdate.Proofs.Accounting
import PartialUpdate.Proofs.InsertionOrder

/-!
# Entries of the type table

A table that is filled by insertions is a map from names to types, in the order in which the names
were first inserted.  Each name leads to the type that was inserted last under it.
-/

namespace PartialUpdate

/-!
# Qualified names
-/

namespace Text

/-- The last qualifier of a name that does not begin with a colon is its own, if it has one. -/
theorem afterQualifier?_append {name : List Char} (hname : name.head? ≠ some ':')
    (qualifier : List Char) :
    afterQualifier? (qualifier ++ ':' :: ':' :: name) =
      some ((afterQualifier? name).getD name) := by
  induction qualifier with
  | nil =>
      cases htail : afterQualifier? name with
      | none => simp [afterQualifier?, htail, hname]
      | some tail => simp [afterQualifier?, htail]
  | cons c rest ih => rw [List.cons_append, afterQualifier?, ih]

end Text

theorem simpleTypeName_qualified {name : String} (hname : name.toList.head? ≠ some ':')
    (qualifier : String) : simpleTypeName (qualifier ++ "::" ++ name) = simpleTypeName name := by
  have htext : (qualifier ++ "::" ++ name).toList =
      qualifier.toList ++ ':' :: ':' :: name.toList := by
    simp [String.toList_append]
  unfold simpleTypeName
  rw [htext, Text.afterQualifier?_append hname, Option.getD_some]

/-!
# Insertions
-/

namespace TypeTable

variable {infos : List TypeInfo} {table other : TypeTable}

def lastNamed? (infos : List TypeInfo) (name : String) : Option TypeInfo :=
  (infos.filter (fun info => info.name == name)).getLast?

def ofInsertions (infos : List TypeInfo) : TypeTable :=
  infos.foldl insert empty

/-- The names stand in the order of their first insertions, each of them once, and with every name
stands the type that was inserted last under it. -/
structure IsMapOf (infos : List TypeInfo) (table : TypeTable) : Prop where
  names : table.names = (infos.map TypeInfo.name).eraseDups
  last : forall info, info ∈ table.types -> lastNamed? infos info.name = some info

theorem map_insertInto_of_mem {info : TypeInfo} {types : List TypeInfo}
    (h : info.name ∈ types.map TypeInfo.name) :
    (insertInto info types).map TypeInfo.name = types.map TypeInfo.name := by
  induction types with
  | nil => cases h
  | cons known rest ih =>
      rw [insertInto]
      split
      · rename_i hknown
        rw [List.map_cons, List.map_cons, beq_iff_eq.mp hknown]
      · rename_i hknown
        rw [List.map_cons, List.mem_cons] at h
        rcases h with heq | hmem
        · exact absurd (beq_iff_eq.mpr heq.symm) hknown
        · rw [List.map_cons, List.map_cons, ih hmem]

theorem names_insert (table : TypeTable) (info : TypeInfo) :
    (table.insert info).names =
      if info.name ∈ table.names then table.names else table.names ++ [info.name] := by
  by_cases h : info.name ∈ table.names
  · rw [if_pos h]
    exact map_insertInto_of_mem h
  · rw [if_neg h, names, insert, insertInto_of_not_mem h, List.map_append]
    rfl

theorem names_ofInsertions (infos : List TypeInfo) :
    (ofInsertions infos).names = (infos.map TypeInfo.name).eraseDups :=
  keys_foldl_eq_eraseDups names TypeInfo.name insert names_insert rfl infos

theorem nodup_names_ofInsertions (infos : List TypeInfo) : (ofInsertions infos).names.Nodup := by
  rw [names_ofInsertions]
  exact nodup_eraseDups _

theorem find?_ofInsertions (infos : List TypeInfo) (name : String) :
    (ofInsertions infos).find? name = lastNamed? infos name := by
  induction infos using List.reverseRecOn with
  | nil => rfl
  | append_singleton infos info ih =>
      have hstep : ofInsertions (infos ++ [info]) = (ofInsertions infos).insert info :=
        List.foldl_append
      rw [hstep, find?_insert, ih]
      unfold lastNamed?
      rw [List.filter_append, List.getLast?_append]
      by_cases h : info.name = name
      · simp [h]
      · simp [h]

theorem ofInsertions_isMapOf (infos : List TypeInfo) : IsMapOf infos (ofInsertions infos) where
  names := names_ofInsertions infos
  last := by
    intro info hmem
    rw [← find?_ofInsertions]
    exact find?_of_mem (nodup_names_ofInsertions infos) hmem

theorem IsMapOf.unique (h : IsMapOf infos table) (h' : IsMapOf infos other) : table = other := by
  have htypes : table.types = other.types := by
    apply eq_of_map_eq (h.names.trans h'.names.symm)
    intro info hinfo known hknown hname
    have hlast := h.last info hinfo
    rw [hname, h'.last known hknown] at hlast
    exact (Option.some.inj hlast).symm
  rcases table with ⟨types⟩
  rcases other with ⟨others⟩
  exact congrArg TypeTable.mk htypes

theorem isMapOf_iff : IsMapOf infos table ↔ table = ofInsertions infos := by
  constructor
  · intro h
    exact h.unique (ofInsertions_isMapOf infos)
  · intro h
    rw [h]
    exact ofInsertions_isMapOf infos

theorem types_modify (hnodup : table.names.Nodup) (name : String)
    (change : TypeInfo -> TypeInfo) :
    (table.modify name change).types =
      table.types.map (fun info => if info.name = name then change info else info) := by
  rcases table with ⟨types⟩
  show modifyIn name change types = _
  induction types with
  | nil => rfl
  | cons known rest ih =>
      have hdistinct := List.nodup_cons.mp hnodup
      rw [modifyIn, List.map_cons]
      by_cases h : known.name = name
      · have hother : forall info, info ∈ rest -> info.name ≠ name := by
          intro info hinfo heq
          exact hdistinct.1 (List.mem_map.mpr ⟨info, hinfo, heq.trans h.symm⟩)
        have hrest : rest.map (fun info => if info.name = name then change info else info) =
            rest.map (fun info => info) :=
          List.map_congr_left (fun info hinfo => if_neg (hother info hinfo))
        rw [if_pos (beq_iff_eq.mpr h), if_pos h, hrest, List.map_id']
      · rw [if_neg (fun heq => h (beq_iff_eq.mp heq)), if_neg h, ih hdistinct.2]

/-- Insertions make an insertion-ordered map.  A name, qualified or not, leads to the type that was
inserted last under its last part, and an exact name to the one under itself, which is the only
one that is changed through the name.  The last part of a name is its own last part, and no
qualifier in front of a name changes it. -/
theorem ofInsertions_isMap (infos : List TypeInfo) :
    (forall table, IsMapOf infos table ↔ table = ofInsertions infos)
    ∧ (ofInsertions infos).names.Nodup
    ∧ (ofInsertions infos).types.length = (infos.map TypeInfo.name).eraseDups.length
    ∧ (forall name, (ofInsertions infos).get? name = lastNamed? infos (simpleTypeName name))
    ∧ (forall name, (ofInsertions infos).find? name = lastNamed? infos name)
    ∧ (forall name change, ((ofInsertions infos).modify name change).types =
      (ofInsertions infos).types.map
        (fun info => if info.name = name then change info else info))
    ∧ (forall name, simpleTypeName (simpleTypeName name) = simpleTypeName name)
    ∧ forall qualifier name : String, name.toList.head? ≠ some ':' ->
      simpleTypeName (qualifier ++ "::" ++ name) = simpleTypeName name := by
  refine ⟨fun table => isMapOf_iff, nodup_names_ofInsertions infos, ?_, ?_,
    find?_ofInsertions infos, types_modify (nodup_names_ofInsertions infos),
    simpleTypeName_simpleTypeName, ?_⟩
  · rw [← names_ofInsertions, names, List.length_map]
  · intro name
    exact find?_ofInsertions infos (simpleTypeName name)
  · intro qualifier name hname
    exact simpleTypeName_qualified hname qualifier

def reinserted : List TypeInfo :=
  [⟨"Group", [], [], false, [], []⟩, ⟨"User", [], [], false, [], []⟩,
    ⟨"Group", [], [], true, [], []⟩]

theorem ofInsertions_isMap_reinserted :
    (ofInsertions reinserted).get? "crate::models:: Group" =
      some ⟨"Group", [], [], true, [], []⟩
    ∧ simpleTypeName ("crate::models" ++ "::" ++ " Group") = simpleTypeName " Group" := by
  rcases ofInsertions_isMap reinserted with ⟨_, _, _, hget, _, _, _, hqualified⟩
  constructor
  · rw [hget]
    decide
  · exact hqualified "crate::models" " Group" (by decide)

example : (ofInsertions reinserted).names = ["Group", "User"] := by
  decide

end TypeTable
end PartialUpdate
