import PartialUpdate.Metadata.Format
import PartialUpdate.Proofs.Json.Decode

/-!
# Tables read back

A type table that is written as JSON is read as the same table.
-/

namespace PartialUpdate

open Json (Encodes encodes_bool encodes_string encodes_ofOption encodes_ofList encodes_record)

/-!
# Specs
-/

theorem CollectionHandling.encodes_toJson (handling : CollectionHandling) :
    Encodes CollectionHandling.ofJson handling handling.toJson := by
  refine ⟨.string _, ?_⟩
  cases handling with
  | set => rfl
  | addToSet => rfl
  | push => rfl
  | pullAll => rfl

theorem MarkerSpec.encodes_toJson (spec : MarkerSpec) :
    Encodes MarkerSpec.ofJson spec spec.toJson := by
  have htarget := encodes_string spec.targetType
  have hmethod := encodes_ofOption encodes_string nofun spec.methodName
  have hunmarked := encodes_ofOption encodes_bool nofun spec.ignoreUnmarked
  have hextensible := encodes_ofOption encodes_bool nofun spec.extensibleTargetRequired
  have hnested := encodes_ofOption encodes_string nofun spec.nestedPath
  apply encodes_record
  · exact .cons (htarget.fits _ _) <| .cons (hmethod.fits _ _) <| .cons (hunmarked.fits _ _) <|
      .cons (hextensible.fits _ _) <| .cons (hnested.fits _ _) .nil
  · decide
  · exact htarget.required rfl <| hmethod.optional rfl <| hunmarked.optional rfl <|
      hextensible.optional rfl <| hnested.optional rfl rfl

theorem PropertySpec.encodes_toJson (spec : PropertySpec) :
    Encodes PropertySpec.ofJson spec spec.toJson := by
  have htarget := encodes_ofOption encodes_string nofun spec.targetName
  have hmethod := encodes_ofOption encodes_string nofun spec.methodName
  have hnull := encodes_ofOption encodes_bool nofun spec.ignoreNull
  have hempty := encodes_ofOption encodes_bool nofun spec.ignoreEmpty
  have hcollection :=
    encodes_ofOption CollectionHandling.encodes_toJson nofun spec.collectionHandling
  have hall := encodes_ofOption encodes_bool nofun spec.applyToAllMethods
  have hstring := encodes_ofOption encodes_bool nofun spec.useStringEmpty
  have harray := encodes_ofOption encodes_bool nofun spec.isSourceArray
  have hexpression := encodes_ofOption encodes_string nofun spec.expression
  apply encodes_record
  · exact .cons (htarget.fits _ _) <| .cons (hmethod.fits _ _) <| .cons (hnull.fits _ _) <|
      .cons (hempty.fits _ _) <| .cons (hcollection.fits _ _) <| .cons (hall.fits _ _) <|
      .cons (hstring.fits _ _) <| .cons (harray.fits _ _) <| .cons (hexpression.fits _ _) .nil
  · decide
  · exact htarget.optional rfl <| hmethod.optional rfl <| hnull.optional rfl <|
      hempty.optional rfl <| hcollection.optional rfl <| hall.optional rfl <|
      hstring.optional rfl <| harray.optional rfl <| hexpression.optional rfl rfl

/-!
# Member types
-/

theorem TypeKind.jsonMembers_named (kind : TypeKind) (member : String × Json)
    (hmember : member ∈ kind.jsonMembers) : member.1 = "kind" ∨ member.1 = "of" := by
  cases kind with
  | _ =>
      simp only [TypeKind.jsonMembers, List.mem_cons, List.not_mem_nil, or_false] at hmember
      rcases hmember with rfl | rfl <;> simp

theorem TypeKind.filter_members (kind : TypeKind) (nullable : Bool) :
    (Json.textMembers
        (Json.spelledMembers (("nullable", .bool nullable) :: kind.jsonMembers))).filter
      (fun member => member.1 == "kind" || member.1 == "of") = kind.jsonMembers := by
  rw [Json.textMembers_spelledMembers, List.filter_cons_of_neg, List.filter_eq_self]
  · intro member hmember
    rcases kind.jsonMembers_named member hmember with hname | hname <;> rw [hname] <;> rfl
  · simp

theorem TypeRef.checkMembers_rest {depth : Nat} (nullable : Option Bool)
    {members : List (String × Json)}
    (hnamed : forall member, member ∈ members -> member.1 = "kind" ∨ member.1 = "of")
    (hread : forall member, member ∈ members -> Json.firstFault depth member.2 = none) :
    TypeRef.checkMembers depth nullable (Json.spelledMembers members) = .ok nullable := by
  induction members with
  | nil => rfl
  | cons member more ih =>
      have hother : (member.1 == "nullable") = false := by
        rcases hnamed member List.mem_cons_self with hname | hname <;> rw [hname] <;> rfl
      have hmore :=
        ih (fun other hmem => hnamed other (List.mem_cons_of_mem _ hmem))
          (fun other hmem => hread other (List.mem_cons_of_mem _ hmem))
      rw [Json.spelledMembers_cons, TypeRef.checkMembers]
      simp only [Json.asName, hother, hread member List.mem_cons_self, Json.noFault, bind,
        Except.bind]
      exact hmore

mutual

theorem TypeRef.isPlain_toJson (type : TypeRef) : Json.IsPlain type.toJson := by
  cases type with
  | mk nullable kind =>
      apply Json.IsPlain.ofMembers
      intro member hmember
      rcases List.mem_cons.mp hmember with rfl | hmember
      · exact .bool nullable
      · exact TypeKind.isPlain_jsonMembers kind member hmember

theorem TypeKind.isPlain_jsonMembers (kind : TypeKind) :
    forall member, member ∈ kind.jsonMembers -> Json.IsPlain member.2 := by
  have htagged (tag : String) {content : Json} (hcontent : content.IsPlain) :
      forall member : String × Json,
        member ∈ [("kind", Json.string tag), ("of", content)] -> Json.IsPlain member.2 :=
    List.forall_mem_cons.mpr ⟨.string tag, List.forall_mem_singleton.mpr hcontent⟩
  cases kind with
  | scalar name => exact htagged "scalar" (.string name)
  | text => exact List.forall_mem_singleton.mpr (.string "string")
  | sequence element => exact htagged "sequence" (TypeRef.isPlain_toJson element)
  | map value => exact htagged "map" (TypeRef.isPlain_toJson value)
  | named name => exact htagged "named" (.string name)
  | unclassified text => exact htagged "opaque" (.string text)

end

def TypeKind.nesting (kind : TypeKind) : Nat :=
  Json.nestingOfMembers (Json.spelledMembers kind.jsonMembers)

theorem TypeRef.nesting_toJson (nullable : Bool) (kind : TypeKind) :
    (TypeRef.toJson ⟨nullable, kind⟩).nesting = kind.nesting + 1 := by
  show max 0 kind.nesting + 1 = _
  rw [Nat.zero_max]

theorem TypeKind.nesting_tagged (tag : String) (content : Json) :
    Json.nestingOfMembers (Json.spelledMembers [("kind", .string tag), ("of", content)]) =
      content.nesting := by
  show max 0 (max content.nesting 0) = _
  rw [Nat.zero_max, Nat.max_zero]

mutual

theorem TypeRef.ofJsonWithin_toJson (type : TypeRef) (fuel depth : Nat)
    (hfuel : 3 * type.toJson.nesting <= fuel)
    (hdepth : depth + type.toJson.nesting <= Json.depthLimit) :
    TypeRef.ofJsonWithin fuel depth type.toJson = .ok type := by
  cases type with
  | mk nullable kind =>
      rw [TypeRef.nesting_toJson] at hfuel hdepth
      rcases Nat.exists_eq_add_of_le' (show 1 <= fuel by omega) with ⟨spare, rfl⟩
      have hkind := TypeKind.kindWithin_jsonMembers kind spare (depth + 1) (by omega) (by omega)
      have hread :
          forall member, member ∈ kind.jsonMembers ->
            Json.firstFault (depth + 1) member.2 = none := by
        intro member hmember
        have hlt := Json.nesting_member_lt hmember
        have hnesting : (Json.ofMembers kind.jsonMembers).nesting = kind.nesting + 1 := rfl
        exact Json.firstFault_eq_none (TypeKind.isPlain_jsonMembers kind member hmember) (by omega)
      have hcheck :
          TypeRef.checkMembers (depth + 1) none
              (Json.spelledMembers (("nullable", .bool nullable) :: kind.jsonMembers)) =
            .ok (some nullable) :=
        TypeRef.checkMembers_rest (some nullable) kind.jsonMembers_named hread
      show TypeRef.ofJsonWithin (spare + 1) depth
          (.object (Json.spelledMembers (("nullable", .bool nullable) :: kind.jsonMembers)) none) = _
      rw [TypeRef.ofJsonWithin, hcheck, kind.filter_members nullable, Json.noFault]
      show TypeRef.kindWithin spare (depth + 1) kind.jsonMembers >>= _ = _
      rw [hkind]
      rfl

theorem TypeKind.kindWithin_jsonMembers (kind : TypeKind) (fuel depth : Nat)
    (hfuel : 3 * kind.nesting + 2 <= fuel) (hdepth : depth + kind.nesting <= Json.depthLimit) :
    TypeRef.kindWithin fuel depth kind.jsonMembers = .ok kind := by
  rcases Nat.exists_eq_add_of_le' (show 2 <= fuel by omega) with ⟨spare, rfl⟩
  cases kind with
  | scalar name => rfl
  | text => rfl
  | sequence element =>
      have hnesting : (TypeKind.sequence element).nesting = element.toJson.nesting :=
        TypeKind.nesting_tagged "sequence" element.toJson
      have helement :=
        TypeRef.ofJsonWithin_toJson element spare depth (by omega) (by omega)
      show (TypeKind.sequence <$> TypeRef.ofJsonWithin spare depth element.toJson) >>= _ = _
      rw [helement]
      rfl
  | map value =>
      have hnesting : (TypeKind.map value).nesting = value.toJson.nesting :=
        TypeKind.nesting_tagged "map" value.toJson
      have hvalue := TypeRef.ofJsonWithin_toJson value spare depth (by omega) (by omega)
      show (TypeKind.map <$> TypeRef.ofJsonWithin spare depth value.toJson) >>= _ = _
      rw [hvalue]
      rfl
  | named name => rfl
  | unclassified text => rfl

end

theorem TypeRef.encodes_toJson (type : TypeRef)
    (h : TypeRef.enclosingContainers + type.toJson.nesting <= Json.depthLimit) :
    Encodes TypeRef.ofJson type type.toJson := by
  refine ⟨TypeRef.isPlain_toJson type, ?_⟩
  apply TypeRef.ofJsonWithin_toJson type _ _ _ h
  omega

/-!
# Members, types and tables
-/

theorem MemberInfo.encodes_toJson (member : MemberInfo)
    (h : TypeRef.enclosingContainers + member.type.toJson.nesting <= Json.depthLimit) :
    Encodes MemberInfo.ofJson member member.toJson := by
  have hname := encodes_string member.name
  have hstored := encodes_string member.storedName
  have htype := TypeRef.encodes_toJson member.type h
  have hpublic := encodes_bool member.isPublic
  have hskipped := encodes_bool member.skipped
  have hexcluded := encodes_bool member.excluded
  have hspecs := encodes_ofList (fun spec (_ : spec ∈ member.specs) => spec.encodes_toJson)
  apply encodes_record
  · exact .cons (hname.fits _ _) <| .cons (hstored.fits _ _) <| .cons (htype.fits _ _) <|
      .cons (hpublic.fits _ _) <| .cons (hskipped.fits _ _) <| .cons (hexcluded.fits _ _) <|
      .cons (hspecs.fits _ _) .nil
  · decide
  · exact hname.required rfl <| hstored.required rfl <| htype.required rfl <|
      hpublic.optional rfl <| hskipped.optional rfl <| hexcluded.optional rfl <|
      hspecs.optional rfl rfl

theorem TypeInfo.encodes_toJson (info : TypeInfo)
    (h : forall member, member ∈ info.members ->
      TypeRef.enclosingContainers + member.type.toJson.nesting <= Json.depthLimit) :
    Encodes TypeInfo.ofJson info info.toJson := by
  have hname := encodes_string info.name
  have hmembers :=
    encodes_ofList (fun member hmember => MemberInfo.encodes_toJson member (h member hmember))
  have hmethods := encodes_ofList (fun method (_ : method ∈ info.methods) => encodes_string method)
  have hextensible := encodes_bool info.extensible
  have hmarkers := encodes_ofList (fun marker (_ : marker ∈ info.markers) => marker.encodes_toJson)
  have hspecs := encodes_ofList (fun spec (_ : spec ∈ info.typeSpecs) => spec.encodes_toJson)
  apply encodes_record
  · exact .cons (hname.fits _ _) <| .cons (hmembers.fits _ _) <| .cons (hmethods.fits _ _) <|
      .cons (hextensible.fits _ _) <| .cons (hmarkers.fits _ _) <| .cons (hspecs.fits _ _) .nil
  · decide
  · exact hname.required rfl <| hmembers.optional rfl <| hmethods.optional rfl <|
      hextensible.optional rfl <| hmarkers.optional rfl <| hspecs.optional rfl rfl

namespace TypeTable

/-- The list of types, a type, its list of members and a member stand around a member type. -/
theorem nesting_type_le (table : TypeTable) {info : TypeInfo} (hinfo : info ∈ table.types)
    {member : MemberInfo} (hmember : member ∈ info.members) :
    TypeRef.enclosingContainers + member.type.toJson.nesting <= table.toJson.nesting := by
  have htype : ("ty", member.type.toJson).2.nesting < member.toJson.nesting := by
    apply Json.nesting_member_lt
    simp
  have hmember :
      member.toJson.nesting < (Json.ofList (info.members.map MemberInfo.toJson)).nesting :=
    Json.nesting_item_lt (List.mem_map_of_mem hmember)
  have hmembers :
      ("members", Json.ofList (info.members.map MemberInfo.toJson)).2.nesting <
        info.toJson.nesting := by
    apply Json.nesting_member_lt
    simp
  have hinfo : info.toJson.nesting < table.toJson.nesting :=
    Json.nesting_item_lt (List.mem_map_of_mem hinfo)
  simp only at htype hmembers
  rw [TypeRef.enclosingContainers]
  omega

theorem encodes_toJson (table : TypeTable) (h : table.toJson.nesting <= Json.depthLimit) :
    Encodes ofJson table table.toJson := by
  have htypes : Encodes (Json.asList TypeInfo.ofJson) table.types table.toJson := by
    apply encodes_ofList
    intro info hinfo
    apply TypeInfo.encodes_toJson
    intro member hmember
    exact Nat.le_trans (table.nesting_type_le hinfo hmember) h
  refine ⟨htypes.plain, ?_⟩
  rw [ofJson, htypes.decoded]
  rfl

/-- A table is read back from its text as long as no more containers stand in one another than
a reader follows. -/
theorem ofText_toText (table : TypeTable) (h : table.toJson.nesting < 128) :
    ofText table.toText = .ok table := by
  have htable := table.encodes_toJson (Nat.le_of_lt_succ h)
  rw [ofText, toText, Json.decodeText_pretty ofJson htable.plain]
  exact htable.decoded

/-- Collections in one another, strings with escapes, and options that are set or left out. -/
def nestedTable : TypeTable where
  types := [
    { name := "Straße\"\\"
      members := [
        { name := "tags\n\t"
          storedName := "\x00\x1f\u2028"
          type := (TypeRef.sequence (TypeRef.map TypeRef.text.optional)).optional
          specs := [{ targetName := some "", collectionHandling := some .pullAll }] },
        { name := "", storedName := "😀", type := .unclassified "[u8; 4]", isPublic := true }]
      methods := ["update", "update"]
      markers := [{ targetType := "User", ignoreUnmarked := some true, nestedPath := some "a[$]" }]
      typeSpecs := [{ isSourceArray := some true, expression := some "self.len()" }] },
    { name := "User", extensible := true }]

theorem ofText_toText_nestedTable :
    nestedTable.toJson.nesting < 128 ∧ ofText nestedTable.toText = .ok nestedTable :=
  ⟨by decide, ofText_toText nestedTable (by decide)⟩

end TypeTable
end PartialUpdate
