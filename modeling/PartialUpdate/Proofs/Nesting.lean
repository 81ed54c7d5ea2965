import PartialUpdate.Proofs.TargetPath.Grammar
import PartialUpdate.Proofs.Visits

/-!
# Nested paths

A marker with a nested path starts all of its paths in an element of the target type.  Each of
them leads where the nested path and the path itself, joined by a dot, lead from the target type.
-/

namespace PartialUpdate

/-!
# Paths below a nested path
-/

namespace PathPrefix

variable {table : TypeTable} {owner : TypeInfo} {outer inner : String} {target : ResolvedTarget}

theorem exists_ofNested_target_iff (houter : Text.trim outer.toList = outer.toList)
    (hinner : Text.trim inner.toList = inner.toList)
    (hindexed : forall path, TargetPath.parse outer = .ok path -> path.endsWithIndex = true) :
    (exists start, ofNested table owner outer = .ok start
        ∧ start.target table inner = .ok target) ↔
      PathPrefix.target table ⟨[], owner⟩ (outer ++ "." ++ inner) = .ok target := by
  simp only [ofNested_eq_ok_iff, target_eq_ok_iff,
    TargetPath.parse_joined_eq_ok_iff houter hinner, List.nil_append]
  constructor
  · rintro ⟨start, ⟨front, frontSteps, type, hfront, _hindex, hvisits, hopens, hstart⟩,
      back, backSteps, hback, hvisits', hpath⟩
    refine ⟨⟨front.segments ++ back.segments⟩, frontSteps ++ backSteps,
      ⟨front, back, hfront, hback, rfl⟩, hvisits.append hopens hvisits', ?_⟩
    rw [hpath, hstart, List.flatMap_append]
  · rintro ⟨path, steps, ⟨front, back, hfront, hback, hsegments⟩, hvisits, hpath⟩
    rw [hsegments] at hvisits
    rcases hvisits.exists_of_append (TargetPath.segments_ne_nil hfront)
        (TargetPath.segments_ne_nil hback) with
      ⟨frontSteps, backSteps, type, next, hbefore, hopens, hbelow, rfl⟩
    refine ⟨⟨frontSteps.flatMap Walk.Step.parts, next⟩,
      ⟨front, frontSteps, type, hfront, hindexed front hfront, hbefore, hopens, rfl⟩,
      back, backSteps, hback, hbelow, ?_⟩
    rw [hpath, List.flatMap_append]

end PathPrefix

/-!
# Bindings below a nested path
-/

namespace Resolution

/-- A binding below a nested path has a target exactly if the joined path has one from the target
type itself, and it is the same one. -/
theorem resolve_nested_iff {source other : TypeInfo} {table : TypeTable}
    {config otherConfig : GeneratorConfig} {nesting direct : MarkerSpec}
    {below joined : ResolvedBinding} {outer inner : String}
    (hbelow : BindsUnder source table config nesting below inner)
    (hjoined : BindsUnder other table otherConfig direct joined (outer ++ "." ++ inner))
    (hnesting : nesting.nestedPath = some outer) (hdirect : direct.nestedPath = none)
    (htarget : simpleTypeName direct.targetType = simpleTypeName nesting.targetType)
    (houter : Text.trim outer.toList = outer.toList)
    (hinner : Text.trim inner.toList = inner.toList)
    (hindexed : forall path, TargetPath.parse outer = .ok path -> path.endsWithIndex = true)
    (target : ResolvedTarget) :
    below.target = .ok target ↔ joined.target = .ok target := by
  rw [hbelow.target_eq_ok_iff, hjoined.target_eq_ok_iff]
  simp only [MarkerSpec.Resolves, PathPrefix.ofMarker_eq_ok_iff, hnesting, hdirect, htarget]
  constructor
  · rintro ⟨start, ⟨owner, howner, hstart⟩, hfound⟩
    rcases hstart with ⟨hnone, _⟩ | ⟨nested, hnested, hstart⟩
    · cases hnone
    · cases hnested
      exact ⟨⟨[], owner⟩, ⟨owner, howner, .inl ⟨trivial, rfl⟩⟩,
        (PathPrefix.exists_ofNested_target_iff houter hinner hindexed).mp ⟨start, hstart, hfound⟩⟩
  · rintro ⟨start, ⟨owner, howner, hstart⟩, hfound⟩
    rcases hstart with ⟨_, rfl⟩ | ⟨nested, hnested, _⟩
    · rcases (PathPrefix.exists_ofNested_target_iff houter hinner hindexed).mpr hfound with
        ⟨start, hstart, hfound⟩
      exact ⟨start, ⟨owner, howner, .inr ⟨outer, rfl, hstart⟩⟩, hfound⟩
    · cases hnested

/-!
A gallery with rooms, in them walls, and on these a label, written once from the wall and once
from the gallery.
-/

def gallery : TypeTable where
  types :=
    [{ name := "Gallery"
       members := [{ MemberInfo.plain "rooms" (.sequence (.named "Room")) with
         storedName := "Rooms" }] },
      { name := "Room", members := [.plain "walls" (.sequence (.named "Wall"))] },
      { name := "Wall", members := [.plain "label" (.named "Label")] },
      { name := "Label"
        members := [{ MemberInfo.plain "text" .text with storedName := "t" }] }]

def wallMarker : MarkerSpec where
  targetType := "Gallery"
  nestedPath := some "rooms[07].walls[hit]"

def galleryMarker : MarkerSpec where
  targetType := "crate::Gallery"

def labelSource (marker : MarkerSpec) (written : String) : TypeInfo where
  name := "Relabel"
  members := [{ MemberInfo.plain "text" .text with specs := [{ targetName := some written }] }]
  markers := [marker]

def labelBinding (written : String) : ResolvedBinding where
  order := 0
  source := .property "text" .text
  spec := { targetName := some written }
  options := ⟨true, true, .set, true, false⟩
  target := .ok ⟨"Rooms.7.walls.$[hit].label.t", .text⟩
  location :=
    { sourceType := "Relabel", member := some "text", targetType := some "Gallery",
      method := some "to_update" }

theorem bindsUnder_wall :
    BindsUnder (labelSource wallMarker "label.text") gallery {} wallMarker
      (labelBinding "label.text") "label.text" :=
  ⟨0, _, rfl, rfl, List.mem_singleton_self _, rfl⟩

def labelPath : String := "rooms[07].walls[hit]" ++ "." ++ "label.text"

theorem bindsUnder_gallery :
    BindsUnder (labelSource galleryMarker labelPath) gallery {} galleryMarker
      (labelBinding labelPath) labelPath :=
  ⟨0, _, rfl, rfl, List.mem_singleton_self _, rfl⟩

theorem resolve_nested_iff_gallery :
    BindsUnder (labelSource wallMarker "label.text") gallery {} wallMarker
        (labelBinding "label.text") "label.text"
      ∧ BindsUnder (labelSource galleryMarker labelPath) gallery {} galleryMarker
          (labelBinding labelPath) labelPath
      ∧ (labelBinding labelPath).target = .ok ⟨"Rooms.7.walls.$[hit].label.t", .text⟩ := by
  have hindexed : forall path, TargetPath.parse "rooms[07].walls[hit]" = .ok path ->
      path.endsWithIndex = true := by
    intro path hpath
    cases hpath
    rfl
  have hfound : (labelBinding "label.text").target =
      .ok ⟨"Rooms.7.walls.$[hit].label.t", .text⟩ := rfl
  refine ⟨bindsUnder_wall, bindsUnder_gallery, ?_⟩
  exact (resolve_nested_iff bindsUnder_wall bindsUnder_gallery rfl rfl rfl (by decide) (by decide)
    hindexed _).mp hfound

end Resolution
end PartialUpdate
