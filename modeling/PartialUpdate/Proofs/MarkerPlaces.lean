import PartialUpdate.Proofs.Clashes

/-!
# Places of methods

A diagnostic about a method is shown at the first marker of the type for that target that names
the method or names none.  The marker declares the method if it names it, or if the method is the
default one.  But where another default is configured than the method, a marker without a name
stands in the way of one behind it that names the method.
-/

namespace PartialUpdate

/-!
# Markers that declare a method
-/

namespace MarkerSpec

variable {marker : MarkerSpec} {config : GeneratorConfig} {target method : String}

structure Declares (marker : MarkerSpec) (config : GeneratorConfig) (target method : String) :
    Prop where
  target : simpleTypeName marker.targetType = target
  method : config.markerMethod marker = method

/-- The marker declares the method if only the configuration agrees. -/
structure MayDeclare (marker : MarkerSpec) (target method : String) : Prop where
  target : simpleTypeName marker.targetType = target
  method : marker.methodName = none ∨ marker.methodName = some method

theorem mayDeclare_of_declares (h : marker.Declares config target method) :
    marker.MayDeclare target method := by
  refine ⟨h.target, ?_⟩
  have hmethod := h.method
  cases hname : marker.methodName with
  | none => exact Or.inl rfl
  | some name =>
      rw [GeneratorConfig.markerMethod, hname] at hmethod
      exact Or.inr (congrArg some hmethod)

theorem declares_iff (h : marker.MayDeclare target method) :
    marker.Declares config target method ↔
      method = config.defaultMethod ∨ marker.methodName = some method := by
  have hmethod :
      config.markerMethod marker = method ↔
        method = config.defaultMethod ∨ marker.methodName = some method := by
    rcases h.method with hname | hname
    · simp [GeneratorConfig.markerMethod, hname, eq_comm]
    · simp [GeneratorConfig.markerMethod, hname]
  rw [← hmethod]
  constructor
  · exact fun hdeclares => hdeclares.method
  · exact fun hdefault => ⟨h.target, hdefault⟩

end MarkerSpec

/-!
# The first marker that may declare a method
-/

def Location.ofMethod (source target method : String) : Location :=
  { sourceType := source, targetType := some target, method := some method }

namespace StructSyntax

def placeOf (item : StructSyntax) (entry : MarkerSpec × Span) : MarkerPlace :=
  ⟨item.name.name, entry.1.targetType, entry.1.methodName, entry.2⟩

theorem declares_placeOf_iff {item : StructSyntax} {entry : MarkerSpec × Span}
    {target method : String} :
    (item.placeOf entry).declares item.name.name target method = true ↔
      entry.1.MayDeclare target method := by
  have hname : entry.1.methodName.all (fun name => name == method) = true ↔
      entry.1.methodName = none ∨ entry.1.methodName = some method := by
    cases entry.1.methodName with
    | none => simp
    | some name => simp
  simp only [MarkerPlace.declares, placeOf, beq_self_eq_true, Bool.true_and, Bool.and_eq_true,
    beq_iff_eq, hname]
  constructor
  · exact fun h => ⟨h.1, h.2⟩
  · exact fun h => ⟨h.target, h.method⟩

end StructSyntax

namespace Places

theorem exists_info_of_mem_markers {item : Item} {place : MarkerPlace}
    (h : place ∈ (ofItem item).markers) :
    exists info, item.info? = some info ∧ info.name = place.sourceType := by
  cases item with
  | struct item =>
      rcases List.mem_map.mp h with ⟨_entry, _hentry, rfl⟩
      exact ⟨_, rfl, rfl⟩
  | enumeration item => cases h
  | implementation item => cases h
  | other tokens => cases h

variable {items : List Item} {item : StructSyntax} {target method : String}

theorem find?_markers_eq_none {before after : List Item}
    (hnodup : (Item.declaredNames (before ++ .struct item :: after)).Nodup) :
    (before.flatMap (fun other => (ofItem other).markers)).find? (fun place =>
        place.declares item.name.name target method) = none := by
  rw [List.find?_eq_none]
  intro place hplace hdeclares
  rcases List.mem_flatMap.mp hplace with ⟨other, hother, hmem⟩
  rcases exists_info_of_mem_markers hmem with ⟨info, hinfo, hname⟩
  have hsource : place.sourceType = item.name.name := by
    simp only [MarkerPlace.declares, Bool.and_eq_true, beq_iff_eq] at hdeclares
    exact hdeclares.1.1
  have hsplit : Item.declaredNames (before ++ .struct item :: after) =
      Item.declaredNames before ++ item.name.name :: Item.declaredNames after := by
    simp [Item.declaredNames, Item.info?, StructSyntax.info]
  rw [hsplit] at hnodup
  refine (List.nodup_append.mp hnodup).2.2 info.name ?_ item.name.name List.mem_cons_self
    (hname.trans hsource)
  exact List.mem_map_of_mem (List.mem_filterMap.mpr ⟨other, hother, hinfo⟩)

/-- The first marker that may declare a method is sought in the type alone. -/
theorem find?_markers (hnodup : (Item.declaredNames items).Nodup)
    (hitem : Item.struct item ∈ items) {entry : MarkerSpec × Span}
    (hfound : item.markers.find? (fun entry =>
      (item.placeOf entry).declares item.name.name target method) = some entry) :
    (ofItems items).markers.find? (fun place =>
      place.declares item.name.name target method) = some (item.placeOf entry) := by
  rcases List.append_of_mem hitem with ⟨before, after, rfl⟩
  have hmarkers : (ofItems (before ++ .struct item :: after)).markers =
      before.flatMap (fun other => (ofItem other).markers) ++ (item.markers.map item.placeOf
        ++ after.flatMap (fun other => (ofItem other).markers)) := by
    rw [ofItems, List.flatMap_append, List.flatMap_append, List.flatMap_append]
    rfl
  have hown : (item.markers.map item.placeOf).find? (fun place =>
      place.declares item.name.name target method) = some (item.placeOf entry) := by
    rw [List.find?_map]
    exact congrArg (Option.map item.placeOf) hfound
  rw [hmarkers, List.find?_append, find?_markers_eq_none hnodup, Option.none_or,
    List.find?_append, hown, Option.some_or]

theorem exists_first {entry : MarkerSpec × Span} (hentry : entry ∈ item.markers)
    (hmay : entry.1.MayDeclare target method) :
    exists front first back, item.markers = front ++ first :: back
      ∧ (forall earlier, earlier ∈ front -> ¬ earlier.1.MayDeclare target method)
      ∧ first.1.MayDeclare target method
      ∧ item.markers.find? (fun entry =>
          (item.placeOf entry).declares item.name.name target method) = some first := by
  cases hfound : item.markers.find? (fun entry =>
      (item.placeOf entry).declares item.name.name target method) with
  | none =>
      rw [List.find?_eq_none] at hfound
      exact absurd (StructSyntax.declares_placeOf_iff.mpr hmay) (hfound entry hentry)
  | some first =>
      rcases List.find?_eq_some_iff_append.mp hfound with ⟨hfirst, front, back, hsplit, hfront⟩
      refine ⟨front, first, back, hsplit, ?_, StructSyntax.declares_placeOf_iff.mp hfirst, rfl⟩
      intro earlier hearlier hdeclares
      have hnot := hfront earlier hearlier
      rw [StructSyntax.declares_placeOf_iff.mpr hdeclares] at hnot
      cases hnot

/-- The method is shown at a marker of the type that declares it. -/
def PointsAt (places : Places) (item : StructSyntax) (config : GeneratorConfig)
    (target method : String) : Prop :=
  exists marker,
    (marker, places.spanOf (Location.ofMethod item.name.name target method)) ∈ item.markers
      ∧ marker.Declares config target method

theorem spanOf_method {reading : Reading} (hread : Reading.ofItems items = .ok reading)
    (hnodup : (Item.declaredNames items).Nodup) (hitem : Item.struct item ∈ items)
    (config : GeneratorConfig) {entry : MarkerSpec × Span} (hentry : entry ∈ item.markers)
    (hdeclares : entry.1.Declares config target method) :
    exists front first back, item.markers = front ++ first :: back
      ∧ (forall earlier, earlier ∈ front -> ¬ earlier.1.MayDeclare target method)
      ∧ first.1.MayDeclare target method
      ∧ reading.places.spanOf (Location.ofMethod item.name.name target method) = first.2
      ∧ (method = config.defaultMethod ∨ first.1.methodName = some method ->
          reading.places.PointsAt item config target method)
      ∧ ((item.markers.map Prod.snd).Nodup ->
          reading.places.PointsAt item config target method ->
          method = config.defaultMethod ∨ first.1.methodName = some method) := by
  rcases (Reading.ofItems_eq_ok_iff.mp hread) with ⟨_hnone, rfl⟩
  rcases exists_first hentry (MarkerSpec.mayDeclare_of_declares hdeclares) with
    ⟨front, first, back, hsplit, hfront, hfirst, hfound⟩
  have hmem : first ∈ item.markers := by
    rw [hsplit]
    exact List.mem_append_right front List.mem_cons_self
  have hspan : (ofItems items).spanOf (Location.ofMethod item.name.name target method) =
      first.2 := by
    have hmarker :
        (ofItems items).marker? (Location.ofMethod item.name.name target method) =
          some first.2 :=
      congrArg (Option.map MarkerPlace.span) (find?_markers hnodup hitem hfound)
    rw [spanOf, hmarker]
    rfl
  refine ⟨front, first, back, hsplit, hfront, hfirst, hspan, ?_, ?_⟩
  · intro hnamed
    refine ⟨first.1, ?_, (MarkerSpec.declares_iff hfirst).mpr hnamed⟩
    rw [hspan]
    exact hmem
  · intro hplaces hpoints
    rcases hpoints with ⟨marker, hmarker, hmethod⟩
    rw [hspan] at hmarker
    have hsame : (marker, first.2) = first :=
      List.inj_on_of_nodup_map hplaces hmarker hmem rfl
    rw [← hsame] at hfirst ⊢
    exact (MarkerSpec.declares_iff hfirst).mp hmethod

end Places

/-!
# A marker in the way
-/

def Item.markers? : Item -> Option (String × List (MarkerSpec × Span))
  | .struct item => some (item.name.name, item.markers)
  | .enumeration _ | .implementation _ | .other _ => none

namespace Places

/-- The first marker takes the default method, the second one names its own. -/
def hidingText : String :=
  "pub struct User \x7b pub age: u8 \x7d #[update(target = User)] "
    ++ "#[update(target = User, method = r\"rename\")] pub struct Patch \x7b pub age: u8 \x7d"

def hidingMarkers : List (MarkerSpec × Span) := [
  ({ targetType := "User" }, ⟨⟨1, 32⟩, ⟨1, 56⟩⟩),
  ({ targetType := "User", methodName := some "rename" }, ⟨⟨1, 57⟩, ⟨1, 101⟩⟩)]

theorem file_hidingText :
    (Syntax.file hidingText).toOption.any (fun parsed =>
      (parsed.2.filterMap Item.error?).isEmpty
        && decide (Item.declaredNames parsed.2 = ["User", "Patch"])
        && decide (parsed.2.filterMap Item.markers? = [("User", []), ("Patch", hidingMarkers)])
        && decide ((ofItems parsed.2).spanOf (Location.ofMethod "Patch" "User" "rename") =
            ⟨⟨1, 32⟩, ⟨1, 56⟩⟩)) = true := by
  decide +kernel

theorem exists_items_hidingText :
    exists attributes items item reading,
      Syntax.file hidingText = .ok (attributes, items) ∧ Reading.ofItems items = .ok reading
      ∧ (Item.declaredNames items).Nodup ∧ Item.struct item ∈ items
      ∧ item.name.name = "Patch" ∧ item.markers = hidingMarkers
      ∧ reading.places.spanOf (Location.ofMethod "Patch" "User" "rename") =
          ⟨⟨1, 32⟩, ⟨1, 56⟩⟩ := by
  rcases exists_of_any_toOption file_hidingText with ⟨⟨attributes, items⟩, hfile, hchecked⟩
  simp only [Bool.and_eq_true, decide_eq_true_eq, List.isEmpty_iff] at hchecked
  rcases hchecked with ⟨⟨⟨hnone, hnames⟩, hmarkers⟩, hspan⟩
  have hnodup : (Item.declaredNames items).Nodup := by
    rw [hnames]
    decide
  have hpatch : ("Patch", hidingMarkers) ∈ items.filterMap Item.markers? := by
    rw [hmarkers]
    exact List.mem_cons_of_mem _ List.mem_cons_self
  rcases List.mem_filterMap.mp hpatch with ⟨other, hother, hitem⟩
  cases other with
  | struct item =>
      rcases Prod.mk.inj (Option.some.inj hitem) with ⟨hname, hwritten⟩
      exact ⟨attributes, items, item, _, hfile, Reading.ofItems_eq_ok_iff.mpr ⟨hnone, rfl⟩,
        hnodup, hother, hname, hwritten, hspan⟩
  | enumeration item => cases hitem
  | implementation item => cases hitem
  | other tokens => cases hitem

/-- The method is shown at the marker of another one. -/
theorem not_pointsAt_hidingText :
    exists attributes items item reading entry,
      Syntax.file hidingText = .ok (attributes, items) ∧ Reading.ofItems items = .ok reading
      ∧ (Item.declaredNames items).Nodup ∧ Item.struct item ∈ items
      ∧ entry ∈ item.markers ∧ entry.1.Declares {} "User" "rename"
      ∧ ¬ reading.places.PointsAt item {} "User" "rename" := by
  rcases exists_items_hidingText with
    ⟨attributes, items, item, reading, hfile, hread, hnodup, hitem, hname, hmarkers, hspan⟩
  have hentry :
      ({ targetType := "User", methodName := some "rename" }, ⟨⟨1, 57⟩, ⟨1, 101⟩⟩) ∈
        item.markers := by
    rw [hmarkers]
    exact List.mem_cons_of_mem _ List.mem_cons_self
  refine ⟨attributes, items, item, reading, _, hfile, hread, hnodup, hitem, hentry,
    ⟨by decide +kernel, rfl⟩, ?_⟩
  intro hpoints
  rcases hpoints with ⟨marker, hmarker, hdeclares⟩
  rw [hname, hspan, hmarkers] at hmarker
  have hnameless : marker = { targetType := "User" } := by
    simpa [hidingMarkers] using hmarker
  have hmethod := hdeclares.method
  rw [hnameless] at hmethod
  exact absurd hmethod (by decide)

theorem spanOf_method_hidingText :
    exists attributes items item reading,
      Syntax.file hidingText = .ok (attributes, items) ∧ Reading.ofItems items = .ok reading
      ∧ (Item.declaredNames items).Nodup ∧ Item.struct item ∈ items
      ∧ item.name.name = "Patch" ∧ (item.markers.map Prod.snd).Nodup
      ∧ reading.places.PointsAt item {} "User" "to_update" := by
  rcases exists_items_hidingText with
    ⟨attributes, items, item, reading, hfile, hread, hnodup, hitem, hname, hmarkers, _hspan⟩
  have hentry : ({ targetType := "User" }, ⟨⟨1, 32⟩, ⟨1, 56⟩⟩) ∈ item.markers := by
    rw [hmarkers]
    exact List.mem_cons_self
  have hdeclares : MarkerSpec.Declares { targetType := "User" } {} "User" "to_update" :=
    ⟨by decide +kernel, rfl⟩
  rcases spanOf_method hread hnodup hitem {} hentry hdeclares with
    ⟨_front, _first, _back, _hsplit, _hfront, _hfirst, _hspan, hpoints, _hexact⟩
  refine ⟨attributes, items, item, reading, hfile, hread, hnodup, hitem, hname, ?_,
    hpoints (Or.inl rfl)⟩
  rw [hmarkers]
  decide

end Places
end PartialUpdate
