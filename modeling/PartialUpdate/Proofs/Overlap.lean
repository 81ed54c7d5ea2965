import PartialUpdate.Proofs.Bindings
import PartialUpdate.Proofs.Repetition
import PartialUpdate.Proofs.Text
import PartialUpdate.Proofs.Visits

/-!
# Writes that overlap

No method of an analysis writes a path twice.  A method may still write a field and something
inside of it: paths are compared as a whole, and one that goes on below another is a different
path.  Where stored names hold no dots, this takes a declared path of more than one step.
-/

namespace PartialUpdate

/-!
# Dotted paths
-/

namespace Text

variable {separator : Char}

theorem length_pieces (separator : Char) (text : List Char) :
    (pieces separator text).length = text.count separator + 1 := by
  induction text with
  | nil => rfl
  | cons c rest ih =>
      by_cases hc : c = separator
      · rw [hc, pieces_cons_separator, List.length_cons, ih, List.count_cons_self]
      · cases hrest : pieces separator rest with
        | nil => exact absurd hrest (pieces_ne_nil separator rest)
        | cons piece more =>
            rw [hrest] at ih
            rw [pieces_cons_of_ne hc hrest, List.length_cons, List.count_cons_of_ne hc, ← ih,
              List.length_cons]

theorem intercalate_append {front back : List (List Char)} (hback : back ≠ []) :
    [separator].intercalate (front ++ back) =
      front.flatMap (fun part => part ++ [separator]) ++ [separator].intercalate back := by
  induction front with
  | nil => rfl
  | cons part more ih =>
      cases hmore : more ++ back with
      | nil => exact absurd (List.append_eq_nil_iff.mp hmore).2 hback
      | cons next rest =>
          rw [hmore] at ih
          rw [List.cons_append, hmore, List.intercalate_cons_cons, ih, List.flatMap_cons,
            List.append_assoc, List.append_assoc, List.append_assoc]

end Text

namespace StoredPath

def segments (path : String) : List (List Char) :=
  Text.pieces '.' path.toList

/-- The second path leads to the field of the first, or to something inside of it. -/
def Covers (outer inner : String) : Prop :=
  segments outer <+: segments inner

def Overlap (a b : String) : Prop :=
  Covers a b ∨ Covers b a

theorem eq_of_segments_eq {a b : String} (h : segments a = segments b) : a = b := by
  have hjoined (path : String) : ['.'].intercalate (segments path) = path.toList :=
    Text.intercalate_pieces path.toList
  apply String.toList_inj.mp
  rw [← hjoined a, ← hjoined b, h]

theorem eq_of_covers {outer inner : String} (h : Covers outer inner)
    (hdots : inner.toList.count '.' ≤ outer.toList.count '.') : outer = inner := by
  apply eq_of_segments_eq
  apply h.eq_of_length_le
  rw [segments, segments, Text.length_pieces, Text.length_pieces]
  exact Nat.add_le_add_right hdots 1

theorem count_append (start : List String) {parts : List String} (hparts : parts ≠ []) :
    ((".".intercalate (start ++ parts)).toList).count '.' =
      (start.flatMap (fun part => part.toList ++ ['.'])).count '.'
        + ((".".intercalate parts).toList).count '.' := by
  have hdot : ".".toList = ['.'] := rfl
  have hmapped : parts.map String.toList ≠ [] := by
    simpa using hparts
  rw [String.toList_intercalate, String.toList_intercalate, hdot, List.map_append,
    Text.intercalate_append hmapped, List.count_append, List.flatMap_map]

end StoredPath

/-!
# Written paths
-/

namespace TargetPath

/-- The path names one member and no element of it. -/
def IsDirect (path : TargetPath) : Prop :=
  exists member, path.segments = [⟨member, none⟩]

end TargetPath

namespace TypeTable

def HasPlainNames (table : TypeTable) : Prop :=
  forall info, info ∈ table.types -> forall member, member ∈ info.members ->
    '.' ∉ member.storedName.toList

end TypeTable

/-!
# Bindings and the slots that they come from
-/

namespace UpdateMethod

/-- No two bindings write paths of which one covers the other. -/
def WritesApart (method : UpdateMethod) : Prop :=
  method.bindings.Pairwise (fun a b => ¬ StoredPath.Overlap a.target.path b.target.path)

end UpdateMethod

namespace UpdateMethod.Keeps

variable {source : TypeInfo} {table : TypeTable} {config : GeneratorConfig} {marker : MarkerSpec}
variable {method : UpdateMethod}

theorem exists_slot (h : method.Keeps (Resolution.method source table config marker))
    {binding : PropertyBinding} (hmem : binding ∈ method.bindings) :
    exists slot, (Slot.ofSource source)[binding.order]? = some slot
      ∧ Resolution.slotTarget table (PathPrefix.ofMarker table marker) slot =
          .ok binding.target := by
  rcases List.mem_iff_getElem.mp hmem with ⟨i, hi, rfl⟩
  have hi' : i < (Resolution.method source table config marker).bindings.length := by
    rw [← h.bindings.length_eq]
    exact hi
  have hdescribes := h.bindings.get hi hi'
  have hresolved := List.getElem_mem hi'
  rcases List.mem_map.mp hresolved with ⟨⟨slot, order⟩, hplace, heq⟩
  have hslot := List.mem_zipIdx_iff_getElem?.mp (List.mem_filter.mp hplace).1
  have horder := hdescribes.order
  have htarget := hdescribes.target
  simp only [List.get_eq_getElem] at horder htarget
  rw [← heq] at horder htarget
  exact ⟨slot, by rw [horder]; exact hslot, htarget⟩

/-- Of two bindings with different paths, one that lies inside of the other is written under a
path of more than one step. -/
theorem not_isDirect_of_covers (h : method.Keeps (Resolution.method source table config marker))
    (hplain : table.HasPlainNames) {outer inner : PropertyBinding}
    (houter : outer ∈ method.bindings) (hinner : inner ∈ method.bindings)
    (hne : outer.target.path ≠ inner.target.path)
    (hcovers : StoredPath.Covers outer.target.path inner.target.path) :
    exists slot written path, (Slot.ofSource source)[inner.order]? = some slot
      ∧ slot.written? = some written ∧ TargetPath.parse written = .ok path
      ∧ ¬ path.IsDirect := by
  rcases h.exists_slot houter with ⟨_slot, _hslot, hout⟩
  rcases Resolution.slotTarget_eq_ok_iff.mp hout with ⟨_written, _, start, hstart, htargetOut⟩
  rcases PathPrefix.target_eq_ok_iff.mp htargetOut with ⟨_path, stepsOut, _, hvisitsOut, hpathOut⟩
  rcases h.exists_slot hinner with ⟨slot, hslot, hin⟩
  rcases Resolution.slotTarget_eq_ok_iff.mp hin with ⟨written, hwritten, start', hstart', htargetIn⟩
  rcases PathPrefix.target_eq_ok_iff.mp htargetIn with ⟨path, stepsIn, hparse, hvisitsIn, hpathIn⟩
  cases hstart.symm.trans hstart'
  refine ⟨slot, written, path, hslot, hwritten, hparse, ?_⟩
  rintro ⟨member, hsegments⟩
  rw [hsegments] at hvisitsIn
  rcases hvisitsIn.of_single with ⟨found, henters, rfl⟩
  have hdots : found.storedName.toList.count '.' = 0 :=
    List.count_eq_zero.mpr
      (hplain start.owner (PathPrefix.ofMarker_owner_mem hstart) found henters.mem)
  have hsingle : ([⟨found.storedName, none⟩] : List Walk.Step).flatMap Walk.Step.parts =
      [found.storedName] := rfl
  apply hne
  apply StoredPath.eq_of_covers hcovers
  rw [hpathOut, hpathIn,
    StoredPath.count_append _ (Walk.flatMap_parts_ne_nil hvisitsOut.steps_ne_nil), hsingle,
    StoredPath.count_append _ (List.cons_ne_nil _ _), String.intercalate_singleton, hdots]
  exact Nat.le_add_right _ _

end UpdateMethod.Keeps

/-!
# The paths of an analysis
-/

namespace Analysis

variable {table : TypeTable} {config : GeneratorConfig} {cancelled : Bool}

/-- The paths of a method differ.  Where stored names hold no dots, a path that lies inside of
another one is written under a declared path of more than one step. -/
theorem analyze_paths_apart {method : UpdateMethod}
    (hmem : method ∈ (analyze table config cancelled).methods) :
    method.bindings.Pairwise (fun a b => a.target.path ≠ b.target.path)
      ∧ (table.HasPlainNames ->
          forall outer, outer ∈ method.bindings -> forall inner, inner ∈ method.bindings ->
            outer ≠ inner -> StoredPath.Covers outer.target.path inner.target.path ->
              exists source slot written path, source ∈ table.sources
                ∧ source.name = method.sourceType
                ∧ (Slot.ofSource source)[inner.order]? = some slot
                ∧ slot.written? = some written ∧ TargetPath.parse written = .ok path
                ∧ ¬ path.IsDirect) := by
  rcases exists_keeps_of_mem_unitMethods (mem_unitMethods_of_mem hmem) with
    ⟨source, marker, hsource, _hmarker, _hadmissible, hkeeps, hpaths⟩
  have hnodup := Aggregation.repeatedPaths_eq_nil_iff.mp hpaths
  refine ⟨List.pairwise_map.mp hnodup, ?_⟩
  intro hplain outer houter inner hinner hne hcovers
  have hdiffer : outer.target.path ≠ inner.target.path := by
    intro hsame
    exact hne (List.inj_on_of_nodup_map hnodup houter hinner hsame)
  rcases hkeeps.not_isDirect_of_covers hplain houter hinner hdiffer hcovers with
    ⟨slot, written, path, hslot, hwritten, hparse, hsteps⟩
  have hname : source.name = method.sourceType := (congrArg (fun key => key.2.2) hkeeps.key).symm
  exact ⟨source, slot, written, path, hsource, hname, hslot, hwritten, hparse, hsteps⟩

/-!
A source that writes an address as a whole, and a part of it under a path of its own.
-/

def movingSource : TypeInfo where
  name := "Move"
  members :=
    [.plain "address" (.named "Address"),
      { MemberInfo.plain "city" .text with specs := [{ targetName := some "address.city" }] }]
  markers := [{ targetType := "Resident" }]

def residents : TypeTable where
  types :=
    [{ name := "Resident", members := [.plain "address" (.named "Address")] },
      { name := "Address", members := [.plain "city" .text] }, movingSource]

def movingLocation : Location where
  sourceType := "Move"
  targetType := some "Resident"
  method := some "to_update"

def movingOptions : EffectiveOptions := ⟨true, true, .set, true, false⟩

def addressBinding : PropertyBinding where
  order := 0
  source := .property "address" (.named "Address")
  target := ⟨"address", .named "Address"⟩
  options := movingOptions
  expression := none
  location := { movingLocation with member := some "address" }

def cityBinding : PropertyBinding where
  order := 1
  source := .property "city" .text
  target := ⟨"address.city", .text⟩
  options := movingOptions
  expression := none
  location := { movingLocation with member := some "city" }

def movingMethod : UpdateMethod where
  sourceType := "Move"
  targetType := "Resident"
  methodName := "to_update"
  bindings := [addressBinding, cityBinding]
  inherent := false
  location := movingLocation

def movingResolved : ResolvedMethod where
  sourceType := "Move"
  targetType := "Resident"
  methodName := "to_update"
  requiresExtensibleTarget := false
  targetFound := true
  prefixProblem := none
  bindings :=
    [{ order := 0
       source := addressBinding.source
       spec := {}
       options := movingOptions
       target := .ok addressBinding.target
       location := addressBinding.location },
      { order := 1
        source := cityBinding.source
        spec := { targetName := some "address.city" }
        options := movingOptions
        target := .ok cityBinding.target
        location := cityBinding.location }]
  location := movingLocation

theorem analyze_residents : analyze residents {} false = ⟨[movingMethod], [], []⟩ := by
  have hresolve : resolve movingSource residents {} = ⟨[movingResolved], []⟩ := rfl
  exact analyze_of_single rfl hresolve rfl rfl

theorem covers_address_city : StoredPath.Covers "address" "address.city" :=
  ⟨["city".toList], rfl⟩

theorem analyze_paths_apart_residents :
    movingMethod ∈ (analyze residents {} false).methods ∧ residents.HasPlainNames
      ∧ addressBinding.target.path ≠ cityBinding.target.path
      ∧ exists path, TargetPath.parse "address.city" = .ok path ∧ ¬ path.IsDirect := by
  have hmem : movingMethod ∈ (analyze residents {} false).methods := by
    rw [analyze_residents]
    exact List.mem_singleton_self movingMethod
  have hplain : residents.HasPlainNames := by
    unfold TypeTable.HasPlainNames
    decide
  have happly := analyze_paths_apart hmem
  refine ⟨hmem, hplain, List.rel_of_pairwise_cons happly.1 List.mem_cons_self, ?_⟩
  rcases happly.2 hplain addressBinding List.mem_cons_self cityBinding
      (List.mem_cons_of_mem _ List.mem_cons_self) (by decide) covers_address_city with
    ⟨source, slot, written, path, hsource, _hname, hslot, hwritten, hparse, hsteps⟩
  have honly : source = movingSource := List.mem_singleton.mp hsource
  rw [honly] at hslot
  cases hslot
  cases hwritten
  exact ⟨path, hparse, hsteps⟩

/-- An address and the city in it are written by one method, of which nothing is reported. -/
theorem not_writesApart_residents :
    exists method, (analyze residents {} false).methods = [method]
      ∧ (analyze residents {} false).diagnostics = []
      ∧ method.bindings.map (fun binding => binding.target.path) = ["address", "address.city"]
      ∧ ¬ method.WritesApart := by
  refine ⟨movingMethod, ?_, ?_, rfl, ?_⟩
  · rw [analyze_residents]
  · rw [analyze_residents]
  · intro hapart
    exact List.rel_of_pairwise_cons hapart List.mem_cons_self (Or.inl covers_address_city)

end Analysis
end PartialUpdate
