import PartialUpdate.Proofs.Nesting
import PartialUpdate.Proofs.Overlap
import PartialUpdate.Proofs.TargetPath.Display

/-!
# Paths and the places that they lead to

A stored path writes the names and the indexes of a walk one after the other, with dots between
them.  Where no stored name can be taken for an index, the walk can be read off the path: two
paths are one text exactly if they lead to one place, and the check for repeated paths finds the
places that a method writes more than once.
-/

namespace PartialUpdate

/-!
# Names that are no index
-/

namespace StoredPath

/-- No dot is in the name, it does not begin with a dollar sign, and it is neither empty nor made
of digits alone. -/
structure IsTelling (name : String) : Prop where
  free : '.' ∉ name.toList
  unmarked : name.toList.head? ≠ some '$'
  wordy : name.toList.all Char.isDigit = false

theorem isTelling_iff {name : String} :
    IsTelling name ↔ '.' ∉ name.toList ∧ name.toList.head? ≠ some '$'
      ∧ name.toList.all Char.isDigit = false := by
  constructor
  · intro h
    exact ⟨h.free, h.unmarked, h.wordy⟩
  · rintro ⟨hfree, hunmarked, hwordy⟩
    exact ⟨hfree, hunmarked, hwordy⟩

instance (name : String) : Decidable (IsTelling name) :=
  decidable_of_iff' _ isTelling_iff

end StoredPath

namespace TypeTable

def HasTellingNames (table : TypeTable) : Prop :=
  forall info, info ∈ table.types -> forall member, member ∈ info.members ->
    StoredPath.IsTelling member.storedName

instance (table : TypeTable) : Decidable table.HasTellingNames :=
  inferInstanceAs (Decidable (forall info, info ∈ table.types ->
    forall member, member ∈ info.members -> StoredPath.IsTelling member.storedName))

end TypeTable

/-!
# Stored indexes
-/

namespace PathIndex

variable {inner other : List Char} {index next : PathIndex}

/-- What a stored index has between its brackets, or the whole of one without brackets. -/
def unbracketed : List Char -> List Char
  | '$' :: '[' :: rest => rest.dropLast
  | mark => mark

theorem unbracketed_of_isDigit {mark : List Char} (h : forall c, c ∈ mark -> c.isDigit = true) :
    unbracketed mark = mark := by
  unfold unbracketed
  split
  · exact absurd (h '$' List.mem_cons_self) (by decide)
  · rfl

theorem isDigit_of_mem_render {position : Nat} {c : Char}
    (h : c ∈ (render (.element position)).toList) : c.isDigit = true := by
  change c ∈ (written (.element position)).toList at h
  rw [toList_written_element] at h
  exact Nat.isDigit_of_mem_toDigits (by decide) (by decide) h

theorem toList_render_filtered (name : List Char) :
    (render (.filtered (String.ofList name))).toList = '$' :: '[' :: (name ++ [']']) := by
  simp [render]

theorem unbracketed_render (h : Spells inner index) :
    unbracketed index.render.toList = index.written.toList := by
  cases h with
  | positional => rfl
  | allPositional => rfl
  | element hnonempty hdigits hbound =>
      exact unbracketed_of_isDigit (fun c hc => isDigit_of_mem_render hc)
  | filtered hfirst hrest =>
      rw [toList_render_filtered, unbracketed, List.dropLast_concat, written,
        String.toList_ofList]

theorem eq_of_render_eq (h : Spells inner index) (h' : Spells other next)
    (hrender : index.render = next.render) : index = next := by
  have hwritten : index.written.toList = next.written.toList := by
    rw [← unbracketed_render h, ← unbracketed_render h', hrender]
  have hindex := parse?_eq_some_iff.mpr (spells_written h)
  have hnext := parse?_eq_some_iff.mpr (spells_written h')
  rw [hwritten, hnext] at hindex
  exact (Option.some.inj hindex).symm

theorem ne_dot_of_isNameChar {c : Char} (h : c.isAlphanum = true ∨ c = '_') : c ≠ '.' := by
  rintro rfl
  rcases h with h | h
  · exact absurd h (by decide)
  · exact absurd h (by decide)

theorem dot_not_mem_render (h : Spells inner index) : '.' ∉ index.render.toList := by
  intro hmem
  cases h with
  | positional => exact absurd hmem (by decide)
  | allPositional => exact absurd hmem (by decide)
  | element hnonempty hdigits hbound =>
      exact absurd (isDigit_of_mem_render hmem) (by decide)
  | filtered hfirst hrest =>
      rename_i first rest
      rw [toList_render_filtered] at hmem
      simp only [List.cons_append, List.mem_cons, List.mem_append, List.not_mem_nil,
        or_false] at hmem
      rcases hmem with h | h | h | h | h
      · exact absurd h (by decide)
      · exact absurd h (by decide)
      · rw [← h] at hfirst
        exact absurd hfirst (by decide)
      · exact ne_dot_of_isNameChar (hrest '.' h) rfl
      · exact absurd h (by decide)

theorem not_isTelling_render (h : Spells inner index) : ¬ StoredPath.IsTelling index.render := by
  intro htelling
  cases h with
  | positional => exact htelling.unmarked rfl
  | allPositional => exact htelling.unmarked rfl
  | element hnonempty hdigits hbound =>
      apply (List.all_eq_false.mp htelling.wordy).elim
      rintro c ⟨hc, hword⟩
      exact hword (isDigit_of_mem_render hc)
  | filtered hfirst hrest =>
      apply htelling.unmarked
      rw [toList_render_filtered]
      rfl

end PathIndex

namespace TargetPath

theorem exists_spells_index {written : String} {path : TargetPath}
    (h : parse written = .ok path) {segment : PathSegment} (hmem : segment ∈ path.segments)
    {index : PathIndex} (hindex : segment.index = some index) :
    exists inner, PathIndex.Spells inner index := by
  rcases exists_of_parse_eq_ok h with ⟨_trimmed, _pieces, _, _, _, hsegments⟩
  rcases exists_piece hsegments hmem with ⟨_piece, _, hspells⟩
  cases hspells with
  | plain hname => cases hindex
  | indexed hname hinner =>
      cases hindex
      exact ⟨_, hinner⟩

end TargetPath

/-!
# Steps read off a path
-/

namespace Walk

structure Step.IsReadable (step : Step) : Prop where
  name : StoredPath.IsTelling step.storedName
  index : forall index, step.index = some index -> exists inner, PathIndex.Spells inner index

namespace Step

variable {a b : Step} {more more' : List String}

theorem dot_not_mem (h : a.IsReadable) {part : String} (hmem : part ∈ a.parts) :
    '.' ∉ part.toList := by
  rcases List.mem_cons.mp hmem with rfl | hmem
  · exact h.name.free
  · rcases Option.map_eq_some_iff.mp (Option.mem_toList.mp hmem) with ⟨index, hindex, rfl⟩
    rcases h.index index hindex with ⟨_inner, hspells⟩
    exact PathIndex.dot_not_mem_render hspells

/-- A part that begins the next step is no index of this one. -/
theorem eq_of_parts_append_eq (ha : a.IsReadable) (hb : b.IsReadable)
    (hmore : forall part, more.head? = some part -> StoredPath.IsTelling part)
    (hmore' : forall part, more'.head? = some part -> StoredPath.IsTelling part)
    (h : a.parts ++ more = b.parts ++ more') : a = b ∧ more = more' := by
  rcases a with ⟨nameA, indexA⟩
  rcases b with ⟨nameB, indexB⟩
  injection h with hname hrest
  cases hname
  cases indexA with
  | none =>
      cases indexB with
      | none => exact ⟨rfl, hrest⟩
      | some index =>
          rcases hb.index index rfl with ⟨_inner, hspells⟩
          exact absurd (hmore _ (congrArg List.head? hrest))
            (PathIndex.not_isTelling_render hspells)
  | some index =>
      rcases ha.index index rfl with ⟨_inner, hspells⟩
      cases indexB with
      | none =>
          exact absurd (hmore' _ (congrArg List.head? hrest).symm)
            (PathIndex.not_isTelling_render hspells)
      | some other =>
          rcases hb.index other rfl with ⟨_inner', hspells'⟩
          injection hrest with hrender hmore
          exact ⟨by rw [PathIndex.eq_of_render_eq hspells hspells' hrender], hmore⟩

end Step

variable {steps steps' : List Step}

theorem isTelling_head_parts (h : forall step, step ∈ steps -> step.IsReadable) (part : String)
    (hhead : (steps.flatMap Step.parts).head? = some part) : StoredPath.IsTelling part := by
  cases steps with
  | nil => cases hhead
  | cons step rest =>
      cases hhead
      exact (h step List.mem_cons_self).name

theorem eq_of_flatMap_parts_eq (h : forall step, step ∈ steps -> step.IsReadable)
    (h' : forall step, step ∈ steps' -> step.IsReadable)
    (hparts : steps.flatMap Step.parts = steps'.flatMap Step.parts) : steps = steps' := by
  induction steps generalizing steps' with
  | nil =>
      cases steps' with
      | nil => rfl
      | cons step rest => cases hparts
  | cons step rest ih =>
      cases steps' with
      | nil => cases hparts
      | cons step' rest' =>
          rw [List.forall_mem_cons] at h h'
          rw [List.flatMap_cons, List.flatMap_cons] at hparts
          rcases Step.eq_of_parts_append_eq h.1 h'.1 (isTelling_head_parts h.2)
              (isTelling_head_parts h'.2) hparts with
            ⟨rfl, hrest⟩
          rw [ih h.2 h'.2 hrest]

def storedPath (steps : List Step) : String :=
  ".".intercalate (steps.flatMap Step.parts)

theorem pieces_storedPath (hne : steps ≠ []) (h : forall step, step ∈ steps -> step.IsReadable) :
    StoredPath.segments (storedPath steps) = (steps.flatMap Step.parts).map String.toList := by
  rw [StoredPath.segments, storedPath, String.toList_intercalate]
  apply Text.pieces_intercalate
  · rw [ne_eq, List.map_eq_nil_iff]
    exact flatMap_parts_ne_nil hne
  · intro part hpart
    rcases List.mem_map.mp hpart with ⟨text, htext, rfl⟩
    rcases List.mem_flatMap.mp htext with ⟨step, hstep, hmem⟩
    exact Step.dot_not_mem (h step hstep) hmem

theorem storedPath_eq_iff (hne : steps ≠ []) (hne' : steps' ≠ [])
    (h : forall step, step ∈ steps -> step.IsReadable)
    (h' : forall step, step ∈ steps' -> step.IsReadable) :
    storedPath steps = storedPath steps' ↔ steps = steps' := by
  constructor
  · intro hpath
    have hsegments := congrArg StoredPath.segments hpath
    rw [pieces_storedPath hne h, pieces_storedPath hne' h'] at hsegments
    exact eq_of_flatMap_parts_eq h h'
      (List.map_injective_iff.mpr (fun a b => String.toList_inj.mp) hsegments)
  · intro hsteps
    rw [hsteps]

theorem Visits.isReadable {table : TypeTable} {owner : TypeInfo} {segments : List PathSegment}
    {type : TypeRef} (htable : table.HasTellingNames) (howner : owner ∈ table.types)
    (hindexes : forall segment, segment ∈ segments -> forall index,
      segment.index = some index -> exists inner, PathIndex.Spells inner index)
    (h : Visits table owner segments steps type) (step : Step) (hmem : step ∈ steps) :
    step.IsReadable := by
  induction h with
  | last henters =>
      rcases List.mem_singleton.mp hmem with rfl
      exact
        { name := htable _ howner _ henters.mem
          index := hindexes _ List.mem_cons_self }
  | step henters hopens hrest ih =>
      rcases List.mem_cons.mp hmem with rfl | hmem
      · exact
          { name := htable _ howner _ henters.mem
            index := hindexes _ List.mem_cons_self }
      · exact ih hopens.mem
          (fun segment hsegment => hindexes segment (List.mem_cons_of_mem _ hsegment)) hmem

theorem Visits.isReadable_of_parse {table : TypeTable} {owner : TypeInfo} {written : String}
    {path : TargetPath} {type : TypeRef} (htable : table.HasTellingNames)
    (howner : owner ∈ table.types) (hparse : TargetPath.parse written = .ok path)
    (h : Visits table owner path.segments steps type) (step : Step) (hmem : step ∈ steps) :
    step.IsReadable := by
  apply h.isReadable htable howner _ step hmem
  intro segment hsegment index hindex
  exact TargetPath.exists_spells_index hparse hsegment hindex

end Walk

/-!
# Places of a method
-/

namespace MarkerSpec

/-- The steps of a written path from the target type of a marker, those of the nested path
first. -/
inductive Visits (table : TypeTable) (marker : MarkerSpec) :
    String -> List Walk.Step -> TypeRef -> Prop
  | direct {owner : TypeInfo} {written : String} {path : TargetPath} {steps : List Walk.Step}
      {type : TypeRef} (howner : table.get? (simpleTypeName marker.targetType) = some owner)
      (hnested : marker.nestedPath = none) (hparse : TargetPath.parse written = .ok path)
      (hvisits : Walk.Visits table owner path.segments steps type) :
      Visits table marker written steps type
  | nested {owner next : TypeInfo} {nested written : String} {outer path : TargetPath}
      {front steps : List Walk.Step} {between type : TypeRef}
      (howner : table.get? (simpleTypeName marker.targetType) = some owner)
      (hnested : marker.nestedPath = some nested) (houter : TargetPath.parse nested = .ok outer)
      (hindex : outer.endsWithIndex = true)
      (hfront : Walk.Visits table owner outer.segments front between)
      (hopens : table.Opens between next) (hparse : TargetPath.parse written = .ok path)
      (hvisits : Walk.Visits table next path.segments steps type) :
      Visits table marker written (front ++ steps) type

variable {table : TypeTable} {marker other : MarkerSpec} {written : String}
variable {steps steps' : List Walk.Step} {target : ResolvedTarget} {type : TypeRef}

theorem resolves_iff :
    marker.Resolves table written target ↔
      exists steps, marker.Visits table written steps target.type
        ∧ target.path = Walk.storedPath steps := by
  constructor
  · rintro ⟨start, hstart, htarget⟩
    rcases PathPrefix.target_eq_ok_iff.mp htarget with ⟨path, steps, hparse, hvisits, hpath⟩
    rcases PathPrefix.ofMarker_eq_ok_iff.mp hstart with
      ⟨owner, howner, ⟨hnone, rfl⟩ | ⟨nested, hnested, hprefix⟩⟩
    · exact ⟨steps, .direct howner hnone hparse hvisits, hpath⟩
    · rcases PathPrefix.ofNested_eq_ok_iff.mp hprefix with
        ⟨outer, front, between, houter, hindex, hfront, hopens, hparts⟩
      refine ⟨front ++ steps,
        .nested howner hnested houter hindex hfront hopens hparse hvisits, ?_⟩
      rw [hpath, hparts, Walk.storedPath, List.flatMap_append]
  · rintro ⟨steps, hvisits, hpath⟩
    cases hvisits with
    | direct howner hnone hparse hvisits =>
        refine ⟨⟨[], _⟩, PathPrefix.ofMarker_eq_ok_iff.mpr ⟨_, howner, Or.inl ⟨hnone, rfl⟩⟩, ?_⟩
        exact PathPrefix.target_eq_ok_iff.mpr ⟨_, _, hparse, hvisits, hpath⟩
    | nested howner hnested houter hindex hfront hopens hparse hvisits =>
        rename_i front back _between
        refine ⟨⟨front.flatMap Walk.Step.parts, _⟩, PathPrefix.ofMarker_eq_ok_iff.mpr ⟨_, howner,
          Or.inr ⟨_, hnested, PathPrefix.ofNested_eq_ok_iff.mpr
            ⟨_, _, _, houter, hindex, hfront, hopens, rfl⟩⟩⟩, ?_⟩
        refine PathPrefix.target_eq_ok_iff.mpr ⟨_, _, hparse, hvisits, ?_⟩
        rw [hpath, Walk.storedPath, List.flatMap_append]

theorem Resolves.exists_visits (h : marker.Resolves table written target) :
    exists steps, marker.Visits table written steps target.type := by
  rcases resolves_iff.mp h with ⟨steps, hvisits, _hpath⟩
  exact ⟨steps, hvisits⟩

theorem Resolves.path_eq_storedPath (h : marker.Resolves table written target)
    (hvisits : marker.Visits table written steps target.type) :
    target.path = Walk.storedPath steps := by
  have hfound : marker.Resolves table written ⟨Walk.storedPath steps, target.type⟩ :=
    resolves_iff.mpr ⟨steps, hvisits, rfl⟩
  rcases h with ⟨start, hstart, htarget⟩
  rcases hfound with ⟨start', hstart', htarget'⟩
  cases hstart.symm.trans hstart'
  rw [htarget] at htarget'
  exact congrArg ResolvedTarget.path (Except.ok.inj htarget')

theorem Visits.ne_nil (h : marker.Visits table written steps type) : steps ≠ [] := by
  cases h with
  | direct howner hnone hparse hvisits => exact hvisits.steps_ne_nil
  | nested howner hnested houter hindex hfront hopens hparse hvisits =>
      exact List.append_ne_nil_of_left_ne_nil hfront.steps_ne_nil _

theorem Visits.isReadable (htable : table.HasTellingNames)
    (h : marker.Visits table written steps type) (step : Walk.Step) (hmem : step ∈ steps) :
    step.IsReadable := by
  cases h with
  | direct howner hnone hparse hvisits =>
      exact hvisits.isReadable_of_parse htable (TypeTable.mem_types_of_get? howner) hparse step hmem
  | nested howner hnested houter hindex hfront hopens hparse hvisits =>
      rcases List.mem_append.mp hmem with hmem | hmem
      · exact hfront.isReadable_of_parse htable (TypeTable.mem_types_of_get? howner) houter step
          hmem
      · exact hvisits.isReadable_of_parse htable hopens.mem hparse step hmem

end MarkerSpec

/-- The steps of the path under which the slot of a binding writes. -/
def PropertyBinding.VisitsUnder (source : TypeInfo) (table : TypeTable) (marker : MarkerSpec)
    (binding : PropertyBinding) (steps : List Walk.Step) : Prop :=
  exists slot written, (Slot.ofSource source)[binding.order]? = some slot
    ∧ slot.written? = some written ∧ marker.Visits table written steps binding.target.type

theorem PropertyBinding.VisitsUnder.steps_eq {source : TypeInfo} {table : TypeTable}
    {marker : MarkerSpec} {a b : PropertyBinding} {steps steps' : List Walk.Step}
    (htable : table.HasTellingNames) (ha : a.VisitsUnder source table marker steps)
    (hb : b.VisitsUnder source table marker steps')
    (hpath : Walk.storedPath steps = Walk.storedPath steps') : steps = steps' := by
  rcases ha with ⟨_slot, _written, _, _, ha⟩
  rcases hb with ⟨_slot', _written', _, _, hb⟩
  exact (Walk.storedPath_eq_iff ha.ne_nil hb.ne_nil (ha.isReadable htable)
    (hb.isReadable htable)).mp hpath

namespace UpdateMethod.Keeps

variable {source : TypeInfo} {table : TypeTable} {config : GeneratorConfig} {marker : MarkerSpec}
variable {method : UpdateMethod} {binding : PropertyBinding} {steps : List Walk.Step}

theorem exists_visitsUnder (h : method.Keeps (Resolution.method source table config marker))
    (hmem : binding ∈ method.bindings) :
    exists steps, binding.VisitsUnder source table marker steps := by
  rcases h.exists_slot hmem with ⟨slot, hslot, htarget⟩
  rcases Resolution.slotTarget_eq_ok_iff.mp htarget with ⟨written, hwritten, hresolves⟩
  rcases hresolves.exists_visits with ⟨steps, hvisits⟩
  exact ⟨steps, slot, written, hslot, hwritten, hvisits⟩

theorem path_eq_storedPath (h : method.Keeps (Resolution.method source table config marker))
    (hmem : binding ∈ method.bindings) (hvisits : binding.VisitsUnder source table marker steps) :
    binding.target.path = Walk.storedPath steps := by
  rcases hvisits with ⟨slot, written, hslot, hwritten, hvisits⟩
  rcases h.exists_slot hmem with ⟨slot', hslot', htarget⟩
  cases hslot.symm.trans hslot'
  rcases Resolution.slotTarget_eq_ok_iff.mp htarget with ⟨written', hwritten', hresolves⟩
  cases hwritten.symm.trans hwritten'
  exact hresolves.path_eq_storedPath hvisits

theorem mem_repeatedPaths_iff (htable : table.HasTellingNames)
    (h : method.Keeps (Resolution.method source table config marker)) {path : String} :
    path ∈ Aggregation.repeatedPaths method ↔
      exists a b steps, [a, b].Sublist method.bindings ∧ a.target.path = path
        ∧ a.VisitsUnder source table marker steps ∧ b.VisitsUnder source table marker steps := by
  rw [Aggregation.mem_repeatedPaths_iff]
  constructor
  · rintro ⟨a, b, hpair, ha, hb⟩
    have hmemA : a ∈ method.bindings := hpair.subset List.mem_cons_self
    have hmemB : b ∈ method.bindings := hpair.subset (List.mem_cons_of_mem _ List.mem_cons_self)
    rcases h.exists_visitsUnder hmemA with ⟨steps, hvisits⟩
    rcases h.exists_visitsUnder hmemB with ⟨steps', hvisits'⟩
    have hpath : Walk.storedPath steps = Walk.storedPath steps' := by
      rw [← h.path_eq_storedPath hmemA hvisits, ← h.path_eq_storedPath hmemB hvisits', ha, hb]
    rw [← hvisits.steps_eq htable hvisits' hpath] at hvisits'
    exact ⟨a, b, steps, hpair, ha, hvisits, hvisits'⟩
  · rintro ⟨a, b, steps, hpair, ha, hvisitsA, hvisitsB⟩
    have hmemA : a ∈ method.bindings := hpair.subset List.mem_cons_self
    have hmemB : b ∈ method.bindings := hpair.subset (List.mem_cons_of_mem _ List.mem_cons_self)
    refine ⟨a, b, hpair, ha, ?_⟩
    rw [← ha, h.path_eq_storedPath hmemA hvisitsA, h.path_eq_storedPath hmemB hvisitsB]

end UpdateMethod.Keeps

/-!
# Equal paths
-/

namespace TypeTable

variable {table : TypeTable}

/-- Where all stored names are telling, any two paths that lead to a field are stored as one text
exactly if they visit the same steps.  For each method that passes the validation, the repeated
paths are those of the places that two of its bindings write. -/
theorem paths_eq_iff_steps_eq (htable : table.HasTellingNames) :
    (forall marker other first second target found,
        MarkerSpec.Resolves table marker first target ->
        MarkerSpec.Resolves table other second found ->
          (exists steps, marker.Visits table first steps target.type)
            ∧ (exists steps, other.Visits table second steps found.type)
            ∧ forall steps steps', marker.Visits table first steps target.type ->
                other.Visits table second steps' found.type ->
                  (target.path = found.path ↔ steps = steps'))
      ∧ forall source config method,
          method ∈ (validate source (resolve source table config) table).methods ->
            exists marker, marker ∈ source.markers
              ∧ method.Keeps (Resolution.method source table config marker)
              ∧ (forall binding, binding ∈ method.bindings ->
                  exists steps, binding.VisitsUnder source table marker steps)
              ∧ forall path, path ∈ Aggregation.repeatedPaths method ↔
                  exists a b steps, [a, b].Sublist method.bindings ∧ a.target.path = path
                    ∧ a.VisitsUnder source table marker steps
                    ∧ b.VisitsUnder source table marker steps := by
  constructor
  · intro marker other first second target found hfirst hsecond
    refine ⟨hfirst.exists_visits, hsecond.exists_visits, ?_⟩
    intro steps steps' hvisits hvisits'
    rw [hfirst.path_eq_storedPath hvisits, hsecond.path_eq_storedPath hvisits']
    exact Walk.storedPath_eq_iff hvisits.ne_nil hvisits'.ne_nil (hvisits.isReadable htable)
      (hvisits'.isReadable htable)
  · intro source config method hmem
    rcases Validation.mem_validate_methods.mp hmem with ⟨resolved, hresolved, haccepted, rfl⟩
    have hkeeps := Resolution.toUpdateMethod_keeps hresolved haccepted
    rcases List.mem_map.mp hresolved with ⟨marker, hmarker, rfl⟩
    exact ⟨marker, hmarker, hkeeps, fun binding hbinding => hkeeps.exists_visitsUnder hbinding,
      fun path => hkeeps.mem_repeatedPaths_iff htable⟩

/-!
A gallery, and a source that writes the text of one label twice, in two spellings of its path.
-/

def twiceLabelled : TypeInfo where
  name := "Relabel"
  members :=
    [{ MemberInfo.plain "title" .text with
        specs := [{ targetName := some "rooms[07].walls[hit].label.text" }] },
      { MemberInfo.plain "caption" .text with
        specs := [{ targetName := some "Rooms[7].walls[hit].label.t" }] }]
  markers := [Resolution.galleryMarker]

def labelledGallery : TypeTable where
  types := Resolution.gallery.types ++ [twiceLabelled]

def labelTarget : ResolvedTarget where
  path := "Rooms.7.walls.$[hit].label.t"
  type := .text

theorem resolves_below_wall :
    Resolution.wallMarker.Resolves labelledGallery "label.text" labelTarget :=
  ⟨_, rfl, rfl⟩

theorem resolves_below_gallery :
    Resolution.galleryMarker.Resolves labelledGallery "Rooms[7].walls[hit].label.t" labelTarget :=
  ⟨_, rfl, rfl⟩

theorem paths_eq_iff_steps_eq_gallery :
    labelledGallery.HasTellingNames
      ∧ (exists steps, Resolution.wallMarker.Visits labelledGallery "label.text" steps .text
          ∧ Resolution.galleryMarker.Visits labelledGallery "Rooms[7].walls[hit].label.t" steps
            .text)
      ∧ exists method a b steps,
          (validate twiceLabelled (resolve twiceLabelled labelledGallery {})
            labelledGallery).methods = [method]
          ∧ Aggregation.repeatedPaths method = [labelTarget.path]
          ∧ [a, b].Sublist method.bindings
          ∧ a.VisitsUnder twiceLabelled labelledGallery Resolution.galleryMarker steps
          ∧ b.VisitsUnder twiceLabelled labelledGallery Resolution.galleryMarker steps := by
  have htable : labelledGallery.HasTellingNames := by
    decide
  have happly := paths_eq_iff_steps_eq htable
  refine ⟨htable, ?_, ?_⟩
  · rcases happly.1 _ _ _ _ _ _ resolves_below_wall resolves_below_gallery with
      ⟨⟨steps, hvisits⟩, ⟨steps', hvisits'⟩, hsame⟩
    rw [← (hsame steps steps' hvisits hvisits').mp rfl] at hvisits'
    exact ⟨steps, hvisits, hvisits'⟩
  · have hmethod : exists method,
        (validate twiceLabelled (resolve twiceLabelled labelledGallery {})
          labelledGallery).methods = [method]
        ∧ Aggregation.repeatedPaths method = [labelTarget.path] := ⟨_, rfl, rfl⟩
    rcases hmethod with ⟨method, hmethods, hrepeated⟩
    have hmem : method ∈ (validate twiceLabelled (resolve twiceLabelled labelledGallery {})
        labelledGallery).methods := by
      rw [hmethods]
      exact List.mem_singleton_self method
    rcases happly.2 _ _ _ hmem with ⟨marker, hmarker, _hkeeps, _hall, hpaths⟩
    rcases List.mem_singleton.mp hmarker with rfl
    have hpath : labelTarget.path ∈ Aggregation.repeatedPaths method := by
      rw [hrepeated]
      exact List.mem_singleton_self _
    rcases (hpaths _).mp hpath with ⟨a, b, steps, hpair, _ha, hvisits, hvisits'⟩
    exact ⟨method, a, b, steps, hmethods, hrepeated, hpair, hvisits, hvisits'⟩

end TypeTable

end PartialUpdate
