import PartialUpdate.Analysis
import PartialUpdate.Proofs.Acceptance

/-!
# From markers to checked methods

Every report about a method points at the key of the method, and the bindings of a method stand
in the order of their declaration.  A marker whose method is dropped leaves an error behind.
-/

namespace PartialUpdate

namespace Location

def PointsAt (location : Location) (key : MethodKey) : Prop :=
  location.targetType = some key.1 ∧ location.method = some key.2.1
    ∧ location.sourceType = key.2.2

end Location

namespace Diagnostic

/-- An error about a method of a source, or about the source as a whole. -/
def Blames (diagnostic : Diagnostic) (source method : String) : Prop :=
  diagnostic.isError = true ∧ diagnostic.location.sourceType = source
    ∧ (diagnostic.location.method = some method ∨ diagnostic.location.method = none)

theorem blames_of_pointsAt {diagnostic : Diagnostic} {target method source : String}
    (herror : diagnostic.isError = true)
    (hpoints : diagnostic.location.PointsAt (target, method, source)) :
    diagnostic.Blames source method :=
  ⟨herror, hpoints.2.2, Or.inl hpoints.2.1⟩

end Diagnostic

/-!
# Resolved methods
-/

namespace ResolvedMethod

def key (method : ResolvedMethod) : MethodKey :=
  (method.targetType, method.methodName, method.sourceType)

structure IsPlaced (method : ResolvedMethod) : Prop where
  location : method.location.PointsAt method.key
  bindings : forall binding, binding ∈ method.bindings -> binding.location.PointsAt method.key
  ascending : method.bindings.Pairwise (fun a b => a.order < b.order)

end ResolvedMethod

namespace Resolution

theorem pairwise_zipIdx_snd {α : Type} (items : List α) :
    items.zipIdx.Pairwise (fun a b => a.2 < b.2) := by
  have h : (items.zipIdx.map Prod.snd).Pairwise (fun a b => a < b) := by
    rw [List.zipIdx_map_snd]
    exact List.pairwise_lt_range'
  exact List.pairwise_map.mp h

theorem method_isPlaced (source : TypeInfo) (table : TypeTable) (config : GeneratorConfig)
    (marker : MarkerSpec) : (method source table config marker).IsPlaced where
  location := ⟨rfl, rfl, rfl⟩
  bindings := by
    intro resolved hresolved
    rcases List.mem_map.mp hresolved with ⟨place, _hplace, rfl⟩
    exact ⟨rfl, rfl, rfl⟩
  ascending := by
    apply List.pairwise_map.mpr
    exact (pairwise_zipIdx_snd (Slot.ofSource source)).filter _

end Resolution

/-!
# Checked methods
-/

namespace UpdateMethod

structure IsPlaced (method : UpdateMethod) : Prop where
  location : method.location.PointsAt method.key
  bindings : forall binding, binding ∈ method.bindings -> binding.location.PointsAt method.key
  ascending : method.bindings.Pairwise (fun a b => a.order < b.order)

end UpdateMethod

namespace ResolvedMethod

variable {source : TypeInfo} {table : TypeTable} {method : ResolvedMethod}

theorem toUpdateMethod_isPlaced (h : method.IsPlaced) : method.toUpdateMethod.IsPlaced where
  location := h.location
  bindings := by
    intro binding hbinding
    rcases List.mem_filterMap.mp hbinding with ⟨resolved, hresolved, hsome⟩
    rw [(ResolvedBinding.describes_of_toBinding? hsome).location]
    exact h.bindings resolved hresolved
  ascending := by
    apply List.Pairwise.filterMap ResolvedBinding.toBinding? _ h.ascending
    intro a b hab a' ha b' hb
    rw [(ResolvedBinding.describes_of_toBinding? ha).order,
      (ResolvedBinding.describes_of_toBinding? hb).order]
    exact hab

theorem pointsAt_of_mem_diagnostics (h : method.IsPlaced) {diagnostic : Diagnostic}
    (hmem : diagnostic ∈ method.diagnostics source table) :
    diagnostic.location.PointsAt method.key := by
  rcases List.mem_append.mp hmem with hown | hbindings
  · rcases List.mem_map.mp hown with ⟨problem, _hproblem, rfl⟩
    exact h.location
  · rcases List.mem_flatMap.mp hbindings with ⟨binding, hbinding, hreported⟩
    rcases List.mem_map.mp hreported with ⟨problem, _hproblem, rfl⟩
    exact h.bindings binding hbinding

theorem exists_error_of_not_accepted (h : method.IsPlaced)
    (hrejected : method.accepted source table = false) :
    exists diagnostic, diagnostic ∈ method.diagnostics source table
      ∧ diagnostic.Blames method.sourceType method.methodName := by
  have hany : (method.diagnostics source table).any Diagnostic.isError = true := by
    simpa [accepted] using hrejected
  rcases List.any_eq_true.mp hany with ⟨diagnostic, hmem, herror⟩
  exact ⟨diagnostic, hmem,
    Diagnostic.blames_of_pointsAt herror (pointsAt_of_mem_diagnostics h hmem)⟩

end ResolvedMethod

/-!
# The outcome of a validation
-/

namespace Validation

variable {source : TypeInfo} {table : TypeTable} {config : GeneratorConfig}

theorem mem_validate_methods {resolution : Resolution} {method : UpdateMethod} :
    method ∈ (validate source resolution table).methods ↔
      exists resolved, resolved ∈ resolution.methods
        ∧ resolved.accepted source table = true ∧ resolved.toUpdateMethod = method := by
  simp only [validate, List.mem_map, List.mem_filter, and_assoc]

theorem isPlaced_of_mem_validate {method : UpdateMethod}
    (hmem : method ∈ (validate source (resolve source table config) table).methods) :
    method.IsPlaced ∧ method.sourceType = source.name := by
  rcases mem_validate_methods.mp hmem with ⟨resolved, hresolved, _haccepted, rfl⟩
  rcases List.mem_map.mp hresolved with ⟨marker, _hmarker, rfl⟩
  have hplaced := Resolution.method_isPlaced source table config marker
  exact ⟨ResolvedMethod.toUpdateMethod_isPlaced hplaced, rfl⟩

theorem length_filter_pair_le (resolution : Resolution) (pair : String × String) :
    ((validate source resolution table).methods.filter
        (fun method => method.pair == pair)).length ≤
      (Aggregation.declaring resolution.declared pair).length := by
  have hsame : forall methods : List ResolvedMethod,
      ((methods.map ResolvedMethod.toUpdateMethod).filter
          (fun method => method.pair == pair)).length =
        ((methods.map DeclaredMethod.ofResolved).filter
          (fun method => method.pair == pair)).length := by
    intro methods
    rw [List.filter_map, List.filter_map, List.length_map, List.length_map]
    rfl
  have hsublist := List.filter_sublist (p := ResolvedMethod.accepted source table)
    (l := resolution.methods)
  have hle := ((hsublist.map ResolvedMethod.toUpdateMethod).filter
    (fun method => method.pair == pair)).length_le
  calc
    _ ≤ ((resolution.methods.map ResolvedMethod.toUpdateMethod).filter
          (fun method => method.pair == pair)).length := hle
    _ = _ := hsame resolution.methods

end Validation
end PartialUpdate
