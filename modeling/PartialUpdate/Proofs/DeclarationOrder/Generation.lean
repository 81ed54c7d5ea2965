import PartialUpdate.Proofs.DeclarationOrder.Analysis
import PartialUpdate.Proofs.Generation

/-!
# Generation from types declared in another order

Types may stand in any order, and so may the markers on a type: the same code is generated and the
same methods are listed.  Reports follow the markers of their source, and only those.
-/

namespace PartialUpdate
namespace Generation

variable {table other : TypeTable} {config : GeneratorConfig}

/-!
# Methods that the analysis hands on
-/

theorem not_mem_blamed_of_mem_analyze (hnodup : table.names.Nodup) {method : UpdateMethod}
    (hmem : method ∈ (analyze table config false).methods) :
    method.key ∉ blamed (analyze table config false).diagnostics := by
  intro hblamed
  rcases mem_blamed.mp hblamed with ⟨diagnostic, hdiagnostic, herror, hpoints⟩
  exact Analysis.not_pointsAt_of_isError hnodup hmem hdiagnostic herror hpoints

theorem withoutErrors_eq_self {diagnostics : List Diagnostic} {methods : List UpdateMethod}
    (hfree : forall method, method ∈ methods -> method.key ∉ blamed diagnostics) :
    withoutErrors diagnostics methods = methods := by
  apply List.filter_eq_self.mpr
  intro method hmem
  simpa using hfree method hmem

theorem mem_blamed_sort_append {first second : List Diagnostic} {key : MethodKey} :
    key ∈ blamed (Diagnostic.sort (first ++ second)) ↔
      key ∈ blamed first ∨ key ∈ blamed second := by
  simp only [mem_blamed, Diagnostic.sort, List.mem_mergeSort, List.mem_append, or_and_right,
    exists_or]

theorem withoutErrors_sort_append {first second : List Diagnostic} {methods : List UpdateMethod}
    (hfree : forall method, method ∈ methods -> method.key ∉ blamed first) :
    withoutErrors (Diagnostic.sort (first ++ second)) methods = withoutErrors second methods := by
  apply List.filter_congr
  intro method hmem
  have hblamed : method.key ∈ blamed (Diagnostic.sort (first ++ second)) ↔
      method.key ∈ blamed second := by
    rw [mem_blamed_sort_append]
    simp only [hfree method hmem, false_or]
  simp only [List.contains_eq_mem, hblamed]

/-!
# What is generated
-/

/-- The tokens of a generation and the methods that it lists. -/
def output (generation : Generation) : List Token × List UpdateMethod :=
  (generation.tokens, generation.methods)

theorem ofAnalysis_output (config : GeneratorConfig) (runtime : List Token)
    {analysis : Analysis}
    (hfree : forall method, method ∈ analysis.methods ->
      method.key ∉ blamed analysis.diagnostics) :
    (ofAnalysis config runtime analysis).map output =
      (emitted config runtime analysis.methods).map (fun emission =>
        (emission.code.tokens, withoutErrors emission.diagnostics analysis.methods)) := by
  unfold ofAnalysis
  rw [withoutErrors_eq_self hfree]
  cases hemitted : emitted config runtime analysis.methods with
  | error e => simp only [hemitted, bind, Except.bind, Except.map]
  | ok emission =>
      simp only [hemitted, bind, Except.bind, pure, Except.pure, Except.map, output, tokens,
        withoutErrors_sort_append hfree]

theorem map_bind_eq_of_map_eq {ε α β γ : Type} {f g : α -> Except ε β} {out : β -> γ}
    (h : forall value, (f value).map out = (g value).map out) (first : Except ε α) :
    (first >>= f).map out = (first >>= g).map out := by
  cases first with
  | error e => rfl
  | ok value => exact h value

/-- What is generated depends on the methods of the analysis alone. -/
theorem generate_output_eq (hnodup : table.names.Nodup) (hnodup' : other.names.Nodup)
    (hmethods : (analyze table config false).methods = (analyze other config false).methods) :
    (generate table config false).map output = (generate other config false).map output := by
  have hfree (method : UpdateMethod) (hmem : method ∈ (analyze table config false).methods) :=
    not_mem_blamed_of_mem_analyze hnodup hmem
  have hfree' (method : UpdateMethod) (hmem : method ∈ (analyze other config false).methods) :=
    not_mem_blamed_of_mem_analyze hnodup' hmem
  rw [generate_eq, generate_eq]
  apply map_bind_eq_of_map_eq
  intro runtime
  rw [ofAnalysis_output config runtime hfree, ofAnalysis_output config runtime hfree', hmethods]

/-!
# Order of declaration
-/

theorem names_eq_of_alike {types others : List TypeInfo}
    (halike : List.Forall₂ TypeInfo.Alike types others) :
    types.map TypeInfo.name = others.map TypeInfo.name := by
  induction halike with
  | nil => rfl
  | cons hinfo _hrest ih => rw [List.map_cons, List.map_cons, hinfo.name, ih]

/-- Types in another order give the same analysis and the same generation.  Markers in another
order, on any of the types, give the same methods and the same code. -/
theorem generate_eq_of_reordered (config : GeneratorConfig) (hnodup : table.names.Nodup) :
    (forall other : TypeTable, table.types.Perm other.types ->
        analyze table config false = analyze other config false
          ∧ generate table config false = generate other config false)
      ∧ forall other : TypeTable, List.Forall₂ TypeInfo.Alike table.types other.types ->
          (analyze table config false).methods = (analyze other config false).methods
            ∧ (generate table config false).map output =
              (generate other config false).map output := by
  constructor
  · intro other hperm
    have hanalysis := Analysis.analyze_eq_of_perm hnodup hperm config
    refine ⟨hanalysis, ?_⟩
    rw [generate_eq, generate_eq, hanalysis]
  · intro other halike
    have hmethods := Analysis.analyze_methods_eq_of_alike halike config
    have hnodup' : other.names.Nodup := by
      rw [TypeTable.names, ← names_eq_of_alike halike]
      exact hnodup
    exact ⟨hmethods, generate_output_eq hnodup hnodup' hmethods⟩

def withMarkersReversed (table : TypeTable) : TypeTable where
  types := table.types.map (fun info => { info with markers := info.markers.reverse })

theorem withMarkersReversed_alike (table : TypeTable) :
    List.Forall₂ TypeInfo.Alike table.types (withMarkersReversed table).types := by
  apply List.forall₂_map_right_iff.mpr
  apply List.forall₂_same.mpr
  intro info _hmem
  exact ⟨rfl, rfl, rfl, rfl, rfl, (List.reverse_perm info.markers).symm⟩

open Analysis (rivals rivalMethod)

theorem generate_rivals :
    exists tokens, (generate rivals {} false).map output =
      .ok (tokens, [rivalMethod "RenameB" "Group" false, rivalMethod "RenameA" "User" true]) := by
  have hnodup : rivals.names.Nodup := by
    decide
  have hfree (method : UpdateMethod) (hmem : method ∈ (analyze rivals {} false).methods) :=
    not_mem_blamed_of_mem_analyze hnodup hmem
  have hruntime : exists runtime, runtimePath {} = .ok runtime := exists_runtimePath "UpdateExt"
  rcases hruntime with ⟨runtime, hruntime⟩
  have hnone :
      (emitted {} runtime
          [rivalMethod "RenameB" "Group" false, rivalMethod "RenameA" "User" true]).map
        Emission.diagnostics = .ok [] := by
    cbv
  rcases map_eq_ok hnone with ⟨emission, hemitted, hdiagnostics⟩
  have houtput := ofAnalysis_output {} runtime hfree
  rw [← generate_eq_ofAnalysis hruntime, Analysis.analyze_rivals, hemitted] at houtput
  refine ⟨emission.code.tokens, houtput.trans ?_⟩
  rw [Except.map, hdiagnostics]
  rfl

theorem generate_eq_of_reordered_rivals :
    rivals.names.Nodup
      ∧ generate rivals {} false = generate ⟨rivals.types.reverse⟩ {} false
      ∧ (generate rivals {} false).map output =
        (generate (withMarkersReversed rivals) {} false).map output
      ∧ exists tokens, (generate (withMarkersReversed rivals) {} false).map output =
        .ok (tokens, [rivalMethod "RenameB" "Group" false, rivalMethod "RenameA" "User" true]) := by
  have hnodup : rivals.names.Nodup := by
    decide
  have hreordered := generate_eq_of_reordered {} hnodup
  have hreversed : rivals.types.Perm rivals.types.reverse := (List.reverse_perm _).symm
  have hmarkers := (hreordered.2 _ (withMarkersReversed_alike rivals)).2
  refine ⟨hnodup, (hreordered.1 ⟨_⟩ hreversed).2, hmarkers, ?_⟩
  rw [← hmarkers]
  exact generate_rivals

end Generation
end PartialUpdate
