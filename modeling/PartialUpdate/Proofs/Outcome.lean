import PartialUpdate.Proofs.Emission.Names
import PartialUpdate.Proofs.Generation

/-!
# How a generation ends

A generation fails on a runtime path that is no path, and on nothing else that it can report.
The one other end is a name that passes for an identifier and is none: it stops the generation
where the emission comes to it, instead of being reported like any other bad name.
-/

namespace PartialUpdate
namespace Generation

variable {table : TypeTable} {config : GeneratorConfig} {cancelled : Bool}

def HasRuntime (config : GeneratorConfig) : Prop :=
  exists path, Syntax.path config.runtimePath = .ok path

/-- The generation comes to emit its methods and trips over one of their names. -/
def Trips (table : TypeTable) (config : GeneratorConfig) (cancelled : Bool) : Prop :=
  cancelled = false ∧ Emission.Trips config (clean table config)

theorem generate_of_not_hasRuntime (h : ¬ HasRuntime config) :
    generate table config cancelled = .error (.invalidRuntimePath config.runtimePath) := by
  unfold HasRuntime at h
  cases hread : Syntax.path config.runtimePath with
  | ok path => exact absurd ⟨path, hread⟩ h
  | error e =>
      have hruntime : runtimePath config = .error (.invalidRuntimePath config.runtimePath) := by
        rw [runtimePath, hread]
      rw [generate, hruntime]
      rfl

theorem generate_of_hasRuntime (table : TypeTable) (cancelled : Bool) (h : HasRuntime config) :
    (exists generation, generate table config cancelled = .ok generation
        ∧ ¬ Trips table config cancelled)
      ∨ exists name, generate table config cancelled = .error (.unwritableName name)
        ∧ Trips table config cancelled := by
  rcases h with ⟨path, hread⟩
  have hruntime : runtimePath config = .ok path.tokens := by
    rw [runtimePath, hread]
  cases cancelled with
  | true =>
      rw [generate, hruntime]
      exact Or.inl ⟨_, rfl, fun htrips => Bool.noConfusion htrips.1⟩
  | false =>
      have htrips := Emission.ofMethods_eq_error_iff config path.tokens (clean table config)
      rw [generate_eq_ofAnalysis hruntime, ofAnalysis, emitted, ← clean]
      cases houtcome : Emission.ofMethods config path.tokens (clean table config) with
      | ok emission =>
          refine Or.inl ⟨_, rfl, fun hcontra => ?_⟩
          rcases htrips.mpr hcontra.2 with ⟨name, hname⟩
          rw [houtcome] at hname
          cases hname
      | error name => exact Or.inr ⟨name, rfl, rfl, htrips.mp ⟨name, houtcome⟩⟩

/-- How every generation ends.  A name that passes the check of declared names becomes an
identifier unless it is a trap, which takes a character beyond the first 128. -/
theorem generate_outcome (table : TypeTable) (config : GeneratorConfig) (cancelled : Bool) :
    ((exists generation, generate table config cancelled = .ok generation) ↔
      HasRuntime config ∧ ¬ Trips table config cancelled)
    ∧ ((exists path, generate table config cancelled = .error (.invalidRuntimePath path)) ↔
      ¬ HasRuntime config)
    ∧ ((exists name, generate table config cancelled = .error (.unwritableName name)) ↔
      HasRuntime config ∧ Trips table config cancelled)
    ∧ (forall name, Name.isEmittable name = true ->
      ((exists identifier, Identifier.ofName name = .ok identifier) ↔ ¬ Name.IsTrap name))
    ∧ forall name, Name.IsTrap name -> exists c, c ∈ name.toList ∧ 128 ≤ c.toNat := by
  refine ⟨?_, ?_, ?_, fun name => Name.exists_ofName_iff, fun name => Name.exists_of_isTrap⟩
  all_goals
    by_cases hruntime : HasRuntime config
    · rcases generate_of_hasRuntime table cancelled hruntime with
        ⟨generation, h, htrips⟩ | ⟨name, h, htrips⟩
      · simp [h, hruntime, htrips]
      · simp [h, hruntime, htrips]
    · simp [generate_of_not_hasRuntime hruntime, hruntime]

/-!
# A superscript

The superscript two is a number, and nothing that continues an identifier.
-/

def squaredMarker : MarkerSpec where
  targetType := "User"
  methodName := some "area²"

def squaredPatch : TypeInfo where
  name := "Patch"
  members := [.plain "age" .text]
  markers := [squaredMarker]

def squared : TypeTable where
  types := [{ name := "User", members := [.plain "age" .text] }, squaredPatch]

theorem generate_squared :
    Name.isEmittable "area²" = true ∧ Identifier.ofName "area²" = .error .unwritable
      ∧ generate squared {} false = .error (.unwritableName "area²") := by
  refine ⟨by decide, by decide, ?_⟩
  rcases exists_runtimePath "UpdateExt" with ⟨runtime, hruntime⟩
  have hresolve : resolve squaredPatch squared {} =
      ⟨[Resolution.method squaredPatch squared {} squaredMarker], []⟩ := rfl
  have hanalyze := Analysis.analyze_of_single rfl hresolve rfl rfl
  have hemitted : Emission.ofMethods {} runtime
      [(Resolution.method squaredPatch squared {} squaredMarker).toUpdateMethod] =
        .error "area²" := rfl
  have hclean (method : UpdateMethod) : withoutErrors [] [method] = [method] := rfl
  rw [generate_eq_ofAnalysis hruntime, hanalyze, ofAnalysis, emitted, hclean, hemitted]
  rfl

end Generation
end PartialUpdate
