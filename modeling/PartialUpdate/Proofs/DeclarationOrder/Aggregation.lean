import PartialUpdate.Proofs.DeclarationOrder.Analysis
import Mathlib.Data.List.Forall2

/-!
# Aggregations of methods that arrive in another order

An aggregation reads the methods of a pair only to see whether there is more than one, and it
sorts the bindings of the one method before it looks at them.  Neither the order in which the
methods arrive nor that of the bindings in each of them shows in the outcome, as long as the order
numbers of the bindings tell them apart.
-/

namespace PartialUpdate

namespace UpdateMethod

/-- No two bindings of the method have one order number. -/
def IsNumbered (method : UpdateMethod) : Prop :=
  (method.bindings.map PropertyBinding.order).Nodup

instance (method : UpdateMethod) : Decidable method.IsNumbered :=
  inferInstanceAs (Decidable (method.bindings.map PropertyBinding.order).Nodup)

structure Reorders (method other : UpdateMethod) : Prop where
  same : other = { method with bindings := other.bindings }
  bindings : method.bindings.Perm other.bindings

def reversed (method : UpdateMethod) : UpdateMethod :=
  { method with bindings := method.bindings.reverse }

theorem reorders_reversed (method : UpdateMethod) : method.Reorders method.reversed where
  same := rfl
  bindings := (List.reverse_perm method.bindings).symm

namespace Reorders

variable {method other : UpdateMethod}

theorem symm (h : method.Reorders other) : other.Reorders method where
  same := by
    rw [h.same]
  bindings := h.bindings.symm

theorem pair_eq (h : method.Reorders other) : other.pair = method.pair := by
  rw [h.same]
  rfl

theorem inherent_eq (h : method.Reorders other) : other.inherent = method.inherent := by
  rw [h.same]

theorem isNumbered (h : method.Reorders other) (hnumbered : method.IsNumbered) :
    other.IsNumbered :=
  (h.bindings.map PropertyBinding.order).nodup_iff.mp hnumbered

theorem sortedBindings_eq (h : method.Reorders other) (hnumbered : method.IsNumbered) :
    Aggregation.sortedBindings other = Aggregation.sortedBindings method := by
  have hsorted := Ordered.sort_eq_of_perm Ordered.natLe_isLinear PropertyBinding.order
    h.bindings hnumbered
  rw [h.same]
  exact congrArg (fun bindings => { method with bindings }) hsorted.symm

end Reorders
end UpdateMethod

namespace Aggregation

/-- The same methods in any order, each with its bindings in any order. -/
def Rearranges (methods others : List UpdateMethod) : Prop :=
  exists between, methods.Perm between ∧ List.Forall₂ UpdateMethod.Reorders between others

/-!
# Bindings in another order
-/

section Reordered

variable {methods others : List UpdateMethod}

theorem forall₂_reorders_symm (h : List.Forall₂ UpdateMethod.Reorders methods others) :
    List.Forall₂ UpdateMethod.Reorders others methods :=
  (h.imp (fun _ _ => UpdateMethod.Reorders.symm)).flip

theorem isNumbered_of_reorders (h : List.Forall₂ UpdateMethod.Reorders methods others)
    (hnumbered : forall method, method ∈ methods -> method.IsNumbered) :
    forall method, method ∈ others -> method.IsNumbered := by
  induction h with
  | nil =>
      intro other hother
      cases hother
  | cons hfirst _hrest ih =>
      rcases List.forall_mem_cons.mp hnumbered with ⟨hmethod, hmethods⟩
      exact List.forall_mem_cons.mpr ⟨hfirst.isNumbered hmethod, ih hmethods⟩

theorem map_pair_eq_of_reorders (h : List.Forall₂ UpdateMethod.Reorders methods others) :
    methods.map UpdateMethod.pair = others.map UpdateMethod.pair := by
  induction h with
  | nil => rfl
  | cons hfirst _hrest ih => rw [List.map_cons, List.map_cons, hfirst.pair_eq, ih]

theorem filter_pair_reorders (h : List.Forall₂ UpdateMethod.Reorders methods others)
    (pair : String × String) :
    List.Forall₂ UpdateMethod.Reorders (methods.filter (fun method => method.pair == pair))
      (others.filter (fun method => method.pair == pair)) := by
  apply List.rel_filter _ h
  intro method other hreorders
  show (method.pair == pair) = true ↔ (other.pair == pair) = true
  rw [hreorders.pair_eq]

theorem candidate?_of_reorders {declared : List DeclaredMethod} {pair : String × String}
    {candidate : UpdateMethod} (h : List.Forall₂ UpdateMethod.Reorders methods others)
    (hnumbered : forall method, method ∈ methods -> method.IsNumbered)
    (hcandidate : candidate? declared methods pair = some candidate) :
    candidate? declared others pair = some candidate := by
  rcases candidate?_eq_some.mp hcandidate with ⟨method, hfilter, hpair, hclash, rfl⟩
  have hfiltered := filter_pair_reorders h pair
  rw [hfilter] at hfiltered
  rcases List.forall₂_cons_left_iff.mp hfiltered with ⟨other, rest, hreorders, hnone, hothers⟩
  cases List.forall₂_nil_left_iff.mp hnone
  have hmethod := hnumbered method (pair_of_filter_eq hfilter).1
  refine candidate?_eq_some.mpr ⟨other, hothers, hpair, ?_, hreorders.sortedBindings_eq hmethod⟩
  rw [hreorders.inherent_eq]
  exact hclash

theorem candidates_eq_of_reorders (declared : List DeclaredMethod)
    (h : List.Forall₂ UpdateMethod.Reorders methods others)
    (hnumbered : forall method, method ∈ methods -> method.IsNumbered) :
    candidates declared methods = candidates declared others := by
  have hcandidate : candidate? declared methods = candidate? declared others := by
    funext pair
    apply Option.ext
    intro candidate
    constructor
    · exact candidate?_of_reorders h hnumbered
    · exact candidate?_of_reorders (forall₂_reorders_symm h) (isNumbered_of_reorders h hnumbered)
  rw [candidates, candidates, map_pair_eq_of_reorders h, hcandidate]

end Reordered

/-!
# Methods and bindings in another order
-/

/-- Neither the order of the methods nor that of their bindings shows in an aggregation. -/
theorem aggregate_eq_of_rearranges {methods others : List UpdateMethod}
    (declared : List DeclaredMethod) (config : GeneratorConfig)
    (hnumbered : forall method, method ∈ methods -> method.IsNumbered)
    (h : Rearranges methods others) :
    aggregate methods declared config = aggregate others declared config := by
  rcases h with ⟨between, hperm, hreorders⟩
  have hbetween : forall method, method ∈ between -> method.IsNumbered := by
    intro method hmem
    exact hnumbered method (hperm.mem_iff.mpr hmem)
  have hcandidates : candidates declared methods = candidates declared others :=
    (candidates_eq_of_perm (List.Perm.refl declared) hperm).trans
      (candidates_eq_of_reorders declared hreorders hbetween)
  unfold aggregate
  rw [hcandidates]

def numberedBinding (order : Nat) (path : String) : PropertyBinding where
  order := order
  source := .whole
  target := ⟨path, .text⟩
  options := default
  expression := none
  location := (Location.source "Patch").withMethod "User" "rename"

def renameMethod : UpdateMethod where
  sourceType := "Patch"
  targetType := "User"
  methodName := "rename"
  bindings := [numberedBinding 0 "name", numberedBinding 1 "nick", numberedBinding 2 "nick",
    numberedBinding 3 "name"]
  inherent := false
  location := (Location.source "Patch").withMethod "User" "rename"

def joinMethod : UpdateMethod :=
  { renameMethod with
    targetType := "Group"
    bindings := [numberedBinding 5 "owner", numberedBinding 4 "members"] }

theorem aggregate_renameMethod :
    aggregate [renameMethod, joinMethod] [] {} =
      ⟨[{ joinMethod with bindings := [numberedBinding 4 "members", numberedBinding 5 "owner"] }],
        [⟨.duplicateTargetPath "nick" "rename", renameMethod.location⟩,
          ⟨.duplicateTargetPath "name" "rename", renameMethod.location⟩]⟩ := by
  cbv

theorem aggregate_eq_of_rearranges_reversed :
    (forall method, method ∈ [renameMethod, joinMethod] -> method.IsNumbered)
      ∧ Rearranges [renameMethod, joinMethod] [joinMethod.reversed, renameMethod.reversed]
      ∧ aggregate [renameMethod, joinMethod] [] {} =
          aggregate [joinMethod.reversed, renameMethod.reversed] [] {}
      ∧ aggregate [joinMethod.reversed, renameMethod.reversed] [] {} =
        ⟨[{ joinMethod with bindings := [numberedBinding 4 "members", numberedBinding 5 "owner"] }],
          [⟨.duplicateTargetPath "nick" "rename", renameMethod.location⟩,
            ⟨.duplicateTargetPath "name" "rename", renameMethod.location⟩]⟩ := by
  have hnumbered : forall method, method ∈ [renameMethod, joinMethod] -> method.IsNumbered := by
    decide
  have hrearranges :
      Rearranges [renameMethod, joinMethod] [joinMethod.reversed, renameMethod.reversed] :=
    ⟨[joinMethod, renameMethod], List.Perm.swap joinMethod renameMethod [],
      .cons joinMethod.reorders_reversed (.cons renameMethod.reorders_reversed .nil)⟩
  have hsame := aggregate_eq_of_rearranges [] {} hnumbered hrearranges
  exact ⟨hnumbered, hrearranges, hsame, hsame.symm.trans aggregate_renameMethod⟩

end Aggregation
end PartialUpdate
