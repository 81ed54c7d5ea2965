import PartialUpdate.Proofs.Nesting
import PartialUpdate.Proofs.TargetPath.Identifiers
import Mathlib.Data.List.Nodup

/-!
# Members and the names of other members

A path enters a member under its own name and under its stored one, and of several members that
go by a name it enters the first.  A member is therefore entered under its own name unless a
member before it is stored under that name; then the path leads to the earlier one, and if the
stored name of the later one is taken too, no path leads to the later one at all.
-/

namespace PartialUpdate

namespace TypeInfo

/-- Every stored member is entered under its own name. -/
def AddressesByName (owner : TypeInfo) : Prop :=
  forall member, member ∈ owner.members -> member.skipped = false ->
    owner.member? member.name = some member

/-- The first member stands before the second one and is stored under the name of that one. -/
structure Shadows (owner : TypeInfo) (earlier later : MemberInfo) : Prop where
  before : exists before after, owner.members = before ++ later :: after ∧ earlier ∈ before
  stored : earlier.skipped = false
  name : earlier.storedName = later.name

variable {owner : TypeInfo} {member found : MemberInfo}

theorem exists_member?_name (hmem : member ∈ owner.members) (hstored : member.skipped = false) :
    exists found, owner.member? member.name = some found := by
  cases hfound : owner.member? member.name with
  | some found => exact ⟨found, rfl⟩
  | none => exact absurd ⟨hstored, Or.inl rfl⟩ (member?_eq_none_iff.mp hfound member hmem)

theorem shadows_of_member?_name (hnames : (owner.members.map MemberInfo.name).Nodup)
    (hmem : member ∈ owner.members) (hstored : member.skipped = false)
    (hfound : owner.member? member.name = some found) (hne : found ≠ member) :
    owner.Shadows found member := by
  rcases member?_eq_some_iff.mp hfound with ⟨⟨hskipped, hname⟩, front, back, hmembers, hfront⟩
  have hfoundMem : found ∈ owner.members := List.mem_of_find?_eq_some hfound
  have hlater : member ∈ back := by
    rw [hmembers, List.mem_append, List.mem_cons] at hmem
    rcases hmem with hmem | heq | hmem
    · exact absurd ⟨hstored, Or.inl rfl⟩ (hfront member hmem)
    · exact absurd heq.symm hne
    · exact hmem
  rcases List.append_of_mem hlater with ⟨between, after, hback⟩
  refine ⟨⟨front ++ found :: between, after, ?_, by simp⟩, hskipped, ?_⟩
  · rw [hmembers, hback]
    simp
  · rcases hname with hname | hname
    · exact absurd (List.inj_on_of_nodup_map hnames hfoundMem hmem hname) hne
    · exact hname

theorem ne_of_shadows {earlier : MemberInfo} (hnames : (owner.members.map MemberInfo.name).Nodup)
    (hshadows : owner.Shadows earlier member)
    (hfound : owner.member? member.name = some found) : found ≠ member := by
  rintro rfl
  rcases hshadows.before with ⟨before, after, hmembers, hearlier⟩
  rw [hmembers] at hnames
  have hanswers : earlier.answersTo found.name = true :=
    MemberInfo.answersTo_iff.mpr ⟨hshadows.stored, Or.inr hshadows.name⟩
  have hsome : (before.find? (fun other => other.answersTo found.name)).isSome = true :=
    List.find?_isSome.mpr ⟨earlier, hearlier, hanswers⟩
  rcases Option.isSome_iff_exists.mp hsome with ⟨first, hfirst⟩
  rw [member?, hmembers, List.find?_append, hfirst] at hfound
  cases hfound
  rw [List.map_append, List.map_cons] at hnames
  exact (List.nodup_append.mp hnames).2.2 _ (List.mem_map_of_mem (List.mem_of_find?_eq_some hfirst))
    _ List.mem_cons_self rfl

theorem eq_iff_not_shadowed (hnames : (owner.members.map MemberInfo.name).Nodup)
    (hmem : member ∈ owner.members) (hstored : member.skipped = false)
    (hfound : owner.member? member.name = some found) :
    found = member ↔ forall earlier, ¬ owner.Shadows earlier member := by
  constructor
  · intro heq earlier hshadows
    exact ne_of_shadows hnames hshadows hfound heq
  · intro hfree
    by_contra hne
    exact hfree found (shadows_of_member?_name hnames hmem hstored hfound hne)

end TypeInfo

/-!
# Fields bound under their own names
-/

namespace Walk

theorem visits_single {table : TypeTable} {owner : TypeInfo} {name : String} {found : MemberInfo}
    (hfound : owner.member? name = some found) :
    Visits table owner [⟨name, none⟩] [⟨found.storedName, none⟩] found.type :=
  .last (enters_iff.mpr ⟨hfound, rfl⟩)

end Walk

namespace Resolution

/-- A binding that writes under the name of a stored member of the type in which its paths start
leads to the member found under that name.  This is the member itself exactly if no member before
it is stored under its name, and otherwise one of those. -/
theorem resolve_own_name {owner : TypeInfo} {member : MemberInfo}
    (hnames : (owner.members.map MemberInfo.name).Nodup) (hmem : member ∈ owner.members)
    (hstored : member.skipped = false) :
    exists found, owner.member? member.name = some found
      ∧ (found = member ∨ owner.Shadows found member)
      ∧ (found = member ↔ forall earlier, ¬ owner.Shadows earlier member)
      ∧ forall source table config marker binding start,
          BindsUnder source table config marker binding member.name ->
          PathPrefix.ofMarker table marker = .ok start -> start.owner = owner ->
          Name.IsWord member.name ->
            binding.target =
              .ok ⟨".".intercalate (start.parts ++ [found.storedName]), found.type⟩ := by
  rcases TypeInfo.exists_member?_name hmem hstored with ⟨found, hfound⟩
  refine ⟨found, hfound, ?_, TypeInfo.eq_iff_not_shadowed hnames hmem hstored hfound, ?_⟩
  · by_cases heq : found = member
    · exact Or.inl heq
    · exact Or.inr (TypeInfo.shadows_of_member?_name hnames hmem hstored hfound heq)
  · intro source table config marker binding start hbinds hstart howner hword
    rw [hbinds.target_eq_ok_iff]
    refine ⟨start, hstart, PathPrefix.target_eq_ok_iff.mpr ?_⟩
    refine ⟨_, _, TargetPath.parse_word hword, Walk.visits_single (howner ▸ hfound), rfl⟩

/-!
An address whose members are each stored under the name of the other one, and a source that moves
to another city.
-/

def street : MemberInfo where
  name := "street"
  storedName := "city"
  type := .text

def city : MemberInfo where
  name := "city"
  storedName := "street"
  type := .optional .text

def crossed : TypeInfo where
  name := "Address"
  members := [street, city]

def addressMarker : MarkerSpec where
  targetType := "Address"

def relocation : TypeInfo where
  name := "Move"
  members := [.plain "city" .text]
  markers := [addressMarker]

def relocations : TypeTable where
  types := [crossed, relocation]

def relocationBinding : ResolvedBinding where
  order := 0
  source := .property "city" .text
  spec := {}
  options := ⟨true, true, .set, true, false⟩
  target := .ok ⟨"city", .text⟩
  location :=
    { sourceType := "Move", member := some "city", targetType := some "Address",
      method := some "to_update" }

theorem bindsUnder_city :
    BindsUnder relocation relocations {} addressMarker relocationBinding "city" :=
  ⟨0, _, rfl, rfl, List.mem_singleton_self _, rfl⟩

theorem shadows_crossed : crossed.Shadows street city where
  before := ⟨[street], [], rfl, List.mem_singleton_self _⟩
  stored := rfl
  name := rfl

theorem resolve_own_name_crossed :
    exists found, crossed.member? "city" = some found ∧ crossed.Shadows found city
      ∧ relocationBinding.target = .ok ⟨found.storedName, found.type⟩ := by
  have hnames : (crossed.members.map MemberInfo.name).Nodup := by decide
  have hmem : city ∈ crossed.members := List.mem_cons_of_mem _ List.mem_cons_self
  rcases resolve_own_name hnames hmem rfl with ⟨found, hfound, hwhich, hfree, hresolves⟩
  refine ⟨found, hfound, ?_, ?_⟩
  · rcases hwhich with heq | hshadows
    · exact absurd shadows_crossed (hfree.mp heq street)
    · exact hshadows
  · exact hresolves _ _ _ _ _ ⟨[], crossed⟩ bindsUnder_city rfl rfl (Or.inl (by decide))

/-- The second member is stored, and no name leads to it; a field of its name is written where
the first one is stored. -/
theorem not_addressesByName_crossed :
    (crossed.members.map MemberInfo.name).Nodup ∧ ¬ crossed.AddressesByName
      ∧ (forall name, crossed.member? name ≠ some city)
      ∧ BindsUnder relocation relocations {} addressMarker relocationBinding city.name
      ∧ relocationBinding.target ≠ .ok ⟨city.storedName, city.type⟩ := by
  have hnone : forall name, crossed.member? name ≠ some city := by
    intro name hfound
    rcases TypeInfo.member?_eq_some_iff.mp hfound with ⟨⟨_stored, hname⟩, _⟩
    rcases hname with rfl | rfl
    · exact absurd hfound (by decide)
    · exact absurd hfound (by decide)
  refine ⟨by decide, ?_, hnone, bindsUnder_city, by decide⟩
  intro haddresses
  exact hnone _ (haddresses city (List.mem_cons_of_mem _ List.mem_cons_self) rfl)

end Resolution
end PartialUpdate
