import PartialUpdate.Proofs.Except
import PartialUpdate.Proofs.Json.RoundTrip
import Mathlib.Data.List.Nodup

/-!
# Encoded data decoded

Options, lists and records, when they are encoded part by part, are decoded as their parts are.
How deep containers may be nested is the only thing that reading the data as a whole asks for.
-/

namespace PartialUpdate
namespace Json

structure Encodes {α : Type} (decode : Json -> JsonResult α) (value : α) (json : Json) : Prop where
  plain : IsPlain json
  decoded : decode json = .ok value

section

variable {α : Type} {decode : Json -> JsonResult α} {encode : α -> Json}

theorem encodes_bool (value : Bool) : Encodes asBool value (.bool value) :=
  ⟨.bool value, rfl⟩

theorem encodes_string (value : String) : Encodes asString value (.string value) :=
  ⟨.string value, rfl⟩

/-- Data other than `null` stands for itself where it may be left out. -/
theorem encodes_ofOption (h : forall value, Encodes decode value (encode value))
    (hnull : forall value, encode value ≠ .null) (option : Option α) :
    Encodes (asOption decode) option (ofOption encode option) := by
  cases option with
  | none => exact ⟨.null, rfl⟩
  | some value =>
      refine ⟨(h value).plain, ?_⟩
      have hdecoded := (h value).decoded
      rw [ofOption, asOption, hdecoded]
      · rfl
      · exact hnull value

theorem encodes_ofList {values : List α}
    (h : forall value, value ∈ values -> Encodes decode value (encode value)) :
    Encodes (asList decode) values (ofList (values.map encode)) := by
  refine ⟨?_, ?_⟩
  · apply IsPlain.ofList
    intro item hitem
    rcases List.mem_map.mp hitem with ⟨value, hvalue, rfl⟩
    exact (h value hvalue).plain
  · have hitems : (values.map encode).mapM decode = .ok values := by
      rw [mapM_eq_ok_iff, List.forall₂_map_left_iff, List.forall₂_same]
      intro value hvalue
      exact (h value hvalue).decoded
    rw [ofList, asList, hitems]
    rfl

/-!
# Records
-/

structure Fits (rule : FieldRule) (member : String × Json) : Prop where
  name : rule.name = member.1
  plain : IsPlain member.2
  accepted : rule.check member.2 = .ok ()

theorem Encodes.fits {value : α} {json : Json} (h : Encodes decode value json) (name : String)
    (required : Bool) : Fits (field name required decode) (name, json) := by
  refine ⟨rfl, h.plain, ?_⟩
  show (decode json).bind (fun _ => .ok ()) = _
  rw [h.decoded]
  rfl

end

theorem find?_of_nodup {rules : List FieldRule} (hnodup : (rules.map FieldRule.name).Nodup)
    {rule : FieldRule} (hrule : rule ∈ rules) :
    rules.find? (fun other => other.name == rule.name) = some rule := by
  cases hfound : rules.find? (fun other => other.name == rule.name) with
  | none =>
      rw [List.find?_eq_none] at hfound
      exact absurd (beq_self_eq_true rule.name) (hfound rule hrule)
  | some other =>
      have hname : other.name = rule.name := by
        simpa using List.find?_some hfound
      have hother := List.mem_of_find?_eq_some hfound
      rw [List.inj_on_of_nodup_map hnodup hother hrule hname]

theorem checkMembers_of_fits (before : List FieldRule) {later : List FieldRule}
    {members : List (String × Json)} (hfit : List.Forall₂ Fits later members)
    (hnodup : ((before ++ later).map FieldRule.name).Nodup) :
    checkMembers (before ++ later) (before.map FieldRule.name).reverse (spelledMembers members) =
      .ok () := by
  induction hfit generalizing before with
  | nil => rfl
  | @cons rule member later more hfits _ ih =>
      rcases hfits with ⟨hname, _, hcheck⟩
      have hfind := find?_of_nodup hnodup (List.mem_append_right before List.mem_cons_self)
      have hnew : (before.map FieldRule.name).reverse.contains rule.name = false := by
        rw [List.map_append, List.nodup_append] at hnodup
        simp only [List.contains_eq_mem, List.mem_reverse, decide_eq_false_iff_not]
        intro hseen
        exact hnodup.2.2 _ hseen _ (List.mem_map_of_mem List.mem_cons_self) rfl
      have hmore := ih (before ++ [rule]) (by rwa [List.append_assoc])
      rw [List.append_assoc, List.singleton_append, List.map_append, List.reverse_append] at hmore
      rw [spelledMembers_cons, checkMembers, ← hname]
      simp only [asName, hfind, hnew, hcheck, bind, Except.bind]
      exact hmore

theorem names_of_fits {rules : List FieldRule} {members : List (String × Json)}
    (hfit : List.Forall₂ Fits rules members) :
    rules.map FieldRule.name = members.map Prod.fst := by
  induction hfit with
  | nil => rfl
  | cons hfits _ ih => rw [List.map_cons, List.map_cons, hfits.name, ih]

theorem textMembers_spelledMembers (members : List (String × Json)) :
    textMembers (spelledMembers members) = members := by
  simp [textMembers, spelledMembers, List.filterMap_map]

theorem asRecord_ofMembers (name : String) {rules : List FieldRule}
    {members : List (String × Json)} (hfit : List.Forall₂ Fits rules members)
    (hnodup : (rules.map FieldRule.name).Nodup) :
    asRecord name rules (ofMembers members) = .ok members := by
  have hcheck : checkMembers rules [] (spelledMembers members) = .ok () :=
    checkMembers_of_fits [] hfit hnodup
  have hpresent :
      rules.find? (fun rule => rule.required && !members.any (·.1 == rule.name)) = none := by
    rw [List.find?_eq_none]
    intro rule hrule
    have hmem : rule.name ∈ members.map Prod.fst :=
      names_of_fits hfit ▸ List.mem_map_of_mem hrule
    rcases List.mem_map.mp hmem with ⟨member, hmember, hname⟩
    have hany : members.any (·.1 == rule.name) = true :=
      List.any_eq_true.mpr ⟨member, hmember, beq_iff_eq.mpr hname⟩
    rw [hany, Bool.not_true, Bool.and_false]
    exact Bool.false_ne_true
  show asRecord name rules (.object (spelledMembers members) none) = _
  simp only [asRecord, hcheck, textMembers_spelledMembers, hpresent, noFault, bind, Except.bind]
  rfl

theorem isPlain_ofMembers {rules : List FieldRule} {members : List (String × Json)}
    (hfit : List.Forall₂ Fits rules members) : IsPlain (ofMembers members) := by
  apply IsPlain.ofMembers
  induction hfit with
  | nil => exact fun member hmember => absurd hmember List.not_mem_nil
  | cons hfits _ ih =>
      intro member hmember
      rcases List.mem_cons.mp hmember with rfl | hmore
      · exact hfits.plain
      · exact ih member hmore

theorem encodes_record {α : Type} {value : α} {name : String} {rules : List FieldRule}
    {members : List (String × Json)} {build : FieldData -> JsonResult α}
    (hfit : List.Forall₂ Fits rules members) (hnodup : (rules.map FieldRule.name).Nodup)
    (hbuild : build members = .ok value) :
    Encodes (fun json => asRecord name rules json >>= build) value (ofMembers members) := by
  refine ⟨isPlain_ofMembers hfit, ?_⟩
  show asRecord name rules (ofMembers members) >>= build = _
  rw [asRecord_ofMembers name hfit hnodup]
  exact hbuild

section

variable {α β : Type} {decode : Json -> JsonResult α} {value : α} {json : Json}
  {data : FieldData} {name : String} {next : α -> JsonResult β} {result : β}

theorem Encodes.required (h : Encodes decode value json) (hdata : data.lookup name = some json)
    (hnext : next value = .ok result) : data.required name decode >>= next = .ok result := by
  rw [FieldData.required, hdata]
  show decode json >>= next = _
  rw [h.decoded]
  exact hnext

theorem Encodes.optional {default : α} (h : Encodes decode value json)
    (hdata : data.lookup name = some json) (hnext : next value = .ok result) :
    data.optional name default decode >>= next = .ok result := by
  rw [FieldData.optional, hdata]
  show decode json >>= next = _
  rw [h.decoded]
  exact hnext

end

/-!
# Nesting
-/

mutual

/-- How many containers stand in one another. -/
def nesting : Json -> Nat
  | .array items _ => nestingOfItems items + 1
  | .object members _ => nestingOfMembers members + 1
  | _ => 0

def nestingOfItems : List Json -> Nat
  | [] => 0
  | item :: rest => max (nesting item) (nestingOfItems rest)

def nestingOfMembers : List (JsonKey × Json) -> Nat
  | [] => 0
  | (_, value) :: rest => max (nesting value) (nestingOfMembers rest)

end

theorem nesting_item_lt {items : List Json} {item : Json} (h : item ∈ items) :
    item.nesting < (ofList items).nesting := by
  rw [ofList, nesting, Nat.lt_succ_iff]
  induction items with
  | nil => exact absurd h List.not_mem_nil
  | cons first rest ih =>
      rw [nestingOfItems]
      rcases List.mem_cons.mp h with rfl | hrest
      · exact Nat.le_max_left _ _
      · exact Nat.le_trans (ih hrest) (Nat.le_max_right _ _)

theorem nesting_member_lt {members : List (String × Json)} {member : String × Json}
    (h : member ∈ members) : member.2.nesting < (ofMembers members).nesting := by
  rw [ofMembers, nesting, Nat.lt_succ_iff]
  induction members with
  | nil => exact absurd h List.not_mem_nil
  | cons first rest ih =>
      rw [List.map_cons, nestingOfMembers]
      rcases List.mem_cons.mp h with rfl | hrest
      · exact Nat.le_max_left _ _
      · exact Nat.le_trans (ih hrest) (Nat.le_max_right _ _)

theorem firstFaultOfItems_eq_none {depth : Nat} {items : List Json}
    (h : forall item, item ∈ items -> firstFault depth item = none) :
    firstFaultOfItems depth items = none := by
  induction items with
  | nil => rfl
  | cons item rest ih =>
      rw [firstFaultOfItems, h item List.mem_cons_self,
        ih (fun other hother => h other (List.mem_cons_of_mem _ hother))]
      rfl

theorem firstFaultOfMembers_eq_none {depth : Nat} {members : List (String × Json)}
    (h : forall member, member ∈ members -> firstFault depth member.2 = none) :
    firstFaultOfMembers depth (spelledMembers members) = none := by
  induction members with
  | nil => rfl
  | cons member rest ih =>
      rw [spelledMembers_cons, firstFaultOfMembers, h member List.mem_cons_self,
        ih (fun other hother => h other (List.mem_cons_of_mem _ hother))]
      rfl

theorem firstFault_eq_none {json : Json} (h : IsPlain json) {depth : Nat}
    (hdepth : depth + json.nesting <= depthLimit) : firstFault depth json = none := by
  induction h generalizing depth with
  | null => rfl
  | bool value => rfl
  | string value => rfl
  | @ofList items _ ih =>
      have hitems : firstFaultOfItems (depth + 1) items = none := by
        apply firstFaultOfItems_eq_none
        intro item hitem
        have hlt := nesting_item_lt hitem
        exact ih item hitem (by omega)
      have hopen : depth < depthLimit := by
        rw [ofList, nesting] at hdepth
        omega
      rw [ofList, firstFault, hitems, if_pos hopen]
      rfl
  | @ofMembers members _ ih =>
      have hmembers : firstFaultOfMembers (depth + 1) (spelledMembers members) = none := by
        apply firstFaultOfMembers_eq_none
        intro member hmember
        have hlt := nesting_member_lt hmember
        exact ih member hmember (by omega)
      have hopen : depth < depthLimit := by
        rw [ofMembers, nesting] at hdepth
        omega
      show firstFault depth (.object (spelledMembers members) none) = none
      rw [firstFault, hmembers, if_pos hopen]
      rfl

end Json
end PartialUpdate
