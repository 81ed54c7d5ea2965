import PartialUpdate.Proofs.Emission.Outcome

/-!
# Names that stop the emission

A name may pass the check of declared names and still be no identifier of the language.  The
emission goes through the names and the expressions of a method in order: the first that does
not hold has the method left out and reported, or, where it is such a name, stops everything.
-/

namespace PartialUpdate

namespace Name

/-- The name passes for an identifier and is none. -/
def IsTrap (name : String) : Prop :=
  isIdentifier name = true ∧ isLexical name = false

theorem exists_ofName_iff {name : String} (hemittable : isEmittable name = true) :
    (exists identifier, Identifier.ofName name = .ok identifier) ↔ ¬ IsTrap name := by
  unfold IsTrap Identifier.ofName
  cases isIdentifier name <;> cases isLexical name <;> simp [hemittable]

/-!
Among the first 128 characters the two checks agree.
-/

theorem isStart_of_isLetter {c : Char} (hc : c.toNat < 128) (h : isLetter c = true) :
    isStart c = true := by
  have hall : forall n, n < 128 -> CharSet.covers CharSet.alphabetic.ranges n = true ->
      CharSet.covers CharSet.identifierStart.ranges n = true := by
    decide
  have hstart : CharSet.identifierStart.contains c = true := hall c.toNat hc h
  simp [isStart, hstart]

theorem isContinue_of_isLetterOrNumber {c : Char} (hc : c.toNat < 128)
    (h : isLetterOrNumber c = true) : isContinue c = true := by
  have hall : forall n, n < 128 ->
      (CharSet.covers CharSet.alphabetic.ranges n || CharSet.covers CharSet.numeric.ranges n)
        = true ->
      CharSet.covers CharSet.identifierContinue.ranges n = true := by
    decide
  exact hall c.toNat hc h

theorem isContinue_underscore : isContinue '_' = true := by
  decide

/-- A name that passes for an identifier and is none has a character beyond the first 128. -/
theorem exists_of_isTrap {name : String} (h : IsTrap name) :
    exists c, c ∈ name.toList ∧ 128 ≤ c.toNat := by
  by_contra hnone
  have hlow : forall c, c ∈ name.toList -> c.toNat < 128 := by
    intro c hc
    by_contra hhigh
    exact hnone ⟨c, hc, by omega⟩
  rcases h with ⟨hidentifier, hlexical⟩
  unfold isIdentifier at hidentifier
  unfold isLexical at hlexical
  cases hchars : name.toList with
  | nil =>
      rw [hchars] at hidentifier
      cases hidentifier
  | cons first rest =>
      rw [hchars] at hidentifier hlexical hlow
      simp only [Bool.and_eq_true, Bool.or_eq_true, List.all_eq_true, beq_iff_eq] at hidentifier
      have hfirst : isStart first = true := by
        rcases hidentifier.1.1.1 with hletter | hunderscore
        · exact isStart_of_isLetter (hlow first List.mem_cons_self) hletter
        · simp [isStart, hunderscore]
      have hrest : rest.all isContinue = true := by
        rw [List.all_eq_true]
        intro c hc
        rcases hidentifier.1.1.2 c hc with hletter | rfl
        · exact isContinue_of_isLetterOrNumber (hlow c (List.mem_cons_of_mem first hc)) hletter
        · exact isContinue_underscore
      simp [hfirst, hrest] at hlexical

end Name

/-!
# Fragments of a declaration
-/

inductive Fragment
  | name (text : String)
  | expression (text : String)

namespace Fragment

def Holds : Fragment -> Prop
  | .name text => Name.isEmittable text = true ∧ ¬ Name.IsTrap text
  | .expression text => exists expression, Syntax.expression text = .ok expression

def IsTrap : Fragment -> Prop
  | .name text => Name.IsTrap text
  | .expression _ => False

/-- The first fragment that does not hold is a trap. -/
def Trapped : List Fragment -> Prop
  | [] => False
  | fragment :: rest => fragment.IsTrap ∨ (fragment.Holds ∧ Trapped rest)

theorem trapped_append (fragments more : List Fragment) :
    Trapped (fragments ++ more) ↔
      Trapped fragments
        ∨ ((forall fragment, fragment ∈ fragments -> fragment.Holds) ∧ Trapped more) := by
  induction fragments with
  | nil => simp [Trapped]
  | cons fragment rest ih =>
      simp only [List.cons_append, Trapped, ih, List.forall_mem_cons]
      tauto

end Fragment

/-- An expression is looked at before the name of the field. -/
def PropertyBinding.fragments (binding : PropertyBinding) : List Fragment :=
  (binding.expression.map Fragment.expression).toList
    ++ (binding.source.propertyName?.map Fragment.name).toList

def UpdateMethod.fragments (method : UpdateMethod) : List Fragment :=
  [.name method.methodName, .name method.targetType]
    ++ (if method.inherent then [.name method.sourceType] else [])
    ++ method.bindings.flatMap PropertyBinding.fragments

def Fragment.ofTrait (config : GeneratorConfig) (source : String) : List Fragment :=
  [.name source, .name (source ++ config.extensionSuffix)]

namespace Emission

/-!
# Outcomes
-/

/-- The outcome is decided by the fragments: written if all of them hold, and an end to everything
if they run into a trap. -/
structure Meets {α : Type} (outcome : Emitted α) (fragments : List Fragment) : Prop where
  ok : (exists value, outcome = .ok value) ↔
    forall fragment, fragment ∈ fragments -> fragment.Holds
  unwritable : (exists name, outcome = .error (.unwritable name)) ↔ Fragment.Trapped fragments

namespace Meets

variable {α β : Type}

theorem pure (value : α) : Meets (.ok value : Emitted α) [] :=
  ⟨by simp, by simp [Fragment.Trapped]⟩

/-- What follows goes on to further fragments only when those before it hold. -/
theorem bind {first : Emitted α} {next : α -> Emitted β} {fragments more : List Fragment}
    (hfirst : Meets first fragments) (hnext : forall value, Meets (next value) more) :
    Meets (first >>= next) (fragments ++ more) := by
  have hok := hfirst.ok
  have hunwritable := hfirst.unwritable
  cases first with
  | ok value =>
      have hhold : forall fragment, fragment ∈ fragments -> fragment.Holds := hok.mp ⟨value, rfl⟩
      have hfree : ¬ Fragment.Trapped fragments := by
        intro htrapped
        rcases hunwritable.mpr htrapped with ⟨name, h⟩
        cases h
      constructor
      · rw [List.forall_mem_append]
        exact (hnext value).ok.trans ⟨fun h => ⟨hhold, h⟩, fun h => h.2⟩
      · rw [Fragment.trapped_append]
        exact (hnext value).unwritable.trans
          ⟨fun h => Or.inr ⟨hhold, h⟩, fun h => (h.resolve_left hfree).2⟩
  | error problem =>
      have hfails : ¬ forall fragment, fragment ∈ fragments -> fragment.Holds := by
        intro hhold
        rcases hok.mpr hhold with ⟨value, h⟩
        cases h
      constructor
      · rw [List.forall_mem_append]
        constructor
        · rintro ⟨value, h⟩
          cases h
        · intro h
          exact absurd h.1 hfails
      · rw [Fragment.trapped_append, or_iff_left (fun h => hfails h.1), ← hunwritable]
        constructor
        · rintro ⟨name, h⟩
          cases h
          exact ⟨name, rfl⟩
        · rintro ⟨name, h⟩
          cases h
          exact ⟨name, rfl⟩

theorem map {first : Emitted α} {fragments : List Fragment} (h : Meets first fragments)
    (f : α -> β) : Meets (first >>= fun value => .ok (f value)) fragments := by
  have hbind := h.bind (fun value => pure (f value))
  rwa [List.append_nil] at hbind

theorem mapM {f : α -> Emitted β} {fragments : α -> List Fragment}
    (h : forall item, Meets (f item) (fragments item)) (items : List α) :
    Meets (items.mapM f) (items.flatMap fragments) := by
  induction items with
  | nil => exact pure []
  | cons item rest ih =>
      rw [List.mapM_cons, List.flatMap_cons]
      exact (h item).bind (fun value => ih.map (fun values => value :: values))

end Meets

theorem identifier_meets (name : String) (location : Location) :
    Meets (identifier name location) [.name name] := by
  have hemittable : Name.isIdentifier name = true -> Name.isEmittable name = true := by
    intro h
    simp [Name.isEmittable, h]
  constructor
  · simp only [List.forall_mem_singleton, Fragment.Holds, Name.IsTrap]
    unfold identifier Identifier.ofName
    cases hidentifier : Name.isIdentifier name <;> cases hlexical : Name.isLexical name <;>
      cases hpasses : Name.isEmittable name <;> simp_all
  · simp only [Fragment.Trapped, Fragment.IsTrap, Name.IsTrap, and_false, or_false]
    unfold identifier Identifier.ofName
    cases hidentifier : Name.isIdentifier name <;> cases hlexical : Name.isLexical name <;>
      cases hpasses : Name.isEmittable name <;> simp_all

theorem expression?_meets (binding : PropertyBinding) :
    Meets (expression? binding) (binding.expression.map Fragment.expression).toList := by
  unfold expression?
  cases binding.expression with
  | none => exact Meets.pure none
  | some text =>
      cases hread : Syntax.expression text with
      | ok expression =>
          constructor <;> simp [Fragment.Holds, Fragment.Trapped, Fragment.IsTrap, hread]
      | error e =>
          constructor <;> simp [Fragment.Holds, Fragment.Trapped, Fragment.IsTrap, hread]

theorem subject_meets (binding : PropertyBinding) :
    Meets (subject binding) (binding.source.propertyName?.map Fragment.name).toList := by
  unfold subject
  cases binding.source with
  | whole => exact Meets.pure _
  | property name type => exact (identifier_meets name binding.location).map _

theorem call_meets (binding : PropertyBinding) : Meets (call binding) binding.fragments :=
  (expression?_meets binding).bind (fun _ => (subject_meets binding).map _)

theorem parameterType_meets (declared : UpdateMethod) :
    Meets (parameterType declared)
      (if declared.inherent then [.name declared.sourceType] else []) := by
  unfold parameterType
  cases declared.inherent with
  | true => exact (identifier_meets declared.sourceType declared.location).map some
  | false => exact Meets.pure none

theorem method_meets (declared : UpdateMethod) : Meets (method declared) declared.fragments := by
  rw [method_eq]
  unfold UpdateMethod.fragments
  rw [List.append_assoc, ← List.singleton_append, List.append_assoc]
  apply (identifier_meets declared.methodName declared.location).bind
  intro name
  apply (identifier_meets declared.targetType declared.location).bind
  intro target
  apply (parameterType_meets declared).bind
  intro source
  exact (Meets.mapM call_meets declared.bindings).map _

theorem extensionTrait_meets (config : GeneratorConfig) (members : List GeneratedMethod)
    (source : String) :
    Meets (extensionTrait config members source) (Fragment.ofTrait config source) := by
  rw [extensionTrait_eq]
  change Meets _ ([.name source] ++ [.name (source ++ config.extensionSuffix)])
  apply (identifier_meets source (Location.source source)).bind
  intro sourceName
  exact (identifier_meets (source ++ config.extensionSuffix) (Location.source source)).map _

/-!
# All of an emission
-/

/-- A method runs into a trap, or one that is written belongs to a trait that does. -/
def Trips (config : GeneratorConfig) (methods : List UpdateMethod) : Prop :=
  (exists declared, declared ∈ methods ∧ Fragment.Trapped declared.fragments)
    ∨ exists declared, declared ∈ methods ∧ declared.inherent = false
        ∧ (forall fragment, fragment ∈ declared.fragments -> fragment.Holds)
        ∧ Fragment.Trapped (Fragment.ofTrait config declared.sourceType)

theorem exists_bind_ok_eq_error {ε α β : Type} (first : Except ε α) (f : α -> β) :
    (exists e, (first >>= fun value => .ok (f value)) = .error e) ↔
      exists e, first = .error e := by
  cases first with
  | ok value =>
      constructor
      · rintro ⟨e, h⟩
        cases h
      · rintro ⟨e, h⟩
        cases h
  | error e => exact iff_of_true ⟨e, rfl⟩ ⟨e, rfl⟩

theorem gather_eq_error_iff {α : Type} (outcomes : List (Emitted α)) :
    (exists name, gather outcomes = .error name) ↔
      exists outcome, outcome ∈ outcomes ∧ exists name, outcome = .error (.unwritable name) := by
  induction outcomes with
  | nil => simp [gather]
  | cons first rest ih =>
      rw [List.exists_mem_cons_iff]
      cases first with
      | ok value =>
          have hfirst : ¬ exists name,
              (.ok value : Emitted α) = .error (.unwritable name) := by simp
          rw [or_iff_right hfirst]
          exact (exists_bind_ok_eq_error (gather rest)
            (fun found => (value :: found.1, found.2))).trans ih
      | error problem =>
          cases problem with
          | reported diagnostic =>
              have hfirst : ¬ exists name,
                  (.error (.reported diagnostic) : Emitted α) = .error (.unwritable name) := by
                simp
              rw [or_iff_right hfirst]
              exact (exists_bind_ok_eq_error (gather rest)
                (fun found => (found.1, diagnostic :: found.2))).trans ih
          | unwritable name =>
              exact iff_of_true ⟨name, rfl⟩ (Or.inl ⟨name, rfl⟩)

theorem gather_map_eq_error_iff {α β : Type} {f : α -> Emitted β} {fragments : α -> List Fragment}
    (h : forall item, Meets (f item) (fragments item)) (items : List α) :
    (exists name, gather (items.map f) = .error name) ↔
      exists item, item ∈ items ∧ Fragment.Trapped (fragments item) := by
  rw [gather_eq_error_iff]
  constructor
  · rintro ⟨outcome, hmem, hname⟩
    rcases List.mem_map.mp hmem with ⟨item, hitem, rfl⟩
    exact ⟨item, hitem, (h item).unwritable.mp hname⟩
  · rintro ⟨item, hitem, htrapped⟩
    exact ⟨f item, List.mem_map_of_mem hitem, (h item).unwritable.mpr htrapped⟩

theorem mem_traitSources_iff {methods : List UpdateMethod} {source : String} :
    source ∈ traitSources methods ↔
      exists declared, declared ∈ methods ∧ declared.inherent = false
        ∧ (forall fragment, fragment ∈ declared.fragments -> fragment.Holds)
        ∧ declared.sourceType = source := by
  rw [mem_traitSources]
  constructor
  · rintro ⟨generated, hmember, hsource⟩
    rcases mem_members.mp hmember with ⟨hwritten, hown⟩
    rcases mem_written.mp hwritten with ⟨hmem, hok⟩
    exact ⟨generated.declared, hmem, hown, (method_meets _).ok.mp ⟨generated, hok⟩, hsource⟩
  · rintro ⟨declared, hmem, hown, hhold, hsource⟩
    rcases (method_meets declared).ok.mpr hhold with ⟨generated, hok⟩
    have horigin := (writes_of_method_eq_ok hok).origin
    subst horigin
    exact ⟨generated, mem_members.mpr ⟨mem_written.mpr ⟨hmem, hok⟩, hown⟩, hsource⟩

theorem ofMethods_eq_error_iff (config : GeneratorConfig) (runtime : List Token)
    (methods : List UpdateMethod) :
    (exists name, ofMethods config runtime methods = .error name) ↔ Trips config methods := by
  have hmethods := gather_map_eq_error_iff method_meets methods
  have htraits := gather_map_eq_error_iff
    (extensionTrait_meets config (members methods)) (traitSources methods)
  cases hgather : gather (methods.map method) with
  | error name =>
      have hfails : exists name, ofMethods config runtime methods = .error name :=
        ⟨name, by rw [ofMethods, hgather]; rfl⟩
      exact iff_of_true hfails (Or.inl (hmethods.mp ⟨name, hgather⟩))
  | ok found =>
      rcases found with ⟨values, diagnostics⟩
      have hfree : ¬ exists declared, declared ∈ methods ∧ Fragment.Trapped declared.fragments := by
        rw [← hmethods, hgather]
        simp
      have hlater : (exists name, ofMethods config runtime methods = .error name) ↔
          exists name, gather
            ((traitSources methods).map (extensionTrait config (members methods))) =
              .error name := by
        have hvalues : values = written methods := (gather_map_eq_ok hgather).1
        rw [ofMethods, hgather, hvalues]
        exact exists_bind_ok_eq_error
          (gather ((traitSources methods).map (extensionTrait config (members methods)))) _
      rw [hlater, htraits, Trips, or_iff_right hfree]
      constructor
      · rintro ⟨source, hsource, htrapped⟩
        rcases mem_traitSources_iff.mp hsource with ⟨declared, hmem, hown, hhold, rfl⟩
        exact ⟨declared, hmem, hown, hhold, htrapped⟩
      · rintro ⟨declared, hmem, hown, hhold, htrapped⟩
        exact ⟨declared.sourceType,
          mem_traitSources_iff.mpr ⟨declared, hmem, hown, hhold, rfl⟩, htrapped⟩

end Emission
end PartialUpdate
