import PartialUpdate.Proofs.Emission.Execution
import PartialUpdate.Proofs.Emission.Functions

/-!
# The meaning of a method

A method records one operation for each binding that it does not omit, in the order of the
bindings.  The emitted function, read from the tokens and executed, does just that.
-/

namespace PartialUpdate

/-!
# What is recorded
-/

namespace PropertyBinding

def omitsAbsent (binding : PropertyBinding) : Bool :=
  binding.options.ignoreNull || binding.options.collectionHandling != .set

def omitsEmpty (binding : PropertyBinding) (type : TypeRef) : Bool :=
  binding.options.ignoreEmpty
    && (type.isCollection || (type.isText && binding.options.useStringEmpty))

/-- Whether the binding records nothing. -/
def omits (source : SourceValue) (binding : PropertyBinding) : Bool :=
  match binding.source with
  | .whole => false
  | .property name type =>
      let value := source.field name
      (type.nullable && value.isAbsent && binding.omitsAbsent)
        || (binding.omitsEmpty type && value.content.isEmpty? == some true)

/-- What an expression may call the current value: the value of a field that is known to have
one, since the binding leaves out a field without a value. -/
def current (source : SourceValue) (binding : PropertyBinding) : Option Datum :=
  match binding.source with
  | .whole => none
  | .property name type =>
      if type.nullable && binding.omitsAbsent then some (source.field name).content else none

def expressionTokens (text : String) : List Token :=
  match Syntax.expression text with
  | .ok expression => expression.tokens
  | .error _ => []

def ownValue (source : SourceValue) (binding : PropertyBinding) : Datum :=
  match binding.source with
  | .whole => source.whole
  | .property name _ => source.field name

def ownElements (source : SourceValue) (binding : PropertyBinding) : List Datum :=
  match binding.source with
  | .whole => source.elements
  | .property name _ => ((source.field name).content.elements?).getD []

/-- The value that is written: the one of the source, unless an expression stands in its place. -/
def value (source : SourceValue) (binding : PropertyBinding) : Datum :=
  match binding.expression with
  | some text => source.expression (binding.current source) (expressionTokens text)
  | none => binding.ownValue source

def elements (source : SourceValue) (binding : PropertyBinding) : List Datum :=
  match binding.expression with
  | some text => source.expressionElements (binding.current source) (expressionTokens text)
  | none => binding.ownElements source

/-- The builder call of a binding that is not omitted.  Sequences are handled element by
element, unless the field is replaced as a whole. -/
def builderCall (source : SourceValue) (binding : PropertyBinding) : BuilderCall Datum :=
  let path := binding.target.path
  match binding.options.collectionHandling, binding.source.isSequence binding.options with
  | .set, _ => .set path (binding.value source)
  | .addToSet, true => .addToSetEach path (binding.elements source)
  | .addToSet, false => .addToSet path (binding.value source)
  | .push, true => .pushEach path (binding.elements source)
  | .push, false => .push path (binding.value source)
  | .pullAll, true => .pullAll path (binding.elements source)
  | .pullAll, false => .pullAll path [binding.value source]

def operation (source : SourceValue) (binding : PropertyBinding) :
    Except (UpdateError SerializeError) UpdateOperation :=
  (binding.builderCall source).operation Datum.serialize

/-- An operation for each binding that is not omitted, up to the first that the builder
refuses. -/
def operations (source : SourceValue) (bindings : List PropertyBinding) :
    Except (UpdateError SerializeError) (List UpdateOperation) :=
  (bindings.filter (fun binding => !binding.omits source)).mapM (operation source)

theorem operations_cons_of_omits {source : SourceValue} {binding : PropertyBinding}
    (h : binding.omits source = true) (bindings : List PropertyBinding) :
    operations source (binding :: bindings) = operations source bindings := by
  simp [operations, h]

theorem operations_cons_of_kept {source : SourceValue} {binding : PropertyBinding}
    (h : binding.omits source = false) (bindings : List PropertyBinding) :
    operations source (binding :: bindings) = (do
      let first ← binding.operation source
      let rest ← operations source bindings
      return first :: rest) := by
  simp [operations, h]

def Fits (source : SourceValue) (binding : PropertyBinding) : Prop :=
  forall name type, binding.source = .property name type ->
    type.admits (source.field name) = true

end PropertyBinding

namespace UpdateMethod

def meaning (source : SourceValue) (method : UpdateMethod) :
    Except (UpdateError SerializeError) UpdateDefinition := do
  return ⟨← PropertyBinding.operations source method.bindings⟩

def Fits (source : SourceValue) (method : UpdateMethod) : Prop :=
  forall binding, binding ∈ method.bindings -> binding.Fits source

end UpdateMethod

namespace Emission

/-!
# Guards
-/

theorem leavesOutAbsent_eq (binding : PropertyBinding) (type : TypeRef) :
    leavesOutAbsent binding.options type = (type.nullable && binding.omitsAbsent) :=
  rfl

theorem leavesOutEmpty_eq (binding : PropertyBinding) (type : TypeRef) :
    leavesOutEmpty binding.options type = binding.omitsEmpty type :=
  rfl

theorem exists_isEmpty? {binding : PropertyBinding} {type : TypeRef} {value : Datum}
    (hkind : type.kind.admits value = true) (hempty : binding.omitsEmpty type = true) :
    value.content = value ∧ exists empty, value.isEmpty? = some empty := by
  have htype : type.isCollection = true ∨ type.isText = true := by
    simp only [PropertyBinding.omitsEmpty, Bool.and_eq_true, Bool.or_eq_true] at hempty
    exact hempty.2.imp_right And.left
  rcases type with ⟨nullable, kind⟩
  cases kind with
  | text =>
      cases value with
      | text value => exact ⟨rfl, _, rfl⟩
      | _ => cases hkind
  | sequence element =>
      cases value with
      | items values => exact ⟨rfl, _, rfl⟩
      | _ => cases hkind
  | map element =>
      cases value with
      | map entries => exact ⟨rfl, _, rfl⟩
      | _ => cases hkind
  | scalar name => rcases htype with h | h <;> cases h
  | named name => rcases htype with h | h <;> cases h
  | unclassified text => rcases htype with h | h <;> cases h

theorem admits_nullable {type : TypeRef} {value : Datum} (hnullable : type.nullable = true)
    (h : type.admits value = true) :
    value = .absent ∨ exists inner, value = .present inner ∧ type.kind.admits inner = true := by
  simp only [TypeRef.admits, hnullable, if_true] at h
  cases value with
  | absent => exact Or.inl rfl
  | present inner => exact Or.inr ⟨inner, rfl, h⟩
  | _ => cases h

theorem admits_plain {type : TypeRef} {value : Datum} (hnullable : type.nullable = false)
    (h : type.admits value = true) : type.kind.admits value = true := by
  simpa [TypeRef.admits, hnullable] using h

def entry (source : SourceValue) (binding : PropertyBinding) : Entry :=
  if binding.omits source then .skipped else .entered (binding.current source)

section Guards

variable {source : SourceValue} {binding : PropertyBinding} {type : TypeRef}
  {field : Identifier}

theorem entry_eq (hsource : binding.source = .property field.name type) :
    entry source binding =
      if (type.nullable && (source.field field.name).isAbsent && binding.omitsAbsent)
          || (binding.omitsEmpty type && (source.field field.name).content.isEmpty? == some true)
      then .skipped
      else
        .entered
          (if type.nullable && binding.omitsAbsent then some (source.field field.name).content
            else none) := by
  simp only [entry, PropertyBinding.omits, PropertyBinding.current, hsource]

theorem enterAll_present (hsource : binding.source = .property field.name type)
    (hfits : type.admits (source.field field.name) = true)
    (habsent : (type.nullable && binding.omitsAbsent) = true) :
    Guard.enterAll source none (guards binding.options type field) =
      some (entry source binding) := by
  have hboth : type.nullable = true ∧ binding.omitsAbsent = true := by
    simpa using habsent
  rw [entry_eq hsource, guards, leavesOutAbsent_eq, leavesOutEmpty_eq]
  rcases admits_nullable hboth.1 hfits with hvalue | ⟨inner, hvalue, hkind⟩
  · simp [hboth.1, hboth.2, Guard.enterAll, Guard.enter, hvalue, Datum.isAbsent]
  · cases hempty : binding.omitsEmpty type with
    | false =>
        simp [hboth.1, hboth.2, Guard.enterAll, Guard.enter, hvalue, Datum.isAbsent,
          Datum.content]
    | true =>
        rcases exists_isEmpty? hkind hempty with ⟨_hcontent, empty, hisEmpty⟩
        cases empty with
        | false =>
            simp [hboth.1, hboth.2, Guard.enterAll, Guard.enter, hvalue, Datum.isAbsent,
              Datum.content, hisEmpty, Guard.enterUnless]
        | true =>
            simp [hboth.1, hboth.2, Guard.enterAll, Guard.enter, hvalue, Datum.isAbsent,
              Datum.content, hisEmpty, Guard.enterUnless]

theorem enterAll_other (hsource : binding.source = .property field.name type)
    (hfits : type.admits (source.field field.name) = true)
    (habsent : (type.nullable && binding.omitsAbsent) = false) :
    Guard.enterAll source none (guards binding.options type field) =
      some (entry source binding) := by
  rw [entry_eq hsource, guards, leavesOutAbsent_eq, leavesOutEmpty_eq, habsent]
  have hkept (absent : Bool) : (type.nullable && absent && binding.omitsAbsent) = false := by
    rw [Bool.and_right_comm, habsent, Bool.false_and]
  rw [hkept]
  cases hempty : binding.omitsEmpty type with
  | false => simp [Guard.enterAll]
  | true =>
      cases hnullable : type.nullable with
      | false =>
          have hkind := admits_plain hnullable hfits
          rcases exists_isEmpty? hkind hempty with ⟨hcontent, empty, hisEmpty⟩
          cases empty with
          | false => simp [Guard.enterAll, Guard.enter, hcontent, hisEmpty, Guard.enterUnless]
          | true => simp [Guard.enterAll, Guard.enter, hcontent, hisEmpty, Guard.enterUnless]
      | true =>
          rcases admits_nullable hnullable hfits with hvalue | ⟨inner, hvalue, hkind⟩
          · simp [Guard.enterAll, Guard.enter, hvalue, Datum.content, Datum.isEmpty?]
          · rcases exists_isEmpty? hkind hempty with ⟨_hcontent, empty, hisEmpty⟩
            cases empty with
            | false =>
                simp [Guard.enterAll, Guard.enter, hvalue, Datum.content, hisEmpty,
                  Guard.enterUnless]
            | true =>
                simp [Guard.enterAll, Guard.enter, hvalue, Datum.content, hisEmpty,
                  Guard.enterUnless]

end Guards

/-!
# Calls
-/

theorem subject_eq_ok {binding : PropertyBinding} {guarded : List Guard} {operand : Operand}
    (h : subject binding = .ok (guarded, operand)) :
    (binding.source = .whole ∧ guarded = [] ∧ operand = .whole)
      ∨ exists (field : Identifier) (type : TypeRef),
          binding.source = .property field.name type
            ∧ guarded = guards binding.options type field
            ∧ operand = fieldOperand binding.options type field := by
  unfold subject at h
  cases hsource : binding.source with
  | whole =>
      rw [hsource] at h
      cases h
      exact Or.inl ⟨rfl, rfl, rfl⟩
  | property name type =>
      rw [hsource] at h
      rcases bind_eq_ok h with ⟨field, hfield, hdone⟩
      cases hdone
      have hname := identifier_name hfield
      exact Or.inr ⟨field, type, by rw [hname], rfl, rfl⟩

/-- The guards of a binding let through what it does not omit. -/
theorem enterAll_subject {source : SourceValue} {binding : PropertyBinding}
    {guarded : List Guard} {operand : Operand}
    (h : subject binding = .ok (guarded, operand)) (hfits : binding.Fits source) :
    Guard.enterAll source none guarded = some (entry source binding) := by
  rcases subject_eq_ok h with ⟨hsource, rfl, rfl⟩ | ⟨field, type, hsource, rfl, rfl⟩
  · simp [Guard.enterAll, entry, PropertyBinding.omits, PropertyBinding.current, hsource]
  · have hadmits := hfits field.name type hsource
    cases habsent : type.nullable && binding.omitsAbsent with
    | true => exact enterAll_present hsource hadmits habsent
    | false => exact enterAll_other hsource hadmits habsent

section Operands

variable {source : SourceValue} {binding : PropertyBinding} {guarded : List Guard}
  {operand : Operand}

theorem value?_subject (h : subject binding = .ok (guarded, operand)) :
    exists value, operand.value? source (binding.current source) = some value
      ∧ value.serialize = (binding.ownValue source).serialize := by
  rcases subject_eq_ok h with ⟨hsource, rfl, rfl⟩ | ⟨field, type, hsource, rfl, rfl⟩
  · exact ⟨_, rfl, by rw [PropertyBinding.ownValue, hsource]⟩
  · have hown : binding.ownValue source = source.field field.name := by
      rw [PropertyBinding.ownValue, hsource]
    rw [fieldOperand, leavesOutAbsent_eq, hown]
    cases habsent : type.nullable && binding.omitsAbsent with
    | true =>
        refine ⟨(source.field field.name).content, ?_, Datum.serialize_content _⟩
        simp only [PropertyBinding.current, hsource, habsent, if_true, Operand.value?]
    | false => exact ⟨_, rfl, rfl⟩

theorem elements?_content {type : TypeRef} {value : Datum} (hsequence : type.isSequence = true)
    (hfits : type.admits value = true) (hpresent : (type.nullable && value.isAbsent) = false) :
    exists elements, value.content.elements? = some elements
      ∧ (type.nullable = false -> value.elements? = some elements) := by
  have hitems {value : Datum} (hkind : type.kind.admits value = true) :
      exists elements, value = .items elements := by
    rcases type with ⟨nullable, kind⟩
    cases kind with
    | sequence element =>
        cases value with
        | items values => exact ⟨values, rfl⟩
        | _ => cases hkind
    | _ => cases hsequence
  cases hnullable : type.nullable with
  | false =>
      rcases hitems (admits_plain hnullable hfits) with ⟨elements, rfl⟩
      exact ⟨elements, rfl, fun _ => rfl⟩
  | true =>
      rcases admits_nullable hnullable hfits with rfl | ⟨inner, rfl, hkind⟩
      · rw [hnullable] at hpresent
        cases hpresent
      · rcases hitems hkind with ⟨elements, rfl⟩
        exact ⟨elements, rfl, fun h => (by cases h)⟩

theorem takesElements_eq_true {binding : PropertyBinding} :
    takesElements binding = true ↔
      binding.source.isSequence binding.options = true
        ∧ binding.options.collectionHandling ≠ .set := by
  simp [takesElements]

theorem elements?_subject (h : subject binding = .ok (guarded, operand))
    (hfits : binding.Fits source) (hkept : binding.omits source = false)
    (helements : takesElements binding = true) :
    operand.elements? source (binding.current source) = some (binding.ownElements source) := by
  have htaken := takesElements_eq_true.mp helements
  rcases subject_eq_ok h with ⟨hsource, rfl, rfl⟩ | ⟨field, type, hsource, rfl, rfl⟩
  · simp only [Operand.elements?, PropertyBinding.ownElements, hsource]
  · have hsequence : type.isSequence = true := by
      simpa [hsource, BindingSource.isSequence] using htaken.1
    have homits : binding.omitsAbsent = true := by
      simp [PropertyBinding.omitsAbsent, htaken.2]
    have hpresent : (type.nullable && (source.field field.name).isAbsent) = false := by
      simp only [PropertyBinding.omits, hsource, homits, Bool.and_true, Bool.or_eq_false_iff]
        at hkept
      exact hkept.1
    rcases elements?_content hsequence (hfits field.name type hsource) hpresent with
      ⟨elements, hcontent, hplain⟩
    have hown : binding.ownElements source = elements := by
      simp only [PropertyBinding.ownElements, hsource, hcontent, Option.getD_some]
    rw [fieldOperand, leavesOutAbsent_eq, homits, Bool.and_true, hown]
    cases hnullable : type.nullable with
    | true =>
        simp [PropertyBinding.current, hsource, homits, hnullable, Operand.elements?, hcontent]
    | false => exact hplain hnullable

end Operands

theorem expression?_eq_ok {binding : PropertyBinding} {expression : Option (List Token)}
    (h : expression? binding = .ok expression) :
    expression = binding.expression.map PropertyBinding.expressionTokens := by
  unfold expression? at h
  cases htext : binding.expression with
  | none =>
      rw [htext] at h
      cases h
      rfl
  | some text =>
      rw [htext] at h
      simp only at h
      rw [Option.map_some, PropertyBinding.expressionTokens]
      cases hparsed : Syntax.expression text with
      | error e =>
          rw [hparsed] at h
          cases h
      | ok parsed =>
          rw [hparsed] at h
          cases h
          rfl

def operandOf (binding : PropertyBinding) (own : Operand) : Operand :=
  match binding.expression with
  | none => own
  | some text =>
      if takesElements binding then .elements (PropertyBinding.expressionTokens text)
      else .expression (PropertyBinding.expressionTokens text)

theorem call_eq_ok {binding : PropertyBinding} {generated : GeneratedCall}
    (h : call binding = .ok generated) :
    exists guarded own, subject binding = .ok (guarded, own)
      ∧ generated =
        ⟨guarded, callForm binding.options.collectionHandling (takesElements binding),
          binding.target.path, operandOf binding own⟩ := by
  rcases bind_eq_ok h with ⟨expression, hexpression, hrest⟩
  rcases bind_eq_ok hrest with ⟨⟨guarded, own⟩, hsubject, hdone⟩
  cases hdone
  refine ⟨guarded, own, hsubject, ?_⟩
  rw [expression?_eq_ok hexpression, operandOf]
  cases binding.expression with
  | none => rfl
  | some text => rfl

section Calls

variable {source : SourceValue} {binding : PropertyBinding} {guarded : List Guard}
  {own : Operand}

theorem value?_operandOf (h : subject binding = .ok (guarded, own))
    (hwhole : takesElements binding = false) :
    exists value, (operandOf binding own).value? source (binding.current source) = some value
      ∧ value.serialize = (binding.value source).serialize := by
  unfold operandOf PropertyBinding.value
  cases binding.expression with
  | none => exact value?_subject h
  | some text =>
      rw [hwhole]
      exact ⟨_, rfl, rfl⟩

theorem elements?_operandOf (h : subject binding = .ok (guarded, own))
    (hfits : binding.Fits source) (hkept : binding.omits source = false)
    (helements : takesElements binding = true) :
    (operandOf binding own).elements? source (binding.current source) =
      some (binding.elements source) := by
  unfold operandOf PropertyBinding.elements
  cases binding.expression with
  | none => exact elements?_subject h hfits hkept helements
  | some text =>
      rw [helements]
      rfl

theorem builderCall?_elements (h : subject binding = .ok (guarded, own))
    (hfits : binding.Fits source) (hkept : binding.omits source = false)
    (helements : takesElements binding = true) :
    GeneratedCall.builderCall? source (binding.current source)
        ⟨guarded, callForm binding.options.collectionHandling true, binding.target.path,
          operandOf binding own⟩ =
      some (binding.builderCall source) := by
  have hsequence := (takesElements_eq_true.mp helements).1
  have htaken := elements?_operandOf h hfits hkept helements
  cases hhandling : binding.options.collectionHandling with
  | set => exact absurd hhandling (takesElements_eq_true.mp helements).2
  | addToSet =>
      simp [GeneratedCall.builderCall?, callForm, htaken, PropertyBinding.builderCall, hhandling,
        hsequence]
  | push =>
      simp [GeneratedCall.builderCall?, callForm, htaken, PropertyBinding.builderCall, hhandling,
        hsequence]
  | pullAll =>
      simp [GeneratedCall.builderCall?, callForm, htaken, PropertyBinding.builderCall, hhandling,
        hsequence]

theorem builderCall?_value (h : subject binding = .ok (guarded, own))
    (hwhole : takesElements binding = false) :
    exists builderCall,
      GeneratedCall.builderCall? source (binding.current source)
          ⟨guarded, callForm binding.options.collectionHandling false, binding.target.path,
            operandOf binding own⟩ =
        some builderCall
      ∧ builderCall.operation Datum.serialize = binding.operation source := by
  rcases value?_operandOf h hwhole with ⟨value, hvalue, hserialize⟩
  have hstore (path : String) :
      BuilderCall.storeValue Datum.serialize path value =
        BuilderCall.storeValue Datum.serialize path (binding.value source) := by
    rw [BuilderCall.storeValue, BuilderCall.storeValue, hserialize]
  have hstores (path : String) :
      BuilderCall.storeValues Datum.serialize path [value] =
        BuilderCall.storeValues Datum.serialize path [binding.value source] := by
    simp only [BuilderCall.storeValues, List.mapM_cons, List.mapM_nil, hstore]
  have hsequence (hhandling : binding.options.collectionHandling ≠ .set) :
      binding.source.isSequence binding.options = false := by
    cases hsequence : binding.source.isSequence binding.options with
    | false => rfl
    | true =>
        rw [takesElements_eq_true.mpr ⟨hsequence, hhandling⟩] at hwhole
        cases hwhole
  cases hhandling : binding.options.collectionHandling with
  | set =>
      refine ⟨.set binding.target.path value, ?_, ?_⟩
      · simp [GeneratedCall.builderCall?, callForm, hvalue]
      · simp [PropertyBinding.operation, PropertyBinding.builderCall, hhandling,
          BuilderCall.operation, hstore]
  | addToSet =>
      refine ⟨.addToSet binding.target.path value, ?_, ?_⟩
      · simp [GeneratedCall.builderCall?, callForm, hvalue]
      · simp [PropertyBinding.operation, PropertyBinding.builderCall, hhandling, hsequence,
          BuilderCall.operation, hstore]
  | push =>
      refine ⟨.push binding.target.path value, ?_, ?_⟩
      · simp [GeneratedCall.builderCall?, callForm, hvalue]
      · simp [PropertyBinding.operation, PropertyBinding.builderCall, hhandling, hsequence,
          BuilderCall.operation, hstore]
  | pullAll =>
      refine ⟨.pullAll binding.target.path [value], ?_, ?_⟩
      · simp [GeneratedCall.builderCall?, callForm, hvalue]
      · simp [PropertyBinding.operation, PropertyBinding.builderCall, hhandling, hsequence,
          BuilderCall.operation, hstores]

theorem exists_builderCall? {generated : GeneratedCall} (h : call binding = .ok generated)
    (hfits : binding.Fits source) (hkept : binding.omits source = false) :
    exists builderCall,
      generated.builderCall? source (binding.current source) = some builderCall
        ∧ builderCall.operation Datum.serialize = binding.operation source := by
  rcases call_eq_ok h with ⟨guarded, own, hsubject, rfl⟩
  cases helements : takesElements binding with
  | true => exact ⟨_, builderCall?_elements hsubject hfits hkept helements, rfl⟩
  | false => exact builderCall?_value hsubject helements

/-- A call records the operation of its binding, or nothing where the binding is omitted. -/
theorem execute_call {generated : GeneratedCall} (h : call binding = .ok generated)
    (hfits : binding.Fits source) (update : UpdateDefinition) :
    generated.execute source update =
      some (if binding.omits source then .ok update
        else do return ⟨update.operations ++ [← binding.operation source]⟩) := by
  have henter : Guard.enterAll source none generated.guards = some (entry source binding) := by
    rcases call_eq_ok h with ⟨guarded, own, hsubject, rfl⟩
    exact enterAll_subject hsubject hfits
  cases homits : binding.omits source with
  | true => simp [GeneratedCall.execute, henter, entry, homits]
  | false =>
      rcases exists_builderCall? h hfits homits with ⟨builderCall, hcall, hoperation⟩
      simp [GeneratedCall.execute, henter, entry, homits, hcall, UpdateDefinition.call,
        hoperation]

/-- Executing all calls records what the bindings stand for, behind what was there before. -/
theorem executeAll_calls {bindings : List PropertyBinding} {calls : List GeneratedCall}
    (h : List.Forall₂ (fun binding generated => call binding = .ok generated) bindings calls)
    (hfits : forall binding, binding ∈ bindings -> binding.Fits source)
    (update : UpdateDefinition) :
    GeneratedCall.executeAll source update calls =
      some (do return ⟨update.operations ++ (← PropertyBinding.operations source bindings)⟩) := by
  induction h generalizing update with
  | nil =>
      simp [GeneratedCall.executeAll, PropertyBinding.operations, pure, Except.pure, bind,
        Except.bind]
  | @cons binding generated bindings calls hcall hrest ih =>
      have ih := ih (fun other hother => hfits other (List.mem_cons_of_mem _ hother))
      rw [GeneratedCall.executeAll, execute_call hcall (hfits binding List.mem_cons_self)]
      cases homits : binding.omits source with
      | true =>
          rw [PropertyBinding.operations_cons_of_omits homits]
          exact ih update
      | false =>
          rw [PropertyBinding.operations_cons_of_kept homits]
          cases hoperation : binding.operation source with
          | error e => rfl
          | ok operation =>
              refine (ih ⟨update.operations ++ [operation]⟩).trans ?_
              cases PropertyBinding.operations source bindings with
              | error e => rfl
              | ok operations => simp [bind, Except.bind, pure, Except.pure]

end Calls

/-!
# Emitted functions
-/

/-- Whether a function does what the method stands for: under the names of the method, with a
body that can be read as calls, and whose execution gives the meaning of the method for every
value of the source type. -/
structure Realizes (config : GeneratorConfig) (runtime : List Token) (declared : UpdateMethod)
    (head : CodeReader.BlockHead) (function : CodeReader.FoundFunction) : Prop where
  implements : CodeReader.Implements config declared.inherent declared.key head function
  meaning : exists body calls, function.body = some body
    ∧ CodeReader.body? runtime.length body = some calls
    ∧ forall source : SourceValue, declared.Fits source ->
        GeneratedCall.executeAll source UpdateDefinition.empty calls =
          some (declared.meaning source)

theorem realizes_of_shows {config : GeneratorConfig} {runtime : List Token}
    {methods : List UpdateMethod} {generated : GeneratedMethod}
    (hmem : generated ∈ written methods) {head : CodeReader.BlockHead}
    {function : CodeReader.FoundFunction} (h : Shows config runtime generated head function) :
    Realizes config runtime generated.declared head function := by
  rcases h.body with ⟨body, hbody, hcalls⟩
  refine ⟨h.implements, body, generated.calls, hbody, hcalls, ?_⟩
  intro source hfits
  have hwrites := Emits.writes_of_mem_written hmem
  exact executeAll_calls hwrites.calls hfits UpdateDefinition.empty

theorem exists_mem_code_methods {config : GeneratorConfig} {runtime : List Token}
    {methods : List UpdateMethod} {emission alone : Emission} {declared : UpdateMethod}
    (h : Emits config runtime methods emission) (hmem : declared ∈ methods)
    (halone : Emits config runtime [declared] alone) (hclean : alone.diagnostics = []) :
    exists generated, generated ∈ emission.code.methods ∧ generated.declared = declared := by
  rcases halone.written_or_reported (List.mem_singleton_self declared) with
    ⟨generated, hok, hwritten⟩ | ⟨diagnostic, hdiagnostic, _hreported⟩
  · have horigin := (writes_of_method_eq_ok hok).origin
    have hwritten' : generated ∈ written methods :=
      mem_written.mpr (by rw [horigin]; exact ⟨hmem, hok⟩)
    refine ⟨generated, h.mem_code_methods.mpr ⟨hwritten', ?_⟩, horigin⟩
    intro hown
    have hsource := mem_traitSources.mpr ⟨generated, mem_members.mpr ⟨hwritten, hown⟩, rfl⟩
    rcases halone.trait_or_reported hsource with
      ⟨extension, hextension⟩ | ⟨diagnostic, hdiagnostic, _hreported⟩
    · exact exists_extensionTrait hextension _
    · rw [hclean] at hdiagnostic
      cases hdiagnostic
  · rw [hclean] at hdiagnostic
    cases hdiagnostic

/-- A method that is emitted without a report has its function among the emitted ones, and the
function does what the method stands for.  Of all functions that are emitted each does so for a
method. -/
theorem ofMethods_realizes {config : GeneratorConfig} {runtime : List Token}
    {methods : List UpdateMethod} {emission alone : Emission} {declared : UpdateMethod}
    (h : ofMethods config runtime methods = .ok emission) (hmem : declared ∈ methods)
    (halone : ofMethods config runtime [declared] = .ok alone)
    (hclean : alone.diagnostics = []) :
    (exists head function,
        (head, function) ∈ CodeReader.functions runtime.length emission.code.tokens
          ∧ Realizes config runtime declared head function)
      ∧ forall head function,
          (head, function) ∈ CodeReader.functions runtime.length emission.code.tokens ->
            function.body.isSome = true ->
              exists method, method ∈ methods ∧ Realizes config runtime method head function := by
  have hemits := emits_of_ofMethods_eq_ok h
  have halone := emits_of_ofMethods_eq_ok halone
  constructor
  · rcases exists_mem_code_methods hemits hmem halone hclean with ⟨generated, hcode, rfl⟩
    rcases hemits.exists_shows hcode with ⟨head, function, hfound, hshows⟩
    have hwritten := (hemits.mem_code_methods.mp hcode).1
    exact ⟨head, function, hfound, realizes_of_shows hwritten hshows⟩
  · intro head function hfound hbody
    rcases hemits.declared_or_shows hfound with
      ⟨_hnone, hnone⟩ | ⟨generated, hcode, hshows⟩
    · rw [hnone] at hbody
      cases hbody
    · have hwritten := (hemits.mem_code_methods.mp hcode).1
      exact ⟨generated.declared, (mem_written.mp hwritten).1, realizes_of_shows hwritten hshows⟩

def annotateLocation : Location where
  sourceType := "Annotate"
  targetType := some "Settings"
  method := some "to_annotate"

/-- A note that is written even where there is none, and tags that are appended. -/
def annotate : UpdateMethod where
  sourceType := "Annotate"
  targetType := "Settings"
  methodName := "to_annotate"
  bindings :=
    [{ order := 0
       source := .property "note" TypeRef.text.optional
       target := ⟨"note", TypeRef.text.optional⟩
       options := ⟨false, true, .set, true, false⟩
       expression := none
       location := annotateLocation.withMember (some "note") },
      { order := 1
        source := .property "tags" (TypeRef.sequence .text).optional
        target := ⟨"tags", .sequence .text⟩
        options := ⟨true, true, .push, true, false⟩
        expression := none
        location := annotateLocation.withMember (some "tags") }]
  inherent := false
  location := annotateLocation

theorem ofMethods_realizes_annotate :
    exists emission, ofMethods {} [] [annotate] = .ok emission
      ∧ exists head function,
          (head, function) ∈ CodeReader.functions 0 emission.code.tokens
            ∧ Realizes {} [] annotate head function := by
  have hemission : exists traits, ofMethods {} [] [annotate] = .ok ⟨⟨[], traits, []⟩, []⟩ :=
    ⟨_, ofMethods_singleton [] rfl rfl rfl⟩
  rcases hemission with ⟨traits, h⟩
  exact ⟨_, h, (ofMethods_realizes h (List.mem_singleton_self annotate) h rfl).1⟩

def tagged (name : String) : Datum :=
  if name = "tags" then .present (.items [.text "a"]) else .absent

example :
    annotate.meaning ⟨tagged, .unit, [], fun _ _ => .unit, fun _ _ => []⟩ =
      .ok ⟨[.set "note" .null, .pushEach "tags" [.text "a"]]⟩ := by
  rfl

end Emission
end PartialUpdate
