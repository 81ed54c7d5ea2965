import PartialUpdate.Document.Serialize
import PartialUpdate.Proofs.Except
import PartialUpdate.Update.Definition

/-!
# Runs of the builder

A call records one operation with the stored forms of its values, or it fails and records nothing.
After a run of calls and combinations a definition holds the operations of the calls that can be
carried out, in the order of the calls.
-/

namespace PartialUpdate

/-!
# One call
-/

namespace BuilderCall

section

variable {α ε : Type}

inductive HasForm : BuilderCall α -> UpdateOperation -> Prop
  | set {path : String} {value : α} {stored : DocumentValue} :
      HasForm (.set path value) (.set path stored)
  | addToSet {path : String} {value : α} {stored : DocumentValue} :
      HasForm (.addToSet path value) (.addToSet path stored)
  | addToSetEach {path : String} {values : List α} {stored : List DocumentValue} :
      HasForm (.addToSetEach path values) (.addToSetEach path stored)
  | push {path : String} {value : α} {stored : DocumentValue} :
      HasForm (.push path value) (.push path stored)
  | pushEach {path : String} {values : List α} {stored : List DocumentValue} :
      HasForm (.pushEach path values) (.pushEach path stored)
  | pullAll {path : String} {values : List α} {stored : List DocumentValue} :
      HasForm (.pullAll path values) (.pullAll path stored)

/-- The path of the call is not empty, and the operation holds the stored form of each value, in
the order of the values. -/
structure Records (serialize : α -> Except ε DocumentValue) (call : BuilderCall α)
    (operation : UpdateOperation) : Prop where
  form : call.HasForm operation
  addressed : call.path ≠ ""
  elements : List.Forall₂ (fun value stored => serialize value = .ok stored)
    call.values operation.elements

/-- An empty path is the failure whatever the values are; at any other path it is that of the first
value without a stored form. -/
inductive FailsWith (serialize : α -> Except ε DocumentValue) (call : BuilderCall α) :
    UpdateError ε -> Prop
  | emptyPath : call.path = "" -> FailsWith serialize call .emptyPath
  | serialization {before after : List α} {value : α} {cause : ε} :
      call.path ≠ "" -> call.values = before ++ value :: after ->
      (forall earlier, earlier ∈ before -> exists stored, serialize earlier = .ok stored) ->
      serialize value = .error cause ->
        FailsWith serialize call (.serialization call.path cause)

inductive ComesTo (serialize : α -> Except ε DocumentValue) (update : UpdateDefinition)
    (call : BuilderCall α) : Except (UpdateError ε) UpdateDefinition -> Prop
  | recorded {operation : UpdateOperation} : call.Records serialize operation ->
      ComesTo serialize update call (.ok ⟨update.operations ++ [operation]⟩)
  | failed {e : UpdateError ε} : call.FailsWith serialize e ->
      ComesTo serialize update call (.error e)

def succeeds (serialize : α -> Except ε DocumentValue) (call : BuilderCall α) : Bool :=
  !call.path.isEmpty && call.values.all (fun value => (serialize value).isOk)

end

/-!
# Stored values
-/

section

variable {α ε : Type} {serialize : α -> Except ε DocumentValue} {path : String} {value : α}
variable {values : List α} {stored : List DocumentValue} {e : UpdateError ε}

theorem storeValue_of_empty (h : path = "") : storeValue serialize path value = .error .emptyPath :=
  if_pos (String.isEmpty_iff.mpr h)

theorem storeValue_of_ne (h : path ≠ "") :
    storeValue serialize path value =
      (serialize value).mapError (UpdateError.serialization path) :=
  if_neg (fun hempty => h (String.isEmpty_iff.mp hempty))

theorem storeValues_of_empty (h : path = "") :
    storeValues serialize path values = .error .emptyPath :=
  if_pos (String.isEmpty_iff.mpr h)

theorem storeValues_of_ne (h : path ≠ "") :
    storeValues serialize path values = values.mapM (storeValue serialize path) :=
  if_neg (fun hempty => h (String.isEmpty_iff.mp hempty))

theorem storeValues_singleton :
    storeValues serialize path [value] =
      (storeValue serialize path value).map (fun stored => [stored]) := by
  by_cases h : path = ""
  · rw [storeValues_of_empty h, storeValue_of_empty h]
    rfl
  · rw [storeValues_of_ne h]
    cases hvalue : storeValue serialize path value with
    | ok stored =>
        rw [mapM_cons_ok hvalue]
        rfl
    | error e =>
        rw [List.mapM_cons, hvalue]
        rfl

theorem storeValues_eq_ok_iff :
    storeValues serialize path values = .ok stored ↔
      path ≠ "" ∧ List.Forall₂ (fun value stored => serialize value = .ok stored) values stored := by
  by_cases h : path = ""
  · rw [storeValues_of_empty h]
    simp [h]
  · simp only [storeValues_of_ne h, mapM_eq_ok_iff, storeValue_of_ne h, mapError_eq_ok_iff, ne_eq, h,
      not_false_eq_true, true_and]

theorem storeValue_eq_error_iff (h : path ≠ "") :
    storeValue serialize path value = .error e ↔
      exists cause, serialize value = .error cause ∧ e = .serialization path cause := by
  rw [storeValue_of_ne h]
  cases serialize value with
  | ok stored => simp [Except.mapError]
  | error cause => simp [Except.mapError, eq_comm]

theorem storeValues_eq_error_iff {call : BuilderCall α} :
    storeValues serialize call.path call.values = .error e ↔ call.FailsWith serialize e := by
  constructor
  · intro herror
    by_cases h : call.path = ""
    · rw [storeValues_of_empty h] at herror
      cases herror
      exact .emptyPath h
    · rw [storeValues_of_ne h, mapM_eq_error_iff] at herror
      rcases herror with ⟨before, value, after, hvalues, hbefore, hvalue⟩
      rcases (storeValue_eq_error_iff h).mp hvalue with ⟨cause, hcause, heq⟩
      rw [heq]
      refine .serialization h hvalues ?_ hcause
      intro earlier hearlier
      rcases hbefore earlier hearlier with ⟨stored, hstored⟩
      rw [storeValue_of_ne h, mapError_eq_ok_iff] at hstored
      exact ⟨stored, hstored⟩
  · intro hfails
    cases hfails with
    | emptyPath h => exact storeValues_of_empty h
    | @serialization before after value cause h hvalues hbefore hcause =>
        rw [storeValues_of_ne h, mapM_eq_error_iff]
        refine ⟨before, value, after, hvalues, ?_, ?_⟩
        · intro earlier hearlier
          rcases hbefore earlier hearlier with ⟨stored, hstored⟩
          rw [storeValue_of_ne h, hstored]
          exact ⟨stored, rfl⟩
        · exact (storeValue_eq_error_iff h).mpr ⟨cause, hcause, rfl⟩

end

/-!
# Operations
-/

section

variable {α ε : Type} {serialize : α -> Except ε DocumentValue} {call : BuilderCall α}
variable {operation other : UpdateOperation} {e : UpdateError ε}

theorem operation_eq_ok_iff_form :
    call.operation serialize = .ok operation ↔
      call.HasForm operation
        ∧ storeValues serialize call.path call.values = .ok operation.elements := by
  constructor
  · intro h
    cases call with
    | set path value | addToSet path value | push path value =>
        rcases bind_eq_ok h with ⟨stored, hstored, hdone⟩
        cases hdone
        constructor
        · constructor
        · show storeValues serialize path [value] = .ok [stored]
          rw [storeValues_singleton, hstored]
          rfl
    | addToSetEach path values | pushEach path values | pullAll path values =>
        rcases bind_eq_ok h with ⟨stored, hstored, hdone⟩
        cases hdone
        constructor
        · constructor
        · exact hstored
  · intro h
    rcases h with ⟨hform, hstored⟩
    cases hform with
    | @set path value stored | @addToSet path value stored | @push path value stored =>
        change storeValues serialize path [value] = .ok [stored] at hstored
        rw [storeValues_singleton] at hstored
        rcases map_eq_ok hstored with ⟨single, hsingle, heq⟩
        injection heq with heq
        rw [operation, hsingle, heq]
        rfl
    | @addToSetEach path values stored | @pushEach path values stored
    | @pullAll path values stored =>
        change storeValues serialize path values = .ok stored at hstored
        rw [operation, hstored]
        rfl

theorem operation_eq_error_iff :
    call.operation serialize = .error e ↔ call.FailsWith serialize e := by
  rw [← storeValues_eq_error_iff]
  cases call with
  | set path value | addToSet path value | push path value =>
      show _ ↔ storeValues serialize path [value] = .error e
      rw [storeValues_singleton, map_eq_error_iff]
      exact bind_pure_eq_error_iff
  | addToSetEach path values | pushEach path values | pullAll path values =>
      exact bind_pure_eq_error_iff

theorem operation_eq_ok_iff :
    call.operation serialize = .ok operation ↔ call.Records serialize operation := by
  rw [operation_eq_ok_iff_form, storeValues_eq_ok_iff]
  constructor
  · intro h
    exact ⟨h.1, h.2.1, h.2.2⟩
  · intro h
    exact ⟨h.form, h.addressed, h.elements⟩

theorem Records.unique (h : call.Records serialize operation)
    (h' : call.Records serialize other) : operation = other := by
  have hboth := (operation_eq_ok_iff.mpr h).symm.trans (operation_eq_ok_iff.mpr h')
  exact Except.ok.inj hboth

theorem Records.path_ne (h : call.Records serialize operation) : operation.path ≠ "" := by
  have haddressed := h.addressed
  cases h.form with
  | set | addToSet | addToSetEach | push | pushEach | pullAll => exact haddressed

theorem Records.exists_stored (h : call.Records serialize operation) {value : α}
    (hmem : value ∈ call.values) : exists stored, serialize value = .ok stored := by
  have hboth := h.elements.imp
    (fun _ stored hstored => And.intro (Exists.intro stored hstored) hstored)
  exact ((List.forall₂_and_left _ _).mp hboth).1 value hmem

theorem succeeds_iff :
    call.succeeds serialize = true ↔
      call.path ≠ "" ∧ forall value, value ∈ call.values ->
        exists stored, serialize value = .ok stored := by
  have hok : forall outcome : Except ε DocumentValue,
      outcome.isOk = true ↔ exists stored, outcome = .ok stored := by
    intro outcome
    cases outcome with
    | ok stored => simp [Except.isOk, Except.toBool]
    | error e => simp [Except.isOk, Except.toBool]
  simp [succeeds, hok]

theorem exists_failsWith_iff :
    (exists e, call.FailsWith serialize e) ↔
      call.path = "" ∨ exists value, value ∈ call.values ∧
        exists cause, serialize value = .error cause := by
  constructor
  · intro h
    rcases h with ⟨e, hfails⟩
    cases hfails with
    | emptyPath hpath => exact Or.inl hpath
    | @serialization before after value cause _ hvalues _ hcause =>
        refine Or.inr ⟨value, ?_, cause, hcause⟩
        rw [hvalues]
        exact List.mem_append_right before List.mem_cons_self
  · intro h
    cases houtcome : call.operation serialize with
    | error e => exact ⟨e, operation_eq_error_iff.mp houtcome⟩
    | ok operation =>
        exfalso
        have hrecords := operation_eq_ok_iff.mp houtcome
        rcases h with hpath | ⟨value, hmem, cause, hcause⟩
        · exact hrecords.addressed hpath
        · rcases hrecords.exists_stored hmem with ⟨stored, hstored⟩
          rw [hcause] at hstored
          cases hstored

theorem succeeds_iff_records :
    call.succeeds serialize = true ↔ exists operation, call.Records serialize operation := by
  rw [succeeds_iff]
  constructor
  · intro h
    cases houtcome : call.operation serialize with
    | ok operation => exact ⟨operation, operation_eq_ok_iff.mp houtcome⟩
    | error e =>
        exfalso
        rcases exists_failsWith_iff.mp ⟨e, operation_eq_error_iff.mp houtcome⟩ with
          hempty | ⟨value, hmem, cause, hcause⟩
        · exact h.1 hempty
        · rcases h.2 value hmem with ⟨stored, hstored⟩
          rw [hcause] at hstored
          cases hstored
  · intro h
    rcases h with ⟨operation, hrecords⟩
    exact ⟨hrecords.addressed, fun value hmem => hrecords.exists_stored hmem⟩

end

/-!
# Calls on a definition
-/

section

variable {α ε : Type} {serialize : α -> Except ε DocumentValue} {call : BuilderCall α}
variable {update : UpdateDefinition}

theorem call_comesTo (serialize : α -> Except ε DocumentValue) (update : UpdateDefinition)
    (call : BuilderCall α) : call.ComesTo serialize update (update.call serialize call) := by
  unfold UpdateDefinition.call
  cases houtcome : call.operation serialize with
  | ok operation => exact .recorded (operation_eq_ok_iff.mp houtcome)
  | error e => exact .failed (operation_eq_error_iff.mp houtcome)

theorem ComesTo.eq_call {outcome : Except (UpdateError ε) UpdateDefinition}
    (h : call.ComesTo serialize update outcome) : update.call serialize call = outcome := by
  cases h with
  | recorded hrecords =>
      rw [UpdateDefinition.call, operation_eq_ok_iff.mpr hrecords]
      rfl
  | failed hfails =>
      rw [UpdateDefinition.call, operation_eq_error_iff.mpr hfails]
      rfl

theorem call_eq_iff {outcome : Except (UpdateError ε) UpdateDefinition} :
    update.call serialize call = outcome ↔ call.ComesTo serialize update outcome := by
  constructor
  · intro h
    rw [← h]
    exact call_comesTo serialize update call
  · exact ComesTo.eq_call

theorem exists_call_eq_ok_iff :
    (exists next, update.call serialize call = .ok next) ↔ call.succeeds serialize = true := by
  rw [succeeds_iff_records]
  constructor
  · intro h
    rcases h with ⟨next, hnext⟩
    cases call_eq_iff.mp hnext with
    | @recorded operation hrecords => exact ⟨operation, hrecords⟩
  · intro h
    rcases h with ⟨operation, hrecords⟩
    exact ⟨_, call_eq_iff.mpr (.recorded hrecords)⟩

theorem exists_call_eq_error_iff :
    (exists e, update.call serialize call = .error e) ↔ exists e, call.FailsWith serialize e := by
  constructor
  · intro h
    rcases h with ⟨e, herror⟩
    cases call_eq_iff.mp herror with
    | failed hfails => exact ⟨e, hfails⟩
  · intro h
    rcases h with ⟨e, hfails⟩
    exact ⟨e, call_eq_iff.mpr (.failed hfails)⟩

end

end BuilderCall

/-!
# Runs
-/

/-- What is done to a definition from an empty one on: calls, and combinations with definitions that
other runs have made. -/
inductive BuilderRun (α : Type)
  | start
  | call (earlier : BuilderRun α) (made : BuilderCall α)
  | combine (earlier other : BuilderRun α)

namespace BuilderRun

variable {α ε : Type}

/-- A call that fails leaves the definition as it was. -/
def result (serialize : α -> Except ε DocumentValue) : BuilderRun α -> UpdateDefinition
  | .start => .empty
  | .call earlier made =>
      match (earlier.result serialize).call serialize made with
      | .ok next => next
      | .error _ => earlier.result serialize
  | .combine earlier other => (earlier.result serialize).combine (other.result serialize)

/-- The calls of a run; those behind a combined definition come where it is combined. -/
def calls : BuilderRun α -> List (BuilderCall α)
  | .start => []
  | .call earlier made => earlier.calls ++ [made]
  | .combine earlier other => earlier.calls ++ other.calls

/-- The definition holds one operation for each call that can be carried out, in order. -/
def IsRecordedIn (serialize : α -> Except ε DocumentValue) (run : BuilderRun α)
    (update : UpdateDefinition) : Prop :=
  List.Forall₂ (BuilderCall.Records serialize)
    (run.calls.filter (fun call => call.succeeds serialize)) update.operations

variable {serialize : α -> Except ε DocumentValue} {run : BuilderRun α}
variable {update other : UpdateDefinition}

theorem IsRecordedIn.combine {otherRun : BuilderRun α} (h : run.IsRecordedIn serialize update)
    (h' : otherRun.IsRecordedIn serialize other) :
    (run.combine otherRun).IsRecordedIn serialize (update.combine other) := by
  unfold IsRecordedIn
  rw [calls, List.filter_append]
  exact List.rel_append h h'

theorem IsRecordedIn.call {call : BuilderCall α} {operation : UpdateOperation}
    (h : run.IsRecordedIn serialize update) (hrecords : call.Records serialize operation) :
    (run.call call).IsRecordedIn serialize ⟨update.operations ++ [operation]⟩ := by
  have hsucceeds := BuilderCall.succeeds_iff_records.mpr ⟨operation, hrecords⟩
  unfold IsRecordedIn
  rw [calls, List.filter_append, List.filter_cons_of_pos hsucceeds]
  exact List.rel_append h (.cons hrecords .nil)

theorem IsRecordedIn.failed {call : BuilderCall α} {e : UpdateError ε}
    (h : run.IsRecordedIn serialize update) (hfails : call.FailsWith serialize e) :
    (run.call call).IsRecordedIn serialize update := by
  have hnone : ¬ call.succeeds serialize = true := by
    intro hsucceeds
    rcases BuilderCall.succeeds_iff_records.mp hsucceeds with ⟨operation, hrecords⟩
    have hboth := (BuilderCall.operation_eq_ok_iff.mpr hrecords).symm.trans
      (BuilderCall.operation_eq_error_iff.mpr hfails)
    cases hboth
  unfold IsRecordedIn
  rw [calls, List.filter_append, List.filter_cons_of_neg hnone, List.filter_nil, List.append_nil]
  exact h

theorem isRecordedIn_result (serialize : α -> Except ε DocumentValue) (run : BuilderRun α) :
    run.IsRecordedIn serialize (run.result serialize) := by
  induction run with
  | start => exact .nil
  | call earlier made ih =>
      rw [result]
      cases houtcome : (earlier.result serialize).call serialize made with
      | ok next =>
          cases BuilderCall.call_eq_iff.mp houtcome with
          | recorded hrecords => exact ih.call hrecords
      | error e =>
          cases BuilderCall.call_eq_iff.mp houtcome with
          | failed hfails => exact ih.failed hfails
  | combine earlier other ih ih' => exact ih.combine ih'

theorem IsRecordedIn.unique (h : run.IsRecordedIn serialize update)
    (h' : run.IsRecordedIn serialize other) : update = other := by
  have hfunctional : Relator.RightUnique (BuilderCall.Records serialize) :=
    fun _call _operation _other hrecords hrecords' => hrecords.unique hrecords'
  have hoperations : update.operations = other.operations := hfunctional.forall₂ h h'
  rcases update with ⟨operations⟩
  rcases other with ⟨others⟩
  exact congrArg UpdateDefinition.mk hoperations

theorem isRecordedIn_iff : run.IsRecordedIn serialize update ↔ update = run.result serialize := by
  constructor
  · intro h
    exact h.unique (isRecordedIn_result serialize run)
  · intro h
    rw [h]
    exact isRecordedIn_result serialize run

theorem IsRecordedIn.path_ne (h : run.IsRecordedIn serialize update) {operation : UpdateOperation}
    (hmem : operation ∈ update.operations) : operation.path ≠ "" := by
  rcases List.getElem_of_mem hmem with ⟨i, hi, rfl⟩
  have hlength := h.length_eq
  exact (h.get (hlength ▸ hi) hi).path_ne

/-- A run leaves the operations of its successful calls, in the order of the calls, and combining
appends what the other run has left; no path among them is empty.  A call fails exactly when its
path is empty or one of its values has no stored form, and what it comes to is given for both. -/
theorem result_isRecord (serialize : α -> Except ε DocumentValue) (run : BuilderRun α) :
    (forall update, run.IsRecordedIn serialize update ↔ update = run.result serialize)
    ∧ (forall other : BuilderRun α, ((run.combine other).result serialize).operations =
      (run.result serialize).operations ++ (other.result serialize).operations)
    ∧ (forall operation, operation ∈ (run.result serialize).operations -> operation.path ≠ "")
    ∧ forall call : BuilderCall α,
      (forall outcome, (run.result serialize).call serialize call = outcome ↔
        call.ComesTo serialize (run.result serialize) outcome)
      ∧ ((exists next, (run.result serialize).call serialize call = .ok next) ↔
        call.succeeds serialize = true)
      ∧ ((exists e, (run.result serialize).call serialize call = .error e) ↔
        call.path = "" ∨ exists value, value ∈ call.values ∧
          exists cause, serialize value = .error cause) := by
  refine ⟨fun update => isRecordedIn_iff, fun other => rfl, ?_, ?_⟩
  · intro operation hmem
    exact (isRecordedIn_result serialize run).path_ne hmem
  · intro call
    refine ⟨fun outcome => BuilderCall.call_eq_iff, BuilderCall.exists_call_eq_ok_iff, ?_⟩
    rw [BuilderCall.exists_call_eq_error_iff, BuilderCall.exists_failsWith_iff]

/-- A call at an empty path and a call with a value that is refused stand between two that are
carried out, the second of them on another definition. -/
def partlyFailing : BuilderRun Datum :=
  .combine
    (.call
      (.call (.call .start (.set "name" (.text "Editors"))) (.set "" (.refusing "unseen")))
      (.pushEach "log" [.text "opened", .refusing "sealed", .refusing "lost"]))
    (.call .start (.pullAll "tags" [.text "old", .text "old"]))

theorem result_isRecord_partlyFailing :
    partlyFailing.IsRecordedIn Datum.serialize
      ⟨[.set "name" (.text "Editors"), .pullAll "tags" [.text "old", .text "old"]]⟩
    ∧ (UpdateOperation.pullAll "tags" [.text "old", .text "old"]).path ≠ ""
    ∧ (partlyFailing.result Datum.serialize).call Datum.serialize (.set "" (.refusing "unseen")) =
      .error .emptyPath
    ∧ (partlyFailing.result Datum.serialize).call Datum.serialize
        (.pushEach "log" [.text "opened", .refusing "sealed", .refusing "lost"]) =
      .error (.serialization "log" (.refused "sealed")) := by
  rcases result_isRecord Datum.serialize partlyFailing with ⟨hrecorded, _, hpaths, hcalls⟩
  refine ⟨(hrecorded _).mpr rfl, ?_, ?_, ?_⟩
  · exact hpaths _ (List.mem_cons_of_mem _ List.mem_cons_self)
  · exact ((hcalls _).1 _).mpr (.failed (.emptyPath rfl))
  · apply ((hcalls _).1 _).mpr
    apply BuilderCall.ComesTo.failed
    have hsplit : (BuilderCall.pushEach "log"
        [Datum.text "opened", .refusing "sealed", .refusing "lost"]).values =
          [Datum.text "opened"] ++ Datum.refusing "sealed" :: [.refusing "lost"] := rfl
    refine .serialization (by decide) hsplit ?_ rfl
    intro earlier hearlier
    rw [List.mem_singleton.mp hearlier]
    exact ⟨.text "opened", rfl⟩

end BuilderRun
end PartialUpdate
