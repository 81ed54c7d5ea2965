import PartialUpdate.Emission.Printing
import PartialUpdate.Proofs.Emission.Reader
import PartialUpdate.Proofs.StringLiteral

/-!
# Generated tokens read back

A reader of generated tokens finds in them what they were printed from: the functions in
their blocks, and in the body of a function its calls, in order.
-/

namespace PartialUpdate

open Token (word operator ofIdentifier stringLiteral parenthesized bracketed braced)

namespace CodeReader

/-!
# Repetition
-/

section Repetition

variable {α β : Type} {read : ReadsFront α}

theorem scan_skip {token : Token} {rest : List Token} (h : read (token :: rest) = none) :
    scan read (token :: rest) = scan read rest := by
  rw [scan, h]

theorem scan_found {tokens rest : List Token} {found : α}
    (h : read (tokens ++ rest) = some (found, rest)) (hne : tokens ≠ []) :
    scan read (tokens ++ rest) = found :: scan read rest := by
  cases tokens with
  | nil => exact absurd rfl hne
  | cons token more =>
      have hshort : rest.length < (more ++ rest).length + 1 := by
        rw [List.length_append]
        omega
      rw [List.cons_append] at h ⊢
      rw [scan, h]
      simp only [hshort, if_true]

theorem scan_flatMap {write : β -> List Token} {found : β -> List α}
    (h : forall (b : β) (rest : List Token),
      scan read (write b ++ rest) = found b ++ scan read rest)
    (items : List β) (rest : List Token) :
    scan read (items.flatMap write ++ rest) = items.flatMap found ++ scan read rest := by
  induction items with
  | nil => rfl
  | cons item items ih =>
      rw [List.flatMap_cons, List.flatMap_cons, List.append_assoc, h, ih, List.append_assoc]

theorem sequence_flatMap {write : α -> List Token}
    (h : forall (a : α) (rest : List Token), read (write a ++ rest) = some (a, rest))
    (hne : forall a : α, write a ≠ []) (items : List α) :
    sequence read (items.flatMap write) = some items := by
  induction items with
  | nil => rw [List.flatMap_nil, sequence]
  | cons item items ih =>
      have hitem := h item (items.flatMap write)
      rw [List.flatMap_cons]
      generalize hwrite : write item = tokens at hitem
      cases tokens with
      | nil => exact absurd hwrite (hne item)
      | cons token more =>
          have hshort :
              (items.flatMap write).length < (more ++ items.flatMap write).length + 1 := by
            rw [List.length_append]
            omega
          rw [List.cons_append] at hitem ⊢
          rw [sequence, hitem]
          simp only [hshort, if_true, ih, Option.map_some]

end Repetition

/-!
# Calls
-/

theorem guard?_tokens (guard : Guard) : guard? guard.tokens = some guard := by
  cases guard with
  | present field => rfl
  | currentFilled => rfl
  | filled field => rfl
  | absentOrFilled field => rfl

theorem invocation?_argument (call : GeneratedCall) :
    invocation? call.form.name call.argument = some (call.form, call.operand) := by
  rcases call with ⟨guards, form, path, operand⟩
  cases form <;> cases operand <;> rfl

theorem bareCall?_bare (call : GeneratedCall) (rest : List Token) :
    bareCall? (call.bare ++ rest) = some ({ call with guards := [] }, rest) := by
  have hread :
      bareCall? (call.bare ++ rest) =
        (invocation? call.form.name call.argument).bind (fun found =>
          some (⟨[], found.1, Literal.stringValue (Quoted.literal call.path), found.2⟩, rest)) :=
    rfl
  rw [hread, invocation?_argument, Literal.stringValue_literal]
  rfl

theorem splitBlock?_guard (guard : Guard) (inner rest : List Token) :
    splitBlock? (guard.tokens ++ braced inner :: rest) = some (guard.tokens, inner, rest) := by
  cases guard with
  | present field => rfl
  | currentFilled => rfl
  | filled field => rfl
  | absentOrFilled field => rfl

theorem call?_around (guard : Guard) {call : GeneratedCall} {inner : List Token}
    (h : call? inner = some (call, [])) (rest : List Token) :
    call? (guard.around inner ++ rest) =
      some ({ call with guards := guard :: call.guards }, rest) := by
  have htokens :
      guard.around inner ++ rest = word "if" :: (guard.tokens ++ braced inner :: rest) := by
    simp [Guard.around]
  have hif : spelling (word "if") = "if" := rfl
  rw [htokens, call?, if_pos hif]
  split
  · rename_i hsplit
    rw [splitBlock?_guard] at hsplit
    cases hsplit
  · rename_i hsplit
    rw [splitBlock?_guard] at hsplit
    cases hsplit
    rw [guard?_tokens, h]

theorem call?_bare (call : GeneratedCall) (rest : List Token) :
    call? (call.bare ++ rest) = some ({ call with guards := [] }, rest) := by
  have hbare : call.bare ++ rest = word "update" :: (call.bare.tail ++ rest) := rfl
  have hif : spelling (word "update") ≠ "if" := by decide
  rw [hbare, call?, if_neg hif, ← hbare, bareCall?_bare]

theorem call?_tokens (call : GeneratedCall) (rest : List Token) :
    call? (call.tokens ++ rest) = some (call, rest) := by
  rcases call with ⟨guards, form, path, operand⟩
  induction guards generalizing rest with
  | nil => exact call?_bare ⟨[], form, path, operand⟩ rest
  | cons guard guards ih =>
      have hinner := ih []
      rw [List.append_nil] at hinner
      exact call?_around guard hinner rest

theorem tokens_ne_nil (call : GeneratedCall) : call.tokens ≠ [] := by
  rcases call with ⟨guards, form, path, operand⟩
  cases guards with
  | nil => exact List.cons_ne_nil _ _
  | cons guard guards => exact List.cons_ne_nil _ _

/-!
# Bodies
-/

theorem behindRuntime_append (runtime rest : List Token) (words : List String) :
    behindRuntime runtime.length words (runtime ++ rest) = expect words rest := by
  rw [behindRuntime, List.drop_left]

def bodyEnd : List Token :=
  Code.rooted ["core", "result", "Result", "Ok"] ++ [parenthesized [word "update"]]

theorem body_append (runtime : List Token) (method : GeneratedMethod) :
    method.body runtime =
      [word "let", word "mut", word "update"] ++ operator "=" ++ (runtime
        ++ (Code.separator ++ word "UpdateDefinition" :: Code.separator ++ operator "<"
          ++ ofIdentifier method.target :: operator ">" ++ Code.separator
          ++ [word "new", parenthesized [], Token.semicolon]
          ++ (method.calls.flatMap GeneratedCall.tokens ++ bodyEnd))) := by
  simp only [GeneratedMethod.body, bodyEnd, List.append_assoc, List.cons_append, List.nil_append]

theorem behindStart_body (runtime : List Token) (method : GeneratedMethod) :
    behindStart runtime.length (method.body runtime) =
      some (method.calls.flatMap GeneratedCall.tokens ++ bodyEnd) := by
  have hstart :
      forall rest : List Token,
        expect ["let", "mut", "update", "="]
          ([word "let", word "mut", word "update"] ++ operator "=" ++ rest) = some rest :=
    fun _ => rfl
  rw [body_append, behindStart, hstart]
  simp only [Option.bind_eq_bind, Option.bind_some, behindRuntime_append]
  rfl

theorem body?_eq_sequence {length : Nat} {tokens statements : List Token}
    (h : behindStart length ((expect ["let", "source", "=", "self", ";"] tokens).getD tokens) =
      some (statements ++ bodyEnd)) :
    body? length tokens = sequence call? statements := by
  have hcount : (statements ++ bodyEnd).length - endLength = statements.length := by
    have hend : bodyEnd.length = endLength := rfl
    rw [List.length_append, hend, Nat.add_sub_cancel]
  have hisEnd : isEnd bodyEnd = true := rfl
  simp only [body?, h, Option.bind_eq_bind, Option.bind_some, hcount, List.drop_left,
    List.take_left, hisEnd, if_true]

theorem body?_body (runtime : List Token) (method : GeneratedMethod) :
    body? runtime.length (method.body runtime) = some method.calls := by
  have hown :
      (expect ["let", "source", "=", "self", ";"] (method.body runtime)).getD
        (method.body runtime) = method.body runtime := by
    rw [body_append]
    rfl
  rw [body?_eq_sequence (hown ▸ behindStart_body runtime method)]
  exact sequence_flatMap call?_tokens tokens_ne_nil method.calls

def ownBody (runtime : List Token) (method : GeneratedMethod) : List Token :=
  [word "let", word "source"] ++ operator "=" ++ [word "self", Token.semicolon]
    ++ method.body runtime

theorem body?_ownBody (runtime : List Token) (method : GeneratedMethod) :
    body? runtime.length (ownBody runtime method) = some method.calls := by
  have hown :
      (expect ["let", "source", "=", "self", ";"] (ownBody runtime method)).getD
        (ownBody runtime method) = method.body runtime := rfl
  rw [body?_eq_sequence (hown ▸ behindStart_body runtime method)]
  exact sequence_flatMap call?_tokens tokens_ne_nil method.calls

/-!
# Functions
-/

def found (method : GeneratedMethod) (body : Option (List Token)) : FoundFunction :=
  ⟨method.name, method.source, method.target, body⟩

def parameter : Option Identifier -> List Token
  | some source => word "source" :: operator ":" ++ operator "&" ++ [ofIdentifier source]
  | none => operator "&" ++ [word "self"]

def result (runtime : List Token) (target : Identifier) : List Token :=
  operator "->" ++ (runtime ++ (Code.separator ++ word "UpdateResult" :: operator "<"
    ++ (runtime ++ (Code.separator ++ word "UpdateDefinition" :: operator "<"
      ++ ofIdentifier target :: operator ">>"))))

theorem signature_eq (runtime : List Token) (method : GeneratedMethod) :
    method.signature runtime =
      word "fn" :: ofIdentifier method.name :: parenthesized (parameter method.source)
        :: result runtime method.target := by
  cases hsource : method.source with
  | none =>
      simp only [GeneratedMethod.signature, hsource, parameter, result, List.append_assoc,
        List.cons_append, List.nil_append]
  | some source =>
      simp only [GeneratedMethod.signature, hsource, parameter, result, List.append_assoc,
        List.cons_append, List.nil_append]

theorem parameter?_parameter (source : Option Identifier) :
    parameter? (parameter source) = some source := by
  cases source with
  | none => rfl
  | some source => rfl

theorem result?_result (runtime rest : List Token) (target : Identifier) :
    result? runtime.length (result runtime target ++ rest) = some (target, rest) := by
  have harrow :
      forall more : List Token, expect ["-", ">"] (operator "->" ++ more) = some more :=
    fun _ => rfl
  have hresult :
      forall more : List Token,
        expect [":", ":", "UpdateResult", "<"]
          (Code.separator ++ word "UpdateResult" :: operator "<" ++ more) = some more :=
    fun _ => rfl
  simp only [result?, result, List.append_assoc, List.cons_append] at *
  rw [harrow]
  simp only [Option.bind_eq_bind, Option.bind_some, behindRuntime_append, hresult]
  rfl

theorem function?_signature (runtime : List Token) (method : GeneratedMethod)
    {tokens rest : List Token} {body : Option (List Token)}
    (h : ending? tokens = some (body, rest)) :
    function? runtime.length (method.signature runtime ++ tokens) =
      some (found method body, rest) := by
  have hread :
      function? runtime.length (method.signature runtime ++ tokens) =
        (parameter? (parameter method.source)).bind (fun source =>
          (result? runtime.length (result runtime method.target ++ tokens)).bind (fun x =>
            (ending? x.2).bind (fun y => some (⟨method.name, source, x.1, y.1⟩, y.2)))) := by
    rw [signature_eq]
    rfl
  rw [hread, parameter?_parameter, Option.bind_some, result?_result, Option.bind_some, h]
  rfl

theorem function?_none (length : Nat) {token : Token} (rest : List Token)
    (h : spelling token ≠ "fn") : function? length (token :: rest) = none := by
  have hexpect : expect ["fn"] (token :: rest) = none := if_neg h
  rw [function?, hexpect]
  rfl

theorem scan_marker {α : Type} {read : ReadsFront α}
    (h : forall (token : Token) (rest : List Token),
      spelling token = "#" ∨ spelling token = "" -> read (token :: rest) = none)
    (name : String) (content rest : List Token) :
    scan read (Code.marker name content ++ rest) = scan read rest := by
  have hmarker :
      Code.marker name content ++ rest =
        .punctuation '#' false Span.unplaced :: bracketed (word name :: content) :: rest := rfl
  rw [hmarker, scan_skip (h _ _ (Or.inl rfl)), scan_skip (h _ _ (Or.inr rfl))]

theorem scan_functionMarker (length : Nat) (name : String) (content rest : List Token) :
    scan (function? length) (Code.marker name content ++ rest) =
      scan (function? length) rest := by
  apply scan_marker
  intro token rest htoken
  apply function?_none
  rcases htoken with htoken | htoken
  · rw [htoken]
    decide
  · rw [htoken]
    decide

theorem scan_signature (runtime : List Token) (method : GeneratedMethod)
    {ending : Token} {body : Option (List Token)}
    (h : forall rest : List Token, ending? (ending :: rest) = some (body, rest))
    (rest : List Token) :
    scan (function? runtime.length) (method.signature runtime ++ ending :: rest) =
      found method body :: scan (function? runtime.length) rest := by
  have hread :
      function? runtime.length ((method.signature runtime ++ [ending]) ++ rest) =
        some (found method body, rest) := by
    rw [List.append_assoc]
    exact function?_signature runtime method (h rest)
  have hscan := scan_found hread (by simp)
  rwa [List.append_assoc] at hscan

theorem scan_declaration (runtime : List Token) (method : GeneratedMethod)
    (rest : List Token) :
    scan (function? runtime.length) (method.declaration runtime ++ rest) =
      [found method none] ++ scan (function? runtime.length) rest := by
  rw [GeneratedMethod.declaration, List.append_assoc, List.append_assoc,
    GeneratedMethod.documentation, Code.documentation, scan_functionMarker]
  exact scan_signature runtime method (fun _ => rfl) rest

theorem scan_definition (runtime : List Token) (method : GeneratedMethod)
    (rest : List Token) :
    scan (function? runtime.length) (method.definition runtime ++ rest) =
      [found method (some (ownBody runtime method))] ++ scan (function? runtime.length) rest := by
  rw [GeneratedMethod.definition, List.append_assoc, List.append_assoc, Code.allowUnused,
    scan_functionMarker]
  exact scan_signature runtime method (fun _ => rfl) rest

def functionContent (runtime : List Token) (method : GeneratedMethod) : List Token :=
  method.documentation ++ Code.allowUnused ++ word "pub" :: method.signature runtime
    ++ [braced (method.body runtime)]

theorem scan_functionContent (runtime : List Token) (method : GeneratedMethod) :
    scan (function? runtime.length) (functionContent runtime method) =
      [found method (some (method.body runtime))] := by
  have hpub : spelling (word "pub") ≠ "fn" := by decide
  have hend : scan (function? runtime.length) [] = [] := by
    rw [scan]
  rw [functionContent, List.append_assoc, List.append_assoc, GeneratedMethod.documentation,
    Code.documentation, scan_functionMarker, Code.allowUnused, scan_functionMarker,
    List.cons_append, scan_skip (function?_none _ _ hpub),
    scan_signature runtime method (fun _ => rfl), hend]

/-!
# Blocks
-/

theorem block?_none {token : Token} (rest : List Token)
    (htrait : spelling token ≠ "trait") (himpl : spelling token ≠ "impl") :
    block? (token :: rest) = none := by
  unfold block?
  split
  · rename_i heq
    cases heq
    exact (if_neg htrait).trans (if_neg himpl)
  · rename_i heq
    cases heq
    exact if_neg (fun h => himpl h.1)
  · rfl

theorem scan_blockMarker (name : String) (content rest : List Token) :
    scan block? (Code.marker name content ++ rest) = scan block? rest := by
  apply scan_marker
  intro token rest htoken
  rcases htoken with htoken | htoken
  · apply block?_none
    · rw [htoken]
      decide
    · rw [htoken]
      decide
  · apply block?_none
    · rw [htoken]
      decide
    · rw [htoken]
      decide

/-- The blocks of a trait: its declaration, and its functions for the source type. -/
def traitBlocks (runtime : List Token) (extension : ExtensionTrait) :
    List (BlockHead × List Token) :=
  [(.trait extension.name,
      extension.methods.flatMap (GeneratedMethod.declaration runtime)),
    (.traitFor extension.name extension.source,
      extension.methods.flatMap (GeneratedMethod.definition runtime))]

theorem scan_extensionTrait (runtime : List Token) (extension : ExtensionTrait)
    (rest : List Token) :
    scan block? (extension.tokens runtime ++ rest) =
      traitBlocks runtime extension ++ scan block? rest := by
  let declarations := extension.methods.flatMap (GeneratedMethod.declaration runtime)
  let definitions := extension.methods.flatMap (GeneratedMethod.definition runtime)
  let declared := [word "trait", ofIdentifier extension.name, braced declarations]
  let defined :=
    [word "impl", ofIdentifier extension.name, word "for", ofIdentifier extension.source,
      braced definitions]
  have hdeclared (behind : List Token) :
      block? (declared ++ behind) = some ((.trait extension.name, declarations), behind) := rfl
  have hdefined (behind : List Token) :
      block? (defined ++ behind) =
        some ((.traitFor extension.name extension.source, definitions), behind) := rfl
  have htokens :
      extension.tokens runtime ++ rest =
        Code.documentation ("Partial updates built from [`" ++ extension.sourceType ++ "`].")
          ++ word "pub" :: (declared ++ (defined ++ rest)) := by
    rw [ExtensionTrait.tokens, List.append_assoc]
    rfl
  have hpub (behind : List Token) : block? (word "pub" :: behind) = none :=
    block?_none behind (by decide) (by decide)
  rw [htokens, Code.documentation, scan_blockMarker, scan_skip (hpub _),
    scan_found (hdeclared _) (List.cons_ne_nil _ _),
    scan_found (hdefined _) (List.cons_ne_nil _ _)]
  rfl

theorem scan_function (runtime : List Token) (method : GeneratedMethod) (rest : List Token) :
    scan block? (method.function runtime ++ rest) =
      [(.type method.target, functionContent runtime method)] ++ scan block? rest := by
  have hread :
      block? (method.function runtime ++ rest) =
        some ((.type method.target, functionContent runtime method), rest) := rfl
  exact scan_found hread (List.cons_ne_nil _ _)

/-- The functions of a trait, first as they are declared and then as they are defined. -/
def traitFunctions (runtime : List Token) (extension : ExtensionTrait) :
    List (BlockHead × FoundFunction) :=
  extension.methods.map (fun method => (.trait extension.name, found method none))
    ++ extension.methods.map (fun method =>
      (.traitFor extension.name extension.source, found method (some (ownBody runtime method))))

theorem scan_declarations (runtime : List Token) (methods : List GeneratedMethod) :
    scan (function? runtime.length) (methods.flatMap (GeneratedMethod.declaration runtime)) =
      methods.map (fun method => found method none) := by
  have hend : scan (function? runtime.length) [] = [] := by
    rw [scan]
  have hscan := scan_flatMap (scan_declaration runtime) methods []
  rwa [List.append_nil, hend, List.append_nil, ← List.map_eq_flatMap] at hscan

theorem scan_definitions (runtime : List Token) (methods : List GeneratedMethod) :
    scan (function? runtime.length) (methods.flatMap (GeneratedMethod.definition runtime)) =
      methods.map (fun method => found method (some (ownBody runtime method))) := by
  have hend : scan (function? runtime.length) [] = [] := by
    rw [scan]
  have hscan := scan_flatMap (scan_definition runtime) methods []
  rwa [List.append_nil, hend, List.append_nil, ← List.map_eq_flatMap] at hscan

theorem functions_traitBlocks (runtime : List Token) (extension : ExtensionTrait) :
    (traitBlocks runtime extension).flatMap (fun (head, content) =>
        (scan (function? runtime.length) content).map (fun function => (head, function))) =
      traitFunctions runtime extension := by
  simp only [traitBlocks, List.flatMap_cons, List.flatMap_nil, List.append_nil,
    scan_declarations, scan_definitions, traitFunctions, List.map_map]
  rfl

theorem scan_code (code : GeneratedCode) :
    scan block? code.tokens =
      code.traits.flatMap (traitBlocks code.runtime)
        ++ code.functions.map (fun method =>
          (.type method.target, functionContent code.runtime method)) := by
  have hend : scan block? [] = [] := by
    rw [scan]
  have hfunctions := scan_flatMap (scan_function code.runtime) code.functions []
  rw [List.append_nil, hend, List.append_nil, ← List.map_eq_flatMap] at hfunctions
  rw [GeneratedCode.tokens, scan_flatMap (scan_extensionTrait code.runtime), hfunctions]

/-- The reader finds the functions that the code holds, each in its block. -/
theorem functions_tokens (code : GeneratedCode) :
    functions code.runtime.length code.tokens =
      code.traits.flatMap (traitFunctions code.runtime)
        ++ code.functions.map (fun method =>
          (.type method.target, found method (some (method.body code.runtime)))) := by
  rw [functions, scan_code, List.flatMap_append, List.flatMap_assoc]
  congr 1
  · congr 1
    funext extension
    exact functions_traitBlocks code.runtime extension
  · rw [List.flatMap_map, List.map_eq_flatMap]
    congr 1
    funext method
    simp only [scan_functionContent, List.map_cons, List.map_nil]

end CodeReader
end PartialUpdate
