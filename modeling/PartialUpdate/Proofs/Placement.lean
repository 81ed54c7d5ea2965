import Mathlib.Data.List.Basic
import PartialUpdate.Reading

/-!
# Items apart from their places

The same items may stand in a file and in a module, at other places of the text.  What they
declare, and what is wrong with it, does not depend on that.
-/

namespace PartialUpdate

/-!
# Tokens
-/

namespace Token

theorem unplacedAll_eq_map (tokens : List Token) : unplacedAll tokens = tokens.map unplaced := by
  induction tokens with
  | nil => rfl
  | cons token rest ih => rw [unplacedAll, ih, List.map_cons]

@[simp]
theorem unplacedAll_nil : unplacedAll [] = [] := rfl

@[simp]
theorem unplacedAll_cons (token : Token) (rest : List Token) :
    unplacedAll (token :: rest) = token.unplaced :: unplacedAll rest := rfl

@[simp]
theorem unplacedAll_append (tokens more : List Token) :
    unplacedAll (tokens ++ more) = unplacedAll tokens ++ unplacedAll more := by
  simp only [unplacedAll_eq_map, List.map_append]

theorem isEmpty_unplacedAll (tokens : List Token) :
    (unplacedAll tokens).isEmpty = tokens.isEmpty := by
  cases tokens <;> rfl

mutual

@[simp]
theorem unplaced_unplaced (token : Token) : token.unplaced.unplaced = token.unplaced := by
  cases token with
  | group delimiter content span => simp only [unplaced, unplacedAll_unplacedAll content]
  | _ => rfl

@[simp]
theorem unplacedAll_unplacedAll (tokens : List Token) :
    unplacedAll (unplacedAll tokens) = unplacedAll tokens := by
  cases tokens with
  | nil => rfl
  | cons token rest =>
      simp only [unplacedAll, unplaced_unplaced token, unplacedAll_unplacedAll rest]

end

@[simp]
theorem joined_unplaced (token : Token) : token.unplaced.joined = token.joined := by
  cases token <;> rfl

mutual

@[simp]
theorem text_unplaced (token : Token) : token.unplaced.text = token.text := by
  cases token with
  | group delimiter content span =>
      cases delimiter <;>
        simp only [unplaced, text, texts_unplacedAll content, isEmpty_unplacedAll]
  | _ => rfl

@[simp]
theorem texts_unplacedAll (tokens : List Token) : texts (unplacedAll tokens) = texts tokens := by
  cases tokens with
  | nil => rfl
  | cons token rest =>
      cases rest with
      | nil => exact text_unplaced token
      | cons next more =>
          have hrest := texts_unplacedAll (next :: more)
          simp only [unplacedAll_cons] at hrest
          simp only [unplacedAll_cons, texts, text_unplaced token, joined_unplaced, hrest]

end

@[simp]
theorem unplacedAll_operator (text : String) : unplacedAll (operator text) = operator text := by
  have hchars (chars : List Char) : unplacedAll (operatorChars chars) = operatorChars chars := by
    induction chars with
    | nil => rfl
    | cons c rest ih =>
        cases rest with
        | nil => rfl
        | cons next more => exact congrArg (List.cons _) ih
  exact hchars text.toList

end Token

/-!
# Types and paths
-/

mutual

def TypeSyntax.unplaced : TypeSyntax -> TypeSyntax
  | .reference lead target => .reference (Token.unplacedAll lead) target.unplaced
  | .parenthesized inner => .parenthesized inner.unplaced
  | .array element length => .array element.unplaced (Token.unplacedAll length)
  | .slice element => .slice element.unplaced
  | .path rooted steps => .path rooted (PathStep.unplacedAll steps)
  | .qualified tokens last => .qualified (Token.unplacedAll tokens) last
  | .bound enclosed tokens => .bound enclosed (Token.unplacedAll tokens)
  | .other tokens => .other (Token.unplacedAll tokens)

def PathStep.unplaced : PathStep -> PathStep
  | .plain name => .plain name
  | .angled name turbofish arguments =>
      .angled name turbofish (GenericArgument.unplacedAll arguments)

def PathStep.unplacedAll : List PathStep -> List PathStep
  | [] => []
  | step :: rest => step.unplaced :: PathStep.unplacedAll rest

def GenericArgument.unplaced : GenericArgument -> GenericArgument
  | .type type comma => .type type.unplaced comma
  | .lifetime tokens comma => .lifetime (Token.unplacedAll tokens) comma
  | .other tokens comma => .other (Token.unplacedAll tokens) comma

def GenericArgument.unplacedAll : List GenericArgument -> List GenericArgument
  | [] => []
  | argument :: rest => argument.unplaced :: GenericArgument.unplacedAll rest

end

namespace PathStep

theorem unplacedAll_eq_map (steps : List PathStep) : unplacedAll steps = steps.map unplaced := by
  induction steps with
  | nil => rfl
  | cons step rest ih => rw [unplacedAll, ih, List.map_cons]

@[simp]
theorem name_unplaced (step : PathStep) : step.unplaced.name = step.name := by
  cases step <;> rfl

end PathStep

namespace PrintedArgument

def unplaced (argument : PrintedArgument) : PrintedArgument :=
  { argument with tokens := Token.unplacedAll argument.tokens }

theorem flatMap_withComma_unplaced (arguments : List PrintedArgument) :
    (arguments.map unplaced).flatMap withComma =
      Token.unplacedAll (arguments.flatMap withComma) := by
  induction arguments with
  | nil => rfl
  | cons argument rest ih =>
      rw [List.map_cons, List.flatMap_cons, List.flatMap_cons, ih, Token.unplacedAll_append]
      congr 1
      unfold withComma unplaced
      cases argument.comma <;> simp [Token.comma, Token.unplaced]

theorem arrange_unplaced (arguments : List PrintedArgument) :
    arrange (arguments.map unplaced) = Token.unplacedAll (arrange arguments) := by
  have hlifetimes : (arguments.map unplaced).filter lifetime =
      (arguments.filter lifetime).map unplaced := List.filter_map
  have hothers : (arguments.map unplaced).filter (fun argument => !argument.lifetime) =
      (arguments.filter (fun argument => !argument.lifetime)).map unplaced := List.filter_map
  unfold arrange
  simp only [hlifetimes, hothers, flatMap_withComma_unplaced, Token.unplacedAll_append,
    List.isEmpty_map, List.getLast?_map, Option.any_map]
  congr 2
  exact (apply_ite Token.unplacedAll _ [Token.comma] []).symm

end PrintedArgument

mutual

@[simp]
theorem TypeSyntax.tokens_unplaced (type : TypeSyntax) :
    type.unplaced.tokens = Token.unplacedAll type.tokens := by
  cases type with
  | reference lead target =>
      simp [TypeSyntax.unplaced, TypeSyntax.tokens, TypeSyntax.tokens_unplaced target]
  | parenthesized inner =>
      simp [TypeSyntax.unplaced, TypeSyntax.tokens, TypeSyntax.tokens_unplaced inner,
        Token.parenthesized, Token.unplaced]
  | array element length =>
      simp [TypeSyntax.unplaced, TypeSyntax.tokens, TypeSyntax.tokens_unplaced element,
        Token.bracketed, Token.semicolon, Token.unplaced]
  | slice element =>
      simp [TypeSyntax.unplaced, TypeSyntax.tokens, TypeSyntax.tokens_unplaced element,
        Token.bracketed, Token.unplaced]
  | path rooted steps =>
      cases rooted <;>
        simp [TypeSyntax.unplaced, TypeSyntax.tokens, PathStep.tokensOfAll_unplacedAll steps]
  | bound enclosed tokens =>
      cases enclosed <;>
        simp [TypeSyntax.unplaced, TypeSyntax.tokens, Token.parenthesized, Token.unplaced]
  | qualified tokens last => rfl
  | other tokens => rfl

theorem PathStep.tokens_unplaced (step : PathStep) :
    step.unplaced.tokens = Token.unplacedAll step.tokens := by
  cases step with
  | plain name => rfl
  | angled name turbofish arguments =>
      cases turbofish <;>
        simp [PathStep.unplaced, PathStep.tokens, GenericArgument.printed_unplacedAll arguments,
          PrintedArgument.arrange_unplaced, Token.ofIdentifier, Token.unplaced]

theorem PathStep.tokensOfAll_unplacedAll (steps : List PathStep) :
    PathStep.tokensOfAll (PathStep.unplacedAll steps) =
      Token.unplacedAll (PathStep.tokensOfAll steps) := by
  cases steps with
  | nil => rfl
  | cons step rest =>
      cases rest with
      | nil => exact PathStep.tokens_unplaced step
      | cons next more =>
          have hrest := PathStep.tokensOfAll_unplacedAll (next :: more)
          simp only [PathStep.unplacedAll] at hrest
          simp [PathStep.unplacedAll, PathStep.tokensOfAll, PathStep.tokens_unplaced step, hrest]

theorem GenericArgument.printed_unplacedAll (arguments : List GenericArgument) :
    GenericArgument.printed (GenericArgument.unplacedAll arguments) =
      (GenericArgument.printed arguments).map PrintedArgument.unplaced := by
  cases arguments with
  | nil => rfl
  | cons argument rest =>
      have hrest := GenericArgument.printed_unplacedAll rest
      cases argument with
      | type type comma =>
          simp [GenericArgument.unplacedAll, GenericArgument.unplaced, GenericArgument.printed,
            PrintedArgument.unplaced, TypeSyntax.tokens_unplaced type, hrest]
      | lifetime tokens comma =>
          simp [GenericArgument.unplacedAll, GenericArgument.unplaced, GenericArgument.printed,
            PrintedArgument.unplaced, hrest]
      | other tokens comma =>
          simp [GenericArgument.unplacedAll, GenericArgument.unplaced, GenericArgument.printed,
            PrintedArgument.unplaced, hrest]

end

theorem Classification.asText_unplaced (type : TypeSyntax) :
    asText type.unplaced = asText type := by
  rw [asText, TypeSyntax.tokens_unplaced, Token.texts_unplacedAll, asText]

mutual

@[simp]
theorem TypeSyntax.classify_unplaced (type : TypeSyntax) :
    type.unplaced.classify = type.classify := by
  cases type with
  | path rooted steps =>
      have hwhole := Classification.asText_unplaced (.path rooted steps)
      have harguments := PathStep.argumentsOfLast_unplacedAll steps
      simp only [TypeSyntax.unplaced] at hwhole
      simp only [TypeSyntax.unplaced, TypeSyntax.classify, hwhole, harguments]
      rw [PathStep.unplacedAll_eq_map, List.getLast?_map]
      cases steps.getLast? with
      | none => rfl
      | some last => simp
  | reference lead target =>
      simp [TypeSyntax.unplaced, TypeSyntax.classify, TypeSyntax.classify_unplaced target]
  | parenthesized inner =>
      simp [TypeSyntax.unplaced, TypeSyntax.classify, TypeSyntax.classify_unplaced inner]
  | array element length =>
      simp [TypeSyntax.unplaced, TypeSyntax.classify, TypeSyntax.classify_unplaced element]
  | slice element =>
      simp [TypeSyntax.unplaced, TypeSyntax.classify, TypeSyntax.classify_unplaced element]
  | qualified tokens last => exact Classification.asText_unplaced (.qualified tokens last)
  | bound enclosed tokens => exact Classification.asText_unplaced (.bound enclosed tokens)
  | other tokens => exact Classification.asText_unplaced (.other tokens)

theorem PathStep.argumentsOfLast_unplacedAll (steps : List PathStep) :
    PathStep.argumentsOfLast (PathStep.unplacedAll steps) = PathStep.argumentsOfLast steps := by
  cases steps with
  | nil => rfl
  | cons step rest =>
      cases rest with
      | nil => exact PathStep.classifiedArguments_unplaced step
      | cons next more => exact PathStep.argumentsOfLast_unplacedAll (next :: more)

theorem PathStep.classifiedArguments_unplaced (step : PathStep) :
    step.unplaced.classifiedArguments = step.classifiedArguments := by
  cases step with
  | plain name => rfl
  | angled name turbofish arguments => exact GenericArgument.classified_unplacedAll arguments

theorem GenericArgument.classified_unplacedAll (arguments : List GenericArgument) :
    GenericArgument.classified (GenericArgument.unplacedAll arguments) =
      GenericArgument.classified arguments := by
  cases arguments with
  | nil => rfl
  | cons argument rest =>
      have hrest := GenericArgument.classified_unplacedAll rest
      cases argument with
      | type type comma =>
          simp [GenericArgument.unplacedAll, GenericArgument.unplaced, GenericArgument.classified,
            TypeSyntax.classify_unplaced type, hrest]
      | lifetime tokens comma => exact hrest
      | other tokens comma => exact hrest

end

@[simp]
theorem TypeSyntax.lastName?_unplaced (type : TypeSyntax) :
    type.unplaced.lastName? = type.lastName? := by
  cases type with
  | path rooted steps =>
      rw [TypeSyntax.unplaced, TypeSyntax.lastName?, PathStep.unplacedAll_eq_map,
        List.getLast?_map, Option.map_map]
      simp only [Function.comp_def, PathStep.name_unplaced, TypeSyntax.lastName?]
  | _ => rfl

namespace PathSyntax

def unplaced (path : PathSyntax) : PathSyntax :=
  { path with steps := PathStep.unplacedAll path.steps }

@[simp]
theorem isWord_unplaced (path : PathSyntax) (word : String) :
    path.unplaced.isWord word = path.isWord word := by
  rcases path with ⟨rooted, steps⟩
  cases rooted <;> rcases steps with _ | ⟨_ | _, _ | _⟩ <;> rfl

end PathSyntax

/-!
# Expressions and attributes
-/

namespace Expression

def unplaced (expression : Expression) : Expression where
  shape := { expression.shape with path := expression.shape.path.map PathSyntax.unplaced }
  tokens := Token.unplacedAll expression.tokens

@[simp]
theorem typeName_value_unplaced (expression : Expression) :
    expression.unplaced.value.typeName = expression.value.typeName := by
  rcases expression with ⟨⟨kind, path⟩, tokens⟩
  cases kind with
  | literal =>
      rcases tokens with _ | ⟨first, _ | ⟨second, _ | ⟨third, rest⟩⟩⟩
      · rfl
      · cases first with
        | literal kind => cases kind <;> rfl
        | _ => rfl
      · cases first with
        | literal kind => cases kind <;> rfl
        | _ => cases second <;> rfl
      · cases first with
        | literal kind => cases kind <;> rfl
        | _ => cases second <;> rfl
  | path => cases path <;> rfl
  | _ => rfl

end Expression

namespace AttributeContent

def unplaced : AttributeContent -> AttributeContent
  | .word => .word
  | .list delimiter tokens => .list delimiter (Token.unplacedAll tokens)
  | .value expression => .value expression.unplaced

end AttributeContent

theorem Argument.ofTokens_unplacedAll (tokens : List Token) :
    ofTokens (Token.unplacedAll tokens) = ofTokens tokens := by
  rw [ofTokens, Token.unplacedAll_unplacedAll, ofTokens]

namespace DeclarationKey

variable {σ : Type}

theorem readContent_unplaced (keys : List (DeclarationKey σ)) (required : List String) (start : σ)
    (word : Except DeclarationError σ) (content : AttributeContent) :
    readContent keys required start word content.unplaced =
      readContent keys required start word content := by
  cases content with
  | word => rfl
  | list delimiter tokens =>
      rw [AttributeContent.unplaced, readContent, readContent, readList,
        Argument.ofTokens_unplacedAll, readList]
  | value expression =>
      simp only [AttributeContent.unplaced, readContent, WrittenValue.mismatch,
        Expression.typeName_value_unplaced]

end DeclarationKey

theorem Naming.clauses_unplaced (content : AttributeContent) :
    clauses content.unplaced = clauses content := by
  cases content with
  | list delimiter tokens =>
      rw [AttributeContent.unplaced, clauses, clauses, Token.unplacedAll_unplacedAll]
  | _ => rfl

namespace Attribute

def unplaced (written : Attribute) : Attribute where
  inner := written.inner
  item := ⟨written.item.path.unplaced, written.item.content.unplaced⟩
  span := Span.unplaced

@[simp]
theorem isNamed_unplaced (written : Attribute) (word : String) :
    written.unplaced.isNamed word = written.isNamed word :=
  PathSyntax.isWord_unplaced written.item.path word

@[simp]
theorem of?_unplaced (written : Attribute) :
    UpdateAttribute.of? written.unplaced = UpdateAttribute.of? written := by
  simp only [UpdateAttribute.of?, isNamed_unplaced]

@[simp]
theorem onStruct_unplaced (written : Attribute) : written.unplaced.onStruct = written.onStruct := by
  have hmarker := DeclarationKey.readContent_unplaced MarkerSpec.keys ["target"]
    { targetType := "" } (.error (DeclarationError.of (.wrongForm .word))) written.item.content
  have hproperty := DeclarationKey.readContent_unplaced PropertySpec.keys [] {} (.ok {})
    written.item.content
  have htarget := DeclarationKey.readContent_unplaced TargetSpec.keys [] {} (.ok {})
    written.item.content
  unfold onStruct
  rw [of?_unplaced]
  rcases UpdateAttribute.of? written with _ | kind
  · rfl
  · cases kind with
    | update => exact congrArg (Except.map StructDeclaration.marker) hmarker
    | property => exact congrArg (Except.map StructDeclaration.property) hproperty
    | target => exact congrArg (Except.map StructDeclaration.target) htarget
    | ignore => rfl

@[simp]
theorem onField_unplaced (written : Attribute) : written.unplaced.onField = written.onField := by
  have hproperty := DeclarationKey.readContent_unplaced PropertySpec.keys [] {} (.ok {})
    written.item.content
  unfold onField
  rw [of?_unplaced]
  rcases UpdateAttribute.of? written with _ | kind
  · rfl
  · cases kind with
    | property => exact congrArg (Except.map FieldDeclaration.property) hproperty
    | ignore =>
        rcases written with ⟨inner, ⟨path, content⟩, span⟩
        cases content <;> rfl
    | update => rfl
    | target => rfl

end Attribute

/-!
# Fields
-/

theorem Naming.ofAttributes_unplaced (attributes : List Attribute) :
    ofAttributes (attributes.map Attribute.unplaced) = ofAttributes attributes := by
  have hclauses : clausesOfAll (attributes.map Attribute.unplaced) = clausesOfAll attributes := by
    simp only [clausesOfAll, List.filter_map, List.map_map, Function.comp_def,
      Attribute.isNamed_unplaced]
    exact List.map_congr_left (fun written _hmem => clauses_unplaced written.item.content)
  simp only [ofAttributes, errors, collected, hclauses]

namespace FieldSyntax

def unplaced (field : FieldSyntax) : FieldSyntax where
  attributes := field.attributes.map Attribute.unplaced
  visibility := Token.unplacedAll field.visibility
  name := field.name.map (fun (name, _) => (name, Span.unplaced))
  type := field.type.unplaced
  comma := field.comma

@[simp]
theorem declarations_unplaced (field : FieldSyntax) :
    field.unplaced.declarations = field.declarations := by
  simp [declarations, unplaced, List.filterMap_map]

@[simp]
theorem naming_unplaced (field : FieldSyntax) : field.unplaced.naming = field.naming :=
  Naming.ofAttributes_unplaced field.attributes

@[simp]
theorem errors_unplaced (field : FieldSyntax) : field.unplaced.errors = field.errors := by
  rw [errors, naming_unplaced, errors]
  simp [unplaced, List.filterMap_map]

@[simp]
theorem member_unplaced (container : Naming) (field : FieldSyntax) (name : String) :
    field.unplaced.member container name = field.member container name := by
  have htype : field.unplaced.type.classify = field.type.classify :=
    TypeSyntax.classify_unplaced field.type
  have hpublic : field.unplaced.isPublic = field.isPublic := by
    simp [isPublic, unplaced, Token.isEmpty_unplacedAll]
  simp only [member, isIgnored, specs, declarations_unplaced, naming_unplaced, htype, hpublic]

end FieldSyntax

namespace FieldsSyntax

def unplaced : FieldsSyntax -> FieldsSyntax
  | .named fields => .named (fields.map FieldSyntax.unplaced)
  | .unnamed fields => .unnamed (fields.map FieldSyntax.unplaced)
  | .unit => .unit

theorem named?_unplaced (fields : FieldsSyntax) :
    fields.unplaced.named? = fields.named?.map (fun named =>
      named.map (fun (name, _, field) => (name, Span.unplaced, field.unplaced))) := by
  cases fields with
  | named fields =>
      simp only [unplaced, named?, Option.map_some, List.filterMap_map, List.map_filterMap]
      congr 1
      apply List.filterMap_congr
      intro field _hmem
      rcases field with ⟨attributes, visibility, _ | ⟨name, span⟩, type, comma⟩ <;> rfl
  | unnamed fields => rfl
  | unit => rfl

end FieldsSyntax

/-!
# Items
-/

namespace StructSyntax

def unplaced (item : StructSyntax) : StructSyntax where
  attributes := item.attributes.map Attribute.unplaced
  visibility := Token.unplacedAll item.visibility
  name := item.name
  nameSpan := Span.unplaced
  generics := Token.unplacedAll item.generics
  conditions := Token.unplacedAll item.conditions
  fields := item.fields.unplaced

theorem declarations_unplaced (item : StructSyntax) :
    item.unplaced.declarations =
      item.declarations.map (fun (declared, _) => (declared, Span.unplaced)) := by
  simp only [declarations, unplaced, List.filterMap_map, List.map_filterMap, Function.comp_def,
    Attribute.onStruct_unplaced, Option.map_map]
  rfl

theorem markers_unplaced (item : StructSyntax) :
    item.unplaced.markers.map Prod.fst = item.markers.map Prod.fst := by
  simp only [markers, declarations_unplaced, List.filterMap_map, List.map_filterMap]
  apply List.filterMap_congr
  rintro ⟨declared, span⟩ _hmem
  cases declared <;> rfl

theorem typeSpecs_unplaced (item : StructSyntax) : item.unplaced.typeSpecs = item.typeSpecs := by
  simp only [typeSpecs, declarations_unplaced, List.filterMap_map]
  apply List.filterMap_congr
  rintro ⟨declared, span⟩ _hmem
  cases declared <;> rfl

theorem targets_unplaced (item : StructSyntax) : item.unplaced.targets = item.targets := by
  simp only [targets, declarations_unplaced, List.filterMap_map]
  apply List.filterMap_congr
  rintro ⟨declared, span⟩ _hmem
  cases declared <;> rfl

theorem naming_unplaced (item : StructSyntax) : item.unplaced.naming = item.naming :=
  Naming.ofAttributes_unplaced item.attributes

theorem namedFields_unplaced (item : StructSyntax) :
    item.unplaced.namedFields =
      item.namedFields.map (fun (name, _, field) => (name, Span.unplaced, field.unplaced)) := by
  show item.fields.unplaced.named?.getD [] = _
  rw [FieldsSyntax.named?_unplaced, namedFields]
  cases item.fields.named? <;> rfl

theorem info_unplaced (item : StructSyntax) : item.unplaced.info = item.info := by
  simp only [info, isExtensible, namedFields_unplaced, naming_unplaced, markers_unplaced,
    typeSpecs_unplaced, targets_unplaced, List.map_map, Function.comp_def,
    FieldSyntax.member_unplaced]
  rfl

theorem error?_unplaced (item : StructSyntax) : item.unplaced.error? = item.error? := by
  have hmarkers : item.unplaced.markers.isEmpty = item.markers.isEmpty := by
    rw [← List.isEmpty_map (f := Prod.fst), markers_unplaced, List.isEmpty_map]
  have hnamed := FieldsSyntax.named?_unplaced item.fields
  change item.unplaced.fields.named? = _ at hnamed
  have hfields : item.unplaced.fieldErrors = item.fieldErrors := by
    rw [fieldErrors, fieldErrors, hmarkers, typeSpecs_unplaced, hnamed]
    cases item.fields.named? with
    | none => rfl
    | some fields => simp [List.flatMap_map]
  rw [error?, errors, naming_unplaced, hfields, error?, errors]
  simp [unplaced, List.filterMap_map]

end StructSyntax

namespace ImplSyntax

def unplaced (item : ImplSyntax) : ImplSyntax where
  ofTrait := item.ofTrait
  selfType := item.selfType.unplaced
  members := item.members
  tokens := Token.unplacedAll item.tokens

theorem owner?_unplaced (item : ImplSyntax) : item.unplaced.owner? = item.owner? := by
  rw [owner?, owner?, unplaced, TypeSyntax.lastName?_unplaced]

end ImplSyntax

namespace Item

def unplaced : Item -> Item
  | .struct item => .struct item.unplaced
  | .enumeration item =>
      .enumeration ⟨item.name, Span.unplaced, Token.unplacedAll item.tokens⟩
  | .implementation item => .implementation item.unplaced
  | .other tokens => .other (Token.unplacedAll tokens)

theorem info?_unplaced (item : Item) : item.unplaced.info? = item.info? := by
  cases item with
  | struct item => exact congrArg some (StructSyntax.info_unplaced item)
  | _ => rfl

theorem error?_unplaced (item : Item) : item.unplaced.error? = item.error? := by
  cases item with
  | struct item => exact StructSyntax.error?_unplaced item
  | _ => rfl

end Item

namespace TypeTable

theorem withMembers_unplaced (table : TypeTable) (item : Item) :
    table.withMembers item.unplaced = table.withMembers item := by
  cases item with
  | implementation item =>
      rw [Item.unplaced, withMembers, withMembers, ImplSyntax.owner?_unplaced]
      rfl
  | _ => rfl

/-- The same items declare the same types. -/
theorem ofItems_unplaced (items : List Item) :
    ofItems (items.map Item.unplaced) = ofItems items := by
  simp only [ofItems, List.filterMap_map, Function.comp_def, Item.info?_unplaced, List.foldl_map,
    withMembers_unplaced]

end TypeTable

theorem Item.errors_unplaced (items : List Item) :
    (items.map Item.unplaced).filterMap error? = items.filterMap error? := by
  simp only [List.filterMap_map, Function.comp_def, error?_unplaced]

end PartialUpdate
