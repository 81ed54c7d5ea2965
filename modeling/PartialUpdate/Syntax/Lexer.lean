import PartialUpdate.Syntax.Literal
import PartialUpdate.Text.Trim

/-!
# Lexing

A text becomes a list of token trees.  Space and comments only separate tokens, except for
documentation comments, which become `doc` attributes.
-/

namespace PartialUpdate

namespace Position

def step (position : Position) (c : Char) : Position :=
  if c = '\n' then ⟨position.line + 1, 0⟩ else ⟨position.line, position.column + 1⟩

def after (position : Position) (text : List Char) : Position :=
  text.foldl step position

end Position

namespace Lexer

/-!
# Space and comments
-/

/-- White space, with the marks of writing direction. -/
def isSpace (c : Char) : Bool :=
  Text.isBlank c || c == '\u200e' || c == '\u200f'

def splitLine : List Char -> List Char × List Char
  | [] => ([], [])
  | '\n' :: rest => ([], '\n' :: rest)
  | '\r' :: '\n' :: rest => ([], '\n' :: rest)
  | c :: rest =>
      let (line, behind) := splitLine rest
      (c :: line, behind)

/-- The content of a block comment, in which comments nest, and the text behind it. -/
def splitBlock : Nat -> List Char -> Option (List Char × List Char)
  | _, [] => none
  | depth, '/' :: '*' :: rest => do
      let (content, behind) ← splitBlock (depth + 1) rest
      return ('/' :: '*' :: content, behind)
  | 0, '*' :: '/' :: rest => some ([], rest)
  | depth + 1, '*' :: '/' :: rest => do
      let (content, behind) ← splitBlock depth rest
      return ('*' :: '/' :: content, behind)
  | depth, c :: rest => do
      let (content, behind) ← splitBlock depth rest
      return (c :: content, behind)

/-- The text behind a comment that documents nothing. -/
def skipComment? : List Char -> Option (List Char)
  | '/' :: '/' :: '/' :: '/' :: rest => some (splitLine rest).2
  | '/' :: '/' :: '/' :: _ => none
  | '/' :: '/' :: '!' :: _ => none
  | '/' :: '/' :: rest => some (splitLine rest).2
  | '/' :: '*' :: '*' :: '/' :: rest => some rest
  | '/' :: '*' :: '*' :: '*' :: rest => Prod.snd <$> splitBlock 0 ('*' :: '*' :: rest)
  | '/' :: '*' :: '*' :: _ => none
  | '/' :: '*' :: '!' :: _ => none
  | '/' :: '*' :: rest => Prod.snd <$> splitBlock 0 rest
  | _ => none

/-- Skips space and comments, `fuel` pieces at most. -/
def skipBlank : Nat -> List Char -> List Char
  | 0, text => text
  | fuel + 1, text =>
      match skipComment? text with
      | some rest => skipBlank fuel rest
      | none =>
          match text with
          | [] => []
          | c :: rest => if isSpace c then skipBlank fuel rest else text

def skipAllBlank (text : List Char) : List Char :=
  skipBlank text.length text

/-!
# Documentation
-/

structure DocComment where
  /-- The comment documents what it stands in, not what follows it. -/
  inner : Bool
  content : List Char

/-- Carriage returns may only stand before line feeds. -/
def hasBareReturn : List Char -> Bool
  | [] => false
  | '\r' :: '\n' :: rest => hasBareReturn rest
  | '\r' :: _ => true
  | _ :: rest => hasBareReturn rest

def docComment? (text : List Char) : Option (DocComment × List Char) := do
  let (comment, rest) ←
    match text with
    | '/' :: '/' :: '!' :: rest => some (line true rest)
    | '/' :: '*' :: '!' :: rest => block true rest
    | '/' :: '/' :: '/' :: '/' :: _ => none
    | '/' :: '/' :: '/' :: rest => some (line false rest)
    | '/' :: '*' :: '*' :: '*' :: _ => none
    | '/' :: '*' :: '*' :: rest => block false rest
    | _ => none
  if hasBareReturn comment.content then none else some (comment, rest)
where
  line (inner : Bool) (text : List Char) : DocComment × List Char :=
    let (content, rest) := splitLine text
    (⟨inner, content⟩, rest)
  block (inner : Bool) (text : List Char) : Option (DocComment × List Char) :=
    (fun (content, rest) => (⟨inner, content⟩, rest)) <$> splitBlock 0 text

namespace DocComment

/-- The attribute that a comment stands for. -/
def tokens (comment : DocComment) (span : Span) : List Token :=
  let mark (c : Char) : Token := .punctuation c false span
  let content : List Token :=
    [.identifier (Identifier.plain "doc") span, mark '=',
      .literal .string (Quoted.literal (String.ofList comment.content)) span]
  mark '#' :: (if comment.inner then [mark '!'] else []) ++ [.group .bracket content span]

end DocComment

/-!
# Single tokens
-/

/-- A punctuation character; the slash of a comment is none. -/
def punctuation? : List Char -> Option (Char × List Char)
  | '/' :: '/' :: _ | '/' :: '*' :: _ => none
  | [] => none
  | c :: rest => if "~!@#$%^&*-=+|;:,<.>/?'".toList.contains c then some (c, rest) else none

def notRaw : List String := ["_", "super", "self", "Self", "crate"]

def identifier? (text : List Char) : Option (Identifier × List Char) :=
  match text with
  | 'r' :: '#' :: rest => do
      let (name, behind) ← plain? rest
      if notRaw.contains name then none else some (⟨true, name⟩, behind)
  | _ => (fun (name, behind) => (⟨false, name⟩, behind)) <$> plain? text
where
  plain? : List Char -> Option (String × List Char)
    | [] => none
    | c :: rest =>
        if Name.isStart c then
          some (String.ofList (c :: rest.takeWhile Name.isContinue), rest.dropWhile Name.isContinue)
        else none

/-- How literals begin, so that a broken one is no identifier. -/
def literalStarts : List (List Char) :=
  ["r\"", "r#\"", "r##", "b\"", "b'", "br\"", "br#", "c\"", "cr\"", "cr#"].map String.toList

/-- A token that holds no others, without its place. -/
inductive Leaf
  | identifier (name : Identifier)
  | punctuation (char : Char) (joint : Bool)
  | literal (kind : LiteralKind)

/-- A quote begins a lifetime unless it turns out to be a broken character. -/
def quoteMark? (rest : List Char) : Option (Leaf × List Char) := do
  let (_, behind) ← identifier? rest
  match behind with
  | '\'' :: _ => none
  | '#' :: _ => if ['r', '#'].isPrefixOf rest then some (.punctuation '\'' true, rest) else none
  | _ => some (.punctuation '\'' true, rest)

def placeholder : List Char := "(/*ERROR*/)".toList

def leaf? (text : List Char) : Option (Leaf × List Char) :=
  match Literal.scan text with
  | some (kind, rest) => some (.literal kind, rest)
  | none =>
      match punctuation? text with
      | some ('\'', rest) => quoteMark? rest
      | some (c, rest) => some (.punctuation c (punctuation? rest).isSome, rest)
      | none =>
          if literalStarts.any (fun start => start.isPrefixOf text) then none
          else (fun (name, rest) => (.identifier name, rest)) <$> identifier? text

namespace Leaf

def token (leaf : Leaf) (text : List Char) (span : Span) : Token :=
  match leaf with
  | .identifier name => .identifier name span
  | .punctuation char joint => .punctuation char joint span
  | .literal kind => .literal kind (String.ofList text) span

end Leaf

/-!
# Token trees
-/

/-- An open group: where it began, and what stood before it, the last token first. -/
structure Frame where
  delimiter : Delimiter
  start : Position
  before : List Token

def opening? (c : Char) : Option Delimiter :=
  [Delimiter.parenthesis, .bracket, .brace].find? (fun delimiter => delimiter.opening == c)

def closing? (c : Char) : Option Delimiter :=
  [Delimiter.parenthesis, .bracket, .brace].find? (fun delimiter => delimiter.closing == c)

/-- What has been read: the open groups, the tokens of the innermost one, the last first, and
the place reached. -/
structure State where
  frames : List Frame
  tokens : List Token
  position : Position

def consumed (text rest : List Char) : List Char :=
  text.take (text.length - rest.length)

def State.push (state : State) (leaf : Leaf) (text rest : List Char) : State :=
  let taken := consumed text rest
  let stop := state.position.after taken
  { state with
    tokens := leaf.token taken ⟨state.position, stop⟩ :: state.tokens
    position := stop }

/-- Reads one comment, delimiter or token from a text that begins with no blank. -/
def step (state : State) (text : List Char) : Option (State × List Char) :=
  match docComment? text with
  | some (comment, rest) =>
      let stop := state.position.after (consumed text rest)
      some ({ state with
        tokens := (comment.tokens ⟨state.position, stop⟩).reverse ++ state.tokens
        position := stop }, rest)
  | none =>
      match placeholder.isPrefixOf? text, text with
      | some rest, _ => some (state.push (.literal .placeholder) text rest, rest)
      | none, [] => none
      | none, c :: rest =>
          let behind := state.position.step c
          match opening? c, closing? c with
          | some delimiter, _ =>
              some (⟨⟨delimiter, state.position, state.tokens⟩ :: state.frames, [], behind⟩, rest)
          | none, some delimiter =>
              match state.frames with
              | [] => none
              | frame :: frames =>
                  if frame.delimiter = delimiter then
                    let group :=
                      Token.group delimiter state.tokens.reverse ⟨frame.start, behind⟩
                    some (⟨frames, group :: frame.before, behind⟩, rest)
                  else none
          | none, none => do
              let (leaf, rest) ← leaf? text
              return (state.push leaf text rest, rest)

def run : Nat -> State -> List Char -> Option (List Token)
  | 0, _, _ => none
  | fuel + 1, state, text =>
      let rest := skipAllBlank text
      if rest.isEmpty then
        if state.frames.isEmpty then some state.tokens.reverse else none
      else
        let state := { state with position := state.position.after (consumed text rest) }
        match step state rest with
        | none => none
        | some (state, rest) => run fuel state rest

end Lexer

namespace Token

/-- The tokens of a text, or nothing if it is no sequence of tokens.  A byte order mark at its
front is passed over. -/
def lex? (text : String) : Option (List Token) :=
  let chars := text.toList
  match chars with
  | '\ufeff' :: rest => Lexer.run (chars.length + 1) ⟨[], [], ⟨1, 1⟩⟩ rest
  | _ => Lexer.run (chars.length + 1) ⟨[], [], ⟨1, 0⟩⟩ chars

end Token
end PartialUpdate
