/-!
# Kinds and fields of syntax nodes

Of the many kinds of node that the grammar of Python has, signature lookup tells only a few apart.
`classify` assigns them once; everything that reads a tree goes by the result.
-/

set_option autoImplicit false

namespace DocSignature.Syntax

/-- What a syntax node is, as far as signatures are concerned (`SyntaxKind`). -/
inductive Kind where
  /-- The root of a parsed file. -/
  | file
  /-- A `def` or `async def`. -/
  | functionDefinition
  /-- A `class`. -/
  | classDefinition
  /-- Decorators around a function or class definition. -/
  | decoratedDefinition
  /-- An indented block of statements. -/
  | block
  /-- `if`, `for`, `while`, `try`, `with`, `match` and their clauses. -/
  | compoundStatement
  /-- The parenthesised parameter list of a function. -/
  | parameters
  /-- One entry of a parameter list. -/
  | parameter
  | identifier
  | call
  /-- Punctuation such as `->`, `:`, `,` or a bare `*`. -/
  | operator
  | keyword
  | raiseStatement
  /-- Any other named node. -/
  | expression
  | comment
  /-- Text that the parser could not read, or a token it had to invent. -/
  | error
deriving DecidableEq, Inhabited, Repr

namespace Kind

/-- Whether a character may stand in a keyword. -/
def isKeywordChar (c : Char) : Bool :=
  c.isAlpha || c == '_'

/-- The kind of a token known by its text. -/
def ofToken (text : String) : Kind :=
  if text.toList.all isKeywordChar then .keyword else .operator

/-- The kind of a named node inside a parameter list or elsewhere. -/
def ofName (name : String) (inParameters : Bool) : Kind :=
  match name with
  | "module" => .file
  | "function_definition" => .functionDefinition
  | "class_definition" => .classDefinition
  | "decorated_definition" => .decoratedDefinition
  | "block" => .block
  | "if_statement" | "elif_clause" | "else_clause" | "for_statement" | "while_statement"
  | "try_statement" | "except_clause" | "except_group_clause" | "finally_clause"
  | "with_statement" | "match_statement" | "case_clause" => .compoundStatement
  | "parameters" => .parameters
  | "typed_parameter" | "default_parameter" | "typed_default_parameter" => .parameter
  | "list_splat_pattern" | "dictionary_splat_pattern" =>
    if inParameters then .parameter else .expression
  | "identifier" => if inParameters then .parameter else .identifier
  | "keyword_separator" | "positional_separator" => .operator
  | "call" => .call
  | "raise_statement" => .raiseStatement
  | "comment" => .comment
  | _ => .expression

/-- Whether a node of this kind is a function or class definition (`is_definition`). -/
def isDefinition : Kind → Bool
  | .functionDefinition | .classDefinition => true
  | _ => false

/-- Whether a node of this kind holds statements of the scope it stands in
(`is_statement_container`). -/
def isStatementContainer : Kind → Bool
  | .file | .block | .compoundStatement | .decoratedDefinition => true
  | _ => false

end Kind

/-- The role of a node in its parent. -/
inductive Field where
  | name
  | body
  | type
  | value
  | function
deriving DecidableEq, Inhabited, Repr

/-- The role that a field name of the grammar stands for (`from_name`). -/
def Field.ofName? : String → Option Field
  | "name" => some .name
  | "body" => some .body
  | "type" => some .type
  | "value" => some .value
  | "function" => some .function
  | _ => none

end DocSignature.Syntax
