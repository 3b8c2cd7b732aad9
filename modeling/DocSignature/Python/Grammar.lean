import DocSignature.Grammar.Rule
import DocSignature.Python.Identifier

/-!
# The grammar of Python

Python 2 and Python 3 in one grammar.  Line structure and strings need more than a context-free
grammar: the tokens for the end of a logical line, for a deeper and a shallower indentation and for
the parts of a string come from a scanner of their own.
-/

set_option autoImplicit false

namespace DocSignature.Python

open DocSignature.Grammar

namespace GrammarText

/-- A fixed text. -/
def lit (s : String) : Rule := .token (.ofText s)

/-- A reference to a rule or a scanned token. -/
def ref (s : String) : Rule := .ref s

/-- One or more of a rule with commas in between. -/
def commaSep1 (r : Rule) : Rule := .sepBy1 r (lit ",")

/-- An optional rule. -/
def opt (r : Rule) : Rule := .optional r

/-- Binds at a level without leaning to a side. -/
def prec (level : Int) (r : Rule) : Rule := .prec level none r

/-- Binds at a level and nests to the left. -/
def precLeft (level : Int) (r : Rule) : Rule := .prec level (some .left) r

/-- Binds at a level and nests to the right. -/
def precRight (level : Int) (r : Rule) : Rule := .prec level (some .right) r

/-- The named node `name` in place of a rule. -/
def shownAs (name : String) (r : Rule) : Rule := .renamed ⟨name, true⟩ r

/-- A role in the parent. -/
def field (name : String) (r : Rule) : Rule := .field name r

/-- A token given by a pattern. -/
def pattern (p : Pattern) : Rule := .token (.ofPattern p)

/-- The text of an opening brace. -/
def openBrace : Rule := lit "\x7b"

/-- The text of a closing brace. -/
def closeBrace : Rule := lit "\x7d"

/-- How tightly each construct binds; higher binds tighter. -/
structure Levels where
  lambda : Int := -2
  typedParameter : Int := -1
  conditional : Int := -1
  parenthesized : Int := 1
  or : Int := 10
  and : Int := 11
  not : Int := 12
  compare : Int := 13
  bitwiseOr : Int := 14
  bitwiseAnd : Int := 15
  xor : Int := 16
  shift : Int := 17
  plus : Int := 18
  times : Int := 19
  unary : Int := 20
  power : Int := 21
  call : Int := 22

/-- The levels in use. -/
def level : Levels := {}

/-- Rules of statements on one line. -/
def simpleStatements : List (String × Rule) :=
  [("module", .many (ref "_statement")),
   ("_statement", .anyOf [ref "_simple_statements", ref "_compound_statement"]),
   ("_simple_statements", .seq [
      .sepBy1 (ref "_simple_statement") (lit ";"), opt (lit ";"), ref "_newline"]),
   ("_simple_statement", .anyOf [
      ref "future_import_statement", ref "import_statement", ref "import_from_statement",
      ref "print_statement", ref "assert_statement", ref "expression_statement",
      ref "return_statement", ref "delete_statement", ref "raise_statement",
      ref "pass_statement", ref "break_statement", ref "continue_statement",
      ref "global_statement", ref "nonlocal_statement", ref "exec_statement",
      ref "type_alias_statement"]),
   ("import_statement", .seq [lit "import", ref "_import_list"]),
   ("import_prefix", .many1 (lit ".")),
   ("relative_import", .seq [ref "import_prefix", opt (ref "dotted_name")]),
   ("future_import_statement", .seq [lit "from", lit "__future__", lit "import",
      .anyOf [ref "_import_list", .seq [lit "(", ref "_import_list", lit ")"]]]),
   ("import_from_statement", .seq [lit "from",
      field "module_name" (.anyOf [ref "relative_import", ref "dotted_name"]), lit "import",
      .anyOf [ref "wildcard_import", ref "_import_list",
        .seq [lit "(", ref "_import_list", lit ")"]]]),
   ("_import_list", .seq [
      commaSep1 (field "name" (.anyOf [ref "dotted_name", ref "aliased_import"])),
      opt (lit ",")]),
   ("aliased_import", .seq [
      field "name" (ref "dotted_name"), lit "as", field "alias" (ref "identifier")]),
   ("wildcard_import", lit "*"),
   ("print_statement", .anyOf [
      prec 1 (.seq [lit "print", ref "chevron",
        .many (.seq [lit ",", field "argument" (ref "expression")]), opt (lit ",")]),
      prec (-3) (.dynamicPrec (-1) (.seq [lit "print",
        commaSep1 (field "argument" (ref "expression")), opt (lit ",")]))]),
   ("chevron", .seq [lit ">>", ref "expression"]),
   ("assert_statement", .seq [lit "assert", commaSep1 (ref "expression")]),
   ("expression_statement", .anyOf [
      ref "expression", .seq [commaSep1 (ref "expression"), opt (lit ",")],
      ref "assignment", ref "augmented_assignment", ref "yield"]),
   ("named_expression", .seq [
      field "name" (ref "_named_expression_lhs"), lit ":=", field "value" (ref "expression")]),
   ("_named_expression_lhs", .anyOf [ref "identifier", ref "keyword_identifier"]),
   ("return_statement", .seq [lit "return", opt (ref "_expressions")]),
   ("delete_statement", .seq [lit "del", ref "_expressions"]),
   ("_expressions", .anyOf [ref "expression", ref "expression_list"]),
   ("raise_statement", .seq [lit "raise", opt (ref "_expressions"),
      opt (.seq [lit "from", field "cause" (ref "expression")])]),
   ("pass_statement", precLeft 0 (lit "pass")),
   ("break_statement", precLeft 0 (lit "break")),
   ("continue_statement", precLeft 0 (lit "continue"))]

/-- Rules of statements that hold other statements. -/
def compoundStatements : List (String × Rule) :=
  [("_compound_statement", .anyOf [
      ref "if_statement", ref "for_statement", ref "while_statement", ref "try_statement",
      ref "with_statement", ref "function_definition", ref "class_definition",
      ref "decorated_definition", ref "match_statement"]),
   ("if_statement", .seq [lit "if", field "condition" (ref "expression"), lit ":",
      field "consequence" (ref "_suite"),
      .many (field "alternative" (ref "elif_clause")),
      opt (field "alternative" (ref "else_clause"))]),
   ("elif_clause", .seq [lit "elif", field "condition" (ref "expression"), lit ":",
      field "consequence" (ref "_suite")]),
   ("else_clause", .seq [lit "else", lit ":", field "body" (ref "_suite")]),
   ("match_statement", .seq [lit "match", commaSep1 (field "subject" (ref "expression")),
      opt (lit ","), lit ":", field "body" (shownAs "block" (ref "_match_block"))]),
   ("_match_block", .anyOf [
      .seq [ref "_indent", .many (field "alternative" (ref "case_clause")), ref "_dedent"],
      ref "_newline"]),
   ("case_clause", .seq [lit "case", commaSep1 (ref "case_pattern"), opt (lit ","),
      opt (field "guard" (ref "if_clause")), lit ":", field "consequence" (ref "_suite")]),
   ("for_statement", .seq [opt (lit "async"), lit "for", field "left" (ref "_left_hand_side"),
      lit "in", field "right" (ref "_expressions"), lit ":", field "body" (ref "_suite"),
      field "alternative" (opt (ref "else_clause"))]),
   ("while_statement", .seq [lit "while", field "condition" (ref "expression"), lit ":",
      field "body" (ref "_suite"), opt (field "alternative" (ref "else_clause"))]),
   ("try_statement", .seq [lit "try", lit ":", field "body" (ref "_suite"), .anyOf [
      .seq [.many1 (ref "except_clause"), opt (ref "else_clause"), opt (ref "finally_clause")],
      .seq [.many1 (ref "except_group_clause"), opt (ref "else_clause"),
        opt (ref "finally_clause")],
      ref "finally_clause"]]),
   ("except_clause", .seq [lit "except",
      opt (.seq [field "value" (ref "expression"),
        opt (.seq [.anyOf [lit "as", lit ","], field "alias" (ref "expression")])]),
      lit ":", ref "_suite"]),
   ("except_group_clause", .seq [lit "except*",
      .seq [ref "expression", opt (.seq [lit "as", ref "expression"])], lit ":", ref "_suite"]),
   ("finally_clause", .seq [lit "finally", lit ":", ref "_suite"]),
   ("with_statement", .seq [opt (lit "async"), lit "with", ref "with_clause", lit ":",
      field "body" (ref "_suite")]),
   ("with_clause", .anyOf [
      .seq [commaSep1 (ref "with_item"), opt (lit ",")],
      .seq [lit "(", commaSep1 (ref "with_item"), opt (lit ","), lit ")"]]),
   ("with_item", .dynamicPrec 1 (.seq [field "value" (ref "expression")])),
   ("function_definition", .seq [opt (lit "async"), lit "def", field "name" (ref "identifier"),
      field "type_parameters" (opt (ref "type_parameter")),
      field "parameters" (ref "parameters"),
      opt (.seq [lit "->", field "return_type" (ref "type")]),
      lit ":", field "body" (ref "_suite")]),
   ("parameters", .seq [lit "(", opt (ref "_parameters"), lit ")"]),
   ("lambda_parameters", ref "_parameters"),
   ("list_splat", .seq [lit "*", ref "expression"]),
   ("dictionary_splat", .seq [lit "**", ref "expression"]),
   ("global_statement", .seq [lit "global", commaSep1 (ref "identifier")]),
   ("nonlocal_statement", .seq [lit "nonlocal", commaSep1 (ref "identifier")]),
   ("exec_statement", .seq [lit "exec", field "code" (.anyOf [ref "string", ref "identifier"]),
      opt (.seq [lit "in", commaSep1 (ref "expression")])]),
   ("type_alias_statement", .dynamicPrec 1 (.seq [lit "type", field "left" (ref "type"),
      lit "=", field "right" (ref "type")])),
   ("class_definition", .seq [lit "class", field "name" (ref "identifier"),
      field "type_parameters" (opt (ref "type_parameter")),
      field "superclasses" (opt (ref "argument_list")), lit ":", field "body" (ref "_suite")]),
   ("type_parameter", .seq [lit "[", commaSep1 (ref "type"), opt (lit ","), lit "]"]),
   ("parenthesized_list_splat", prec level.parenthesized (.seq [lit "(",
      .anyOf [shownAs "parenthesized_expression" (ref "parenthesized_list_splat"),
        ref "list_splat"],
      lit ")"])),
   ("argument_list", .seq [lit "(",
      opt (commaSep1 (.anyOf [ref "expression", ref "list_splat", ref "dictionary_splat",
        shownAs "parenthesized_expression" (ref "parenthesized_list_splat"),
        ref "keyword_argument"])),
      opt (lit ","), lit ")"]),
   ("decorated_definition", .seq [.many1 (ref "decorator"),
      field "definition" (.anyOf [ref "class_definition", ref "function_definition"])]),
   ("decorator", .seq [lit "@", ref "expression", ref "_newline"]),
   ("_suite", .anyOf [
      shownAs "block" (ref "_simple_statements"),
      .seq [ref "_indent", ref "block"],
      shownAs "block" (ref "_newline")]),
   ("block", .seq [.many (ref "_statement"), ref "_dedent"]),
   ("expression_list", precRight 0 (.seq [ref "expression", .anyOf [
      lit ",",
      .seq [.many1 (.seq [lit ",", ref "expression"]), opt (lit ",")]]])),
   ("dotted_name", prec 1 (.sepBy1 (ref "identifier") (lit ".")))]

/-- Rules of patterns: in `case` clauses, in parameter lists and on the left of assignments. -/
def patterns : List (String × Rule) :=
  let number := .anyOf [ref "integer", ref "float"]
  let enclosed := fun (first last : Rule) (lead : List Rule) =>
    .seq (lead ++ [first, opt (.seq [commaSep1 (ref "case_pattern"), opt (lit ",")]), last])
  let target :=
    .anyOf [ref "identifier", ref "keyword_identifier", ref "subscript", ref "attribute"]
  [("case_pattern", prec 1 (.anyOf [
      shownAs "as_pattern" (ref "_as_pattern"), ref "keyword_pattern", ref "_simple_pattern"])),
   ("_simple_pattern", prec 1 (.anyOf [
      ref "class_pattern", ref "splat_pattern", ref "union_pattern",
      shownAs "list_pattern" (ref "_list_pattern"),
      shownAs "tuple_pattern" (ref "_tuple_pattern"), ref "dict_pattern", ref "string",
      ref "concatenated_string", ref "true", ref "false", ref "none",
      .seq [opt (lit "-"), number], ref "complex_pattern", ref "dotted_name", lit "_"])),
   ("_as_pattern", .seq [ref "case_pattern", lit "as", ref "identifier"]),
   ("union_pattern", precRight 0 (.seq [ref "_simple_pattern",
      .many1 (precLeft 0 (.seq [lit "|", ref "_simple_pattern"]))])),
   ("_list_pattern", enclosed (lit "[") (lit "]") []),
   ("_tuple_pattern", enclosed (lit "(") (lit ")") []),
   ("dict_pattern", .seq [openBrace,
      opt (.seq [commaSep1 (.anyOf [ref "_key_value_pattern", ref "splat_pattern"]),
        opt (lit ",")]),
      closeBrace]),
   ("_key_value_pattern", .seq [
      field "key" (ref "_simple_pattern"), lit ":", field "value" (ref "case_pattern")]),
   ("keyword_pattern", .seq [ref "identifier", lit "=", ref "_simple_pattern"]),
   ("splat_pattern", prec 1 (.seq [.anyOf [lit "*", lit "**"],
      .anyOf [ref "identifier", lit "_"]])),
   ("class_pattern", enclosed (lit "(") (lit ")") [ref "dotted_name"]),
   ("complex_pattern", prec 1 (.seq [opt (lit "-"), number, .anyOf [lit "+", lit "-"], number])),
   ("_parameters", .seq [commaSep1 (ref "parameter"), opt (lit ",")]),
   ("_patterns", .seq [commaSep1 (ref "pattern"), opt (lit ",")]),
   ("parameter", .anyOf [
      ref "identifier", ref "typed_parameter", ref "default_parameter",
      ref "typed_default_parameter", ref "list_splat_pattern", ref "tuple_pattern",
      ref "keyword_separator", ref "positional_separator", ref "dictionary_splat_pattern"]),
   ("pattern", .anyOf [
      ref "identifier", ref "keyword_identifier", ref "subscript", ref "attribute",
      ref "list_splat_pattern", ref "tuple_pattern", ref "list_pattern"]),
   ("tuple_pattern", .seq [lit "(", opt (ref "_patterns"), lit ")"]),
   ("list_pattern", .seq [lit "[", opt (ref "_patterns"), lit "]"]),
   ("default_parameter", .seq [field "name" (.anyOf [ref "identifier", ref "tuple_pattern"]),
      lit "=", field "value" (ref "expression")]),
   ("typed_default_parameter", prec level.typedParameter (.seq [
      field "name" (ref "identifier"), lit ":", field "type" (ref "type"), lit "=",
      field "value" (ref "expression")])),
   ("list_splat_pattern", .seq [lit "*", target]),
   ("dictionary_splat_pattern", .seq [lit "**", target]),
   ("as_pattern", precLeft 0 (.seq [ref "expression", lit "as",
      field "alias" (shownAs "as_pattern_target" (ref "expression"))]))]

/-- The two-place operators with their level and side. -/
def binaryOperators : List (String × Int × Associativity) :=
  [("+", level.plus, .left), ("-", level.plus, .left), ("*", level.times, .left),
   ("@", level.times, .left), ("/", level.times, .left), ("%", level.times, .left),
   ("//", level.times, .left), ("**", level.power, .right), ("|", level.bitwiseOr, .left),
   ("&", level.bitwiseAnd, .left), ("^", level.xor, .left), ("<<", level.shift, .left),
   (">>", level.shift, .left)]

/-- Rules of expressions. -/
def expressions : List (String × Rule) :=
  let operation := fun (operand : String) (l : Int) (side : Associativity) (op : String) =>
    Rule.prec l (some side) (.seq [field "left" (ref operand), field "operator" (lit op),
      field "right" (ref operand)])
  let lambda := fun (body : String) => Rule.seq [lit "lambda",
    field "parameters" (opt (ref "lambda_parameters")), lit ":", field "body" (ref body)]
  [("_expression_within_for_in_clause", .anyOf [
      ref "expression", shownAs "lambda" (ref "lambda_within_for_in_clause")]),
   ("expression", .anyOf [
      ref "comparison_operator", ref "not_operator", ref "boolean_operator", ref "lambda",
      ref "primary_expression", ref "conditional_expression", ref "named_expression",
      ref "as_pattern"]),
   ("primary_expression", .anyOf [
      ref "await", ref "binary_operator", ref "identifier", ref "keyword_identifier",
      ref "string", ref "concatenated_string", ref "integer", ref "float", ref "true",
      ref "false", ref "none", ref "unary_operator", ref "attribute", ref "subscript",
      ref "call", ref "list", ref "list_comprehension", ref "dictionary",
      ref "dictionary_comprehension", ref "set", ref "set_comprehension", ref "tuple",
      ref "parenthesized_expression", ref "generator_expression", ref "ellipsis",
      shownAs "list_splat" (ref "list_splat_pattern")]),
   ("not_operator", prec level.not (.seq [lit "not", field "argument" (ref "expression")])),
   ("boolean_operator", .anyOf [
      operation "expression" level.and .left "and",
      operation "expression" level.or .left "or"]),
   ("binary_operator", .anyOf (binaryOperators.map fun (op, l, side) =>
      operation "primary_expression" l side op)),
   ("unary_operator", prec level.unary (.seq [
      field "operator" (.anyOf [lit "+", lit "-", lit "~"]),
      field "argument" (ref "primary_expression")])),
   ("_not_in", .seq [lit "not", lit "in"]),
   ("_is_not", .seq [lit "is", lit "not"]),
   ("comparison_operator", precLeft level.compare (.seq [ref "primary_expression",
      .many1 (.seq [
        field "operators" (.anyOf [lit "<", lit "<=", lit "==", lit "!=", lit ">=", lit ">",
          lit "<>", lit "in", .renamed ⟨"not in", false⟩ (ref "_not_in"), lit "is",
          .renamed ⟨"is not", false⟩ (ref "_is_not")]),
        ref "primary_expression"])])),
   ("lambda", prec level.lambda (lambda "expression")),
   ("lambda_within_for_in_clause", lambda "_expression_within_for_in_clause"),
   ("assignment", .seq [field "left" (ref "_left_hand_side"), .anyOf [
      .seq [lit "=", field "right" (ref "_right_hand_side")],
      .seq [lit ":", field "type" (ref "type")],
      .seq [lit ":", field "type" (ref "type"), lit "=",
        field "right" (ref "_right_hand_side")]]]),
   ("augmented_assignment", .seq [field "left" (ref "_left_hand_side"),
      field "operator" (.anyOf (["+=", "-=", "*=", "/=", "@=", "//=", "%=", "**=", ">>=", "<<=",
        "&=", "^=", "|="].map lit)),
      field "right" (ref "_right_hand_side")]),
   ("_left_hand_side", .anyOf [ref "pattern", ref "pattern_list"]),
   ("pattern_list", .seq [ref "pattern", .anyOf [
      lit ",",
      .seq [.many1 (.seq [lit ",", ref "pattern"]), opt (lit ",")]]]),
   ("_right_hand_side", .anyOf [
      ref "expression", ref "expression_list", ref "assignment", ref "augmented_assignment",
      ref "pattern_list", ref "yield"]),
   ("yield", precRight 0 (.seq [lit "yield", .anyOf [
      .seq [lit "from", ref "expression"], opt (ref "_expressions")]])),
   ("attribute", prec level.call (.seq [field "object" (ref "primary_expression"), lit ".",
      field "attribute" (ref "identifier")])),
   ("subscript", prec level.call (.seq [field "value" (ref "primary_expression"), lit "[",
      commaSep1 (field "subscript" (.anyOf [ref "expression", ref "slice"])), opt (lit ","),
      lit "]"])),
   ("slice", .seq [opt (ref "expression"), lit ":", opt (ref "expression"),
      opt (.seq [lit ":", opt (ref "expression")])]),
   ("ellipsis", lit "..."),
   ("call", prec level.call (.seq [field "function" (ref "primary_expression"),
      field "arguments" (.anyOf [ref "generator_expression", ref "argument_list"])])),
   ("typed_parameter", prec level.typedParameter (.seq [
      .anyOf [ref "identifier", ref "list_splat_pattern", ref "dictionary_splat_pattern"],
      lit ":", field "type" (ref "type")])),
   ("type", .anyOf [prec 1 (ref "expression"), ref "splat_type", ref "generic_type",
      ref "union_type", ref "constrained_type", ref "member_type"]),
   ("splat_type", prec 1 (.seq [.anyOf [lit "*", lit "**"], ref "identifier"])),
   ("generic_type", prec 1 (.seq [
      .anyOf [ref "identifier", shownAs "identifier" (lit "type")], ref "type_parameter"])),
   ("union_type", precLeft 0 (.seq [ref "type", lit "|", ref "type"])),
   ("constrained_type", precRight 0 (.seq [ref "type", lit ":", ref "type"])),
   ("member_type", .seq [ref "type", lit ".", ref "identifier"]),
   ("keyword_argument", .seq [
      field "name" (.anyOf [ref "identifier", ref "keyword_identifier"]), lit "=",
      field "value" (ref "expression")])]

/-- Rules of displays, comprehensions and the constructs used in them. -/
def displays : List (String × Rule) :=
  let comprehension := fun (first last : Rule) (body : String) =>
    .seq [first, field "body" (ref body), ref "_comprehension_clauses", last]
  [("list", .seq [lit "[", opt (ref "_collection_elements"), lit "]"]),
   ("set", .seq [openBrace, ref "_collection_elements", closeBrace]),
   ("tuple", .seq [lit "(", opt (ref "_collection_elements"), lit ")"]),
   ("dictionary", .seq [openBrace,
      opt (commaSep1 (.anyOf [ref "pair", ref "dictionary_splat"])), opt (lit ","),
      closeBrace]),
   ("pair", .seq [field "key" (ref "expression"), lit ":", field "value" (ref "expression")]),
   ("list_comprehension", comprehension (lit "[") (lit "]") "expression"),
   ("dictionary_comprehension", comprehension openBrace closeBrace "pair"),
   ("set_comprehension", comprehension openBrace closeBrace "expression"),
   ("generator_expression", comprehension (lit "(") (lit ")") "expression"),
   ("_comprehension_clauses", .seq [ref "for_in_clause",
      .many (.anyOf [ref "for_in_clause", ref "if_clause"])]),
   ("parenthesized_expression", prec level.parenthesized (.seq [lit "(",
      .anyOf [ref "expression", ref "yield"], lit ")"])),
   ("_collection_elements", .seq [
      commaSep1 (.anyOf [ref "expression", ref "yield", ref "list_splat",
        ref "parenthesized_list_splat"]),
      opt (lit ",")]),
   ("for_in_clause", precLeft 0 (.seq [opt (lit "async"), lit "for",
      field "left" (ref "_left_hand_side"), lit "in",
      field "right" (commaSep1 (ref "_expression_within_for_in_clause")), opt (lit ",")])),
   ("if_clause", .seq [lit "if", ref "expression"]),
   ("conditional_expression", precRight level.conditional (.seq [
      ref "expression", lit "if", ref "expression", lit "else", ref "expression"]))]

/-- A decimal digit. -/
def digit : Pattern := .oneOf [('0', '9')]

/-- Digits with single low lines after groups. -/
def digitGroups : Pattern := .plus (.all [.plus digit, .optional (.text "_")])

/-- The integer literals. -/
def integerPattern : Pattern :=
  let based := fun (marks : List String) (digits : List (Char × Char)) => Pattern.all [
    .any (marks.map .text), .plus (.all [.optional (.text "_"), .plus (.oneOf digits)]),
    .optional (.chars (.ofString "Ll"))]
  .any [
    based ["0x", "0X"] [('A', 'F'), ('a', 'f'), ('0', '9')],
    based ["0o", "0O"] [('0', '7')],
    based ["0b", "0B"] [('0', '1')],
    .all [digitGroups,
      .alt (.optional (.chars (.ofString "Ll"))) (.optional (.chars (.ofString "jJ")))]]

/-- The floating point literals. -/
def floatPattern : Pattern :=
  let exponent := .all [.chars (.ofString "eE"), .optional (.chars (.ofString "+-")),
    digitGroups]
  .all [
    .any [
      .all [digitGroups, .text ".", .optional digitGroups, .optional exponent],
      .all [.optional digitGroups, .text ".", digitGroups, .optional exponent],
      .all [digitGroups, exponent]],
    .optional (.chars (.ofString "jJ"))]

/-- The escape sequences of strings. -/
def escapePattern : Pattern :=
  let hex := Pattern.oneOf [('a', 'f'), ('A', 'F'), ('0', '9')]
  let newline := .all [.optional (.text "\r"), .text "\n"]
  .all [.text "\\", .any [
    .all [.text "u", .times 4 hex],
    .all [.text "U", .times 8 hex],
    .all [.text "x", .times 2 hex],
    .all [digit, .optional digit, .optional digit],
    newline,
    .chars (.ofString "'\"abfrntv\\"),
    .all [.text "N\x7b", .plus (.noneOf "\x7d"), .text "\x7d"]]]

/-- Rules of literals, names and tokens. -/
def literals : List (String × Rule) :=
  let pathless := fun (words : List String) => shownAs "identifier" (.anyOf (words.map lit))
  let immediate := fun (t : TokenSpec) => Rule.token { t with immediate := true }
  [("concatenated_string", .seq [ref "string", .many1 (ref "string")]),
   ("string", .seq [ref "string_start",
      .many (.anyOf [ref "interpolation", ref "string_content"]), ref "string_end"]),
   ("string_content", precRight 0 (.many1 (.anyOf [
      ref "escape_interpolation", ref "escape_sequence", ref "_not_escape_sequence",
      ref "_string_content"]))),
   ("interpolation", .seq [openBrace, field "expression" (ref "_f_expression"), opt (lit "="),
      opt (field "type_conversion" (ref "type_conversion")),
      opt (field "format_specifier" (ref "format_specifier")), closeBrace]),
   ("_f_expression", .anyOf [
      ref "expression", ref "expression_list", ref "pattern_list", ref "yield"]),
   ("escape_sequence", immediate { TokenSpec.ofPattern escapePattern with precedence := 1 }),
   ("_not_escape_sequence", immediate (.ofText "\\")),
   ("format_specifier", .seq [lit ":", .many (.anyOf [
      .token { TokenSpec.ofPattern (.plus (.noneOf "\x7b\x7d\n")) with precedence := 1 },
      shownAs "format_expression" (ref "interpolation")])]),
   ("type_conversion", pattern (.all [.text "!", .oneOf [('a', 'z')]])),
   ("integer", pattern integerPattern),
   ("float", pattern floatPattern),
   ("identifier", pattern (.all [.chars identifierStart, .star (.chars identifierContinue)])),
   ("keyword_identifier", .anyOf [
      prec (-3) (pathless ["print", "exec", "async", "await"]), pathless ["type", "match"]]),
   ("true", lit "True"),
   ("false", lit "False"),
   ("none", lit "None"),
   ("await", prec level.unary (.seq [lit "await", ref "primary_expression"])),
   ("comment", pattern (.all [.text "#", .star (.noneOf "\n")])),
   ("line_continuation", pattern (.all [.text "\\",
      .alt (.all [.optional (.text "\r"), .text "\n"]) (.text "\x00")])),
   ("positional_separator", lit "/"),
   ("keyword_separator", lit "*")]

end GrammarText

open GrammarText in
/-- The grammar of Python.  The tokens `comment`, `]`, `)`, `}` and `except` are also known to the
scanner: whether they may come next tells it where it stands. -/
def grammar : Description where
  rules := simpleStatements ++ compoundStatements ++ patterns ++ expressions ++ displays ++
    literals
  extras := ["comment", "line_continuation"]
  blanks := .chars (.ofRanges [(0x09, 0x0d), (0x20, 0x20), (0xfeff, 0xfeff), (0x2060, 0x2060),
    (0x200b, 0x200b)])
  scanned := [.own "_newline", .own "_indent", .own "_dedent", .own "string_start",
    .own "_string_content", .own "escape_interpolation", .own "string_end", .ofRule "comment",
    .ofText "]", .ofText ")", .ofText "\x7d", .ofText "except"]
  inlined := ["_simple_statement", "_compound_statement", "_suite", "_expressions",
    "_left_hand_side", "keyword_identifier"]
  supertypes := ["_simple_statement", "_compound_statement", "expression", "primary_expression",
    "pattern", "parameter"]
  word := "identifier"

end DocSignature.Python
