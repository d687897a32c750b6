/-
# Kinds of syntax nodes

The kinds of nodes that a syntax tree is made of, sorted into families.  A family says what role a
kind plays; most questions about kinds are questions about their family.
-/

namespace Gls

/-- The kind of a node of a TypeScript syntax tree. -/
inductive Kind where
  | unknown
  | endOfFileToken | singleLineCommentTrivia | multiLineCommentTrivia | newLineTrivia
  | whitespaceTrivia
  | numericLiteral | bigIntLiteral | stringLiteral | regularExpressionLiteral
  | noSubstitutionTemplateLiteral
  | openBraceToken | closeBraceToken | openParenToken | closeParenToken | openBracketToken
  | closeBracketToken | dotToken | semicolonToken | commaToken | colonToken | questionToken
  | lessThanToken | greaterThanToken | lessThanEqualsToken | greaterThanEqualsToken
  | equalsEqualsToken | exclamationEqualsToken | equalsEqualsEqualsToken
  | exclamationEqualsEqualsToken | plusToken | minusToken | asteriskToken | slashToken
  | percentToken | plusPlusToken | minusMinusToken | exclamationToken | ampersandAmpersandToken
  | barBarToken | barToken | equalsToken | plusEqualsToken | minusEqualsToken | asteriskEqualsToken
  | slashEqualsToken
  | identifier
  | classKeyword | constKeyword | extendsKeyword | falseKeyword | implementsKeyword
  | interfaceKeyword | letKeyword | nullKeyword | superKeyword | thisKeyword | trueKeyword
  | varKeyword | debuggerKeyword
  | abstractKeyword | declareKeyword | exportKeyword | privateKeyword | protectedKeyword
  | publicKeyword | readonlyKeyword | staticKeyword
  | anyKeyword | booleanKeyword | neverKeyword | numberKeyword | objectKeyword | stringKeyword
  | undefinedKeyword | unknownKeyword | voidKeyword
  | parameter | propertySignature | propertyDeclaration | methodSignature | methodDeclaration
  | constructor | indexSignature
  | typeReference | typeLiteral | arrayType | unionType | parenthesizedType
  | expressionWithTypeArguments
  | arrayLiteralExpression | objectLiteralExpression | propertyAccessExpression
  | elementAccessExpression | callExpression | newExpression | parenthesizedExpression
  | prefixUnaryExpression | postfixUnaryExpression | binaryExpression | classExpression
  | block | emptyStatement | variableStatement | expressionStatement | ifStatement | forStatement
  | returnStatement | debuggerStatement
  | variableDeclaration | variableDeclarationList | functionDeclaration | classDeclaration
  | interfaceDeclaration | heritageClause
  | sourceFile | syntaxList
deriving DecidableEq

/-- The role a kind plays. -/
inductive Kind.Family where
  /-- A node the producer could not name. -/
  | unknown
  /-- Text without content: the end of the file, comments, white space. -/
  | trivia
  /-- Literals. -/
  | literal
  /-- Punctuation. -/
  | punctuation
  /-- Operators. -/
  | operator
  /-- Names. -/
  | identifier
  /-- Keywords of statements, declarations and values. -/
  | keyword
  /-- Keywords that modify a declaration. -/
  | modifier
  /-- Keywords that are types. -/
  | typeKeyword
  /-- Members of classes and interfaces, and parameters. -/
  | member
  /-- Types that are put together from others. -/
  | typeNode
  /-- Expressions. -/
  | expression
  /-- Statements. -/
  | statement
  /-- Declarations and the parts of their heads. -/
  | declaration
  /-- Nodes that only hold others. -/
  | structural
deriving DecidableEq

namespace Kind

/-- The name of a kind, as documents write it. -/
def name : Kind → String
  | .unknown => "Unknown"
  | .endOfFileToken => "EndOfFileToken"
  | .singleLineCommentTrivia => "SingleLineCommentTrivia"
  | .multiLineCommentTrivia => "MultiLineCommentTrivia"
  | .newLineTrivia => "NewLineTrivia"
  | .whitespaceTrivia => "WhitespaceTrivia"
  | .numericLiteral => "NumericLiteral"
  | .bigIntLiteral => "BigIntLiteral"
  | .stringLiteral => "StringLiteral"
  | .regularExpressionLiteral => "RegularExpressionLiteral"
  | .noSubstitutionTemplateLiteral => "NoSubstitutionTemplateLiteral"
  | .openBraceToken => "OpenBraceToken"
  | .closeBraceToken => "CloseBraceToken"
  | .openParenToken => "OpenParenToken"
  | .closeParenToken => "CloseParenToken"
  | .openBracketToken => "OpenBracketToken"
  | .closeBracketToken => "CloseBracketToken"
  | .dotToken => "DotToken"
  | .semicolonToken => "SemicolonToken"
  | .commaToken => "CommaToken"
  | .colonToken => "ColonToken"
  | .questionToken => "QuestionToken"
  | .lessThanToken => "LessThanToken"
  | .greaterThanToken => "GreaterThanToken"
  | .lessThanEqualsToken => "LessThanEqualsToken"
  | .greaterThanEqualsToken => "GreaterThanEqualsToken"
  | .equalsEqualsToken => "EqualsEqualsToken"
  | .exclamationEqualsToken => "ExclamationEqualsToken"
  | .equalsEqualsEqualsToken => "EqualsEqualsEqualsToken"
  | .exclamationEqualsEqualsToken => "ExclamationEqualsEqualsToken"
  | .plusToken => "PlusToken"
  | .minusToken => "MinusToken"
  | .asteriskToken => "AsteriskToken"
  | .slashToken => "SlashToken"
  | .percentToken => "PercentToken"
  | .plusPlusToken => "PlusPlusToken"
  | .minusMinusToken => "MinusMinusToken"
  | .exclamationToken => "ExclamationToken"
  | .ampersandAmpersandToken => "AmpersandAmpersandToken"
  | .barBarToken => "BarBarToken"
  | .barToken => "BarToken"
  | .equalsToken => "EqualsToken"
  | .plusEqualsToken => "PlusEqualsToken"
  | .minusEqualsToken => "MinusEqualsToken"
  | .asteriskEqualsToken => "AsteriskEqualsToken"
  | .slashEqualsToken => "SlashEqualsToken"
  | .identifier => "Identifier"
  | .classKeyword => "ClassKeyword"
  | .constKeyword => "ConstKeyword"
  | .extendsKeyword => "ExtendsKeyword"
  | .falseKeyword => "FalseKeyword"
  | .implementsKeyword => "ImplementsKeyword"
  | .interfaceKeyword => "InterfaceKeyword"
  | .letKeyword => "LetKeyword"
  | .nullKeyword => "NullKeyword"
  | .superKeyword => "SuperKeyword"
  | .thisKeyword => "ThisKeyword"
  | .trueKeyword => "TrueKeyword"
  | .varKeyword => "VarKeyword"
  | .debuggerKeyword => "DebuggerKeyword"
  | .abstractKeyword => "AbstractKeyword"
  | .declareKeyword => "DeclareKeyword"
  | .exportKeyword => "ExportKeyword"
  | .privateKeyword => "PrivateKeyword"
  | .protectedKeyword => "ProtectedKeyword"
  | .publicKeyword => "PublicKeyword"
  | .readonlyKeyword => "ReadonlyKeyword"
  | .staticKeyword => "StaticKeyword"
  | .anyKeyword => "AnyKeyword"
  | .booleanKeyword => "BooleanKeyword"
  | .neverKeyword => "NeverKeyword"
  | .numberKeyword => "NumberKeyword"
  | .objectKeyword => "ObjectKeyword"
  | .stringKeyword => "StringKeyword"
  | .undefinedKeyword => "UndefinedKeyword"
  | .unknownKeyword => "UnknownKeyword"
  | .voidKeyword => "VoidKeyword"
  | .parameter => "Parameter"
  | .propertySignature => "PropertySignature"
  | .propertyDeclaration => "PropertyDeclaration"
  | .methodSignature => "MethodSignature"
  | .methodDeclaration => "MethodDeclaration"
  | .constructor => "Constructor"
  | .indexSignature => "IndexSignature"
  | .typeReference => "TypeReference"
  | .typeLiteral => "TypeLiteral"
  | .arrayType => "ArrayType"
  | .unionType => "UnionType"
  | .parenthesizedType => "ParenthesizedType"
  | .expressionWithTypeArguments => "ExpressionWithTypeArguments"
  | .arrayLiteralExpression => "ArrayLiteralExpression"
  | .objectLiteralExpression => "ObjectLiteralExpression"
  | .propertyAccessExpression => "PropertyAccessExpression"
  | .elementAccessExpression => "ElementAccessExpression"
  | .callExpression => "CallExpression"
  | .newExpression => "NewExpression"
  | .parenthesizedExpression => "ParenthesizedExpression"
  | .prefixUnaryExpression => "PrefixUnaryExpression"
  | .postfixUnaryExpression => "PostfixUnaryExpression"
  | .binaryExpression => "BinaryExpression"
  | .classExpression => "ClassExpression"
  | .block => "Block"
  | .emptyStatement => "EmptyStatement"
  | .variableStatement => "VariableStatement"
  | .expressionStatement => "ExpressionStatement"
  | .ifStatement => "IfStatement"
  | .forStatement => "ForStatement"
  | .returnStatement => "ReturnStatement"
  | .debuggerStatement => "DebuggerStatement"
  | .variableDeclaration => "VariableDeclaration"
  | .variableDeclarationList => "VariableDeclarationList"
  | .functionDeclaration => "FunctionDeclaration"
  | .classDeclaration => "ClassDeclaration"
  | .interfaceDeclaration => "InterfaceDeclaration"
  | .heritageClause => "HeritageClause"
  | .sourceFile => "SourceFile"
  | .syntaxList => "SyntaxList"

/-- Every kind, in order. -/
def all : List Kind :=
  [.unknown, .endOfFileToken, .singleLineCommentTrivia, .multiLineCommentTrivia, .newLineTrivia,
  .whitespaceTrivia, .numericLiteral, .bigIntLiteral, .stringLiteral, .regularExpressionLiteral,
  .noSubstitutionTemplateLiteral, .openBraceToken, .closeBraceToken, .openParenToken,
  .closeParenToken, .openBracketToken, .closeBracketToken, .dotToken, .semicolonToken, .commaToken,
  .colonToken, .questionToken, .lessThanToken, .greaterThanToken, .lessThanEqualsToken,
  .greaterThanEqualsToken, .equalsEqualsToken, .exclamationEqualsToken, .equalsEqualsEqualsToken,
  .exclamationEqualsEqualsToken, .plusToken, .minusToken, .asteriskToken, .slashToken,
  .percentToken, .plusPlusToken, .minusMinusToken, .exclamationToken, .ampersandAmpersandToken,
  .barBarToken, .barToken, .equalsToken, .plusEqualsToken, .minusEqualsToken, .asteriskEqualsToken,
  .slashEqualsToken, .identifier, .classKeyword, .constKeyword, .extendsKeyword, .falseKeyword,
  .implementsKeyword, .interfaceKeyword, .letKeyword, .nullKeyword, .superKeyword, .thisKeyword,
  .trueKeyword, .varKeyword, .debuggerKeyword, .abstractKeyword, .declareKeyword, .exportKeyword,
  .privateKeyword, .protectedKeyword, .publicKeyword, .readonlyKeyword, .staticKeyword,
  .anyKeyword, .booleanKeyword, .neverKeyword, .numberKeyword, .objectKeyword, .stringKeyword,
  .undefinedKeyword, .unknownKeyword, .voidKeyword, .parameter, .propertySignature,
  .propertyDeclaration, .methodSignature, .methodDeclaration, .constructor, .indexSignature,
  .typeReference, .typeLiteral, .arrayType, .unionType, .parenthesizedType,
  .expressionWithTypeArguments, .arrayLiteralExpression, .objectLiteralExpression,
  .propertyAccessExpression, .elementAccessExpression, .callExpression, .newExpression,
  .parenthesizedExpression, .prefixUnaryExpression, .postfixUnaryExpression, .binaryExpression,
  .classExpression, .block, .emptyStatement, .variableStatement, .expressionStatement,
  .ifStatement, .forStatement, .returnStatement, .debuggerStatement, .variableDeclaration,
  .variableDeclarationList, .functionDeclaration, .classDeclaration, .interfaceDeclaration,
  .heritageClause, .sourceFile, .syntaxList]

/-- The kind with a given name. -/
def ofName? (s : String) : Option Kind := all.find? fun k => k.name == s

/-- The family of a kind. -/
def family : Kind → Family
  | .unknown => .unknown
  | .endOfFileToken | .singleLineCommentTrivia | .multiLineCommentTrivia | .newLineTrivia
  | .whitespaceTrivia => .trivia
  | .numericLiteral | .bigIntLiteral | .stringLiteral | .regularExpressionLiteral
  | .noSubstitutionTemplateLiteral => .literal
  | .openBraceToken | .closeBraceToken | .openParenToken | .closeParenToken
  | .openBracketToken | .closeBracketToken | .dotToken | .semicolonToken | .commaToken
  | .colonToken | .questionToken => .punctuation
  | .lessThanToken | .greaterThanToken | .lessThanEqualsToken | .greaterThanEqualsToken
  | .equalsEqualsToken | .exclamationEqualsToken | .equalsEqualsEqualsToken
  | .exclamationEqualsEqualsToken | .plusToken | .minusToken | .asteriskToken | .slashToken
  | .percentToken | .plusPlusToken | .minusMinusToken | .exclamationToken
  | .ampersandAmpersandToken | .barBarToken | .barToken | .equalsToken | .plusEqualsToken
  | .minusEqualsToken | .asteriskEqualsToken | .slashEqualsToken => .operator
  | .identifier => .identifier
  | .classKeyword | .constKeyword | .extendsKeyword | .falseKeyword | .implementsKeyword
  | .interfaceKeyword | .letKeyword | .nullKeyword | .superKeyword | .thisKeyword
  | .trueKeyword | .varKeyword | .debuggerKeyword => .keyword
  | .abstractKeyword | .declareKeyword | .exportKeyword | .privateKeyword
  | .protectedKeyword | .publicKeyword | .readonlyKeyword | .staticKeyword => .modifier
  | .anyKeyword | .booleanKeyword | .neverKeyword | .numberKeyword | .objectKeyword
  | .stringKeyword | .undefinedKeyword | .unknownKeyword | .voidKeyword => .typeKeyword
  | .parameter | .propertySignature | .propertyDeclaration | .methodSignature
  | .methodDeclaration | .constructor | .indexSignature => .member
  | .typeReference | .typeLiteral | .arrayType | .unionType | .parenthesizedType
  | .expressionWithTypeArguments => .typeNode
  | .arrayLiteralExpression | .objectLiteralExpression | .propertyAccessExpression
  | .elementAccessExpression | .callExpression | .newExpression | .parenthesizedExpression
  | .prefixUnaryExpression | .postfixUnaryExpression | .binaryExpression
  | .classExpression => .expression
  | .block | .emptyStatement | .variableStatement | .expressionStatement | .ifStatement
  | .forStatement | .returnStatement | .debuggerStatement => .statement
  | .variableDeclaration | .variableDeclarationList | .functionDeclaration
  | .classDeclaration | .interfaceDeclaration | .heritageClause => .declaration
  | .sourceFile | .syntaxList => .structural

/-! ### Questions about kinds -/

/-- A token that never carries content of its own. -/
def isPunctuationOrTrivia (k : Kind) : Bool := k.family == .punctuation || k.family == .trivia

/-- A keyword that only ever modifies a declaration. -/
def isModifierKeyword (k : Kind) : Bool := k.family == .modifier

/-- The token of a binary or unary operator. -/
def isOperator (k : Kind) : Bool := k.family == .operator

/-- An operator that writes to its left operand. -/
def isAssignmentOperator : Kind → Bool
  | .equalsToken | .plusEqualsToken | .minusEqualsToken | .asteriskEqualsToken
  | .slashEqualsToken => true
  | _ => false

/-- A node that stands for a type. -/
def isTypeNode (k : Kind) : Bool :=
  k.family == .typeKeyword || k.family == .typeNode || k == .nullKeyword

/-- The source text of a kind that always has the same. -/
def tokenText? : Kind → Option String
  | .openBraceToken => some "\x7b"
  | .closeBraceToken => some "\x7d"
  | .openParenToken => some "("
  | .closeParenToken => some ")"
  | .openBracketToken => some "["
  | .closeBracketToken => some "]"
  | .dotToken => some "."
  | .semicolonToken => some ";"
  | .commaToken => some ","
  | .colonToken => some ":"
  | .questionToken => some "?"
  | .lessThanToken => some "<"
  | .greaterThanToken => some ">"
  | .lessThanEqualsToken => some "<="
  | .greaterThanEqualsToken => some ">="
  | .equalsEqualsToken => some "=="
  | .exclamationEqualsToken => some "!="
  | .equalsEqualsEqualsToken => some "==="
  | .exclamationEqualsEqualsToken => some "!=="
  | .plusToken => some "+"
  | .minusToken => some "-"
  | .asteriskToken => some "*"
  | .slashToken => some "/"
  | .percentToken => some "%"
  | .plusPlusToken => some "++"
  | .minusMinusToken => some "--"
  | .exclamationToken => some "!"
  | .ampersandAmpersandToken => some "&&"
  | .barBarToken => some "||"
  | .barToken => some "|"
  | .equalsToken => some "="
  | .plusEqualsToken => some "+="
  | .minusEqualsToken => some "-="
  | .asteriskEqualsToken => some "*="
  | .slashEqualsToken => some "/="
  | .classKeyword => some "class"
  | .constKeyword => some "const"
  | .extendsKeyword => some "extends"
  | .falseKeyword => some "false"
  | .implementsKeyword => some "implements"
  | .interfaceKeyword => some "interface"
  | .letKeyword => some "let"
  | .nullKeyword => some "null"
  | .superKeyword => some "super"
  | .thisKeyword => some "this"
  | .trueKeyword => some "true"
  | .varKeyword => some "var"
  | .debuggerKeyword => some "debugger"
  | .abstractKeyword => some "abstract"
  | .declareKeyword => some "declare"
  | .exportKeyword => some "export"
  | .privateKeyword => some "private"
  | .protectedKeyword => some "protected"
  | .publicKeyword => some "public"
  | .readonlyKeyword => some "readonly"
  | .staticKeyword => some "static"
  | .anyKeyword => some "any"
  | .booleanKeyword => some "boolean"
  | .neverKeyword => some "never"
  | .numberKeyword => some "number"
  | .objectKeyword => some "object"
  | .stringKeyword => some "string"
  | .undefinedKeyword => some "undefined"
  | .unknownKeyword => some "unknown"
  | .voidKeyword => some "void"
  | _ => none

end Kind

end Gls
