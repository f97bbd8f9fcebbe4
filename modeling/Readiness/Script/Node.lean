import Readiness.Decimal.Numeral
import Readiness.Text.Basic

/-!
# Syntax trees

A script is a tree of nodes. Every node has a kind, the range of text it covers, and children, each
with the role it plays: the callee of a call, an argument of it, and so on. Children of one role
stand in source order; a part that is absent is no child.
-/

namespace Readiness.Script

/-- What a literal denotes. Of a regular expression only the text that shows it is kept; one that is
invalid denotes nothing and has none. -/
inductive Literal where
  | string (value : Text)
  | number (value : Decimal.Numeral)
  | boolean (value : Bool)
  | null
  | regExp (shown : Option Text)
deriving Inhabited

/-- The kinds of nodes, with what a node knows besides its children. -/
inductive Kind where
  | program (isModule : Bool)
  | identifier (name : Text)
  | literal (value : Literal)
  | templateElement (cooked : Text) (tail : Bool)
  | templateLiteral
  | taggedTemplate
  | this
  | super
  | importKeyword
  | arrayExpression
  | objectExpression
  | property (computed : Bool)
  | spreadElement
  | restElement
  | arrayPattern
  | objectPattern
  | assignmentPattern
  | functionDeclaration (isAsync generator : Bool)
  | functionExpression (isAsync generator : Bool)
  | arrowFunction (isAsync : Bool)
  | arrowParameters (isAsync : Bool)
  | classDeclaration
  | classExpression
  | classBody
  | methodDefinition (computed : Bool)
  | member (computed : Bool)
  | call
  | construct
  | metaProperty
  | unary (operator : Text)
  | update (operator : Text)
  | binary (operator : Text)
  | logical (operator : Text)
  | conditional
  | assignment (operator : Text)
  | sequence
  | yield
  | await
  | expressionStatement (directive : Option Text)
  | block
  | empty
  | ifStatement
  | doWhile
  | whileLoop
  | forLoop
  | forIn
  | forOf
  | continueStatement
  | breakStatement
  | returnStatement
  | withStatement
  | switchStatement
  | switchCase
  | labeled
  | throwStatement
  | tryStatement
  | catchClause
  | debugger
  | variableDeclaration
  | variableDeclarator
  | importDeclaration
  | importSpecifier
  | importDefaultSpecifier
  | importNamespaceSpecifier
  | exportNamed
  | exportDefault
  | exportAll
  | exportSpecifier
  | exportDefaultSpecifier
  | tagElement
  | tagOpening (selfClosing : Bool)
  | tagClosing
  | tagAttribute
  | tagSpreadAttribute
  | tagIdentifier (name : Text)
  | tagMember
  | tagNamespaced
  | tagText
  | tagContainer
  | tagEmpty
deriving Inhabited

/-- The name under which a kind is shown. -/
def Kind.typeName : Kind → Text
  | .program _ => "Program"
  | .identifier _ => "Identifier"
  | .literal _ => "Literal"
  | .templateElement _ _ => "TemplateElement"
  | .templateLiteral => "TemplateLiteral"
  | .taggedTemplate => "TaggedTemplateExpression"
  | .this => "ThisExpression"
  | .super => "Super"
  | .importKeyword => "Import"
  | .arrayExpression => "ArrayExpression"
  | .objectExpression => "ObjectExpression"
  | .property _ => "Property"
  | .spreadElement => "SpreadElement"
  | .restElement => "RestElement"
  | .arrayPattern => "ArrayPattern"
  | .objectPattern => "ObjectPattern"
  | .assignmentPattern => "AssignmentPattern"
  | .functionDeclaration _ _ => "FunctionDeclaration"
  | .functionExpression _ _ => "FunctionExpression"
  | .arrowFunction _ => "ArrowFunctionExpression"
  | .arrowParameters _ => "ArrowParameterPlaceHolder"
  | .classDeclaration => "ClassDeclaration"
  | .classExpression => "ClassExpression"
  | .classBody => "ClassBody"
  | .methodDefinition _ => "MethodDefinition"
  | .member _ => "MemberExpression"
  | .call => "CallExpression"
  | .construct => "NewExpression"
  | .metaProperty => "MetaProperty"
  | .unary _ => "UnaryExpression"
  | .update _ => "UpdateExpression"
  | .binary _ => "BinaryExpression"
  | .logical _ => "LogicalExpression"
  | .conditional => "ConditionalExpression"
  | .assignment _ => "AssignmentExpression"
  | .sequence => "SequenceExpression"
  | .yield => "YieldExpression"
  | .await => "AwaitExpression"
  | .expressionStatement _ => "ExpressionStatement"
  | .block => "BlockStatement"
  | .empty => "EmptyStatement"
  | .ifStatement => "IfStatement"
  | .doWhile => "DoWhileStatement"
  | .whileLoop => "WhileStatement"
  | .forLoop => "ForStatement"
  | .forIn => "ForInStatement"
  | .forOf => "ForOfStatement"
  | .continueStatement => "ContinueStatement"
  | .breakStatement => "BreakStatement"
  | .returnStatement => "ReturnStatement"
  | .withStatement => "WithStatement"
  | .switchStatement => "SwitchStatement"
  | .switchCase => "SwitchCase"
  | .labeled => "LabeledStatement"
  | .throwStatement => "ThrowStatement"
  | .tryStatement => "TryStatement"
  | .catchClause => "CatchClause"
  | .debugger => "DebuggerStatement"
  | .variableDeclaration => "VariableDeclaration"
  | .variableDeclarator => "VariableDeclarator"
  | .importDeclaration => "ImportDeclaration"
  | .importSpecifier => "ImportSpecifier"
  | .importDefaultSpecifier => "ImportDefaultSpecifier"
  | .importNamespaceSpecifier => "ImportNamespaceSpecifier"
  | .exportNamed => "ExportNamedDeclaration"
  | .exportDefault => "ExportDefaultDeclaration"
  | .exportAll => "ExportAllDeclaration"
  | .exportSpecifier => "ExportSpecifier"
  | .exportDefaultSpecifier => "ExportDefaultSpecifier"
  | .tagElement => "JSXElement"
  | .tagOpening _ => "JSXOpeningElement"
  | .tagClosing => "JSXClosingElement"
  | .tagAttribute => "JSXAttribute"
  | .tagSpreadAttribute => "JSXSpreadAttribute"
  | .tagIdentifier _ => "JSXIdentifier"
  | .tagMember => "JSXMemberExpression"
  | .tagNamespaced => "JSXNamespacedName"
  | .tagText => "JSXText"
  | .tagContainer => "JSXExpressionContainer"
  | .tagEmpty => "JSXEmptyExpression"

/-- What a child is to its parent. -/
inductive Role where
  | alternate | argument | attribute | block | body | callee | caseClause | child | closing
  | consequent | declaration | declarator | discriminant | element | exported | expression
  | finalizer | handler | id | imported | init | key | label | left | localName | memberObject
  | memberProperty | metaName | nameOf | namespaceOf | opening | param | property | quasi | right
  | source | specifier | superClass | tag | test | update | value
deriving DecidableEq, Inhabited

/-- The range that a node covers, from offset `start` up to `stop`, with the line and column of its
start and the line of its end. A column is negative when the node's first token spans lines, and a
node that covers nothing of its own has none. -/
structure Span where
  start : Nat
  stop : Nat
  line : Nat
  column : Option Int
  endLine : Nat
deriving Inhabited, DecidableEq

/-- A node of a syntax tree. -/
inductive Node where
  | mk (kind : Kind) (span : Span) (children : List (Role × Node))

instance : Inhabited Node := ⟨.mk .empty default []⟩

namespace Node

/-- What the node is. -/
def kind : Node → Kind
  | mk k _ _ => k

/-- The range the node covers. -/
def span : Node → Span
  | mk _ s _ => s

/-- The parts of the node with their roles, in the order of its fields. -/
def children : Node → List (Role × Node)
  | mk _ _ cs => cs

/-- The node's first offset. -/
def start (n : Node) : Nat := n.span.start

/-- The first offset behind the node. -/
def stop (n : Node) : Nat := n.span.stop

/-- The line on which the node starts. -/
def line (n : Node) : Nat := n.span.line

/-- The column at which the node starts. -/
def column (n : Node) : Option Int := n.span.column

/-- The first child that plays the role. -/
def field? (n : Node) (r : Role) : Option Node := n.children.lookup r

/-- All children that play the role, in order. -/
def fields (n : Node) (r : Role) : List Node :=
  n.children.filterMap fun c => if c.1 = r then some c.2 else none

/-- The node with another kind. -/
def withKind (k : Kind) : Node → Node
  | mk _ s cs => mk k s cs

/-- The name that an identifier is. -/
def identifier? (n : Node) : Option Text :=
  match n.kind with
  | .identifier name => some name
  | _ => none

/-- The characters that a string literal denotes. -/
def string? (n : Node) : Option Text :=
  match n.kind with
  | .literal (.string value) => some value
  | _ => none

/-- Whether the node is a function of any form. -/
def isFunction (n : Node) : Bool :=
  match n.kind with
  | .functionDeclaration _ _ | .functionExpression _ _ | .arrowFunction _ => true
  | _ => false

/-- Whether the node is an asynchronous function. -/
def isAsync (n : Node) : Bool :=
  match n.kind with
  | .functionDeclaration a _ | .functionExpression a _ | .arrowFunction a => a
  | _ => false

/-- Whether the node calls a function, without `new`. -/
def isCall (n : Node) : Bool :=
  match n.kind with
  | .call => true
  | _ => false

/-- Whether the node is a template without a tag of its own. -/
def isTemplate (n : Node) : Bool :=
  match n.kind with
  | .templateLiteral => true
  | _ => false

end Node

end Readiness.Script
