import Readiness.Text.Basic

/-!
# Complaints

What can be wrong with a script, by cause, and the words for each cause. A complaint with its place
is a `Problem`: some problems end the parse, others are noted and the parse goes on.
-/

namespace Readiness.Script

/-- The causes for which a script is faulted. -/
inductive Complaint where
  | illegalToken
  | unexpectedToken (value : Text)
  | unexpectedHere
  | unexpectedEnd
  | unexpectedIdentifier
  | unexpectedNumber
  | unexpectedString
  | unexpectedQuasi (raw : Text)
  | unexpectedReserved
  | badGetterArity
  | badSetterArity
  | badSetterRest
  | constructorIsAsync
  | constructorSpecial
  | missingInitializer (kind : Text)
  | duplicateBinding (name : Text)
  | duplicateConstructor
  | duplicateProto
  | loopInitializer (kind : Text)
  | generatorInLegacyContext
  | illegalBreak
  | illegalContinue
  | illegalStrictDirective
  | illegalReturn
  | escapedReservedWord
  | badHexEscape
  | badAssignmentTarget
  | badForInTarget
  | badForLoopTarget
  | invalidRegExp
  | letInLexicalBinding
  | manyDefaults
  | newlineAfterThrow
  | noCatchOrFinally
  | parameterAfterRest
  | redeclaredLabel (name : Text)
  | staticPrototype
  | strictCatchVariable
  | strictDelete
  | strictFunction
  | strictFunctionName
  | strictAssignment
  | strictPostfix
  | strictPrefix
  | strictWith
  | strictOctal
  | strictDuplicateParameter
  | strictParameterName
  | strictReservedWord
  | strictVariableName
  | templateOctal
  | unknownLabel (name : Text)
  | unterminatedRegExp
  | emptyAttribute
  | mismatchedTag (name : Text)
deriving Inhabited, DecidableEq

/-- The words of a complaint. -/
def Complaint.message : Complaint → Text
  | .illegalToken => "Unexpected token ILLEGAL"
  | .unexpectedToken v => "Unexpected token " ++ v
  | .unexpectedHere => "Unexpected token"
  | .unexpectedEnd => "Unexpected end of input"
  | .unexpectedIdentifier => "Unexpected identifier"
  | .unexpectedNumber => "Unexpected number"
  | .unexpectedString => "Unexpected string"
  | .unexpectedQuasi raw => "Unexpected quasi " ++ raw
  | .unexpectedReserved => "Unexpected reserved word"
  | .badGetterArity => "Getter must not have any formal parameters"
  | .badSetterArity => "Setter must have exactly one formal parameter"
  | .badSetterRest => "Setter function argument must not be a rest parameter"
  | .constructorIsAsync => "Class constructor may not be an async method"
  | .constructorSpecial => "Class constructor may not be an accessor"
  | .missingInitializer kind => "Missing initializer in " ++ kind ++ " declaration"
  | .duplicateBinding name => "Duplicate binding " ++ name
  | .duplicateConstructor => "A class may only have one constructor"
  | .duplicateProto => "Duplicate __proto__ fields are not allowed in object literals"
  | .loopInitializer kind => kind ++ " loop variable declaration may not have an initializer"
  | .generatorInLegacyContext => "Generator declarations are not allowed in legacy contexts"
  | .illegalBreak => "Illegal break statement"
  | .illegalContinue => "Illegal continue statement"
  | .illegalStrictDirective =>
    "Illegal 'use strict' directive in function with non-simple parameter list"
  | .illegalReturn => "Illegal return statement"
  | .escapedReservedWord => "Keyword must not contain escaped characters"
  | .badHexEscape => "Invalid hexadecimal escape sequence"
  | .badAssignmentTarget => "Invalid left-hand side in assignment"
  | .badForInTarget => "Invalid left-hand side in for-in"
  | .badForLoopTarget => "Invalid left-hand side in for-loop"
  | .invalidRegExp => "Invalid regular expression"
  | .letInLexicalBinding => "let is disallowed as a lexically bound name"
  | .manyDefaults => "More than one default clause in switch statement"
  | .newlineAfterThrow => "Illegal newline after throw"
  | .noCatchOrFinally => "Missing catch or finally after try"
  | .parameterAfterRest => "Rest parameter must be last formal parameter"
  | .redeclaredLabel name => "Label '" ++ name ++ "' has already been declared"
  | .staticPrototype => "Classes may not have static property named prototype"
  | .strictCatchVariable => "Catch variable may not be eval or arguments in strict mode"
  | .strictDelete => "Delete of an unqualified identifier in strict mode."
  | .strictFunction =>
    "In strict mode code, functions can only be declared at top level or inside a block"
  | .strictFunctionName => "Function name may not be eval or arguments in strict mode"
  | .strictAssignment => "Assignment to eval or arguments is not allowed in strict mode"
  | .strictPostfix =>
    "Postfix increment/decrement may not have eval or arguments operand in strict mode"
  | .strictPrefix =>
    "Prefix increment/decrement may not have eval or arguments operand in strict mode"
  | .strictWith => "Strict mode code may not include a with statement"
  | .strictOctal => "Octal literals are not allowed in strict mode."
  | .strictDuplicateParameter => "Strict mode function may not have duplicate parameter names"
  | .strictParameterName => "Parameter name eval or arguments is not allowed in strict mode"
  | .strictReservedWord => "Use of future reserved word in strict mode"
  | .strictVariableName => "Variable name may not be eval or arguments in strict mode"
  | .templateOctal => "Octal literals are not allowed in template strings."
  | .unknownLabel name => "Undefined label '" ++ name ++ "'"
  | .unterminatedRegExp => "Invalid regular expression: missing /"
  | .emptyAttribute => "JSX attributes must only be assigned a non-empty expression"
  | .mismatchedTag name => "Expected corresponding JSX closing tag for " ++ name

/-- A complaint and where it arose. The column counts from one and can be negative, when the line
counter has passed the place. -/
structure Problem where
  index : Nat
  line : Nat
  column : Int
  complaint : Complaint
deriving Inhabited

/-- The report of a problem: its line and its words. -/
def Problem.message (p : Problem) : Text :=
  "Line " ++ toString p.line ++ ": " ++ p.complaint.message

/-- A place in a script: what is left to read, its offset, and the line it is on with the offset
where that line starts. -/
structure Cursor where
  rest : Text
  index : Nat
  line : Nat
  lineStart : Nat
deriving Inhabited

namespace Cursor

/-- The start of a script. An empty script has no first line. -/
def start (t : Text) : Cursor := ⟨t, 0, if t.isEmpty then 0 else 1, 0⟩

/-- The cursor `n` characters further on the same line. -/
def skip (c : Cursor) (n : Nat) : Cursor :=
  { c with rest := c.rest.drop n, index := c.index + n }

/-- The distance from the start of the line. -/
def column (c : Cursor) : Int := (c.index : Int) - c.lineStart

/-- A problem at the cursor. -/
def problem (c : Cursor) (k : Complaint) : Problem := ⟨c.index, c.line, c.column + 1, k⟩

/-- The cursor behind `n` characters that end the line. -/
def newLine (c : Cursor) (rest : Text) (n : Nat) : Cursor :=
  ⟨rest, c.index + n, c.line + 1, c.index + n⟩

end Cursor

end Readiness.Script
