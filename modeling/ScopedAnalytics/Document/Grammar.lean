import ScopedAnalytics.Document
import ScopedAnalytics.Document.Scan

/-! Documents read from text. A rule sees one token and asks for the next only when it has taken
that one, so a text is examined no further than one token past the place where a rule fails.
Selection sets, list and object values and list types may be nested `depthLimit` deep altogether;
the rules for them recurse on the depth that is left. -/
namespace ScopedAnalytics.Document

/-- How deep selection sets, lists, objects and list types may be nested. -/
def depthLimit : Nat := 200

/-- A place in a text: the token there and the text after it. -/
structure Cursor where
  token : Token
  rest : List Char

abbrev Rule := StateT Cursor (Except Fault)

namespace Rule

def refuse {α : Type} (fault : Fault) : Rule α := throw fault

def token : Rule Token := return (← get).token

def advance : Rule Unit := do
  let (token,rest) ← (nextToken (← get).rest : Except Fault _)
  set (Cursor.mk token rest)

def lookahead : Rule Token := return (← (nextToken (← get).rest : Except Fault _)).1

def refuseToken {α : Type} : Rule α := do refuse (.unexpected (← token))

def sees (sign : Sign) : Rule Bool := return (← token) == .sign sign

def takes (sign : Sign) : Rule Bool := do
  if ← sees sign then
    advance
    return true
  else return false

def expect (sign : Sign) : Rule Unit := do
  if !(← takes sign) then refuse (.expected (.sign sign) (← token))

def takesKeyword (word : String) : Rule Bool := do
  if (← token) == .name word then
    advance
    return true
  else return false

def expectKeyword (word : String) : Rule Unit := do
  if !(← takesKeyword word) then refuse (.expected (.keyword word) (← token))

def name : Rule String := do
  match ← token with
  | .name text =>
    advance
    return text
  | found => refuse (.expected .name found)

/-- Items up to a closing sign. Every item takes a token, so the length of the text bounds their
number. -/
def itemsUntil {α : Type} (closing : Sign) (item : Rule α) (fuel : Nat) : Rule (List α) := do
  match fuel with
  | 0 => refuseToken
  | fuel + 1 =>
    if ← takes closing then return []
    else
      let first ← item
      let others ← itemsUntil closing item fuel
      return first :: others

def any {α : Type} (opening closing : Sign) (item : Rule α) : Rule (List α) := do
  expect opening
  itemsUntil closing item ((← get).rest.length + 2)

def many {α : Type} (opening closing : Sign) (item : Rule α) : Rule (List α) := do
  expect opening
  let first ← item
  let others ← itemsUntil closing item ((← get).rest.length + 2)
  return first :: others

def optionalMany {α : Type} (opening closing : Sign) (item : Rule α) : Rule (List α) := do
  if ← sees opening then many opening closing item else return []

/-- Items after the first, each after a separating sign. -/
def itemsAfter {α : Type} (separator : Sign) (item : Rule α) (fuel : Nat) : Rule (List α) := do
  match fuel with
  | 0 => return []
  | fuel + 1 =>
    if ← takes separator then
      let next ← item
      let others ← itemsAfter separator item fuel
      return next :: others
    else return []

/-- Items with a sign between them, which may also stand before the first. -/
def separatedBy {α : Type} (separator : Sign) (item : Rule α) : Rule (List α) := do
  let _ ← takes separator
  let first ← item
  let others ← itemsAfter separator item ((← get).rest.length + 2)
  return first :: others

def whileSees {α : Type} (sign : Sign) (item : Rule α) (fuel : Nat) : Rule (List α) := do
  match fuel with
  | 0 => return []
  | fuel + 1 =>
    if ← sees sign then
      let next ← item
      let others ← whileSees sign item fuel
      return next :: others
    else return []

def description : Rule Unit := do
  if (← token).string?.isSome then advance

def variableName : Rule String := do
  expect .dollar
  name

def constantVariable : Rule Literal := do
  let found ← token
  expect .dollar
  match ← token with
  | .name variableName => refuse (.variableInConstant variableName)
  | _ => refuse (.unexpected found)

def plainValue (constant : Bool) : Rule Literal := do
  match ← token with
  | .int digits =>
    advance
    return .int digits
  | .float digits =>
    advance
    return .float digits
  | .text value | .block value =>
    advance
    return .text value
  | .name word =>
    advance
    match word with
    | "true" => return .bool true
    | "false" => return .bool false
    | "null" => return .null
    | _ => return .enum word
  | .sign .dollar => if constant then constantVariable else return .variable (← variableName)
  | _ => refuseToken

/-- A value; a constant holds no variables. -/
def value (constant : Bool) (levels : Nat) : Rule Literal := do
  if ← sees .openBracket then
    match levels with
    | 0 => refuse .tooDeep
    | levels + 1 => return .list (← any .openBracket .closeBracket (value constant levels))
  else if ← sees .openBrace then
    match levels with
    | 0 => refuse .tooDeep
    | levels + 1 =>
      let field : Rule (String × Literal) := do
        let label ← name
        expect .colon
        return (label,← value constant levels)
      return .object (← any .openBrace .closeBrace field)
  else plainValue constant

def arguments (constant : Bool) (levels : Nat) : Rule (List Argument) :=
  optionalMany .openParen .closeParen do
    let label ← name
    expect .colon
    return ⟨label,← value constant levels⟩

def directives (constant : Bool) (levels : Nat) : Rule (List Directive) := do
  let directive : Rule Directive := do
    expect .atSign
    return ⟨← name,← arguments constant levels⟩
  whileSees .atSign directive ((← get).rest.length + 2)

/-- The name of a fragment, which is any but the keyword of a type condition. -/
def fragmentName : Rule String := do
  if (← token).word? == some "on" then refuseToken else name

/-- A selection set: entries in braces. -/
def nodes (levels : Nat) : Rule (List Node) :=
  match levels with
  | 0 => refuse .tooDeep
  | levels + 1 => any .openBrace .closeBrace do
    if ← takes .spread then
      let conditioned ← takesKeyword "on"
      let named := match ← token with
        | .name _ => true
        | _ => false
      if !conditioned && named then
        return .spread (← fragmentName) (← directives false levels)
      else
        let condition ← if conditioned then some <$> name else pure none
        return .inline condition (← directives false levels) (← nodes levels)
    else
      let first ← name
      let labelled ← takes .colon
      let fieldName ← if labelled then name else pure first
      let label := if labelled then some first else none
      let arguments ← arguments false levels
      let directives ← directives false levels
      let children ← if ← sees .openBrace then some <$> nodes levels else pure none
      return .field label fieldName arguments directives children

/-- A reference to a type. The level of a list type is entered past its bracket. -/
def typeReference (levels : Nat) : Rule Unit := do
  if ← takes .openBracket then
    match levels with
    | 0 => refuse .tooDeep
    | levels + 1 =>
      typeReference levels
      expect .closeBracket
  else
    let _ ← name
  let _ ← takes .bang

def constantDirectives : Rule (List Directive) := directives true depthLimit

/-- The default of a variable or an input, if there is one. -/
def defaultValue : Rule Unit := do
  if ← takes .equals then
    let _ ← value true depthLimit

def variableDefinition : Rule Unit := do
  description
  let _ ← variableName
  expect .colon
  typeReference depthLimit
  defaultValue
  let _ ← constantDirectives

def operationKind : Rule OperationKind := do
  match ← token with
  | .name word =>
    let found ← token
    advance
    match word with
    | "query" => return .query
    | "mutation" => return .mutation
    | "subscription" => return .subscription
    | _ => refuse (.unexpected found)
  | found => refuse (.expected .name found)

def operation : Rule Definition := do
  if ← sees .openBrace then return .operation .query none (← nodes depthLimit)
  else
    description
    let kind ← operationKind
    let label ← match ← token with
      | .name _ => some <$> name
      | _ => pure none
    let _ ← optionalMany .openParen .closeParen variableDefinition
    let _ ← directives false depthLimit
    return .operation kind label (← nodes depthLimit)

def fragment : Rule Definition := do
  description
  expectKeyword "fragment"
  let label ← fragmentName
  expectKeyword "on"
  let condition ← name
  let _ ← directives false depthLimit
  return .fragment label condition (← nodes depthLimit)

def rootType : Rule Unit := do
  let _ ← operationKind
  expect .colon
  let _ ← name

def inputValue : Rule Unit := do
  description
  let _ ← name
  expect .colon
  typeReference depthLimit
  defaultValue
  let _ ← constantDirectives

def fieldDefinition : Rule Unit := do
  description
  let _ ← name
  let _ ← optionalMany .openParen .closeParen inputValue
  expect .colon
  typeReference depthLimit
  let _ ← constantDirectives

def enumValue : Rule Unit := do
  description
  let found ← token
  if found.word?.any ["true","false","null"].contains then refuse (.reservedEnumValue found)
  let _ ← name
  let _ ← constantDirectives

def interfaces : Rule (List String) := do
  if ← takesKeyword "implements" then separatedBy .ampersand name else return []

def fields : Rule (List Unit) := optionalMany .openBrace .closeBrace fieldDefinition

def inputFields : Rule (List Unit) := optionalMany .openBrace .closeBrace inputValue

def enumValues : Rule (List Unit) := optionalMany .openBrace .closeBrace enumValue

def members : Rule (List String) := do
  if ← takes .equals then separatedBy .bar name else return []

def locations : List String :=
  ["QUERY","MUTATION","SUBSCRIPTION","FIELD","FRAGMENT_DEFINITION","FRAGMENT_SPREAD",
    "FRAGMENT_VARIABLE_DEFINITION","INLINE_FRAGMENT","VARIABLE_DEFINITION","SCHEMA","SCALAR",
    "OBJECT","FIELD_DEFINITION","ARGUMENT_DEFINITION","INTERFACE","UNION","ENUM","ENUM_VALUE",
    "INPUT_OBJECT","INPUT_FIELD_DEFINITION","DIRECTIVE_DEFINITION"]

def location : Rule String := do
  let found ← token
  let word ← name
  if locations.contains word then return word else refuse (.unexpected found)

def directiveDefinition : Rule Unit := do
  expectKeyword "directive"
  expect .atSign
  let _ ← name
  let _ ← optionalMany .openParen .closeParen inputValue
  let _ ← constantDirectives
  let _ ← takesKeyword "repeatable"
  expectKeyword "on"
  let _ ← separatedBy .bar location

/-- What follows the name in the definition of a type of the given kind, as the number of parts
that are present. -/
def typeBody (kind : String) : Rule Nat := do
  match kind with
  | "scalar" => return (← constantDirectives).length
  | "union" => return (← constantDirectives).length + (← members).length
  | "enum" => return (← constantDirectives).length + (← enumValues).length
  | "input" => return (← constantDirectives).length + (← inputFields).length
  | _ =>
    return (← interfaces).length + (← constantDirectives).length + (← fields).length

def typeKinds : List String := ["scalar","type","interface","union","enum","input"]

/-- The definition of a type, a schema or a directive, from its description on. -/
def typeSystemDefinition (kind : String) : Rule Definition := do
  description
  if kind = "directive" then directiveDefinition
  else
    expectKeyword kind
    if kind = "schema" then
      let _ ← constantDirectives
      let _ ← many .openBrace .closeBrace rootType
    else
      let _ ← name
      let _ ← typeBody kind
  return .typeSystem

/-- The extension of a type, a schema or a directive, which has to add something. -/
def extension : Rule Definition := do
  let kind ← match ← lookahead with
    | .name word =>
      if word = "schema" ∨ word = "directive" ∨ typeKinds.contains word then pure word
      else refuse (.unexpected (.name word))
    | found => refuse (.unexpected found)
  expectKeyword "extend"
  expectKeyword kind
  let parts ←
    if kind = "schema" then
      pure ((← constantDirectives).length +
        (← optionalMany .openBrace .closeBrace rootType).length)
    else if kind = "directive" then
      expect .atSign
      let _ ← name
      pure (← constantDirectives).length
    else
      let _ ← name
      typeBody kind
  if parts = 0 then refuseToken else return .typeSystem

/-- A definition. Its keyword stands behind the description, if there is one. -/
def definition : Rule Definition := do
  if ← sees .openBrace then operation
  else
    let described := (← token).string?.isSome
    let keyword ← if described then lookahead else token
    match keyword with
    | .sign .openBrace => refuse .describedShorthand
    | .name word =>
      if word = "schema" ∨ word = "directive" ∨ typeKinds.contains word then
        typeSystemDefinition word
      else if ["query","mutation","subscription"].contains word then operation
      else if word = "fragment" then fragment
      else if described then refuse .describedNonDefinition
      else if word = "extend" then extension
      else refuse (.unexpected keyword)
    | _ => refuse (.unexpected keyword)

def definitions (fuel : Nat) : Rule (List Definition) := do
  match fuel with
  | 0 => refuseToken
  | fuel + 1 =>
    let first ← definition
    if (← token) == .ending then return [first]
    else return first :: (← definitions fuel)

end Rule

def read (text : String) : Except Fault (List Definition) := do
  let (token,rest) ← nextToken text.toList
  let (definitions,_) ← (Rule.definitions (text.length + 2)).run ⟨token,rest⟩
  return definitions

end ScopedAnalytics.Document
