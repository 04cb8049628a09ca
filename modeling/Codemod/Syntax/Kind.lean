/-!
# Kinds of nodes and tokens

Every token and every node of a tree has a kind. Tokens are the punctuation,
the words of the language, names and literals; the other kinds are the
constructs. Some words are always reserved, some only in strict code, and some
are ordinary names except where the grammar looks for them.
-/
namespace Codemod.Syntax

/-- The kind of a token or node. -/
inductive Kind where
  | unknown | endOfFileToken | numericLiteral | bigIntLiteral | stringLiteral | jsxText
  | regularExpressionLiteral | noSubstitutionTemplateLiteral | templateHead | templateMiddle
  | templateTail | identifier | privateIdentifier | openBraceToken | closeBraceToken
  | openParenToken | closeParenToken | openBracketToken | closeBracketToken | dotToken
  | dotDotDotToken | semicolonToken | commaToken | questionDotToken | lessThanToken
  | lessThanSlashToken | greaterThanToken | lessThanEqualsToken | greaterThanEqualsToken
  | equalsEqualsToken | exclamationEqualsToken | equalsEqualsEqualsToken
  | exclamationEqualsEqualsToken | equalsGreaterThanToken | plusToken | minusToken
  | asteriskToken | asteriskAsteriskToken | slashToken | percentToken | plusPlusToken
  | minusMinusToken | lessThanLessThanToken | greaterThanGreaterThanToken
  | greaterThanGreaterThanGreaterThanToken | ampersandToken | barToken | caretToken
  | exclamationToken | tildeToken | ampersandAmpersandToken | barBarToken | questionToken
  | colonToken | atToken | questionQuestionToken | equalsToken | plusEqualsToken
  | minusEqualsToken | asteriskEqualsToken | asteriskAsteriskEqualsToken | slashEqualsToken
  | percentEqualsToken | lessThanLessThanEqualsToken | greaterThanGreaterThanEqualsToken
  | greaterThanGreaterThanGreaterThanEqualsToken | ampersandEqualsToken | barEqualsToken
  | barBarEqualsToken | ampersandAmpersandEqualsToken | questionQuestionEqualsToken
  | caretEqualsToken | breakKeyword | caseKeyword | catchKeyword | classKeyword | constKeyword
  | continueKeyword | debuggerKeyword | defaultKeyword | deleteKeyword | doKeyword | elseKeyword
  | enumKeyword | exportKeyword | extendsKeyword | falseKeyword | finallyKeyword | forKeyword
  | functionKeyword | ifKeyword | importKeyword | inKeyword | instanceOfKeyword | newKeyword
  | nullKeyword | returnKeyword | superKeyword | switchKeyword | thisKeyword | throwKeyword
  | trueKeyword | tryKeyword | typeOfKeyword | varKeyword | voidKeyword | whileKeyword
  | withKeyword | implementsKeyword | interfaceKeyword | letKeyword | packageKeyword
  | privateKeyword | protectedKeyword | publicKeyword | staticKeyword | yieldKeyword
  | abstractKeyword | accessorKeyword | asKeyword | assertsKeyword | assertKeyword | anyKeyword
  | asyncKeyword | awaitKeyword | booleanKeyword | constructorKeyword | declareKeyword
  | getKeyword | inferKeyword | intrinsicKeyword | isKeyword | keyOfKeyword | moduleKeyword
  | namespaceKeyword | neverKeyword | outKeyword | readonlyKeyword | requireKeyword
  | numberKeyword | objectKeyword | satisfiesKeyword | setKeyword | stringKeyword
  | symbolKeyword | typeKeyword | undefinedKeyword | uniqueKeyword | unknownKeyword
  | usingKeyword | fromKeyword | globalKeyword | bigIntKeyword | overrideKeyword | ofKeyword
  | deferKeyword | qualifiedName | computedPropertyName | typeParameter | parameter | decorator
  | propertySignature | propertyDeclaration | methodSignature | methodDeclaration
  | classStaticBlockDeclaration | constructorDeclaration | getAccessor | setAccessor
  | callSignature | constructSignature | indexSignature | typePredicate | typeReference
  | functionType | constructorType | typeQuery | typeLiteral | arrayType | tupleType
  | optionalType | restType | unionType | intersectionType | conditionalType | inferType
  | parenthesizedType | thisType | typeOperator | indexedAccessType | mappedType | literalType
  | namedTupleMember | templateLiteralType | templateLiteralTypeSpan | importType
  | objectBindingPattern | arrayBindingPattern | bindingElement | arrayLiteralExpression
  | objectLiteralExpression | propertyAccessExpression | elementAccessExpression
  | callExpression | newExpression | taggedTemplateExpression | typeAssertionExpression
  | parenthesizedExpression | functionExpression | arrowFunction | deleteExpression
  | typeOfExpression | voidExpression | awaitExpression | prefixUnaryExpression
  | postfixUnaryExpression | binaryExpression | conditionalExpression | templateExpression
  | yieldExpression | spreadElement | classExpression | omittedExpression
  | expressionWithTypeArguments | asExpression | nonNullExpression | metaProperty
  | satisfiesExpression | templateSpan | semicolonClassElement | block | emptyStatement
  | variableStatement | expressionStatement | ifStatement | doStatement | whileStatement
  | forStatement | forInStatement | forOfStatement | continueStatement | breakStatement
  | returnStatement | withStatement | switchStatement | labeledStatement | throwStatement
  | tryStatement | debuggerStatement | variableDeclaration | variableDeclarationList
  | functionDeclaration | classDeclaration | interfaceDeclaration | typeAliasDeclaration
  | enumDeclaration | moduleDeclaration | moduleBlock | caseBlock | namespaceExportDeclaration
  | importEqualsDeclaration | importDeclaration | importClause | namespaceImport | namedImports
  | importSpecifier | exportAssignment | exportDeclaration | namedExports | namespaceExport
  | exportSpecifier | missingDeclaration | externalModuleReference | jsxElement
  | jsxSelfClosingElement | jsxOpeningElement | jsxClosingElement | jsxFragment
  | jsxOpeningFragment | jsxClosingFragment | jsxAttribute | jsxAttributes | jsxSpreadAttribute
  | jsxExpression | jsxNamespacedName | caseClause | defaultClause | heritageClause
  | catchClause | importAttributes | importAttribute | propertyAssignment
  | shorthandPropertyAssignment | spreadAssignment | enumMember | sourceFile | docAllType
  | docUnknownType | docNullableType | docNonNullableType | docOptionalType | docFunctionType
  | docVariadicType | docNamePathType
  deriving DecidableEq, Repr, Inhabited

namespace Kind

/-- The name of a kind. -/
def name : Kind → String
  | .unknown => "Unknown"
  | .endOfFileToken => "EndOfFileToken"
  | .numericLiteral => "NumericLiteral"
  | .bigIntLiteral => "BigIntLiteral"
  | .stringLiteral => "StringLiteral"
  | .jsxText => "JsxText"
  | .regularExpressionLiteral => "RegularExpressionLiteral"
  | .noSubstitutionTemplateLiteral => "NoSubstitutionTemplateLiteral"
  | .templateHead => "TemplateHead"
  | .templateMiddle => "TemplateMiddle"
  | .templateTail => "TemplateTail"
  | .identifier => "Identifier"
  | .privateIdentifier => "PrivateIdentifier"
  | .openBraceToken => "OpenBraceToken"
  | .closeBraceToken => "CloseBraceToken"
  | .openParenToken => "OpenParenToken"
  | .closeParenToken => "CloseParenToken"
  | .openBracketToken => "OpenBracketToken"
  | .closeBracketToken => "CloseBracketToken"
  | .dotToken => "DotToken"
  | .dotDotDotToken => "DotDotDotToken"
  | .semicolonToken => "SemicolonToken"
  | .commaToken => "CommaToken"
  | .questionDotToken => "QuestionDotToken"
  | .lessThanToken => "LessThanToken"
  | .lessThanSlashToken => "LessThanSlashToken"
  | .greaterThanToken => "GreaterThanToken"
  | .lessThanEqualsToken => "LessThanEqualsToken"
  | .greaterThanEqualsToken => "GreaterThanEqualsToken"
  | .equalsEqualsToken => "EqualsEqualsToken"
  | .exclamationEqualsToken => "ExclamationEqualsToken"
  | .equalsEqualsEqualsToken => "EqualsEqualsEqualsToken"
  | .exclamationEqualsEqualsToken => "ExclamationEqualsEqualsToken"
  | .equalsGreaterThanToken => "EqualsGreaterThanToken"
  | .plusToken => "PlusToken"
  | .minusToken => "MinusToken"
  | .asteriskToken => "AsteriskToken"
  | .asteriskAsteriskToken => "AsteriskAsteriskToken"
  | .slashToken => "SlashToken"
  | .percentToken => "PercentToken"
  | .plusPlusToken => "PlusPlusToken"
  | .minusMinusToken => "MinusMinusToken"
  | .lessThanLessThanToken => "LessThanLessThanToken"
  | .greaterThanGreaterThanToken => "GreaterThanGreaterThanToken"
  | .greaterThanGreaterThanGreaterThanToken => "GreaterThanGreaterThanGreaterThanToken"
  | .ampersandToken => "AmpersandToken"
  | .barToken => "BarToken"
  | .caretToken => "CaretToken"
  | .exclamationToken => "ExclamationToken"
  | .tildeToken => "TildeToken"
  | .ampersandAmpersandToken => "AmpersandAmpersandToken"
  | .barBarToken => "BarBarToken"
  | .questionToken => "QuestionToken"
  | .colonToken => "ColonToken"
  | .atToken => "AtToken"
  | .questionQuestionToken => "QuestionQuestionToken"
  | .equalsToken => "EqualsToken"
  | .plusEqualsToken => "PlusEqualsToken"
  | .minusEqualsToken => "MinusEqualsToken"
  | .asteriskEqualsToken => "AsteriskEqualsToken"
  | .asteriskAsteriskEqualsToken => "AsteriskAsteriskEqualsToken"
  | .slashEqualsToken => "SlashEqualsToken"
  | .percentEqualsToken => "PercentEqualsToken"
  | .lessThanLessThanEqualsToken => "LessThanLessThanEqualsToken"
  | .greaterThanGreaterThanEqualsToken => "GreaterThanGreaterThanEqualsToken"
  | .greaterThanGreaterThanGreaterThanEqualsToken => "GreaterThanGreaterThanGreaterThanEqualsToken"
  | .ampersandEqualsToken => "AmpersandEqualsToken"
  | .barEqualsToken => "BarEqualsToken"
  | .barBarEqualsToken => "BarBarEqualsToken"
  | .ampersandAmpersandEqualsToken => "AmpersandAmpersandEqualsToken"
  | .questionQuestionEqualsToken => "QuestionQuestionEqualsToken"
  | .caretEqualsToken => "CaretEqualsToken"
  | .breakKeyword => "BreakKeyword"
  | .caseKeyword => "CaseKeyword"
  | .catchKeyword => "CatchKeyword"
  | .classKeyword => "ClassKeyword"
  | .constKeyword => "ConstKeyword"
  | .continueKeyword => "ContinueKeyword"
  | .debuggerKeyword => "DebuggerKeyword"
  | .defaultKeyword => "DefaultKeyword"
  | .deleteKeyword => "DeleteKeyword"
  | .doKeyword => "DoKeyword"
  | .elseKeyword => "ElseKeyword"
  | .enumKeyword => "EnumKeyword"
  | .exportKeyword => "ExportKeyword"
  | .extendsKeyword => "ExtendsKeyword"
  | .falseKeyword => "FalseKeyword"
  | .finallyKeyword => "FinallyKeyword"
  | .forKeyword => "ForKeyword"
  | .functionKeyword => "FunctionKeyword"
  | .ifKeyword => "IfKeyword"
  | .importKeyword => "ImportKeyword"
  | .inKeyword => "InKeyword"
  | .instanceOfKeyword => "InstanceOfKeyword"
  | .newKeyword => "NewKeyword"
  | .nullKeyword => "NullKeyword"
  | .returnKeyword => "ReturnKeyword"
  | .superKeyword => "SuperKeyword"
  | .switchKeyword => "SwitchKeyword"
  | .thisKeyword => "ThisKeyword"
  | .throwKeyword => "ThrowKeyword"
  | .trueKeyword => "TrueKeyword"
  | .tryKeyword => "TryKeyword"
  | .typeOfKeyword => "TypeOfKeyword"
  | .varKeyword => "VarKeyword"
  | .voidKeyword => "VoidKeyword"
  | .whileKeyword => "WhileKeyword"
  | .withKeyword => "WithKeyword"
  | .implementsKeyword => "ImplementsKeyword"
  | .interfaceKeyword => "InterfaceKeyword"
  | .letKeyword => "LetKeyword"
  | .packageKeyword => "PackageKeyword"
  | .privateKeyword => "PrivateKeyword"
  | .protectedKeyword => "ProtectedKeyword"
  | .publicKeyword => "PublicKeyword"
  | .staticKeyword => "StaticKeyword"
  | .yieldKeyword => "YieldKeyword"
  | .abstractKeyword => "AbstractKeyword"
  | .accessorKeyword => "AccessorKeyword"
  | .asKeyword => "AsKeyword"
  | .assertsKeyword => "AssertsKeyword"
  | .assertKeyword => "AssertKeyword"
  | .anyKeyword => "AnyKeyword"
  | .asyncKeyword => "AsyncKeyword"
  | .awaitKeyword => "AwaitKeyword"
  | .booleanKeyword => "BooleanKeyword"
  | .constructorKeyword => "ConstructorKeyword"
  | .declareKeyword => "DeclareKeyword"
  | .getKeyword => "GetKeyword"
  | .inferKeyword => "InferKeyword"
  | .intrinsicKeyword => "IntrinsicKeyword"
  | .isKeyword => "IsKeyword"
  | .keyOfKeyword => "KeyOfKeyword"
  | .moduleKeyword => "ModuleKeyword"
  | .namespaceKeyword => "NamespaceKeyword"
  | .neverKeyword => "NeverKeyword"
  | .outKeyword => "OutKeyword"
  | .readonlyKeyword => "ReadonlyKeyword"
  | .requireKeyword => "RequireKeyword"
  | .numberKeyword => "NumberKeyword"
  | .objectKeyword => "ObjectKeyword"
  | .satisfiesKeyword => "SatisfiesKeyword"
  | .setKeyword => "SetKeyword"
  | .stringKeyword => "StringKeyword"
  | .symbolKeyword => "SymbolKeyword"
  | .typeKeyword => "TypeKeyword"
  | .undefinedKeyword => "UndefinedKeyword"
  | .uniqueKeyword => "UniqueKeyword"
  | .unknownKeyword => "UnknownKeyword"
  | .usingKeyword => "UsingKeyword"
  | .fromKeyword => "FromKeyword"
  | .globalKeyword => "GlobalKeyword"
  | .bigIntKeyword => "BigIntKeyword"
  | .overrideKeyword => "OverrideKeyword"
  | .ofKeyword => "OfKeyword"
  | .deferKeyword => "DeferKeyword"
  | .qualifiedName => "QualifiedName"
  | .computedPropertyName => "ComputedPropertyName"
  | .typeParameter => "TypeParameter"
  | .parameter => "Parameter"
  | .decorator => "Decorator"
  | .propertySignature => "PropertySignature"
  | .propertyDeclaration => "PropertyDeclaration"
  | .methodSignature => "MethodSignature"
  | .methodDeclaration => "MethodDeclaration"
  | .classStaticBlockDeclaration => "ClassStaticBlockDeclaration"
  | .constructorDeclaration => "Constructor"
  | .getAccessor => "GetAccessor"
  | .setAccessor => "SetAccessor"
  | .callSignature => "CallSignature"
  | .constructSignature => "ConstructSignature"
  | .indexSignature => "IndexSignature"
  | .typePredicate => "TypePredicate"
  | .typeReference => "TypeReference"
  | .functionType => "FunctionType"
  | .constructorType => "ConstructorType"
  | .typeQuery => "TypeQuery"
  | .typeLiteral => "TypeLiteral"
  | .arrayType => "ArrayType"
  | .tupleType => "TupleType"
  | .optionalType => "OptionalType"
  | .restType => "RestType"
  | .unionType => "UnionType"
  | .intersectionType => "IntersectionType"
  | .conditionalType => "ConditionalType"
  | .inferType => "InferType"
  | .parenthesizedType => "ParenthesizedType"
  | .thisType => "ThisType"
  | .typeOperator => "TypeOperator"
  | .indexedAccessType => "IndexedAccessType"
  | .mappedType => "MappedType"
  | .literalType => "LiteralType"
  | .namedTupleMember => "NamedTupleMember"
  | .templateLiteralType => "TemplateLiteralType"
  | .templateLiteralTypeSpan => "TemplateLiteralTypeSpan"
  | .importType => "ImportType"
  | .objectBindingPattern => "ObjectBindingPattern"
  | .arrayBindingPattern => "ArrayBindingPattern"
  | .bindingElement => "BindingElement"
  | .arrayLiteralExpression => "ArrayLiteralExpression"
  | .objectLiteralExpression => "ObjectLiteralExpression"
  | .propertyAccessExpression => "PropertyAccessExpression"
  | .elementAccessExpression => "ElementAccessExpression"
  | .callExpression => "CallExpression"
  | .newExpression => "NewExpression"
  | .taggedTemplateExpression => "TaggedTemplateExpression"
  | .typeAssertionExpression => "TypeAssertionExpression"
  | .parenthesizedExpression => "ParenthesizedExpression"
  | .functionExpression => "FunctionExpression"
  | .arrowFunction => "ArrowFunction"
  | .deleteExpression => "DeleteExpression"
  | .typeOfExpression => "TypeOfExpression"
  | .voidExpression => "VoidExpression"
  | .awaitExpression => "AwaitExpression"
  | .prefixUnaryExpression => "PrefixUnaryExpression"
  | .postfixUnaryExpression => "PostfixUnaryExpression"
  | .binaryExpression => "BinaryExpression"
  | .conditionalExpression => "ConditionalExpression"
  | .templateExpression => "TemplateExpression"
  | .yieldExpression => "YieldExpression"
  | .spreadElement => "SpreadElement"
  | .classExpression => "ClassExpression"
  | .omittedExpression => "OmittedExpression"
  | .expressionWithTypeArguments => "ExpressionWithTypeArguments"
  | .asExpression => "AsExpression"
  | .nonNullExpression => "NonNullExpression"
  | .metaProperty => "MetaProperty"
  | .satisfiesExpression => "SatisfiesExpression"
  | .templateSpan => "TemplateSpan"
  | .semicolonClassElement => "SemicolonClassElement"
  | .block => "Block"
  | .emptyStatement => "EmptyStatement"
  | .variableStatement => "VariableStatement"
  | .expressionStatement => "ExpressionStatement"
  | .ifStatement => "IfStatement"
  | .doStatement => "DoStatement"
  | .whileStatement => "WhileStatement"
  | .forStatement => "ForStatement"
  | .forInStatement => "ForInStatement"
  | .forOfStatement => "ForOfStatement"
  | .continueStatement => "ContinueStatement"
  | .breakStatement => "BreakStatement"
  | .returnStatement => "ReturnStatement"
  | .withStatement => "WithStatement"
  | .switchStatement => "SwitchStatement"
  | .labeledStatement => "LabeledStatement"
  | .throwStatement => "ThrowStatement"
  | .tryStatement => "TryStatement"
  | .debuggerStatement => "DebuggerStatement"
  | .variableDeclaration => "VariableDeclaration"
  | .variableDeclarationList => "VariableDeclarationList"
  | .functionDeclaration => "FunctionDeclaration"
  | .classDeclaration => "ClassDeclaration"
  | .interfaceDeclaration => "InterfaceDeclaration"
  | .typeAliasDeclaration => "TypeAliasDeclaration"
  | .enumDeclaration => "EnumDeclaration"
  | .moduleDeclaration => "ModuleDeclaration"
  | .moduleBlock => "ModuleBlock"
  | .caseBlock => "CaseBlock"
  | .namespaceExportDeclaration => "NamespaceExportDeclaration"
  | .importEqualsDeclaration => "ImportEqualsDeclaration"
  | .importDeclaration => "ImportDeclaration"
  | .importClause => "ImportClause"
  | .namespaceImport => "NamespaceImport"
  | .namedImports => "NamedImports"
  | .importSpecifier => "ImportSpecifier"
  | .exportAssignment => "ExportAssignment"
  | .exportDeclaration => "ExportDeclaration"
  | .namedExports => "NamedExports"
  | .namespaceExport => "NamespaceExport"
  | .exportSpecifier => "ExportSpecifier"
  | .missingDeclaration => "MissingDeclaration"
  | .externalModuleReference => "ExternalModuleReference"
  | .jsxElement => "JsxElement"
  | .jsxSelfClosingElement => "JsxSelfClosingElement"
  | .jsxOpeningElement => "JsxOpeningElement"
  | .jsxClosingElement => "JsxClosingElement"
  | .jsxFragment => "JsxFragment"
  | .jsxOpeningFragment => "JsxOpeningFragment"
  | .jsxClosingFragment => "JsxClosingFragment"
  | .jsxAttribute => "JsxAttribute"
  | .jsxAttributes => "JsxAttributes"
  | .jsxSpreadAttribute => "JsxSpreadAttribute"
  | .jsxExpression => "JsxExpression"
  | .jsxNamespacedName => "JsxNamespacedName"
  | .caseClause => "CaseClause"
  | .defaultClause => "DefaultClause"
  | .heritageClause => "HeritageClause"
  | .catchClause => "CatchClause"
  | .importAttributes => "ImportAttributes"
  | .importAttribute => "ImportAttribute"
  | .propertyAssignment => "PropertyAssignment"
  | .shorthandPropertyAssignment => "ShorthandPropertyAssignment"
  | .spreadAssignment => "SpreadAssignment"
  | .enumMember => "EnumMember"
  | .sourceFile => "SourceFile"
  | .docAllType => "JSDocAllType"
  | .docUnknownType => "JSDocUnknownType"
  | .docNullableType => "JSDocNullableType"
  | .docNonNullableType => "JSDocNonNullableType"
  | .docFunctionType => "JSDocFunctionType"
  | .docVariadicType => "JSDocVariadicType"
  | .docOptionalType => "JSDocOptionalType"
  | .docNamePathType => "JSDocNamepathType"

/-- The words reserved everywhere. -/
def reservedWords : List (Kind × String) := [
  (.breakKeyword, "break"), (.caseKeyword, "case"), (.catchKeyword, "catch"),
  (.classKeyword, "class"), (.constKeyword, "const"), (.continueKeyword, "continue"),
  (.debuggerKeyword, "debugger"), (.defaultKeyword, "default"), (.deleteKeyword, "delete"),
  (.doKeyword, "do"), (.elseKeyword, "else"), (.enumKeyword, "enum"), (.exportKeyword, "export"),
  (.extendsKeyword, "extends"), (.falseKeyword, "false"), (.finallyKeyword, "finally"),
  (.forKeyword, "for"), (.functionKeyword, "function"), (.ifKeyword, "if"),
  (.importKeyword, "import"), (.inKeyword, "in"), (.instanceOfKeyword, "instanceof"),
  (.newKeyword, "new"), (.nullKeyword, "null"), (.returnKeyword, "return"),
  (.superKeyword, "super"), (.switchKeyword, "switch"), (.thisKeyword, "this"),
  (.throwKeyword, "throw"), (.trueKeyword, "true"), (.tryKeyword, "try"),
  (.typeOfKeyword, "typeof"), (.varKeyword, "var"), (.voidKeyword, "void"),
  (.whileKeyword, "while"), (.withKeyword, "with")]

/-- The words reserved in strict code. -/
def strictWords : List (Kind × String) := [
  (.implementsKeyword, "implements"), (.interfaceKeyword, "interface"), (.letKeyword, "let"),
  (.packageKeyword, "package"), (.privateKeyword, "private"), (.protectedKeyword, "protected"),
  (.publicKeyword, "public"), (.staticKeyword, "static"), (.yieldKeyword, "yield")]

/-- The words with a meaning in some places only. -/
def contextualWords : List (Kind × String) := [
  (.abstractKeyword, "abstract"), (.accessorKeyword, "accessor"), (.asKeyword, "as"),
  (.assertsKeyword, "asserts"), (.assertKeyword, "assert"), (.anyKeyword, "any"),
  (.asyncKeyword, "async"), (.awaitKeyword, "await"), (.booleanKeyword, "boolean"),
  (.constructorKeyword, "constructor"), (.declareKeyword, "declare"), (.getKeyword, "get"),
  (.inferKeyword, "infer"), (.intrinsicKeyword, "intrinsic"), (.isKeyword, "is"),
  (.keyOfKeyword, "keyof"), (.moduleKeyword, "module"), (.namespaceKeyword, "namespace"),
  (.neverKeyword, "never"), (.outKeyword, "out"), (.readonlyKeyword, "readonly"),
  (.requireKeyword, "require"), (.numberKeyword, "number"), (.objectKeyword, "object"),
  (.satisfiesKeyword, "satisfies"), (.setKeyword, "set"), (.stringKeyword, "string"),
  (.symbolKeyword, "symbol"), (.typeKeyword, "type"), (.undefinedKeyword, "undefined"),
  (.uniqueKeyword, "unique"), (.unknownKeyword, "unknown"), (.usingKeyword, "using"),
  (.fromKeyword, "from"), (.globalKeyword, "global"), (.bigIntKeyword, "bigint"),
  (.overrideKeyword, "override"), (.ofKeyword, "of"), (.deferKeyword, "defer")]

/-- Every word of the language and its kind. -/
def words : List (Kind × String) :=
  reservedWords ++ strictWords ++ contextualWords

/-- Whether a kind is a word reserved everywhere. -/
def isReservedWord : Kind → Bool
  | .breakKeyword | .caseKeyword | .catchKeyword | .classKeyword | .constKeyword
  | .continueKeyword | .debuggerKeyword | .defaultKeyword | .deleteKeyword | .doKeyword
  | .elseKeyword | .enumKeyword | .exportKeyword | .extendsKeyword | .falseKeyword
  | .finallyKeyword | .forKeyword | .functionKeyword | .ifKeyword | .importKeyword | .inKeyword
  | .instanceOfKeyword | .newKeyword | .nullKeyword | .returnKeyword | .superKeyword
  | .switchKeyword | .thisKeyword | .throwKeyword | .trueKeyword | .tryKeyword | .typeOfKeyword
  | .varKeyword | .voidKeyword | .whileKeyword | .withKeyword => true
  | _ => false

/-- Whether a kind is a word reserved in strict code only. -/
def isStrictWord : Kind → Bool
  | .implementsKeyword | .interfaceKeyword | .letKeyword | .packageKeyword | .privateKeyword
  | .protectedKeyword | .publicKeyword | .staticKeyword | .yieldKeyword => true
  | _ => false

/-- Whether a kind is a word with a meaning in some places only. -/
def isContextualWord : Kind → Bool
  | .abstractKeyword | .accessorKeyword | .asKeyword | .assertsKeyword | .assertKeyword
  | .anyKeyword | .asyncKeyword | .awaitKeyword | .booleanKeyword | .constructorKeyword
  | .declareKeyword | .getKeyword | .inferKeyword | .intrinsicKeyword | .isKeyword
  | .keyOfKeyword | .moduleKeyword | .namespaceKeyword | .neverKeyword | .outKeyword
  | .readonlyKeyword | .requireKeyword | .numberKeyword | .objectKeyword | .satisfiesKeyword
  | .setKeyword | .stringKeyword | .symbolKeyword | .typeKeyword | .undefinedKeyword
  | .uniqueKeyword | .unknownKeyword | .usingKeyword | .fromKeyword | .globalKeyword
  | .bigIntKeyword | .overrideKeyword | .ofKeyword | .deferKeyword => true
  | _ => false

/-- Whether a kind is a word of the language. -/
def isWord (kind : Kind) : Bool :=
  kind.isReservedWord || kind.isStrictWord || kind.isContextualWord

/-- Whether a kind is a word that may also be a plain name. -/
def isPlainWord (kind : Kind) : Bool :=
  kind.isStrictWord || kind.isContextualWord

/-- Whether a kind is an assignment operator. -/
def isAssignment : Kind → Bool
  | .equalsToken | .plusEqualsToken | .minusEqualsToken | .asteriskEqualsToken
  | .asteriskAsteriskEqualsToken | .slashEqualsToken | .percentEqualsToken
  | .lessThanLessThanEqualsToken | .greaterThanGreaterThanEqualsToken
  | .greaterThanGreaterThanGreaterThanEqualsToken | .ampersandEqualsToken | .barEqualsToken
  | .barBarEqualsToken | .ampersandAmpersandEqualsToken | .questionQuestionEqualsToken
  | .caretEqualsToken => true
  | _ => false

/-- The spelling of a fixed token, empty for every other kind. -/
def spelling : Kind → String
  | .openBraceToken => "\x7b"
  | .closeBraceToken => "\x7d"
  | .openParenToken => "("
  | .closeParenToken => ")"
  | .openBracketToken => "["
  | .closeBracketToken => "]"
  | .dotToken => "."
  | .dotDotDotToken => "..."
  | .semicolonToken => ";"
  | .commaToken => ","
  | .questionDotToken => "?."
  | .lessThanToken => "<"
  | .lessThanSlashToken => "</"
  | .greaterThanToken => ">"
  | .lessThanEqualsToken => "<="
  | .greaterThanEqualsToken => ">="
  | .equalsEqualsToken => "=="
  | .exclamationEqualsToken => "!="
  | .equalsEqualsEqualsToken => "==="
  | .exclamationEqualsEqualsToken => "!=="
  | .equalsGreaterThanToken => "=>"
  | .plusToken => "+"
  | .minusToken => "-"
  | .asteriskToken => "*"
  | .asteriskAsteriskToken => "**"
  | .slashToken => "/"
  | .percentToken => "%"
  | .plusPlusToken => "++"
  | .minusMinusToken => "--"
  | .lessThanLessThanToken => "<<"
  | .greaterThanGreaterThanToken => ">>"
  | .greaterThanGreaterThanGreaterThanToken => ">>>"
  | .ampersandToken => "&"
  | .barToken => "|"
  | .caretToken => "^"
  | .exclamationToken => "!"
  | .tildeToken => "~"
  | .ampersandAmpersandToken => "&&"
  | .barBarToken => "||"
  | .questionToken => "?"
  | .colonToken => ":"
  | .atToken => "@"
  | .questionQuestionToken => "??"
  | .equalsToken => "="
  | .plusEqualsToken => "+="
  | .minusEqualsToken => "-="
  | .asteriskEqualsToken => "*="
  | .asteriskAsteriskEqualsToken => "**="
  | .slashEqualsToken => "/="
  | .percentEqualsToken => "%="
  | .lessThanLessThanEqualsToken => "<<="
  | .greaterThanGreaterThanEqualsToken => ">>="
  | .greaterThanGreaterThanGreaterThanEqualsToken => ">>>="
  | .ampersandEqualsToken => "&="
  | .barEqualsToken => "|="
  | .barBarEqualsToken => "||="
  | .ampersandAmpersandEqualsToken => "&&="
  | .questionQuestionEqualsToken => "??="
  | .caretEqualsToken => "^="
  | .breakKeyword => "break"
  | .caseKeyword => "case"
  | .catchKeyword => "catch"
  | .classKeyword => "class"
  | .constKeyword => "const"
  | .continueKeyword => "continue"
  | .debuggerKeyword => "debugger"
  | .defaultKeyword => "default"
  | .deleteKeyword => "delete"
  | .doKeyword => "do"
  | .elseKeyword => "else"
  | .enumKeyword => "enum"
  | .exportKeyword => "export"
  | .extendsKeyword => "extends"
  | .falseKeyword => "false"
  | .finallyKeyword => "finally"
  | .forKeyword => "for"
  | .functionKeyword => "function"
  | .ifKeyword => "if"
  | .importKeyword => "import"
  | .inKeyword => "in"
  | .instanceOfKeyword => "instanceof"
  | .newKeyword => "new"
  | .nullKeyword => "null"
  | .returnKeyword => "return"
  | .superKeyword => "super"
  | .switchKeyword => "switch"
  | .thisKeyword => "this"
  | .throwKeyword => "throw"
  | .trueKeyword => "true"
  | .tryKeyword => "try"
  | .typeOfKeyword => "typeof"
  | .varKeyword => "var"
  | .voidKeyword => "void"
  | .whileKeyword => "while"
  | .withKeyword => "with"
  | .implementsKeyword => "implements"
  | .interfaceKeyword => "interface"
  | .letKeyword => "let"
  | .packageKeyword => "package"
  | .privateKeyword => "private"
  | .protectedKeyword => "protected"
  | .publicKeyword => "public"
  | .staticKeyword => "static"
  | .yieldKeyword => "yield"
  | .abstractKeyword => "abstract"
  | .accessorKeyword => "accessor"
  | .asKeyword => "as"
  | .assertsKeyword => "asserts"
  | .assertKeyword => "assert"
  | .anyKeyword => "any"
  | .asyncKeyword => "async"
  | .awaitKeyword => "await"
  | .booleanKeyword => "boolean"
  | .constructorKeyword => "constructor"
  | .declareKeyword => "declare"
  | .getKeyword => "get"
  | .inferKeyword => "infer"
  | .intrinsicKeyword => "intrinsic"
  | .isKeyword => "is"
  | .keyOfKeyword => "keyof"
  | .moduleKeyword => "module"
  | .namespaceKeyword => "namespace"
  | .neverKeyword => "never"
  | .outKeyword => "out"
  | .readonlyKeyword => "readonly"
  | .requireKeyword => "require"
  | .numberKeyword => "number"
  | .objectKeyword => "object"
  | .satisfiesKeyword => "satisfies"
  | .setKeyword => "set"
  | .stringKeyword => "string"
  | .symbolKeyword => "symbol"
  | .typeKeyword => "type"
  | .undefinedKeyword => "undefined"
  | .uniqueKeyword => "unique"
  | .unknownKeyword => "unknown"
  | .usingKeyword => "using"
  | .fromKeyword => "from"
  | .globalKeyword => "global"
  | .bigIntKeyword => "bigint"
  | .overrideKeyword => "override"
  | .ofKeyword => "of"
  | .deferKeyword => "defer"
  | _ => ""

end Kind

end Codemod.Syntax
