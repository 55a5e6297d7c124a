import SymbolTags.Rule.Basic

namespace SymbolTags

/-!
# Rule tables

A `RuleTable` assigns rules to places, the last assignment to a place winning.
`RuleTable.standard` is the table for ECMAScript; a place that it does not list is
unknown, so that gaps stay visible.
-/

/-- Rules assigned to places, from the first assignment to the last. -/
abbrev RuleTable := List (Place × Rule)

namespace RuleTable

/-- The rule last assigned to a place. -/
def rule? (table : RuleTable) (p : Place) : Option Rule :=
  (table.reverse.find? fun entry => entry.1 == p).map (·.2)

/-- One rule for a list of kinds and properties. -/
def assign (rule : Rule) (places : List (String × String)) : RuleTable :=
  places.map fun p => (⟨p.1, p.2⟩, rule)

/-- The entries by kind and property. -/
def sorted (table : RuleTable) : RuleTable :=
  table.mergeSort fun a b =>
    a.1.kind < b.1.kind || (a.1.kind == b.1.kind && a.1.prop ≤ b.1.prop)

/-- Places that introduce a name. -/
def definitions : RuleTable :=
  assign (.always .definition)
    [("ArrayPattern", "elements"), ("ClassDeclaration", "id"),
     -- The first branch of a conditional counts as a definition, the second does not.
     ("ConditionalExpression", "consequent"),
     ("ExportDefaultDeclaration", "declaration"), ("FunctionDeclaration", "id"),
     ("FunctionExpression", "id"), ("ImportNamespaceSpecifier", "local"),
     ("LabeledStatement", "label")]

/-- Places that look one step further. -/
def contextual : RuleTable :=
  assign .exportedName [("ExportSpecifier", "exported")] ++
  assign .importedBinding [("ImportSpecifier", "local")] ++
  assign .methodName [("MethodDefinition", "key")] ++
  assign .propertyKey [("Property", "key")] ++
  assign .declaredName [("VariableDeclarator", "id")] ++
  assign .loopScoped
    [("BinaryExpression", "left"), ("BinaryExpression", "right"), ("ForStatement", "update"),
     ("UnaryExpression", "argument"), ("UpdateExpression", "argument")]

/-- Places that use a name. -/
def references : RuleTable :=
  assign (.always .reference)
    [("ArrayExpression", "elements"), ("ArrowFunctionExpression", "body"),
     ("AssignmentExpression", "right"), ("BreakStatement", "label"),
     ("CallExpression", "arguments"), ("CallExpression", "callee"),
     ("ClassDeclaration", "superClass"), ("ConditionalExpression", "alternate"),
     ("ConditionalExpression", "test"), ("ContinueStatement", "label"),
     ("DoWhileStatement", "test"), ("ExpressionStatement", "expression"),
     ("ForInStatement", "right"), ("ForOfStatement", "right"), ("ForStatement", "test"),
     ("IfStatement", "test"), ("ImportDefaultSpecifier", "local"),
     ("ImportSpecifier", "imported"), ("LogicalExpression", "left"),
     ("LogicalExpression", "right"), ("MemberExpression", "object"),
     ("MemberExpression", "property"), ("NewExpression", "arguments"),
     ("NewExpression", "callee"), ("Property", "value"), ("ReturnStatement", "argument"),
     ("SequenceExpression", "expressions"), ("SpreadElement", "argument"),
     ("SwitchCase", "test"), ("SwitchStatement", "discriminant"),
     ("TaggedTemplateExpression", "tag"), ("TemplateLiteral", "expressions"),
     ("ThrowStatement", "argument"), ("VariableDeclarator", "init"),
     ("WhileStatement", "test"), ("YieldExpression", "argument")]

/-- Local bindings and assignment targets, which are not reported. -/
def ignored : RuleTable :=
  assign (.always .ignore)
    [("ArrowFunctionExpression", "params"), ("AssignmentExpression", "left"),
     ("AssignmentPattern", "left"), ("CatchClause", "param"), ("ClassExpression", "id"),
     ("ExportSpecifier", "local"), ("ForInStatement", "left"), ("ForOfStatement", "left"),
     ("FunctionDeclaration", "params"), ("FunctionExpression", "params"),
     ("RestElement", "argument")]

/-- The rules for ECMAScript. -/
def standard : RuleTable :=
  definitions ++ contextual ++ references ++ ignored

end RuleTable

end SymbolTags
