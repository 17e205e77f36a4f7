/-! # Identifiers

Class names, entity names and function names become symbols of generated code, so they are
confined to what all target languages share.

* `Identifier.hasForm`: a letter or underscore, then letters, digits and underscores, all ASCII.
* `Identifier.reserved`: the words that are set aside.
* `Identifier.isValid`: the form of a symbol, and no reserved word.
-/

namespace AppConfig.Identifier
set_option autoImplicit false

/-- A character that may begin a symbol. -/
def isStart (c : Char) : Bool :=
  ('A' ≤ c && c ≤ 'Z') || ('a' ≤ c && c ≤ 'z') || c = '_'

/-- A character that may follow in a symbol. -/
def isPart (c : Char) : Bool :=
  isStart c || ('0' ≤ c && c ≤ '9')

/-- The form of a symbol. -/
def hasForm : List Char → Bool
  | [] => false
  | c :: rest => isStart c && rest.all isPart

/-- The words that are set aside: those of C and C++ first, then what Rust, Python and Java
add. -/
def reserved : List String :=
  ["auto", "break", "case", "char", "class", "const", "continue", "default", "delete", "do",
   "double", "else", "enum", "extern", "float", "for", "friend", "goto", "if", "inline", "int",
   "long", "namespace", "new", "operator", "private", "protected", "public", "register", "return",
   "short", "signed", "sizeof", "static", "struct", "switch", "template", "this", "throw", "try",
   "typedef", "typename", "union", "unsigned", "using", "virtual", "void", "volatile", "while",
   "bool", "true", "false", "nullptr",
   "as", "crate", "dyn", "fn", "impl", "in", "let", "loop", "match", "mod", "move", "mut", "pub",
   "ref", "self", "Self", "super", "trait", "type", "unsafe", "use", "where", "async", "await",
   "and", "def", "del", "elif", "except", "False", "finally", "from", "global", "import", "is",
   "lambda", "None", "nonlocal", "not", "or", "pass", "raise", "True", "with", "yield",
   "abstract", "boolean", "byte", "catch", "extends", "final", "implements", "instanceof",
   "interface", "native", "package", "synchronized", "throws", "transient", "null"]

/-- A name that can be a symbol. -/
def isValid (name : String) : Bool :=
  hasForm name.toList && !reserved.contains name

end AppConfig.Identifier
