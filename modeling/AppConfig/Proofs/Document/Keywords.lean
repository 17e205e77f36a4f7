import AppConfig.Proofs.Document.Names

/-! # Keywords

* `HasSymbolForm`: a letter or underscore, then letters, digits and underscores.
* `keywords`: the keywords and reserved words of a target language; `unguarded`: those of them that
  are not set aside.
* `mem_unguarded`: of the keywords of a language, the unguarded ones pass as identifiers and no
  others.
* `keywords_of_readDocument`: the names of a plan have the form of symbols, and none is a keyword
  of any target language but an unguarded one.
* `exists_keyword`: the name of a class may be a keyword of the language of its plan.
-/

namespace AppConfig
set_option autoImplicit false

namespace Identifier

/-! ## Form -/

structure HasSymbolForm (name : String) : Prop where
  head : ∃ c rest, name.toList = c :: rest ∧ (c.isAlpha = true ∨ c = '_')
  chars : ∀ c ∈ name.toList, c.isAlphanum = true ∨ c = '_'

theorem isStart_iff {c : Char} : isStart c = true ↔ c.isAlpha = true ∨ c = '_' := by
  have hupper : c.isUpper = ('A' ≤ c && c ≤ 'Z') := Bool.decide_and ('A' ≤ c) (c ≤ 'Z')
  have hlower : c.isLower = ('a' ≤ c && c ≤ 'z') := rfl
  have halpha : c.isAlpha = (c.isUpper || c.isLower) := rfl
  simp [isStart, halpha, hupper, hlower]

theorem isPart_iff {c : Char} : isPart c = true ↔ c.isAlphanum = true ∨ c = '_' := by
  have hdigit : c.isDigit = ('0' ≤ c && c ≤ '9') := rfl
  have halphanum : c.isAlphanum = (c.isAlpha || c.isDigit) := rfl
  rw [isPart, Bool.or_eq_true, isStart_iff, halphanum, hdigit, Bool.or_eq_true]
  exact or_right_comm

theorem hasForm_iff {name : String} : hasForm name.toList = true ↔ HasSymbolForm name := by
  cases hname : name.toList with
  | nil =>
    refine ⟨nofun, fun h => ?_⟩
    obtain ⟨c, rest, hcons, -⟩ := h.head
    rw [hname] at hcons
    cases hcons
  | cons c rest =>
    rw [hasForm, Bool.and_eq_true, List.all_eq_true, isStart_iff]
    constructor
    · rintro ⟨hc, hrest⟩
      refine ⟨⟨c, rest, hname, hc⟩, fun d hd => ?_⟩
      rw [hname] at hd
      rcases List.mem_cons.mp hd with rfl | hd
      · exact isPart_iff.mp (by rw [isPart, isStart_iff.mpr hc, Bool.true_or])
      · exact isPart_iff.mp (hrest d hd)
    · intro h
      obtain ⟨c', rest', hcons, hc⟩ := h.head
      obtain ⟨rfl, rfl⟩ := List.cons.inj (hname.symm.trans hcons)
      refine ⟨hc, fun d hd => isPart_iff.mpr (h.chars d ?_)⟩
      rw [hname]
      exact List.mem_cons_of_mem _ hd

theorem isValid_iff {name : String} :
    isValid name = true ↔ HasSymbolForm name ∧ name ∉ reserved := by
  simp [isValid, hasForm_iff]

/-! ## Keywords of the target languages -/

/-- The keywords and reserved words of C++20, C17, Rust 2021, Python 3 and Java 17. -/
def keywords : Language → List String
  | .cpp =>
    ["alignas", "alignof", "asm", "auto", "bool", "break", "case", "catch", "char", "char8_t",
     "char16_t", "char32_t", "class", "concept", "const", "consteval", "constexpr", "constinit",
     "const_cast", "continue", "co_await", "co_return", "co_yield", "decltype", "default", "delete",
     "do", "double", "dynamic_cast", "else", "enum", "explicit", "export", "extern", "false",
     "float", "for", "friend", "goto", "if", "inline", "int", "long", "mutable", "namespace", "new",
     "noexcept", "nullptr", "operator", "private", "protected", "public", "register",
     "reinterpret_cast", "requires", "return", "short", "signed", "sizeof", "static",
     "static_assert", "static_cast", "struct", "switch", "template", "this", "thread_local",
     "throw", "true", "try", "typedef", "typeid", "typename", "union", "unsigned", "using",
     "virtual", "void", "volatile", "wchar_t", "while", "and", "and_eq", "bitand", "bitor", "compl",
     "not", "not_eq", "or", "or_eq", "xor", "xor_eq"]
  | .c =>
    ["auto", "break", "case", "char", "const", "continue", "default", "do", "double", "else",
     "enum", "extern", "float", "for", "goto", "if", "inline", "int", "long", "register",
     "restrict", "return", "short", "signed", "sizeof", "static", "struct", "switch", "typedef",
     "union", "unsigned", "void", "volatile", "while", "_Alignas", "_Alignof", "_Atomic", "_Bool",
     "_Complex", "_Generic", "_Imaginary", "_Noreturn", "_Static_assert", "_Thread_local"]
  | .rust =>
    ["as", "async", "await", "break", "const", "continue", "crate", "dyn", "else", "enum", "extern",
     "false", "fn", "for", "if", "impl", "in", "let", "loop", "match", "mod", "move", "mut", "pub",
     "ref", "return", "self", "Self", "static", "struct", "super", "trait", "true", "type",
     "unsafe", "use", "where", "while", "abstract", "become", "box", "do", "final", "macro",
     "override", "priv", "try", "typeof", "unsized", "virtual", "yield"]
  | .python =>
    ["False", "None", "True", "and", "as", "assert", "async", "await", "break", "class", "continue",
     "def", "del", "elif", "else", "except", "finally", "for", "from", "global", "if", "import",
     "in", "is", "lambda", "nonlocal", "not", "or", "pass", "raise", "return", "try", "while",
     "with", "yield"]
  | .java =>
    ["abstract", "assert", "boolean", "break", "byte", "case", "catch", "char", "class", "const",
     "continue", "default", "do", "double", "else", "enum", "extends", "final", "finally", "float",
     "for", "goto", "if", "implements", "import", "instanceof", "int", "interface", "long",
     "native", "new", "package", "private", "protected", "public", "return", "short", "static",
     "strictfp", "super", "switch", "synchronized", "this", "throw", "throws", "transient", "try",
     "void", "volatile", "while", "_", "true", "false", "null"]

/-- The keywords that are not set aside. -/
def unguarded : Language → List String
  | .cpp =>
    ["alignas", "alignof", "asm", "char8_t", "char16_t", "char32_t", "concept", "consteval",
     "constexpr", "constinit", "const_cast", "co_await", "co_return", "co_yield", "decltype",
     "dynamic_cast", "explicit", "export", "mutable", "noexcept", "reinterpret_cast", "requires",
     "static_assert", "static_cast", "thread_local", "typeid", "wchar_t", "and_eq", "bitand",
     "bitor", "compl", "not_eq", "or_eq", "xor", "xor_eq"]
  | .c =>
    ["restrict", "_Alignas", "_Alignof", "_Atomic", "_Bool", "_Complex", "_Generic", "_Imaginary",
     "_Noreturn", "_Static_assert", "_Thread_local"]
  | .rust =>
    ["become", "box", "macro", "override", "priv", "typeof", "unsized"]
  | .python =>
    ["assert"]
  | .java =>
    ["assert", "strictfp", "_"]

theorem filter_keywords (language : Language) :
    (keywords language).filter isValid = unguarded language := by
  cases language <;> decide +kernel

theorem mem_unguarded {language : Language} {name : String} :
    name ∈ unguarded language ↔ name ∈ keywords language ∧ isValid name = true := by
  rw [← filter_keywords, List.mem_filter]

end Identifier

/-! ## Plans -/

namespace Document
open Identifier

/-- The namespace of an app and the names recorded with it have the form of symbols, and are no
keywords of any target language but unguarded ones. -/
theorem keywords_of_readDocument {site : Site} {doc : Json} {plan : Plan}
    (h : (readDocument site doc).result = .ok plan) : ∀ a ∈ plan.apps,
      ∀ name ∈ a.name :: a.identifiers, HasSymbolForm name ∧
        ∀ language, name ∈ keywords language → name ∈ unguarded language := by
  intro a ha name hname
  obtain ⟨o, -, hplan⟩ := readDocument_result_ok.mp h
  obtain ⟨index, inner, happ⟩ := hplan.apps.exists_object ha
  have hvalid : isValid name = true := by
    rcases List.mem_cons.mp hname with rfl | hname
    · exact happ.valid
    · rw [happ.identifiers] at hname
      exact happ.names_valid name hname
  exact ⟨(isValid_iff.mp hvalid).1, fun language hkeyword => mem_unguarded.mpr ⟨hkeyword, hvalid⟩⟩

theorem keywords_of_smallDocument : ∃ plan,
    (readDocument smallSite smallDocument).result = .ok plan ∧ ∀ a ∈ plan.apps,
      ∀ name ∈ a.name :: a.identifiers, HasSymbolForm name ∧
        ∀ language, name ∈ keywords language → name ∈ unguarded language := by
  obtain ⟨plan, hplan⟩ := exists_smallPlan
  exact ⟨plan, hplan, keywords_of_readDocument hplan⟩

/-! ## A class named by a keyword -/

def assertDocument : Json :=
  .object [("wolfes_version", .string "1.0.0"), ("platform", .int 0), ("lang", .int 3),
    ("apps", .list [.object [("namespace", .string "demo"), ("protocol_type", .int 0),
      ("nodes", .list [.object [("classname", .string "assert")]])]])]

theorem exists_keyword : ¬ ∀ (site : Site) (doc : Json) (plan : Plan),
    (readDocument site doc).result = .ok plan → ∀ a ∈ plan.apps,
      ∀ name ∈ a.name :: a.identifiers, name ∉ keywords plan.language := by
  intro h
  have hread : ∃ plan, (readDocument smallSite assertDocument).result = .ok plan ∧
      plan.language = .python ∧ ∃ a ∈ plan.apps, "assert" ∈ a.name :: a.identifiers :=
    ⟨_, rfl, rfl, _, List.mem_cons_self, by decide⟩
  obtain ⟨plan, hplan, hlanguage, a, ha, hname⟩ := hread
  have hfree := h smallSite assertDocument plan hplan a ha "assert" hname
  rw [hlanguage] at hfree
  exact hfree (by decide)

end Document
end AppConfig
