import TapeToJava.Java.ClassName

/-! The names that the Java language allows for classes, said for ASCII names: identifiers that are neither words
of the language nor words that are kept for declarations. The words of the language are listed here by their use,
apart from the list that names are checked against. -/

namespace TapeToJava.Java

/-- The words that the language keeps for itself: names of primitive types, modifiers, words in the heads of
declarations, words of statements, words of expressions, words without a use, and literals. -/
def languageWords : List String :=
  ["boolean", "byte", "char", "double", "float", "int", "long", "short", "void"] ++
  ["abstract", "final", "native", "private", "protected", "public", "static", "strictfp", "synchronized",
    "transient", "volatile"] ++
  ["class", "enum", "extends", "implements", "import", "interface", "package", "throws"] ++
  ["assert", "break", "case", "catch", "continue", "default", "do", "else", "finally", "for", "if", "return",
    "switch", "throw", "try", "while"] ++
  ["instanceof", "new", "super", "this"] ++
  ["const", "goto", "_"] ++
  ["true", "false", "null"]

/-- The words that are identifiers in other places but no names of types. -/
def declarationWords : List String :=
  ["permits", "record", "sealed", "var", "yield"]

/-- An ASCII name that the language allows for a class. -/
structure IsTypeName (name : String) : Prop where
  nonempty : name.toList ≠ []
  start : ∀ c ∈ name.toList.head?, ¬c.isDigit
  letters : ∀ c ∈ name.toList, c.isAlphanum ∨ c = '_' ∨ c = '$'
  notReserved : name ∉ languageWords
  notDeclaration : name ∉ declarationWords

theorem isTypeName_iff {name : String} :
    IsTypeName name ↔ name.toList ≠ [] ∧ (∀ c ∈ name.toList.head?, ¬c.isDigit) ∧
      (∀ c ∈ name.toList, c.isAlphanum ∨ c = '_' ∨ c = '$') ∧ name ∉ languageWords ∧ name ∉ declarationWords :=
  ⟨fun h => ⟨h.nonempty, h.start, h.letters, h.notReserved, h.notDeclaration⟩,
    fun ⟨hne, hstart, hletters, hword, hdeclaration⟩ => ⟨hne, hstart, hletters, hword, hdeclaration⟩⟩

instance (name : String) : Decidable (IsTypeName name) :=
  decidable_of_iff
    (name.toList ≠ [] ∧ name.toList.head?.all (!·.isDigit) ∧
      (name.toList.all fun c => c.isAlphanum || c == '_' || c == '$') ∧
      name ∉ languageWords ∧ name ∉ declarationWords)
    (by simp [isTypeName_iff, Option.all_eq_true, or_assoc])

end TapeToJava.Java
