import I2cTopology.Artifact.Error

/-!
# Identifiers of generated items

Free text becomes an identifier by its words, the runs of ASCII letters and digits in it. A scope sees to it that no
two items get the same one.

- `Identifier.flatten_words`: the words hold each letter and digit of the text once;
- `Scope.claim`: an identifier goes to the first item that asks for it.
-/

namespace I2cTopology

namespace Identifier

/-- Whether a character belongs to a word. -/
def isWordChar (c : Char) : Bool := c.isAlphanum

/-- Puts a word in front, unless it is empty. -/
def consWord (word : List Char) (words : List (List Char)) : List (List Char) :=
  if word.isEmpty then words else word :: words

/-- The words of a text whose beginning `word` has been read. -/
def wordsFrom (word : List Char) : List Char → List (List Char)
  | [] => consWord word []
  | c :: cs => if isWordChar c then wordsFrom (word ++ [c]) cs else consWord word (wordsFrom [] cs)

/-- The words of a text. -/
def words (text : List Char) : List (List Char) := wordsFrom [] text

theorem flatten_consWord (word : List Char) (ws : List (List Char)) :
    (consWord word ws).flatten = word ++ ws.flatten := by
  cases word <;> simp [consWord]

theorem flatten_wordsFrom (word cs : List Char) :
    (wordsFrom word cs).flatten = word ++ cs.filter isWordChar := by
  induction cs generalizing word with
  | nil => simp [wordsFrom, flatten_consWord]
  | cons c cs ih =>
    by_cases h : isWordChar c = true
    · simp [wordsFrom, h, ih]
    · simp [wordsFrom, h, ih, flatten_consWord]

/-- The words hold each letter and digit of the text once. -/
theorem flatten_words (text : List Char) : (words text).flatten = text.filter isWordChar := by
  simp [words, flatten_wordsFrom]

/-- The words that the generated language keeps for itself. -/
def reserved : List String := [
  "abstract", "as", "async", "await", "become", "box", "break", "const", "continue", "crate", "do", "dyn", "else",
  "enum", "extern", "false", "final", "fn", "for", "if", "impl", "in", "let", "loop", "macro", "match", "mod", "move",
  "mut", "override", "priv", "pub", "ref", "return", "self", "static", "struct", "super", "trait", "true", "try",
  "type", "typeof", "unsafe", "unsized", "use", "virtual", "where", "while", "yield"]

/-- Words with an underscore between each two. -/
def joined (ws : List (List Char)) : List Char := (ws.intersperse ['_']).flatten

/-- Whether an identifier may start like this. -/
def startsWell : List Char → Bool
  | [] => false
  | c :: _ => !c.isDigit

/-- The identifier of a text, its letters put into one case. An underscore in front makes up for a missing letter, and
one at the end sets it apart from a reserved word. -/
def derive (letter : Char → Char) (text : String) : String :=
  let base := joined ((words text.toList).map (·.map letter))
  let start := if startsWell base then base else '_' :: base
  let whole := String.ofList start
  if reserved.contains whole then whole ++ "_" else whole

/-- The identifier of a function or a module. -/
def snake (text : String) : String := derive Char.toLower text

/-- The identifier of a constant. -/
def upper (text : String) : String := derive Char.toUpper text

end Identifier

/-! ## Scopes -/

/-- The identifiers in use in one generated scope, each with the item that has it. -/
structure Scope where
  owners : OrderedMap String String := {}

namespace Scope

/-- Gives `identifier` to `owner`, unless another item has it. -/
def claim (s : Scope) (identifier owner : String) : Except EmitError Scope :=
  match s.owners.get? identifier with
  | some other => .error (.nameClash owner other identifier)
  | none => .ok ⟨s.owners.insert identifier owner⟩

/-- Gives out identifiers one after the other. -/
def claimAll (s : Scope) (claims : List (String × String)) : Except EmitError Scope :=
  claims.foldlM (fun s (identifier, owner) => s.claim identifier owner) s

end Scope

end I2cTopology
