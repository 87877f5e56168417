import ServiceSpec.Text.Case

/-!
# Naming conventions

How identifiers are cut into words and put together again: camel case for keys, kebab case for path
segments, and plurals for collections.

Each convention is defined on characters, in `Naming.Chars`, and then for strings.

## Main definitions

* `words` : `"HTTPClient_id"` has the words `HTTP`, `Client` and `id`.
* `camelCase` : `"UserID"` becomes `"userId"`.
* `kebabCase` : `"StudentGroups"` becomes `"student-groups"`.
* `plural` : `"Category"` becomes `"Categories"`.
-/

namespace ServiceSpec.Naming

open ServiceSpec.Text

namespace Chars

/-- The characters that separate words and belong to none. -/
def isSeparator (c : Char) : Bool :=
  c = '_' || c = '-' || c = ' '

/-- Whether a word starts at `c` after `prev`: at a capital after a small letter or a digit, and at
the last capital of a run that a small letter follows. -/
def startsWord (prev c : Char) (next : Option Char) : Bool :=
  isUppercase c &&
    (isLowercase prev || prev.isDigit || (isUppercase prev && next.any isLowercase))

/-- Whether the word that holds `c` ends before the characters `rest`. -/
def endsBefore (c : Char) : List Char → Bool
  | [] => true
  | d :: tail => isSeparator d || startsWord c d tail.head?

/-- The words of an identifier, in order. -/
def words : List Char → List (List Char)
  | [] => []
  | c :: rest =>
    if isSeparator c then words rest
    else if endsBefore c rest then [c] :: words rest
    else (words rest).modifyHead (c :: ·)

/-- The first character in upper case, the others in lower case. -/
def capitalize : List Char → List Char
  | [] => []
  | c :: rest => upper c ++ rest.flatMap lower

/-- The first word in lower case, then the others capitalized. -/
def camelCase (cs : List Char) : List Char :=
  match words cs with
  | [] => []
  | w :: ws => lowerWord w ++ ws.flatMap capitalize

/-- The words in lower case, joined by hyphens. -/
def kebabCase (cs : List Char) : List Char :=
  ['-'].intercalate ((words cs).map lowerWord)

/-- Words whose plural follows no rule. -/
def irregular : List (String × String) :=
  [("person", "people"), ("child", "children"), ("man", "men"), ("woman", "women"),
   ("mouse", "mice"), ("goose", "geese"), ("tooth", "teeth"), ("foot", "feet")]

/-- Gives `replacement` the case of `word`: upper case if that has no small letter, capitalized if
it starts with a capital. -/
def matchCase (word replacement : List Char) : List Char :=
  if word.all (!isLowercase ·) then replacement.flatMap upper
  else if word.head?.any isUppercase then capitalize replacement
  else replacement

/-- Whether the text ends in the given one. -/
def endsIn (ending : String) (cs : List Char) : Bool :=
  ending.toList.isSuffixOf cs

/-- The plural of a single word. -/
def pluralWord (word : List Char) : List Char :=
  let low := lowerWord word
  match irregular.lookup (String.ofList low) with
  | some many => matchCase word many.toList
  | none =>
    if ["ss", "x", "z", "ch", "sh"].any (endsIn · low) then word ++ ['e', 's']
    else if endsIn "s" low then word
    else if endsIn "y" low && !(["ay", "ey", "oy", "uy"].any (endsIn · low)) then
      word.dropLast ++ ['i', 'e', 's']
    else word ++ ['s']

/-- The text before its last word, which has the given length. -/
def beforeLast (cs : List Char) (length : Nat) : List Char :=
  ((cs.reverse.dropWhile isSeparator).drop length).reverse

/-- The identifier with its last word in the plural.  Separators after that word are left out, and
an identifier without words is its own plural. -/
def plural (cs : List Char) : List Char :=
  match (words cs).getLast? with
  | none => cs
  | some last => beforeLast cs last.length ++ pluralWord last

end Chars

/-- The words of an identifier, in order. -/
def words (s : String) : List String :=
  (Chars.words s.toList).map String.ofList

/-- The first character in upper case, the others in lower case. -/
def capitalize (s : String) : String :=
  String.ofList (Chars.capitalize s.toList)

/-- The camel case of an identifier, used for the keys of payloads. -/
def camelCase (s : String) : String :=
  String.ofList (Chars.camelCase s.toList)

/-- The kebab case of an identifier, used for path segments. -/
def kebabCase (s : String) : String :=
  String.ofList (Chars.kebabCase s.toList)

/-- The plural of an identifier, used for collections. -/
def plural (s : String) : String :=
  String.ofList (Chars.plural s.toList)

end ServiceSpec.Naming
