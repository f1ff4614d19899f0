import ConsumerChannel.Yaml.Tag
import ConsumerChannel.Yaml.Timestamp

/-!
What the text of a plain scalar is. Words for nothing and for truth, numbers in several notations and
points in time have forms of their own; any other text is just a text.
-/
namespace ConsumerChannel.Yaml

/-- A digit or an underscore. -/
def isRowChar (c : Char) : Bool := Text.isPlainDigit c || c == '_'

/-- A row of digits and underscores that starts with a digit. -/
def isRow (s : List Char) : Bool := s.head?.any Text.isPlainDigit && s.all isRowChar

/-- A text without a sign at its front. -/
def unsigned (s : List Char) : List Char := (Numeral.takeSign s).2

/-- The parts of a text between colons. -/
def colonParts : List Char → List (List Char)
  | [] => [[]]
  | c :: rest =>
    match colonParts rest with
    | [] => [[c]]
    | part :: parts => if c == ':' then [] :: part :: parts else (c :: part) :: parts

/-- A number below sixty of one digit or two. -/
def isSixtieth : List Char → Bool
  | [a] => Text.isPlainDigit a
  | [a, b] => '0' ≤ a && a ≤ '5' && Text.isPlainDigit b
  | _ => false

/-- A row with parts behind it that count sixtieths. -/
def isSexagesimal (s : List Char) : Bool :=
  match colonParts s with
  | first :: part :: parts => isRow first && (part :: parts).all isSixtieth
  | _ => false

/-- A whole number without its sign: binary, octal, decimal, hexadecimal, or counted in sixties. -/
def isWholeBody (s : List Char) : Bool :=
  match s with
  | '0' :: 'b' :: c :: rest => (c :: rest).all fun d => d == '0' || d == '1' || d == '_'
  | '0' :: 'x' :: c :: rest => (c :: rest).all fun d => (Text.hexValue? d).isSome || d == '_'
  | ['0'] => true
  | '0' :: c :: rest => (c :: rest).all fun d => ('0' ≤ d && d ≤ '7') || d == '_'
  | other => isRow other || isSexagesimal other

/-- The exponent of a floating-point number: nothing, or a mark, a sign and digits. -/
def isExponent : List Char → Bool
  | [] => true
  | [_] => false
  | e :: sign :: digits =>
    (e == 'e' || e == 'E') && (sign == '+' || sign == '-') && !digits.isEmpty &&
      digits.all Text.isPlainDigit

/-- What follows the point of a floating-point number: digits, and perhaps an exponent. -/
def isFraction (s : List Char) : Bool := isExponent (s.dropWhile isRowChar)

/-- A floating-point number: with digits before the point, or counted in sixties, or starting with the
point, or one of the words for what is not finite. -/
def isFloat (s : List Char) : Bool :=
  let body := unsigned s
  let whole := body.takeWhile (· != '.')
  (match body.dropWhile (· != '.') with
    | [] => false
    | _ :: fraction =>
      (isRow whole && isFraction fraction) || (isSexagesimal whole && fraction.all isRowChar)) ||
    (match s with
      | '.' :: fraction => fraction.head?.any Text.isPlainDigit && isFraction fraction
      | _ => false) ||
    [".inf", ".Inf", ".INF"].contains (String.ofList body) ||
    [".nan", ".NaN", ".NAN"].contains (String.ofList s)

/-- The words for truth values, in small letters. -/
def truthWords : List (String × Bool) :=
  [("yes", true), ("no", false), ("true", true), ("false", false), ("on", true), ("off", false)]

/-- The spellings of a word in small letters, with a capital, and in capitals. -/
def spellings (word : String) : List String :=
  [word, word.capitalize, word.toUpper]

/-- The tag of the text of a plain scalar. A line end after the text does not count. -/
def Tag.ofPlain (s : String) : Tag :=
  let cs := s.toList
  let body := if cs.length ≥ 2 && cs.getLast? == some '\n' then cs.dropLast else cs
  let word := String.ofList body
  if ["", "~", "null", "Null", "NULL"].contains word then .null
  else if truthWords.any fun row => (spellings row.1).contains word then .bool
  else if isWholeBody (unsigned body) then .int
  else if isFloat body then .float
  else if (Timestamp.read? body).any Timestamp.isStandard then .timestamp
  else if word == "<<" then .merge
  else if word == "=" then .default
  else if ["!", "&", "*"].contains word then .unknown
  else .text

end ConsumerChannel.Yaml
