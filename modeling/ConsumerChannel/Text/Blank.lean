/-!
White space. Two sets are in use: the white-space property of the character standard, which number
texts are trimmed of, and that set with the four information separators, which prose is trimmed of.
-/
namespace ConsumerChannel.Text

/-- A character that has the white-space property. -/
def isSpace (c : Char) : Bool :=
  let n := c.toNat
  (0x09 ≤ n && n ≤ 0x0D) || n == 0x20 || n == 0x85 || n == 0xA0 || n == 0x1680 ||
    (0x2000 ≤ n && n ≤ 0x200A) || n == 0x2028 || n == 0x2029 || n == 0x202F || n == 0x205F ||
    n == 0x3000

/-- A character that ends or starts no word: white space, or one of the separators U+001C to U+001F. -/
def isBlank (c : Char) : Bool :=
  isSpace c || (0x1C ≤ c.toNat && c.toNat ≤ 0x1F)

/-- Drops the characters at the front that satisfy the test. -/
def trimLeft (drop : Char → Bool) (s : List Char) : List Char :=
  s.dropWhile drop

/-- Drops the characters at the end that satisfy the test. -/
def trimRight (drop : Char → Bool) (s : List Char) : List Char :=
  (s.reverse.dropWhile drop).reverse

/-- Drops the characters at both ends that satisfy the test. -/
def trim (drop : Char → Bool) (s : List Char) : List Char :=
  trimRight drop (trimLeft drop s)

/-- The text without the given character at its end. -/
def dropTrailing (c : Char) (s : String) : String :=
  String.ofList (trimRight (· == c) s.toList)

/-- The text without the given character at its front. -/
def dropLeading (c : Char) (s : String) : String :=
  String.ofList (trimLeft (· == c) s.toList)

/-- A capital of the plain Latin alphabet as its small letter; any other character as it is. -/
def smallLetter (c : Char) : Char :=
  if 'A' ≤ c ∧ c ≤ 'Z' then Char.ofNat (c.toNat + 32) else c

/-- Whether a text is one word of small plain letters once blanks at its ends and the case of
plain letters are ignored. No character outside the plain alphabet has a small form among the
letters of `true`, so this is the test for truth of a setting. -/
def isWord (word : String) (s : String) : Bool :=
  (trim isBlank s.toList).map smallLetter == word.toList

end ConsumerChannel.Text
