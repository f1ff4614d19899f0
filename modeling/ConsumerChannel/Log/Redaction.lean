import ConsumerChannel.Text.Blank

/-!
Redaction of addresses. A query parameter with one of a few names has its value replaced before the
address is logged; letters count as the same in either case, and so do the four characters outside
the plain alphabet that case folding takes to a plain letter.
-/
namespace ConsumerChannel.Redaction

/-- The parameters whose values are not logged. -/
def names : List (List Char) :=
  ["sig", "token", "key", "secret", "password", "auth"].map String.toList

/-- What stands for a value that is not logged. -/
def mark : List Char := "[REDACTED]".toList

/-- The plain small letter that a character counts as, or the character itself. -/
def foldChar (c : Char) : Char :=
  if c.toNat = 0x17F then 's'
  else if c.toNat = 0x212A then 'k'
  else if c.toNat = 0x130 ∨ c.toNat = 0x131 then 'i'
  else Text.smallLetter c

/-- Whether a character starts a parameter. -/
def isSeparator (c : Char) : Bool := c == '?' || c == '&'

/-- The part of a text that spells a name in any case, followed by the equals sign, and the rest. -/
def afterName? : (name s : List Char) → Option (List Char × List Char)
  | [], '=' :: rest => some (['='], rest)
  | n :: ns, c :: rest =>
    if foldChar c == n then (afterName? ns rest).map fun (spelt, tail) => (c :: spelt, tail)
    else none
  | _, _ => none

/-- A name that is not logged, as it is spelt with its equals sign, off the front of a text. -/
def sensitive? (s : List Char) : Option (List Char × List Char) :=
  names.findSome? fun name => afterName? name s

private theorem afterName?_length {name s spelt tail : List Char} (found : afterName? name s = some (spelt, tail)) :
    tail.length ≤ s.length := by
  induction name generalizing s spelt tail with
  | nil =>
    cases s with
    | nil => simp [afterName?] at found
    | cons c rest =>
      unfold afterName? at found
      split at found <;> simp_all
  | cons n ns ih =>
    cases s with
    | nil => simp [afterName?] at found
    | cons c rest =>
      simp only [afterName?] at found
      split at found
      · obtain ⟨pair, inner, same⟩ := Option.map_eq_some_iff.mp found
        obtain ⟨spelt', tail'⟩ := pair
        simp only [Prod.mk.injEq] at same
        obtain ⟨_, rfl⟩ := same
        exact Nat.le_succ_of_le (ih inner)
      · simp at found

private theorem sensitive?_length {s spelt tail : List Char} (found : sensitive? s = some (spelt, tail)) :
    tail.length ≤ s.length := by
  obtain ⟨name, _, inner⟩ := List.exists_of_findSome?_eq_some found
  exact afterName?_length inner

/-- The address with the values of such parameters replaced, up to the next `&` or the end. -/
def redact : List Char → List Char
  | [] => []
  | c :: rest =>
    if isSeparator c then
      match _found : sensitive? rest with
      | some (spelt, tail) => c :: spelt ++ mark ++ redact (tail.dropWhile (· != '&'))
      | none => c :: redact rest
    else c :: redact rest
termination_by s => s.length
decreasing_by
  · have short := sensitive?_length _found
    have drop := (List.dropWhile_sublist (· != '&') (l := tail)).length_le
    simp only [List.length_cons]
    omega
  · simp
  · simp

/-- The address as it is logged. -/
def redactText (address : String) : String := String.ofList (redact address.toList)

end ConsumerChannel.Redaction
