/-!
# Character classes

The two character classes that decide what a reader can see: white space, which is trimmed off
field values, and control characters, which are kept out of labels, comments and quoted names.

## Main definitions

- `isSpace` — the Unicode property `White_Space`
- `isControl` — the Unicode general category `Cc`
- `trim` — a text without its surrounding white space
- `isBlank` — a text that holds nothing but white space

## Design notes

Both classes are closed ranges of code points, so they are decided by comparisons and need no
table look-up. Everything is defined on lists of characters first; the versions on `String` only
convert.
-/

namespace InfraDiagram.Text

/-- The Unicode property `White_Space`: the five controls from tab to carriage return, the space,
    next line, no-break space, and the spaces and separators of the general blocks. -/
def isSpace (c : Char) : Bool :=
  (0x09 ≤ c.val && c.val ≤ 0x0D) || c.val == 0x20 || c.val == 0x85 || c.val == 0xA0 ||
    c.val == 0x1680 || (0x2000 ≤ c.val && c.val ≤ 0x200A) || c.val == 0x2028 ||
    c.val == 0x2029 || c.val == 0x202F || c.val == 0x205F || c.val == 0x3000

/-- The general category `Cc`: the C0 controls, delete, and the C1 controls. -/
def isControl (c : Char) : Bool :=
  c.val < 0x20 || (0x7F ≤ c.val && c.val ≤ 0x9F)

/-- Letters `A`-`Z` and `a`-`z`. -/
def isAsciiLetter (c : Char) : Bool :=
  ('a' ≤ c && c ≤ 'z') || ('A' ≤ c && c ≤ 'Z')

/-- Digits `0`-`9`. -/
def isAsciiDigit (c : Char) : Bool :=
  '0' ≤ c && c ≤ '9'

/-- The value of an ASCII digit; `0` stands for every other character. -/
def digitValue (c : Char) : Nat :=
  if isAsciiDigit c then c.toNat - '0'.toNat else 0

/-- The value of a hexadecimal digit of either case. -/
def hexValue? (c : Char) : Option Nat :=
  if isAsciiDigit c then some (c.toNat - '0'.toNat)
  else if 'a' ≤ c && c ≤ 'f' then some (c.toNat - 'a'.toNat + 10)
  else if 'A' ≤ c && c ≤ 'F' then some (c.toNat - 'A'.toNat + 10)
  else none

/-- The number that a run of ASCII digits denotes, leading zeros allowed. -/
def natOfDigits (digits : List Char) : Nat :=
  digits.foldl (fun n c => n * 10 + digitValue c) 0

/-- Drops the white space after the last visible character. -/
def dropSpaceEnd (cs : List Char) : List Char :=
  cs.foldr (fun c rest => if rest.isEmpty && isSpace c then [] else c :: rest) []

theorem dropSpaceEnd_cons (c : Char) (cs : List Char) :
    dropSpaceEnd (c :: cs) =
      if (dropSpaceEnd cs).isEmpty && isSpace c then [] else c :: dropSpaceEnd cs :=
  rfl

theorem dropSpaceEnd_dropSpaceEnd (cs : List Char) :
    dropSpaceEnd (dropSpaceEnd cs) = dropSpaceEnd cs := by
  induction cs with
  | nil => rfl
  | cons c cs ih =>
    rw [dropSpaceEnd_cons]
    split
    · rfl
    · rename_i h
      rw [dropSpaceEnd_cons, ih, if_neg h]

theorem length_dropSpaceEnd_le (cs : List Char) : (dropSpaceEnd cs).length ≤ cs.length := by
  induction cs with
  | nil => exact Nat.le_refl 0
  | cons c cs ih =>
    rw [dropSpaceEnd_cons]
    split
    · exact Nat.zero_le _
    · exact Nat.succ_le_succ ih

/-- The text without leading and trailing white space. -/
def trim (s : String) : String :=
  String.ofList (dropSpaceEnd (s.toList.dropWhile isSpace))

theorem trim_trim (s : String) : trim (trim s) = trim s := by
  have hstart : ∀ cs : List Char, (dropSpaceEnd (cs.dropWhile isSpace)).dropWhile isSpace =
      dropSpaceEnd (cs.dropWhile isSpace) := by
    intro cs
    cases h : cs.dropWhile isSpace with
    | nil => rfl
    | cons c rest =>
      -- what stays begins with a visible character, which nothing drops
      have hc : isSpace c = false := by
        have hhead := List.head_dropWhile_not isSpace (l := cs) (by simp [h])
        simpa [h] using hhead
      rw [dropSpaceEnd_cons, hc, Bool.and_false, if_neg Bool.false_ne_true,
        List.dropWhile_cons_of_neg (by simp [hc])]
  rw [trim, trim, String.toList_ofList, hstart, dropSpaceEnd_dropSpaceEnd]

theorem length_trim_le (s : String) : (trim s).length ≤ s.length := by
  rw [trim, String.length_ofList, ← String.length_toList]
  exact Nat.le_trans (length_dropSpaceEnd_le _) (List.dropWhile_sublist _).length_le

/-- Nothing but white space; the empty text counts. -/
def isBlank (s : String) : Bool :=
  s.toList.all isSpace

/-- The text with the letters `A`-`Z` in lower case; all other characters stay. -/
def toLowerAscii (s : String) : String :=
  String.ofList (s.toList.map Char.toLower)

/-- The text with the letters `a`-`z` in upper case; all other characters stay. -/
def toUpperAscii (s : String) : String :=
  String.ofList (s.toList.map Char.toUpper)

/-- Equality that does not tell `A`-`Z` from `a`-`z`. -/
def eqIgnoreAsciiCase (s t : String) : Bool :=
  toLowerAscii s == toLowerAscii t

def withoutControls (s : String) : String :=
  String.ofList (s.toList.filter fun c => !isControl c)

end InfraDiagram.Text
