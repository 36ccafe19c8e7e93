import ContractClient.Text.Character
import ContractClient.Web.Composed
import ContractClient.Web.DomainLetter
import ContractClient.Web.Punycode

/-!
# Labels of domain names

A label of a domain name has composed letters, marks, digits and hyphens.  It does not
start with a mark, and hyphens have their places.  A few more characters are allowed in
certain surroundings.

A label with letters that are written from right to left holds no other letters, and
digits of one kind only.

In ASCII a label with other characters starts with `xn--`.
-/

namespace ContractClient.Web

/-- Whether hyphens stand where they may in a label. -/
def hasGoodHyphens (cs : List Char) : Bool :=
  cs.head? != some '-' && cs.getLast? != some '-' && (cs.drop 2).take 2 != ['-', '-']

/-- A mark, which belongs to the letter before it. -/
def isMark (c : Char) : Bool :=
  (Identifier.isContinue c && !Identifier.isStart c && !Text.isDigit c && c != '_') ||
    c.toNat == 0x1885 || c.toNat == 0x1886

/-! ## Surroundings -/

/-- The digits of Arabic. -/
def isArabicDigit (c : Char) : Bool := 0x660 ≤ c.toNat && c.toNat ≤ 0x669

/-- The digits of Persian and Urdu. -/
def isPersianDigit (c : Char) : Bool := 0x6F0 ≤ c.toNat && c.toNat ≤ 0x6F9

/-- The letters of Greek. -/
def greekRanges : Text.Ranges := [(0x370, 0x373), (0x375, 0x3E1), (0x3F0, 0x3FF), (0x1F00, 0x1FFE)]

/-- The letters of Hebrew. -/
def hebrewRanges : Text.Ranges := [(0x591, 0x5C7), (0x5D0, 0x5EA), (0x5EF, 0x5F4)]

/-- The characters of Japanese. -/
def japaneseRanges : Text.Ranges :=
  [(0x3005, 0x3005), (0x3007, 0x3007), (0x3041, 0x3096), (0x309D, 0x309E), (0x30A1, 0x30FA),
   (0x30FD, 0x30FE), (0x31F0, 0x31FF), (0x3400, 0x4DBF), (0x4E00, 0x9FFF), (0x16FE2, 0x16FF1),
   (0x1AFF0, 0x1AFFE), (0x1B000, 0x1B167), (0x20000, 0x3134A)]

/-- Letters that are joined with the next one. -/
def joinsNext : Text.Ranges :=
  [(0x620, 0x620), (0x626, 0x626), (0x628, 0x628), (0x62A, 0x62E), (0x633, 0x63F), (0x641, 0x647),
   (0x649, 0x64A), (0x66E, 0x66F), (0x678, 0x687), (0x69A, 0x6BF), (0x6C1, 0x6C2), (0x6CC, 0x6CC),
   (0x6CE, 0x6CE), (0x6D0, 0x6D1), (0x6FA, 0x6FC), (0x6FF, 0x6FF)]

/-- Letters that are joined with the one before, besides those. -/
def joinsPrevious : Text.Ranges :=
  [(0x622, 0x625), (0x627, 0x627), (0x629, 0x629), (0x62F, 0x632), (0x648, 0x648), (0x671, 0x673),
   (0x675, 0x677), (0x688, 0x699), (0x6C0, 0x6C0), (0x6C3, 0x6CB), (0x6CD, 0x6CD), (0x6CF, 0x6CF),
   (0x6D2, 0x6D3), (0x6D5, 0x6D5), (0x6EE, 0x6EF)]

/-- Whether the first of some characters has a property. -/
def startsWith (cs : List Char) (p : Char → Bool) : Bool := (cs.head?.map p).getD false

/-- Whether letters on two sides are joined.  Those before are given last first. -/
def areJoined (before after : List Char) : Bool :=
  startsWith (before.dropWhile isMark) joinsNext.contains &&
    startsWith (after.dropWhile isMark) fun c => joinsNext.contains c || joinsPrevious.contains c

/-- The class of marks that take the vowel from a letter. -/
def vowelKiller : Nat := 9

/-- Whether a character is allowed by its surroundings.  The characters before are given
last first. -/
def isAllowedBetween (before after : List Char) (c : Char) : Bool :=
  let isKilled := startsWith before (markClass · == vowelKiller)
  match c.toNat with
  | 0xB7 => startsWith before (· == 'l') && startsWith after (· == 'l')
  | 0x375 => startsWith after greekRanges.contains
  | 0x5F3 | 0x5F4 => startsWith before hebrewRanges.contains
  | 0x30FB => (before ++ after).any japaneseRanges.contains
  | 0x200C => isKilled || areJoined before after
  | 0x200D => isKilled
  | _ =>
    if isArabicDigit c then !(before ++ after).any isPersianDigit
    else if isPersianDigit c then !(before ++ after).any isArabicDigit
    else false

/-- Whether all characters are allowed.  The characters before are given last first. -/
def areAllowed (before : List Char) : List Char → Bool
  | [] => true
  | c :: cs =>
    (isDomainLetter c || isAllowedBetween before cs c) && areAllowed (c :: before) cs

/-! ## Directions -/

/-- The direction in which a character is written. -/
inductive Direction where
  /-- A letter written from left to right. -/
  | right
  /-- A letter written from right to left. -/
  | left
  /-- A digit as in Europe. -/
  | europeanDigit
  /-- A digit as in Arabic. -/
  | arabicDigit
  /-- A mark, which follows its letter. -/
  | mark
  /-- Any direction. -/
  | neutral
  deriving DecidableEq, Repr

/-- The blocks of scripts that are written from right to left. -/
def leftwardRanges : Text.Ranges :=
  [(0x590, 0x8FF), (0xFE70, 0xFEFE), (0x10800, 0x10FFF), (0x1E800, 0x1EFFF)]

/-- Characters without a direction. -/
def neutralRanges : Text.Ranges :=
  [(0x2D, 0x2D), (0xB7, 0xB7), (0x2B9, 0x2BA), (0x2C6, 0x2CF), (0x2EC, 0x2EC), (0x375, 0x375),
   (0x200C, 0x200D), (0x2E2F, 0x2E2F), (0x30FB, 0x30FB), (0xA67F, 0xA67F), (0xA717, 0xA71F),
   (0xA788, 0xA788)]

/-- The direction of a character. -/
def direction (c : Char) : Direction :=
  if c.isDigit || isPersianDigit c then .europeanDigit
  else if isArabicDigit c || (0x10D30 ≤ c.toNat && c.toNat ≤ 0x10D39) then .arabicDigit
  else if isMark c then .mark
  else if neutralRanges.contains c then .neutral
  else if leftwardRanges.contains c then .left
  else .right

/-- Whether a label keeps to one direction.  Only a label with letters or digits from right
to left has to. -/
def keepsDirection (cs : List Char) : Bool :=
  let ds := cs.map direction
  let last := (ds.filter (· != .mark)).getLast?
  if !ds.contains .left && !ds.contains .arabicDigit then true
  else match ds.head? with
    | some .left =>
      !ds.contains .right && !(ds.contains .arabicDigit && ds.contains .europeanDigit) &&
        last != some .neutral
    | _ => false

/-! ## Labels -/

/-- Whether a text is a label. -/
def isLabel (cs : List Char) : Bool :=
  !cs.isEmpty && isComposed cs && hasGoodHyphens cs && !startsWith cs isMark && areAllowed [] cs &&
    keepsDirection cs

/-- The greatest length of a label. -/
def labelLimit : Nat := 63

/-- The start of a label in ASCII that stands for another one. -/
def asciiMark : List Char := "xn--".toList

/-- Whether a text in ASCII is a label, or stands for one. -/
def isAsciiLabel (cs : List Char) : Bool :=
  if asciiMark.isPrefixOf cs then
    let body := cs.drop asciiMark.length
    !body.isEmpty && body.getLast? != some '-' && ((Punycode.decode? body).map isLabel).getD false
  else isLabel cs

/-- A label in ASCII. -/
def label? (cs : List Char) : Option (List Char) :=
  let isAscii := cs.all (·.toNat < 128)
  let encoded := if isAscii then cs else asciiMark ++ Punycode.encode cs
  if (if isAscii then isAsciiLabel cs else isLabel cs) && encoded.length ≤ labelLimit then
    some encoded
  else none

end ContractClient.Web
