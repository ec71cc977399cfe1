import Volley.Text.Combining

/-!
# Composition

A letter with a mark can be one character or two. `composed` writes every text with as few
characters as there are: all letters are taken apart, the marks are arranged, and each mark is put
onto its letter again where there is a character for both. The syllables of Hangul are put together
from their letters by arithmetic; the other characters are in a table, that of Unicode 17.
-/

namespace Volley.Text

/-- For each second part, the first parts and the characters that they make with it. -/
def compositions : List (Nat × String × String) := [
    (0x300, "aeiouünеиēōwâăêôơưyἀἁἐἑἠἡἰἱὀὁὐὑὠὡαεηιουωϊϋ",
      "àèìòùǜǹѐѝḕṑẁầằềồờừỳἂἃἒἓἢἣἲἳὂὃὒὓὢὣὰὲὴὶὸὺὼῒῢ"),
    (0x301, "aeiouyclnrszügåæøϊαεηιϋουωгкçēïkmõōpũwâăêôơưἀἁἐἑἠἡἰἱὀὁὐὑὠὡ",
      "áéíóúýćĺńŕśźǘǵǻǽǿΐάέήίΰόύώѓќḉḗḯḱḿṍṓṕṹẃấắếốớứἄἅἔἕἤἥἴἵὄὅὔὕὤὥ"),
    (0x302, "aeioucghjswyzạẹọ", "âêîôûĉĝĥĵŝŵŷẑậệộ"),
    (0x303, "anoiuvâăeêôơưy", "ãñõĩũṽẫẵẽễỗỡữỹ"),
    (0x304, "aeiouüäȧæǫöõȯyиуgḷṛαιυ", "āēīōūǖǟǡǣǭȫȭȱȳӣӯḡḹṝᾱῑῡ"),
    (0x306, "aegiouиужаеȩạαιυ", "ăĕğĭŏŭйўӂӑӗḝặᾰῐῠ"),
    (0x307, "cegzaobdfhmnprsśšṣtwxy𐗒𐗚", "ċėġżȧȯḃḋḟḣṁṅṗṙṡṥṧṩṫẇẋẏ𐗉𐗤"),
    (0x308, "aeiouyιυеіаәжзиоөэучыhõūwxt", "äëïöüÿϊϋёїӓӛӝӟӥӧӫӭӱӵӹḧṏṻẅẍẗ"),
    (0x309, "aâăeêioôơuưy", "ảẩẳẻểỉỏổởủửỷ"),
    (0x30A, "auwy", "åůẘẙ"),
    (0x30B, "ouу", "őűӳ"),
    (0x30C, "cdelnrstzaiouügkʒjh", "čďěľňřšťžǎǐǒǔǚǧǩǯǰȟ"),
    (0x30F, "aeioruѵ", "ȁȅȉȍȑȕѷ"),
    (0x311, "aeioru", "ȃȇȋȏȓȗ"),
    (0x313, "αεηιουωρ", "ἀἐἠἰὀὐὠῤ"),
    (0x314, "αεηιουωρ", "ἁἑἡἱὁὑὡῥ"),
    (0x31B, "ou", "ơư"),
    (0x323, "bdhklmnrstvwzaeioơuưy", "ḅḍḥḳḷṃṇṛṣṭṿẉẓạẹịọợụựỵ"),
    (0x324, "u", "ṳ"),
    (0x325, "a", "ḁ"),
    (0x326, "st", "șț"),
    (0x327, "cgklnrstedh", "çģķļņŗşţȩḑḩ"),
    (0x328, "aeiuo", "ąęįųǫ"),
    (0x32D, "delntu", "ḓḙḽṋṱṷ"),
    (0x32E, "h", "ḫ"),
    (0x330, "eiu", "ḛḭṵ"),
    (0x331, "bdklnrtzh", "ḇḏḵḻṉṟṯẕẖ"),
    (0x338, "←→↔⇐⇔⇒∃∈∋∣∥∼≃≅≈=≡≍<>≤≥≲≳≶≷≺≻⊂⊃⊆⊇⊢⊨⊩⊫≼≽⊑⊒⊲⊳⊴⊵",
      "↚↛↮⇍⇎⇏∄∉∌∤∦≁≄≇≉≠≢≭≮≯≰≱≴≵≸≹⊀⊁⊄⊅⊈⊉⊬⊭⊮⊯⋠⋡⋢⋣⋪⋫⋬⋭"),
    (0x342, "ἀἁἠἡἰἱὐὑὠὡαηιϊυϋω", "ἆἇἦἧἶἷὖὗὦὧᾶῆῖῗῦῧῶ"),
    (0x653, "\u0627", "\u0622"),
    (0x654, "\u0627\u0648\u064a\u06d5\u06c1\u06d2", "\u0623\u0624\u0626\u06c0\u06c2\u06d3"),
    (0x655, "\u0627", "\u0625"),
    (0x93C, "नरळ", "ऩऱऴ"),
    (0x9BE, "\u09c7", "\u09cb"),
    (0x9D7, "\u09c7", "\u09cc"),
    (0xB3E, "\u0b47", "\u0b4b"),
    (0xB56, "\u0b47", "\u0b48"),
    (0xB57, "\u0b47", "\u0b4c"),
    (0xBBE, "\u0bc6\u0bc7", "\u0bca\u0bcb"),
    (0xBD7, "ஒ\u0bc6", "ஔ\u0bcc"),
    (0xC56, "\u0c46", "\u0c48"),
    (0xCC2, "\u0cc6", "\u0cca"),
    (0xCD5, "\u0cbf\u0cc6\u0cca", "\u0cc0\u0cc7\u0ccb"),
    (0xCD6, "\u0cc6", "\u0cc8"),
    (0xD3E, "\u0d46\u0d47", "\u0d4a\u0d4b"),
    (0xD57, "\u0d46", "\u0d4c"),
    (0xDCA, "\u0dd9\u0ddc", "\u0dda\u0ddd"),
    (0xDCF, "\u0dd9", "\u0ddc"),
    (0xDDF, "\u0dd9", "\u0dde"),
    (0x102E, "ဥ", "ဦ"),
    (0x1B35, "ᬅᬇᬉᬋᬍᬑ\u1b3a\u1b3c\u1b3e\u1b3f\u1b42", "ᬆᬈᬊᬌᬎᬒ\u1b3b\u1b3d\u1b40\u1b41\u1b43"),
    (0x3099, "かきくけこさしすせそたちつてとはひふへほうゝカキクケコサシスセソタチツテトハヒフヘホウワヰヱヲヽ",
      "がぎぐげござじずぜぞだぢづでどばびぶべぼゔゞガギグゲゴザジズゼゾダヂヅデドバビブベボヴヷヸヹヺヾ"),
    (0x309A, "はひふへほハヒフヘホ", "ぱぴぷぺぽパピプペポ"),
    (0x110BA, "𑂙𑂛𑂥", "𑂚𑂜𑂫"),
    (0x11127, "𑄱𑄲", "𑄮𑄯"),
    (0x1133E, "𑍇", "𑍋"),
    (0x11357, "𑍇", "𑍌"),
    (0x113B8, "𑏂", "𑏇"),
    (0x113BB, "𑎄", "𑎅"),
    (0x113C2, "𑎎", "𑎎𑏅"),
    (0x113C9, "𑎂𑎐𑏂", "𑎃𑎑𑏈"),
    (0x114B0, "𑒹", "𑒼"),
    (0x114BA, "𑒹", "𑒻"),
    (0x114BD, "𑒹", "𑒾"),
    (0x115AF, "𑖸𑖹", "𑖺𑖻"),
    (0x11930, "𑤵", "𑤸"),
    (0x1611E, "𖄞", "𖄡"),
    (0x1611F, "𖄢𖄡𖄢", "𖄣𖄤𖄦𖄧"),
    (0x16120, "𖄡𖄞", "𖄥𖄨"),
    (0x16129, "𖄞", "𖄢"),
    (0x16D67, "𖵧𖵣𖵩", "𖵨𖵩𖵪")]

/-- The character that two characters of the table make. -/
def listed? (a b : Char) : Option Char :=
  compositions.findSome? fun (second, firsts, wholes) =>
    if second = b.toNat then ((firsts.toList.zip wholes.toList).find? (·.1 == a)).map Prod.snd
    else none

/-- The two parts of a character of the table. -/
def parts? (c : Char) : Option (Char × Char) :=
  compositions.findSome? fun (second, firsts, wholes) =>
    ((firsts.toList.zip wholes.toList).find? (·.2 == c)).map fun part =>
      (part.1, Char.ofNat second)

/-! ## Hangul -/

/-- A syllable's code point, counted from the first one, if there are so many. -/
def syllable? (n : Nat) : Option Nat :=
  if 0xAC00 ≤ n ∧ n < 0xAC00 + 19 * 588 then some (n - 0xAC00) else none

/-- The letters of a syllable: an opening consonant, a vowel, and a closing consonant if there is
one. -/
def letters? (c : Char) : Option (List Char) :=
  (syllable? c.toNat).map fun n =>
    let pair := [Char.ofNat (0x1100 + n / 588), Char.ofNat (0x1161 + n % 588 / 28)]
    if n % 28 = 0 then pair else pair ++ [Char.ofNat (0x11A7 + n % 28)]

/-- The syllable of two letters, or of a syllable without a closing consonant and such a consonant.
-/
def syllableOf? (a b : Char) : Option Char :=
  let first := a.toNat
  let second := b.toNat
  if 0x1100 ≤ first ∧ first < 0x1113 ∧ 0x1161 ≤ second ∧ second < 0x1176 then
    some (Char.ofNat (0xAC00 + (first - 0x1100) * 588 + (second - 0x1161) * 28))
  else if (syllable? first).any (· % 28 == 0) && 0x11A7 < second && second < 0x11C3 then
    some (Char.ofNat (first + (second - 0x11A7)))
  else none

/-! ## Taking apart and putting together -/

/-- The character that two characters make. -/
def compose? (a b : Char) : Option Char :=
  (syllableOf? a b).or (listed? a b)

/-- The most marks that one character holds. -/
def mostMarks : Nat := 3

/-- A character's parts, with up to `depth` marks taken off its letter. -/
def takenApart : (depth : Nat) → Char → List Char
  | 0, c => [c]
  | depth + 1, c =>
    match parts? c with
    | some (a, b) => takenApart depth a ++ [b]
    | none => (letters? c).getD [c]

/-- A text with every character in parts, and the marks in order. -/
def decomposed (s : List Char) : List Char :=
  arranged (s.flatMap (takenApart mostMarks))

/-- Puts a text together after a letter and the marks `kept` behind it, last one first, that it
could not be put together with. A mark of a class that is kept already is too far from the letter.
-/
def composeAfter (letter : Char) (kept : List Char) : List Char → List Char
  | [] => letter :: kept.reverse
  | c :: rest =>
    let isNear := match kept with
      | [] => true
      | last :: _ => combiningClass last < combiningClass c
    match if isNear then compose? letter c else none with
    | some whole => composeAfter whole kept rest
    | none =>
      if combiningClass c = 0 then letter :: kept.reverse ++ composeAfter c [] rest
      else composeAfter letter (c :: kept) rest

/-- A text of parts put together. Marks before the first letter stay as they are. -/
def recomposed : List Char → List Char
  | [] => []
  | c :: rest => if combiningClass c = 0 then composeAfter c [] rest else c :: recomposed rest

/-- A text with as few characters as there are. -/
def composed (s : List Char) : List Char :=
  recomposed (decomposed s)

end Volley.Text
