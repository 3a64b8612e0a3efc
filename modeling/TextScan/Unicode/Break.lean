import TextScan.Unicode.BinaryProperty
import TextScan.Unicode.Script

/-!
# Unicode — breaks

Where graphemes, words and sentences may break depends on classes of characters.  Most of them are
derived from categories and other properties, and the rest are listed.

* `Break.grapheme?`, `Break.word?` and `Break.sentence?` are the sets of the characters of a class,
  found by its name.
-/

namespace TextScan.Unicode.Break

open BinaryProperty

/-! ### Parts of several classes -/

/-- Format characters that have no class of their own. -/
def formatSet : RangeSet :=
  GeneralCategory.cf.set.diff (.ofText "200B-200D E0020-E007F")

/-- Spacing marks and what extends the character before it. -/
def extendSet : RangeSet :=
  graphemeExtendSet.union GeneralCategory.mc.set

/-- Decimal digits, the separators between them, and the marks before them. -/
def numericSet : RangeSet :=
  GeneralCategory.nd.set.union <|
    (prependedMarkSet.diff (.ofText "70F")).union (.ofText "66B")

/-- The characters of several scripts. -/
def ofScripts (names : List String) : RangeSet :=
  .unionAll (names.filterMap fun name => (Script.named? name).map Script.set)

/-! ### Graphemes -/

/-- Syllables of Hangul that end in a vowel. -/
def openSyllables : RangeSet :=
  .ofPoints ((List.range 399).map fun n => 0xAC00 + 28 * n)

/-- Characters that do not belong to the grapheme before or after them. -/
def controlSet : RangeSet :=
  let assigned := GeneralCategory.unionOf [.zl, .zp, .cc, .cf]
  let reserved := GeneralCategory.cn.set.inter (set defaultIgnorable)
  (assigned.union reserved).diff <|
    prependedMarkSet.union (.ofText "A D 200C-200D E0020-E007F")

/-- Marks that take room of their own in the grapheme that they end. -/
def spacingMarkSet : RangeSet :=
  ((GeneralCategory.mc.set.diff graphemeExtendSet).union (.ofText "E33 EB3")).diff <| .ofText
    "102B-102C 1038 1062-1064 1067-106D 1083 1087-108C 108F 109A-109C 1A61 1A63-1A64 AA7B AA7D
    11720-11721"

/-- The class of a name for breaks between graphemes. -/
def grapheme? (name : String) : Option RangeSet :=
  match name with
  | "cn" | "control" => some controlSet
  | "cr" => some (.ofText "D")
  | "ex" | "extend" => some (graphemeExtendSet.union emojiModifierSet)
  | "l" => some (.ofText "1100-115F A960-A97C")
  | "lf" => some (.ofText "A")
  | "lv" => some openSyllables
  | "lvt" => some ((RangeSet.range 0xAC00 0xD7A3).diff openSyllables)
  | "pp" | "prepend" => some <| prependedMarkSet.union <| .ofText
    "D4E 111C2-111C3 113D1 1193F 11941 11A3A 11A84-11A89 11D46 11F02"
  | "ri" | "regionalindicator" => some regionalIndicatorSet
  | "sm" | "spacingmark" => some spacingMarkSet
  | "t" => some (.ofText "11A8-11FF D7CB-D7FB")
  | "v" => some (.ofText "1160-11A7 D7B0-D7C6 16D63 16D67-16D6A")
  | "zwj" => some (.ofText "200D")
  | _ => none

/-! ### Words -/

/-- Katakana and the signs that stand in words of it. -/
def katakanaSet : RangeSet :=
  (ofScripts ["kana"]).union (.ofText "3031-3035 309B-309C 30A0 30FC FF70")

/-- Letters of Hebrew. -/
def hebrewSet : RangeSet :=
  (ofScripts ["hebr"]).inter GeneralCategory.lo.set

/-- What extends the character before it in a word. -/
def wordExtendSet : RangeSet :=
  extendSet.union emojiModifierSet

/-- Letters of words that are told apart by what stands between them. -/
def letterSet : RangeSet :=
  let others := ofScripts
    ["hira", "thai", "laoo", "mymr", "khmr", "tale", "talu", "lana", "tavt", "ahom"]
  let letters := alphabeticSet.diff <| .unionAll
    [ideographicSet, katakanaSet, hebrewSet, wordExtendSet, others]
  letters.union <| .ofText
    "2C2-2C5 2D2-2D7 2DE-2DF 2E5-2EB 2ED 2EF-2FF 55A-55C 55E 58A 5F3 70F A708-A716 A720-A721
    A789-A78A AB5B"

/-- The class of a name for breaks between words. -/
def word? (name : String) : Option RangeSet :=
  match name with
  | "cr" => some (.ofText "D")
  | "dq" | "doublequote" => some (.ofText "22")
  | "ex" | "extendnumlet" => some (.ofText "5F 202F 203F-2040 2054 FE33-FE34 FE4D-FE4F FF3F")
  | "extend" => some wordExtendSet
  | "fo" | "format" => some (formatSet.diff prependedMarkSet)
  | "hl" | "hebrewletter" => some hebrewSet
  | "ka" | "katakana" => some katakanaSet
  | "le" | "aletter" => some letterSet
  | "lf" => some (.ofText "A")
  | "mb" | "midnumlet" => some (.ofText "2E 2018-2019 2024 FE52 FF07 FF0E")
  | "ml" | "midletter" => some (.ofText "3A B7 387 55F 5F4 2027 FE13 FE55 FF1A")
  | "mn" | "midnum" => some <| .ofText
    "2C 3B 37E 589 60C-60D 66C 7F8 2044 FE10 FE14 FE50 FE54 FF0C FF1B"
  | "nl" | "newline" => some (.ofText "B-C 85 2028-2029")
  | "nu" | "numeric" => some numericSet
  | "ri" | "regionalindicator" => some regionalIndicatorSet
  | "sq" | "singlequote" => some (.ofText "27")
  | "wsegspace" => some (.ofText "20 1680 2000-2006 2008-200A 205F 3000")
  | "zwj" => some (.ofText "200D")
  | _ => none

/-! ### Sentences -/

/-- Lowercase letters.  Those of Georgian are not used to tell where sentences start. -/
def lowerSet : RangeSet :=
  (lowercaseSet.diff graphemeExtendSet).diff (.ofText "10D0-10FA 10FD-10FF")

/-- Uppercase and titlecase letters, but for those of Georgian. -/
def upperSet : RangeSet :=
  (GeneralCategory.lt.set.union uppercaseSet).diff (.ofText "1C90-1CBA 1CBD-1CBF")

/-- What extends the character before it in a sentence. -/
def sentenceExtendSet : RangeSet :=
  extendSet.union (.ofText "200D")

/-- Letters without case. -/
def otherLetterSet : RangeSet :=
  (alphabeticSet.union (.ofText "5F3")).diff <| .unionAll [lowerSet, upperSet, sentenceExtendSet]

/-- Brackets and quotation marks. -/
def closeSet : RangeSet :=
  (((GeneralCategory.unionOf [.ps, .pe, .pi, .pf]).union quotationMarkSet).diff
    (.ofText "FF02 FF07")).union <| .ofText "275B-2760 2E00-2E01 2E06-2E08 2E0B 1F676-1F678"

/-- The class of a name for breaks between sentences. -/
def sentence? (name : String) : Option RangeSet :=
  match name with
  | "at" | "aterm" => some (.ofText "2E 2024 FE52 FF0E")
  | "cl" | "close" => some closeSet
  | "cr" => some (.ofText "D")
  | "ex" | "extend" => some sentenceExtendSet
  | "fo" | "format" => some ((formatSet.union (.ofText "200B")).diff numericSet)
  | "le" | "oletter" => some otherLetterSet
  | "lf" => some (.ofText "A")
  | "lo" | "lower" => some lowerSet
  | "nu" | "numeric" => some (numericSet.union (.ofText "66C"))
  | "sc" | "scontinue" => some <| .ofText
    "2C-2D 3A-3B 37E 55D 60C-60D 7F8 1802 1808 2013-2014 3001 FE10-FE11 FE13-FE14 FE31-FE32
    FE50-FE51 FE54-FE55 FE58 FE63 FF0C-FF0D FF1A-FF1B FF64"
  | "se" | "sep" => some (.ofText "85 2028-2029")
  | "sp" => some (whiteSpaceSet.diff (.ofText "A D 85 2028-2029"))
  | "st" | "sterm" => some (sentenceTerminalSet.diff (.ofText "2E 2024 FE52 FF0E"))
  | "up" | "upper" => some upperSet
  | _ => none

end TextScan.Unicode.Break
