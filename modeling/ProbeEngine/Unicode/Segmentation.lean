import ProbeEngine.Unicode.Property
import ProbeEngine.Unicode.Script

/-!
# Classes for segmentation

The classes into which Unicode sorts characters to find the edges of graphemes,
words and sentences. Each class is a rule on categories, scripts and properties
with the characters that it names on their own; what is in no class has no name
here. Names are in the loose form.
-/

namespace ProbeEngine.Unicode

open CharSet

/-- The characters with a property. -/
def withProperty (name : String) : CharSet := (property? name).getD empty

/-- The characters of a script. -/
def ofScript (name : String) : CharSet := (script? name).getD empty

/-- The union of some sets. -/
def unionOf (sets : List CharSet) : CharSet := sets.foldl union empty

/-- The first set without the characters of the others. -/
def without (s : CharSet) (others : List CharSet) : CharSet := s.difference (unionOf others)

/-! ## Characters that several classes name -/

/-- Carriage return. -/
def returnSet : CharSet := single '\r'

/-- Line feed. -/
def feedSet : CharSet := single '\n'

/-- The zero-width joiner. -/
def joinerSet : CharSet := decode "200D"

/-- The separators of lines and paragraphs, and the next-line control. -/
def lineBreakSet : CharSet := decode "85 2028-2029"

/-- The marks that span the characters after them. -/
def spanningMarkSet : CharSet := withProperty "prependedconcatenationmark"

/-- The format characters that belong to no other rule. -/
def formatSet (others : String) : CharSet :=
  without (categorySet "cf") [decode others, spanningMarkSet, withProperty "graphemeextend"]

/-- The digits, with the separators and the spanning marks that count as such. -/
def numberSet (others : String) : CharSet :=
  unionOf [categorySet "nd", decode others, spanningMarkSet.difference (decode "70F")]

/-! ## Graphemes -/

/-- What extends the grapheme before it. -/
def graphemeExtendSet : CharSet :=
  without (unionOf [withProperty "graphemeextend", withProperty "emojimodifier"]) [joinerSet]

/-- The Hangul syllables without a final consonant. -/
def openSyllableSet : CharSet := ⟨(List.range 399).map fun i => (0xAC00 + 28 * i, 0xAC00 + 28 * i)⟩

/-- The classes of characters for graphemes. -/
def graphemeBreak? (name : String) : Option CharSet :=
  match name with
  | "cr" => some returnSet
  | "lf" => some feedSet
  | "cn" | "control" =>
    some (without
      (unionOf [categorySet "zl", categorySet "zp", categorySet "cc", categorySet "cf",
        assignedSet.complement.intersection (withProperty "defaultignorablecodepoint")])
      [returnSet, feedSet, decode "200C-200D", spanningMarkSet, graphemeExtendSet])
  | "ex" | "extend" => some graphemeExtendSet
  | "zwj" => some joinerSet
  | "ri" | "regionalindicator" => some (withProperty "regionalindicator")
  | "pp" | "prepend" =>
    some (unionOf [spanningMarkSet,
      decode "D4E 111C2-111C3 113D1 1193F 11941 11A3A 11A84-11A89 11D46 11F02"])
  | "sm" | "spacingmark" =>
    some (without (unionOf [categorySet "mc", decode "E33 EB3"])
      [graphemeExtendSet,
        decode "102B-102C 1038 1062-1064 1067-106D 1083 1087-108C 108F 109A-109C 1A61
          1A63-1A64 AA7B AA7D 11720-11721"])
  | "l" => some (decode "1100-115F A960-A97C")
  | "v" => some (decode "1160-11A7 D7B0-D7C6 16D63 16D67-16D6A")
  | "t" => some (decode "11A8-11FF D7CB-D7FB")
  | "lv" => some openSyllableSet
  | "lvt" => some ((range 0xAC00 0xD7A3).difference openSyllableSet)
  | _ => none

/-! ## Words -/

/-- What extends the word before it. -/
def wordExtendSet : CharSet :=
  without (unionOf [withProperty "graphemeextend", categorySet "mc", withProperty "emojimodifier"])
    [joinerSet]

/-- The characters of the Katakana class. -/
def katakanaSet : CharSet :=
  unionOf [ofScript "kana", decode "3031-3035 309B-309C 30A0 30FC FF70"]

/-- The Hebrew letters. -/
def hebrewLetterSet : CharSet := (ofScript "hebr").intersection (categorySet "lo")

/-- The letters of scripts that write no blanks between words. -/
def unspacedLetterSet : CharSet :=
  decode "E01-E30 E32-E33 E40-E46 E81-E82 E84 E86-E8A E8C-EA3 EA5 EA7-EB0 EB2-EB3 EBD
    EC0-EC4 EC6 EDC-EDF 1000-102A 103F 1050-1055 105A-105D 1061 1065-1066 106E-1070
    1075-1081 108E 1780-17B3 17D7 17DC 1950-196D 1970-1974 1980-19AB 19B0-19C9 1A20-1A54
    1AA7 A9E0-A9E4 A9E6-A9EF A9FA-A9FE AA60-AA76 AA7A AA7E-AAAF AAB1 AAB5-AAB6 AAB9-AABD
    AAC0 AAC2 AADB-AADD 11700-1171A 11740-11746"

/-- The classes of characters for words. -/
def wordBreak? (name : String) : Option CharSet :=
  match name with
  | "cr" => some returnSet
  | "lf" => some feedSet
  | "nl" | "newline" => some (unionOf [decode "B-C", lineBreakSet])
  | "extend" => some wordExtendSet
  | "zwj" => some joinerSet
  | "ri" | "regionalindicator" => some (withProperty "regionalindicator")
  | "fo" | "format" => some (formatSet "200B-200D")
  | "ka" | "katakana" => some katakanaSet
  | "hl" | "hebrewletter" => some hebrewLetterSet
  | "le" | "aletter" =>
    some (without
      (unionOf [withProperty "alphabetic",
        decode "2C2-2C5 2D2-2D7 2DE-2DF 2E5-2EB 2ED 2EF-2FF 55A-55C 55E 58A 5F3 70F A708-A716
          A720-A721 A789-A78A AB5B"])
      [withProperty "ideographic", katakanaSet, unspacedLetterSet, ofScript "hira", wordExtendSet,
        hebrewLetterSet])
  | "sq" | "singlequote" => some (single '\'')
  | "dq" | "doublequote" => some (single '"')
  | "mb" | "midnumlet" => some (decode "2E 2018-2019 2024 FE52 FF07 FF0E")
  | "ml" | "midletter" => some (decode "3A B7 387 55F 5F4 2027 FE13 FE55 FF1A")
  | "mn" | "midnum" =>
    some (decode "2C 3B 37E 589 60C-60D 66C 7F8 2044 FE10 FE14 FE50 FE54 FF0C FF1B")
  | "nu" | "numeric" => some (numberSet "66B")
  | "ex" | "extendnumlet" => some (unionOf [categorySet "pc", decode "202F"])
  | "wsegspace" => some (without (categorySet "zs") [decode "A0 2007 202F"])
  | _ => none

/-! ## Sentences -/

/-- What extends the sentence before it. -/
def sentenceExtendSet : CharSet :=
  unionOf [withProperty "graphemeextend", joinerSet, categorySet "mc"]

/-- The lower-case letters of scripts that have sentence case. -/
def sentenceLowerSet : CharSet :=
  without (withProperty "lowercase") [withProperty "graphemeextend", decode "10D0-10FA 10FD-10FF"]

/-- The upper-case and title-case letters of scripts that have sentence case. -/
def sentenceUpperSet : CharSet :=
  without (unionOf [categorySet "lt", withProperty "uppercase"]) [decode "1C90-1CBA 1CBD-1CBF"]

/-- The full stops, which may also end abbreviations. -/
def fullStopSet : CharSet := decode "2E 2024 FE52 FF0E"

/-- The characters that end sentences. -/
def sentenceEndSet : CharSet := without (withProperty "sentenceterminal") [fullStopSet]

/-- The classes of characters for sentences. -/
def sentenceBreak? (name : String) : Option CharSet :=
  match name with
  | "cr" => some returnSet
  | "lf" => some feedSet
  | "ex" | "extend" => some sentenceExtendSet
  | "se" | "sep" => some lineBreakSet
  | "fo" | "format" => some (formatSet "200C-200D")
  | "sp" => some (without (withProperty "whitespace") [lineBreakSet, returnSet, feedSet])
  | "lo" | "lower" => some sentenceLowerSet
  | "up" | "upper" => some sentenceUpperSet
  | "le" | "oletter" =>
    some (without (unionOf [withProperty "alphabetic", decode "5F3 70F"])
      [sentenceLowerSet, sentenceUpperSet, sentenceExtendSet])
  | "nu" | "numeric" => some (numberSet "66B-66C")
  | "at" | "aterm" => some fullStopSet
  | "st" | "sterm" => some sentenceEndSet
  | "sc" | "scontinue" =>
    some (decode "2C-2D 3A-3B 37E 55D 60C-60D 7F8 1802 1808 2013-2014 3001 FE10-FE11 FE13-FE14
      FE31-FE32 FE50-FE51 FE54-FE55 FE58 FE63 FF0C-FF0D FF1A-FF1B FF64")
  | "cl" | "close" =>
    some (without
      (unionOf [categorySet "ps", categorySet "pe", categorySet "pi", categorySet "pf",
        decode "22 27 275B-2760 2E00-2E01 2E06-2E08 2E0B 1F676-1F678"])
      [fullStopSet, sentenceEndSet])
  | _ => none

end ProbeEngine.Unicode
