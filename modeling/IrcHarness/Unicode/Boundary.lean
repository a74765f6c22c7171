import IrcHarness.Unicode.Property
import IrcHarness.Unicode.Script

/-!
# Boundaries in Text

Each character has three classes by which a text is divided: into graphemes,
into words and into sentences. Nearly all of a class follows from categories,
scripts and other properties, and what does not is listed. No character has two
classes of one kind, so where two rules would apply, one set is taken out of
the other.

## Main definitions

* `graphemeClass?`: The characters with a class for graphemes.
* `wordClass?`: The characters with a class for words.
* `sentenceClass?`: The characters with a class for sentences.
-/

namespace IrcHarness

namespace Unicode

/-- The set of a few runs. -/
def runs (rows : List String) : CharSet := CharSet.ofText rows

/-- Carriage return. -/
def carriageReturn : List String := ["D"]

/-- Line feed. -/
def lineFeed : List String := ["A"]

/-- The joiner that links two graphemes into one. -/
def joiner : List String := ["200D"]

/-- Letters that are written in front of another one, beside the marks that
    stand in front of numbers. -/
def prependedLetters : List String := [
  "D4E 111C2-111C3 113D1 1193F 11941 11A3A 11A84-11A89 11D46 11F02"]

/-- Spacing marks that stand alone. -/
def detachedMarks : List String := [
  "102B-102C 1038 1062-1064 1067-106D 1083 1087-108C 108F 109A-109C 1A61 1A63-1A64 AA7B AA7D",
  "11720-11721"]

/-- Vowel signs that count as spacing marks without being marks. -/
def attachedVowels : List String := ["E33 EB3"]

/-- Leading consonants of syllables. -/
def syllableStarts : List String := ["1100-115F A960-A97C"]

/-- Vowels of syllables. -/
def syllableVowels : List String := ["1160-11A7 D7B0-D7C6 16D63 16D67-16D6A"]

/-- Trailing consonants of syllables. -/
def syllableEnds : List String := ["11A8-11FF D7CB-D7FB"]

/-- Whole syllables, each the first of a row of twenty-eight: one without a
    trailing consonant and one for each of those. -/
def openSyllables : CharSet :=
  CharSet.ofRanges ((List.range 399).map fun i => (0xAC00 + 28 * i, 0xAC00 + 28 * i))

/-- Characters that belong to the grapheme before them. -/
def graphemeExtending : CharSet :=
  CharSet.union graphemeExtend (listed "EMod")

/-- Marks and letters that belong to the grapheme behind them. -/
def graphemePrepended : CharSet :=
  CharSet.union (listed "PCM") (runs prependedLetters)

/-- Characters that form no grapheme with others. -/
def graphemeControl : CharSet :=
  CharSet.diff
    (CharSet.union (runs (categoryCc ++ categoryCf ++ categoryZl ++ categoryZp))
      (CharSet.inter assigned.compl (listed "DI")))
    (CharSet.unions [runs (carriageReturn ++ lineFeed ++ joiner), graphemeExtend,
      graphemePrepended])

/-- The characters with the class for graphemes of the given loose name. -/
def graphemeClass? (loose : List Char) : Option CharSet :=
  if isNamed ["CN", "Control"] loose then some graphemeControl
  else if isNamed ["CR"] loose then some (runs carriageReturn)
  else if isNamed ["EX", "Extend"] loose then some graphemeExtending
  else if isNamed ["L"] loose then some (runs syllableStarts)
  else if isNamed ["LF"] loose then some (runs lineFeed)
  else if isNamed ["LV"] loose then some openSyllables
  else if isNamed ["LVT"] loose then
    some (CharSet.diff (CharSet.ofRanges [(0xAC00, 0xD7A3)]) openSyllables)
  else if isNamed ["PP", "Prepend"] loose then some graphemePrepended
  else if isNamed ["RI", "Regional_Indicator"] loose then some (listed "RI")
  else if isNamed ["SM", "SpacingMark"] loose then
    some (CharSet.diff (runs (categoryMc ++ attachedVowels))
      (CharSet.union (runs detachedMarks) graphemeExtending))
  else if isNamed ["T"] loose then some (runs syllableEnds)
  else if isNamed ["V"] loose then some (runs syllableVowels)
  else if isNamed ["ZWJ"] loose then some (runs joiner)
  else none

/-- Marks and signs that stand in front of a number. -/
def numberSigns : List String := ["600-605 6DD 890-891 8E2 110BD 110CD"]

/-- The abbreviation mark of Syriac, which words hold like a letter. -/
def abbreviationMark : List String := ["70F"]

/-- Digits, with the signs that belong to a number. -/
def numberRows : List String :=
  categoryNd ++ numberSigns ++ ["66B 19DA"]

/-- Formats that nothing hinges on. -/
def plainFormats : CharSet :=
  CharSet.diff (runs categoryCf) (CharSet.union graphemeExtend (runs numberSigns))

/-- Characters that belong to the word before them. -/
def wordExtending : CharSet :=
  CharSet.union graphemeExtending (runs categoryMc)

/-- Signs that are used with Katakana and are of no script of their own. -/
def katakanaSigns : List String := ["3031-3035 309B-309C 30A0 30FC FF70"]

/-- Katakana, with the signs used there. -/
def wordKatakana : CharSet :=
  CharSet.union (runs katakanaSigns) ((script? (looseName "Kana".toList)).getD CharSet.empty)

/-- Letters of the Hebrew script. -/
def hebrewLetters : CharSet :=
  CharSet.inter ((script? (looseName "Hebr".toList)).getD CharSet.empty) (runs categoryLo)

/-- Signs that words hold like letters. -/
def letterlikeSigns : List String := [
  "B8 2C2-2C5 2D2-2D7 2DE-2DF 2E5-2EB 2ED 2EF-2FF 55A-55C 55E 58A 5F3 70F A708-A716 A720-A721",
  "A789-A78A AB5B"]

/-- Letters of scripts that leave no space between words, so that no rule finds
    where a word ends. -/
def unspacedLetters : List String := [
  "E01-E30 E32-E33 E40-E46 E81-E82 E84 E86-E8A E8C-EA3 EA5 EA7-EB0 EB2-EB3 EBD EC0-EC4 EC6",
  "EDC-EDF 1000-102A 103F 1050-1055 105A-105D 1061 1065-1066 106E-1070 1075-1081 108E 1780-17B3",
  "17D7 17DC 1950-196D 1970-1974 1980-19AB 19B0-19C9 1A20-1A54 1AA7 A9E0-A9E4 A9E6-A9EF A9FA-A9FE",
  "AA60-AA76 AA7A AA7E-AAAF AAB1 AAB5-AAB6 AAB9-AABD AAC0 AAC2 AADB-AADD 11700-1171A 11740-11746"]

/-- Letters that words are made of. -/
def wordLetters : CharSet :=
  CharSet.diff (CharSet.ofText (alphabeticRows ++ letterlikeSigns))
    (CharSet.unions [listed "Ideo", wordKatakana, hebrewLetters, wordExtending,
      runs unspacedLetters, (script? (looseName "Hira".toList)).getD CharSet.empty])

/-- The characters with the class for words of the given loose name. -/
def wordClass? (loose : List Char) : Option CharSet :=
  if isNamed ["CR"] loose then some (runs carriageReturn)
  else if isNamed ["DQ", "Double_Quote"] loose then some (runs ["22"])
  else if isNamed ["EX", "ExtendNumLet"] loose then some (runs (categoryPc ++ ["202F"]))
  else if isNamed ["Extend"] loose then some wordExtending
  else if isNamed ["FO", "Format"] loose then
    some (CharSet.diff plainFormats (runs (abbreviationMark ++ ["200B-200D"])))
  else if isNamed ["HL", "Hebrew_Letter"] loose then some hebrewLetters
  else if isNamed ["KA", "Katakana"] loose then some (CharSet.diff wordKatakana wordExtending)
  else if isNamed ["LE", "ALetter"] loose then some wordLetters
  else if isNamed ["LF"] loose then some (runs lineFeed)
  else if isNamed ["MB", "MidNumLet"] loose then
    some (runs ["2E 2018 2019 2024 FE52 FF07 FF0E"])
  else if isNamed ["ML", "MidLetter"] loose then
    some (runs ["3A B7 387 55F 5F4 2027 FE13 FE55 FF1A"])
  else if isNamed ["MN", "MidNum"] loose then
    some (runs ["2C 3B 37E 589 60C-60D 66C 7F8 2044 FE10 FE14 FE50 FE54 FF0C FF1B"])
  else if isNamed ["NL", "Newline"] loose then some (runs ["B-C 85 2028-2029"])
  else if isNamed ["NU", "Numeric"] loose then some (runs numberRows)
  else if isNamed ["RI", "Regional_Indicator"] loose then some (listed "RI")
  else if isNamed ["SQ", "Single_Quote"] loose then some (runs ["27"])
  else if isNamed ["WSegSpace"] loose then
    some (CharSet.diff (runs categoryZs) (runs ["A0 2007 202F"]))
  else if isNamed ["ZWJ"] loose then some (runs joiner)
  else none

/-- Characters that belong to the sentence before them. -/
def sentenceExtending : CharSet :=
  CharSet.union graphemeExtend (runs (categoryMc ++ joiner))

/-- Georgian letters, whose case says nothing about sentences. -/
def georgianLower : List String := ["10D0-10FA 10FD-10FF"]

/-- Georgian capitals, whose case says nothing about sentences. -/
def georgianUpper : List String := ["1C90-1CBA 1CBD-1CBF"]

/-- Letters that may follow inside a sentence. -/
def sentenceLower : CharSet :=
  CharSet.diff lowercase (CharSet.union sentenceExtending (runs georgianLower))

/-- Letters that may begin a sentence. -/
def sentenceUpper : CharSet :=
  CharSet.diff (CharSet.union uppercase (runs categoryLt)) (runs georgianUpper)

/-- Full stops, which may end a sentence or an abbreviation. -/
def fullStops : List String := ["2E 2024 FE52 FF0E"]

/-- Marks that always end a sentence. -/
def sentenceEnds : CharSet :=
  CharSet.diff (listed "STerm") (runs fullStops)

/-- Quotes and ornaments that close what they open and are no such category. -/
def closingSigns : List String := ["22 27 275B-2760 2E00-2E01 2E06-2E08 2E0B 1F676-1F678"]

/-- Marks behind which a sentence goes on. -/
def continuingMarks : List String := [
  "2C-2D 3A-3B 37E 55D 60C-60D 7F8 1802 1808 2013-2014 3001 FE10-FE11 FE13-FE14 FE31-FE32",
  "FE50-FE51 FE54-FE55 FE58 FE63 FF0C-FF0D FF1A-FF1B FF64"]

/-- The characters with the class for sentences of the given loose name. -/
def sentenceClass? (loose : List Char) : Option CharSet :=
  if isNamed ["AT", "ATerm"] loose then some (runs fullStops)
  else if isNamed ["CL", "Close"] loose then
    some (CharSet.diff
      (runs (categoryPs ++ categoryPe ++ categoryPi ++ categoryPf ++ closingSigns)) sentenceEnds)
  else if isNamed ["CR"] loose then some (runs carriageReturn)
  else if isNamed ["EX", "Extend"] loose then some sentenceExtending
  else if isNamed ["FO", "Format"] loose then
    some (CharSet.diff plainFormats (runs ["200C-200D"]))
  else if isNamed ["LE", "OLetter"] loose then
    some (CharSet.diff (CharSet.ofText (alphabeticRows ++ ["5F3"]))
      (CharSet.unions [sentenceLower, sentenceUpper, sentenceExtending]))
  else if isNamed ["LF"] loose then some (runs lineFeed)
  else if isNamed ["LO", "Lower"] loose then some sentenceLower
  else if isNamed ["NU", "Numeric"] loose then some (runs (numberRows ++ ["66C"]))
  else if isNamed ["SC", "SContinue"] loose then some (runs continuingMarks)
  else if isNamed ["SE", "Sep"] loose then some (runs ["85 2028-2029"])
  else if isNamed ["SP", "Sp"] loose then
    some (CharSet.diff blank (runs (carriageReturn ++ lineFeed ++ ["85 2028-2029"])))
  else if isNamed ["ST", "STerm"] loose then some sentenceEnds
  else if isNamed ["UP", "Upper"] loose then some sentenceUpper
  else none

end Unicode

end IrcHarness
