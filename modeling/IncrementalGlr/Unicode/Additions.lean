import IncrementalGlr.Unicode.Property

/-!
Characters as they are read in names and shown to a reader. Names and shown text follow the version
of the standard after the one that patterns classify characters by, so the sets here are those of
the property tables and what that version added to them.
-/
namespace IncrementalGlr.Unicode

/-- The characters that the later version added. All of them show something. -/
def added : CodeSet :=
  .ofText
   "88F C5C CDC 1ACF-1ADD 1AE0-1AEB 20C1 2B96 A7CE-A7CF A7D2 A7D4 A7F1 FBC3-FBD2 FD90-FD91
   FDC8-FDCE 10940-10959 10EC5-10EC7 10ED0-10ED8 10EFA-10EFB 11B60-11B67 11DB0-11DDB 11DE0-11DE9
   16EA0-16EB8 16EBB-16ED3 16FF2-16FF6 187F8-187FF 18D09-18D1E 18D80-18DF2 1CCFA-1CCFC 1CEBA-1CED0
   1CEE0-1CEF0 1E6C0-1E6DE 1E6E0-1E6F5 1E6FE-1E6FF 1F6D8 1F777-1F77A 1F8D0-1F8D8 1FA54-1FA57 1FA8A
   1FA8E 1FAC8 1FACD 1FAEA 1FAEF 1FBFA 2B73A-2B73F 2CEA2-2CEAD 323B0-33479"

/-- Those of them that are letters, or vowel signs that go with letters. -/
def addedAlphabetic : CodeSet :=
  .ofText
   "88F C5C CDC A7CE-A7CF A7D2 A7D4 A7F1 10940-10959 10EC5-10EC7 10EFA-10EFB 11B60-11B67
   11DB0-11DDB 16EA0-16EB8 16EBB-16ED3 16FF2-16FF6 187F8-187FF 18D09-18D1E 18D80-18DF2 1E6C0-1E6DE
   1E6E0-1E6F5 1E6FE-1E6FF 2B73A-2B73F 2CEA2-2CEAD 323B0-33479"

/-- Those of them that are numbers. -/
def addedNumeric : CodeSet := .ofText "11DE0-11DE9 16FF4-16FF6"

/-- Those of them that change the character before them. -/
def addedExtend : CodeSet :=
  .ofText
   "1ACF-1ADD 1AE0-1AEB 10EFA-10EFB 11B60 11B62-11B64 11B66 1E6E3 1E6E6 1E6EE-1E6EF 1E6F5"

/-- The set of a binary property, by a name that the table has. -/
def binary (name : String) : CodeSet := (binaryProperties.find? name).getD .empty

/-- Letters and the signs that go with them. -/
def alphabetic : CodeSet := (binary "alphabetic").union addedAlphabetic

/-- Digits and other numbers. -/
def numeric : CodeSet := ((category? "n").getD .empty).union addedNumeric

/-- Characters that change the look of the character before them. -/
def graphemeExtend : CodeSet := (binary "grext").union addedExtend

/-- Characters that show nothing: controls, formats, fillers, blanks other than the common one, and
code points without a character. -/
def unprintable : CodeSet :=
  .unions ((assigned.union added).complement :: binary "di" ::
    (["cc", "cf", "co", "zl", "zp"].filterMap generalCategories.find?) ++
    [.range 0x80 0xA0, .range 0x1680 0x1680, .range 0x2000 0x200A, .range 0x202F 0x202F,
      .range 0x205F 0x205F, .range 0x3000 0x3000])

end IncrementalGlr.Unicode
