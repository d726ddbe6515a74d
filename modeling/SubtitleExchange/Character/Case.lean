import SubtitleExchange.Character.Binary
import SubtitleExchange.Character.Folding

/-!
# Case

The letters of both cases, and the characters that change when a text is put into another case. A
character that another one takes the place of is one of several forms; the exceptions become several
characters or take part in one mapping alone.
-/

namespace SubtitleExchange
namespace CharSet

def lowercase : CharSet := lowercaseLetter.union otherLowercase

def uppercase : CharSet := uppercaseLetter.union otherUppercase

def cased : CharSet := unionAll [lowercase, uppercase, titlecaseLetter]

def alphabetic : CharSet := .ofPairs Letter.letterRanges

/-- Alphabetic characters that are no letters. -/
def otherAlphabetic : CharSet := alphabetic.difference (letter.union letterNumber)

def changesWhenLowercased : CharSet :=
  ((uppercase.union titlecaseLetter).intersection manyFormed).union (.ofTable ["130"])

def uppercasedToSeveral : CharSet :=
  .ofTable
    ["131 149 1F0 587 1E96-1E9A 1F50:1F56 1FB2 1FB4 1FB6-1FB7 1FC2 1FC4 1FC6-1FC7 1FD2 1FD6-1FD7",
      "1FE2 1FE4 1FE6-1FE7 1FF2 1FF4 1FF6-1FF7 FB00-FB04 FB13-FB17"]

def changesWhenUppercased : CharSet :=
  ((lowercase.union titlecaseLetter).intersection manyFormed).union uppercasedToSeveral

def titlecasedAlone : CharSet := .ofTable ["1C4 1C7 1CA 1F1"]

def uppercasedAlone : CharSet :=
  .ofTable
    ["1C5 1C8 1CB 1F2 10D0-10FA 10FD-10FF 1F88-1F8F 1F98-1F9F 1FA8-1FAF 1FBC 1FCC 1FFC"]

def changesWhenTitlecased : CharSet :=
  (changesWhenUppercased.difference uppercasedAlone).union titlecasedAlone

def casefoldedAlone : CharSet :=
  .ofTable
    ["B5 DF 149 17F 345 3C2 3D0-3D1 3D5-3D6 3F0-3F1 3F5 587 13F8-13FD 1C80-1C88 1E9A-1E9B",
      "1F80-1F87 1F90-1F97 1FA0-1FA7 1FB2-1FB4 1FB7 1FC2-1FC4 1FC7 1FF2-1FF4 1FF7 AB70-ABBF",
      "FB00-FB06 FB13-FB17"]

def lowercasedAlone : CharSet := .ofTable ["13A0-13F5"]

def changesWhenCasefolded : CharSet :=
  (changesWhenLowercased.difference lowercasedAlone).union casefoldedAlone

def changesWhenCasemapped : CharSet :=
  unionAll [changesWhenLowercased, changesWhenUppercased, changesWhenTitlecased]

end CharSet
end SubtitleExchange
