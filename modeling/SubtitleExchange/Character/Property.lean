import SubtitleExchange.Character.Break

/-!
# Derived properties

Properties that follow from general categories and listed properties by the rules of the Unicode
standard, version 16, and the names of all properties that a character has or has not.
-/

namespace SubtitleExchange
namespace CharSet

def math : CharSet := mathSymbol.union otherMath

def caseIgnorable : CharSet :=
  unionAll [nonspacingMark, enclosingMark, format, modifierLetter, modifierSymbol,
    WordBreak.midLetter, WordBreak.midLetterOrNumber, WordBreak.singleQuote]

def graphemeBase : CharSet :=
  (unionAll [control, format, surrogate, privateUse, unassigned, lineSeparator, paragraphSeparator,
    graphemeExtend]).complement

/-!
# Identifiers

Some characters would not stay in identifiers if they were replaced by their compatibility forms, so
the closed classes leave them out.
-/

def patternChars : CharSet := patternSyntax.union patternWhiteSpace

def idStart : CharSet := (unionAll [letter, letterNumber, otherIdStart]).difference patternChars

def idContinue : CharSet :=
  (unionAll [idStart, nonspacingMark, spacingMark, decimalNumber, connectorPunctuation,
    otherIdContinue]).difference patternChars

def unclosedContinue : CharSet := .ofTable ["37A 309B-309C FC5E-FC63 FDFA-FDFB FE70:FE7E"]

def unclosedStart : CharSet :=
  unclosedContinue.union (.ofTable ["E33 EB3 FF9E-FF9F"])

def closedIdStart : CharSet := idStart.difference unclosedStart

def closedIdContinue : CharSet := idContinue.difference unclosedContinue

/-!
# Words

What a shorthand for characters of words stands for.
-/

def word : CharSet :=
  unionAll [alphabetic, mark, decimalNumber, connectorPunctuation, joinControl]

/-!
# Names
-/

def properties : List NamedSet :=
  [⟨["AHex", "ASCII_Hex_Digit"], asciiHexDigit⟩, ⟨["Alpha", "Alphabetic"], alphabetic⟩,
   ⟨["Bidi_C", "Bidi_Control"], bidiControl⟩, ⟨["Bidi_M", "Bidi_Mirrored"], bidiMirrored⟩,
   ⟨["CI", "Case_Ignorable"], caseIgnorable⟩, ⟨["Cased"], cased⟩,
   ⟨["CWCF", "Changes_When_Casefolded"], changesWhenCasefolded⟩,
   ⟨["CWCM", "Changes_When_Casemapped"], changesWhenCasemapped⟩,
   ⟨["CWL", "Changes_When_Lowercased"], changesWhenLowercased⟩,
   ⟨["CWT", "Changes_When_Titlecased"], changesWhenTitlecased⟩,
   ⟨["CWU", "Changes_When_Uppercased"], changesWhenUppercased⟩, ⟨["Dash"], dash⟩,
   ⟨["DI", "Default_Ignorable_Code_Point"], defaultIgnorable⟩,
   ⟨["Dep", "Deprecated"], deprecatedChars⟩, ⟨["Dia", "Diacritic"], diacritic⟩, ⟨["Emoji"], emoji⟩,
   ⟨["EComp", "Emoji_Component"], emojiComponent⟩, ⟨["EMod", "Emoji_Modifier"], emojiModifier⟩,
   ⟨["EBase", "Emoji_Modifier_Base"], emojiModifierBase⟩,
   ⟨["EPres", "Emoji_Presentation"], emojiPresentation⟩,
   ⟨["ExtPict", "Extended_Pictographic"], extendedPictographic⟩, ⟨["Ext", "Extender"], extender⟩,
   ⟨["Gr_Base", "Grapheme_Base"], graphemeBase⟩, ⟨["Gr_Ext", "Grapheme_Extend"], graphemeExtend⟩,
   ⟨["Gr_Link", "Grapheme_Link"], graphemeLink⟩, ⟨["Hex", "Hex_Digit"], hexDigit⟩,
   ⟨["Hyphen"], hyphen⟩, ⟨["IDSB", "IDS_Binary_Operator"], idsBinaryOperator⟩,
   ⟨["IDST", "IDS_Trinary_Operator"], idsTrinaryOperator⟩,
   ⟨["IDSU", "IDS_Unary_Operator"], idsUnaryOperator⟩,
   ⟨["ID_Compat_Math_Continue"], idCompatMathContinue⟩,
   ⟨["ID_Compat_Math_Start"], idCompatMathStart⟩, ⟨["IDC", "ID_Continue"], idContinue⟩,
   ⟨["IDS", "ID_Start"], idStart⟩, ⟨["Ideo", "Ideographic"], ideographic⟩,
   ⟨["Join_C", "Join_Control"], joinControl⟩,
   ⟨["LOE", "Logical_Order_Exception"], logicalOrderException⟩, ⟨["Lower", "Lowercase"], lowercase⟩,
   ⟨["Math"], math⟩, ⟨["MCM", "Modifier_Combining_Mark"], modifierCombiningMark⟩,
   ⟨["NChar", "Noncharacter_Code_Point"], noncharacter⟩,
   ⟨["OAlpha", "Other_Alphabetic"], otherAlphabetic⟩,
   ⟨["ODI", "Other_Default_Ignorable_Code_Point"], otherDefaultIgnorable⟩,
   ⟨["OGr_Ext", "Other_Grapheme_Extend"], otherGraphemeExtend⟩,
   ⟨["OIDC", "Other_ID_Continue"], otherIdContinue⟩, ⟨["OIDS", "Other_ID_Start"], otherIdStart⟩,
   ⟨["OLower", "Other_Lowercase"], otherLowercase⟩, ⟨["OMath", "Other_Math"], otherMath⟩,
   ⟨["OUpper", "Other_Uppercase"], otherUppercase⟩, ⟨["Pat_Syn", "Pattern_Syntax"], patternSyntax⟩,
   ⟨["Pat_WS", "Pattern_White_Space"], patternWhiteSpace⟩,
   ⟨["PCM", "Prepended_Concatenation_Mark"], prependedConcatenationMark⟩,
   ⟨["QMark", "Quotation_Mark"], quotationMark⟩, ⟨["Radical"], radical⟩,
   ⟨["RI", "Regional_Indicator"], regionalIndicator⟩,
   ⟨["STerm", "Sentence_Terminal"], sentenceTerminal⟩, ⟨["SD", "Soft_Dotted"], softDotted⟩,
   ⟨["Term", "Terminal_Punctuation"], terminalPunctuation⟩,
   ⟨["UIdeo", "Unified_Ideograph"], unifiedIdeograph⟩, ⟨["Upper", "Uppercase"], uppercase⟩,
   ⟨["VS", "Variation_Selector"], variationSelector⟩,
   ⟨["WSpace", "White_Space", "Space"], whiteSpace⟩, ⟨["XIDC", "XID_Continue"], closedIdContinue⟩,
   ⟨["XIDS", "XID_Start"], closedIdStart⟩]

end CharSet
end SubtitleExchange
