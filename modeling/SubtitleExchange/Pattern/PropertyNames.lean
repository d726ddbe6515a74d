/-!
# Names of properties

The names that the Unicode standard, version 16, has for properties of characters, short names first,
and those of values that no character of a text has.
-/

namespace SubtitleExchange
namespace Pattern
namespace PropertyNames

/-- The one category whose characters cannot stand in a text. -/
def surrogates : List String := ["Cs", "Surrogate"]

/-- Scripts that no character has. -/
def emptyScripts : List String :=
  ["Zzzz", "Unknown", "Hrkt", "Katakana_Or_Hiragana"]

def generalCategory : List String := ["gc", "General_Category"]

def script : List String := ["sc", "Script"]

def scriptExtensions : List String := ["scx", "Script_Extensions"]

def age : List String := ["age"]

def graphemeBreak : List String := ["GCB", "Grapheme_Cluster_Break"]

def sentenceBreak : List String := ["SB", "Sentence_Break"]

def wordBreak : List String := ["WB", "Word_Break"]

/-- Properties that cannot be asked for. -/
def others : List String :=
  ["nv", "Numeric_Value", "cf", "Case_Folding", "dm", "Decomposition_Mapping", "FC_NFKC",
    "FC_NFKC_Closure", "lc", "Lowercase_Mapping", "NFKC_CF", "NFKC_Casefold", "NFKC_SCF",
    "NFKC_Simple_Casefold", "scf", "Simple_Case_Folding", "sfc", "slc", "Simple_Lowercase_Mapping",
    "stc", "Simple_Titlecase_Mapping", "suc", "Simple_Uppercase_Mapping", "tc",
    "Titlecase_Mapping", "uc", "Uppercase_Mapping", "bmg", "Bidi_Mirroring_Glyph", "bpb",
    "Bidi_Paired_Bracket", "EqUIdeo", "Equivalent_Unified_Ideograph", "isc", "ISO_Comment", "JSN",
    "Jamo_Short_Name", "na", "Name", "na1", "Unicode_1_Name", "Name_Alias", "blk", "Block", "bc",
    "Bidi_Class", "bpt", "Bidi_Paired_Bracket_Type", "ccc", "Canonical_Combining_Class", "dt",
    "Decomposition_Type", "ea", "East_Asian_Width", "hst", "Hangul_Syllable_Type", "InCB",
    "Indic_Conjunct_Break", "InPC", "Indic_Positional_Category", "InSC", "Indic_Syllabic_Category",
    "jg", "Joining_Group", "jt", "Joining_Type", "lb", "Line_Break", "NFC_QC", "NFC_Quick_Check",
    "NFD_QC", "NFD_Quick_Check", "NFKC_QC", "NFKC_Quick_Check", "NFKD_QC", "NFKD_Quick_Check",
    "nt", "Numeric_Type", "vo", "Vertical_Orientation", "CE", "Composition_Exclusion", "Comp_Ex",
    "Full_Composition_Exclusion", "CWKCF", "Changes_When_NFKC_Casefolded", "XO_NFC",
    "Expands_On_NFC", "XO_NFD", "Expands_On_NFD", "XO_NFKC", "Expands_On_NFKC", "XO_NFKD",
    "Expands_On_NFKD", "cjkAccountingNumeric", "kAccountingNumeric", "cjkOtherNumeric",
    "kOtherNumeric", "cjkPrimaryNumeric", "kPrimaryNumeric", "cjkCompatibilityVariant",
    "kCompatibilityVariant", "cjkIICore", "kIICore", "cjkIRG_GSource", "kIRG_GSource",
    "cjkIRG_HSource", "kIRG_HSource", "cjkIRG_JSource", "kIRG_JSource", "cjkIRG_KPSource",
    "kIRG_KPSource", "cjkIRG_KSource", "kIRG_KSource", "cjkIRG_MSource", "kIRG_MSource",
    "cjkIRG_SSource", "kIRG_SSource", "cjkIRG_TSource", "kIRG_TSource", "cjkIRG_UKSource",
    "kIRG_UKSource", "cjkIRG_USource", "kIRG_USource", "cjkIRG_VSource", "kIRG_VSource",
    "cjkMandarin", "kMandarin", "cjkTotalStrokes", "kTotalStrokes", "cjkUnihanCore2020",
    "kUnihanCore2020", "cjkRSUnicode", "kRSUnicode", "Unicode_Radical_Stroke", "URS"]

end PropertyNames
end Pattern
end SubtitleExchange
