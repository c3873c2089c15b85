-- SUMMARY: Names of Unicode properties and of their values, as regular expressions use them.

/-!
# Property names

A name is looked up in its loose form: without blanks, hyphens and underscores,
without a leading `is`, and in lower case. The lists hold loose forms.
-/

namespace Flaky.Regex

/-! ## Loose forms -/

/-- A name without a leading `is` in any case, and whether there was one. -/
def withoutIs : List Char → List Char × Bool
  | a :: b :: rest =>
    if a.toLower == 'i' && b.toLower == 's' then (rest, true) else (a :: b :: rest, false)
  | cs => (cs, false)

/-- The loose form. `isc` keeps its beginning, which is no `is`. -/
def loose (name : List Char) : String :=
  let (cs, led) := withoutIs name
  let kept := (cs.filter fun c => c.toNat < 0x80 && !("_- ".toList.contains c)).map Char.toLower
  if led && kept == ['c'] then "isc" else String.ofList kept

/-! ## Names -/

/-- Properties that a character has or has not. -/
def binaryProperties : List String :=
  ["ahex", "asciihexdigit", "alpha", "alphabetic", "bidic", "bidicontrol", "bidim", "bidimirrored",
    "ci", "caseignorable", "cased", "cwcf", "changeswhencasefolded", "cwcm",
    "changeswhencasemapped", "cwl", "changeswhenlowercased", "cwt", "changeswhentitlecased", "cwu",
    "changeswhenuppercased", "dash", "di", "defaultignorablecodepoint", "dep", "deprecated", "dia",
    "diacritic", "emoji", "ecomp", "emojicomponent", "emod", "emojimodifier", "ebase",
    "emojimodifierbase", "epres", "emojipresentation", "extpict", "extendedpictographic", "ext",
    "extender", "grbase", "graphemebase", "grext", "graphemeextend", "grlink", "graphemelink",
    "hex", "hexdigit", "hyphen", "idsb", "idsbinaryoperator", "idst", "idstrinaryoperator", "idc",
    "idcontinue", "ids", "idstart", "ideo", "ideographic", "joinc", "joincontrol", "loe",
    "logicalorderexception", "lower", "lowercase", "math", "nchar", "noncharactercodepoint",
    "oalpha", "otheralphabetic", "odi", "otherdefaultignorablecodepoint", "ogrext",
    "othergraphemeextend", "oidc", "otheridcontinue", "oids", "otheridstart", "olower",
    "otherlowercase", "omath", "othermath", "oupper", "otheruppercase", "patsyn", "patternsyntax",
    "patws", "patternwhitespace", "pcm", "prependedconcatenationmark", "qmark", "quotationmark",
    "radical", "ri", "regionalindicator", "sterm", "sentenceterminal", "sd", "softdotted", "term",
    "terminalpunctuation", "uideo", "unifiedideograph", "upper", "uppercase", "vs",
    "variationselector", "wspace", "whitespace", "space", "xidc", "xidcontinue", "xids", "xidstart"]

/-- General categories. -/
def categories : List String :=
  ["c", "other", "cc", "control", "cntrl", "cf", "format", "cn", "unassigned", "co", "privateuse",
    "cs", "surrogate", "l", "letter", "lc", "casedletter", "ll", "lowercaseletter", "lm",
    "modifierletter", "lo", "otherletter", "lt", "titlecaseletter", "lu", "uppercaseletter", "m",
    "mark", "combiningmark", "mc", "spacingmark", "me", "enclosingmark", "mn", "nonspacingmark",
    "n", "number", "nd", "decimalnumber", "digit", "nl", "letternumber", "no", "othernumber", "p",
    "punctuation", "punct", "pc", "connectorpunctuation", "pd", "dashpunctuation", "pe",
    "closepunctuation", "pf", "finalpunctuation", "pi", "initialpunctuation", "po",
    "otherpunctuation", "ps", "openpunctuation", "s", "symbol", "sc", "currencysymbol", "sk",
    "modifiersymbol", "sm", "mathsymbol", "so", "othersymbol", "z", "separator", "zl",
    "lineseparator", "zp", "paragraphseparator", "zs", "spaceseparator", "any", "assigned", "ascii"]

/-- Scripts. -/
def scripts : List String :=
  ["adlm", "adlam", "aghb", "caucasianalbanian", "ahom", "arab", "arabic", "armi",
    "imperialaramaic", "armn", "armenian", "avst", "avestan", "bali", "balinese", "bamu", "bamum",
    "bass", "bassavah", "batk", "batak", "beng", "bengali", "bhks", "bhaiksuki", "bopo", "bopomofo",
    "brah", "brahmi", "brai", "braille", "bugi", "buginese", "buhd", "buhid", "cakm", "chakma",
    "cans", "canadianaboriginal", "cari", "carian", "cham", "cher", "cherokee", "chrs",
    "chorasmian", "copt", "coptic", "qaac", "cpmn", "cyprominoan", "cprt", "cypriot", "cyrl",
    "cyrillic", "deva", "devanagari", "diak", "divesakuru", "dogr", "dogra", "dsrt", "deseret",
    "dupl", "duployan", "egyp", "egyptianhieroglyphs", "elba", "elbasan", "elym", "elymaic", "ethi",
    "ethiopic", "geor", "georgian", "glag", "glagolitic", "gong", "gunjalagondi", "gonm",
    "masaramgondi", "goth", "gothic", "gran", "grantha", "grek", "greek", "gujr", "gujarati",
    "guru", "gurmukhi", "hang", "hangul", "hani", "han", "hano", "hanunoo", "hatr", "hatran",
    "hebr", "hebrew", "hira", "hiragana", "hluw", "anatolianhieroglyphs", "hmng", "pahawhhmong",
    "hmnp", "nyiakengpuachuehmong", "hung", "oldhungarian", "ital", "olditalic", "java", "javanese",
    "kali", "kayahli", "kana", "katakana", "kawi", "khar", "kharoshthi", "khmr", "khmer", "khoj",
    "khojki", "kits", "khitansmallscript", "knda", "kannada", "kthi", "kaithi", "lana", "taitham",
    "laoo", "lao", "latn", "latin", "lepc", "lepcha", "limb", "limbu", "lina", "lineara", "linb",
    "linearb", "lisu", "lyci", "lycian", "lydi", "lydian", "mahj", "mahajani", "maka", "makasar",
    "mand", "mandaic", "mani", "manichaean", "marc", "marchen", "medf", "medefaidrin", "mend",
    "mendekikakui", "merc", "meroiticcursive", "mero", "meroitichieroglyphs", "mlym", "malayalam",
    "modi", "mong", "mongolian", "mroo", "mro", "mtei", "meeteimayek", "mult", "multani", "mymr",
    "myanmar", "nagm", "nagmundari", "nand", "nandinagari", "narb", "oldnortharabian", "nbat",
    "nabataean", "newa", "nkoo", "nko", "nshu", "nushu", "ogam", "ogham", "olck", "olchiki", "orkh",
    "oldturkic", "orya", "oriya", "osge", "osage", "osma", "osmanya", "ougr", "olduyghur", "palm",
    "palmyrene", "pauc", "paucinhau", "perm", "oldpermic", "phag", "phagspa", "phli",
    "inscriptionalpahlavi", "phlp", "psalterpahlavi", "phnx", "phoenician", "plrd", "miao", "prti",
    "inscriptionalparthian", "rjng", "rejang", "rohg", "hanifirohingya", "runr", "runic", "samr",
    "samaritan", "sarb", "oldsoutharabian", "saur", "saurashtra", "sgnw", "signwriting", "shaw",
    "shavian", "shrd", "sharada", "sidd", "siddham", "sind", "khudawadi", "sinh", "sinhala", "sogd",
    "sogdian", "sogo", "oldsogdian", "sora", "sorasompeng", "soyo", "soyombo", "sund", "sundanese",
    "sylo", "sylotinagri", "syrc", "syriac", "tagb", "tagbanwa", "takr", "takri", "tale", "taile",
    "talu", "newtailue", "taml", "tamil", "tang", "tangut", "tavt", "taiviet", "telu", "telugu",
    "tfng", "tifinagh", "tglg", "tagalog", "thaa", "thaana", "thai", "tibt", "tibetan", "tirh",
    "tirhuta", "tnsa", "tangsa", "toto", "ugar", "ugaritic", "vaii", "vai", "vith", "vithkuqi",
    "wara", "warangciti", "wcho", "wancho", "xpeo", "oldpersian", "xsux", "cuneiform", "yezi",
    "yezidi", "yiii", "yi", "zanb", "zanabazarsquare", "zinh", "inherited", "qaai", "zyyy",
    "common", "zzzz", "unknown", "gara", "garay", "gukh", "gurungkhema", "krai", "kiratrai", "onao",
    "olonal", "sunu", "sunuwar", "todr", "todhri", "tutg", "tulutigalari", "hrkt",
    "katakanaorhiragana"]

/-- Versions in which characters were assigned. -/
def ages : List String :=
  ["1.1", "v11", "10.0", "v100", "11.0", "v110", "12.0", "v120", "12.1", "v121", "13.0", "v130",
    "14.0", "v140", "15.0", "v150", "2.0", "v20", "2.1", "v21", "3.0", "v30", "3.1", "v31", "3.2",
    "v32", "4.0", "v40", "4.1", "v41", "5.0", "v50", "5.1", "v51", "5.2", "v52", "6.0", "v60",
    "6.1", "v61", "6.2", "v62", "6.3", "v63", "7.0", "v70", "8.0", "v80", "9.0", "v90", "na",
    "unassigned", "15.1", "v151", "16.0", "v160"]

/-- Classes of grapheme cluster boundaries. -/
def graphemeBreaks : List String :=
  ["cn", "control", "cr", "eb", "ebase", "ebg", "ebasegaz", "em", "emodifier", "ex", "extend",
    "gaz", "glueafterzwj", "l", "lf", "lv", "lvt", "pp", "prepend", "ri", "regionalindicator", "sm",
    "spacingmark", "t", "v", "xx", "other", "zwj"]

/-- Classes of word boundaries. -/
def wordBreaks : List String :=
  ["cr", "dq", "doublequote", "eb", "ebase", "ebg", "ebasegaz", "em", "emodifier", "ex",
    "extendnumlet", "extend", "fo", "format", "gaz", "glueafterzwj", "hl", "hebrewletter", "ka",
    "katakana", "le", "aletter", "lf", "mb", "midnumlet", "ml", "midletter", "mn", "midnum", "nl",
    "newline", "nu", "numeric", "ri", "regionalindicator", "sq", "singlequote", "wsegspace", "xx",
    "other", "zwj"]

/-- Classes of sentence boundaries. -/
def sentenceBreaks : List String :=
  ["at", "aterm", "cl", "close", "cr", "ex", "extend", "fo", "format", "le", "oletter", "lf", "lo",
    "lower", "nu", "numeric", "sc", "scontinue", "se", "sep", "sp", "st", "sterm", "up", "upper",
    "xx", "other"]

/-- The values of the properties that have more than two. -/
def valuesOf : List (List String × List String) :=
  [(["gc", "generalcategory"], categories), (["sc", "script"], scripts),
    (["scx", "scriptextensions"], scripts), (["age"], ages),
    (["gcb", "graphemeclusterbreak"], graphemeBreaks), (["wb", "wordbreak"], wordBreaks),
    (["sb", "sentencebreak"], sentenceBreaks)]

/-! ## Classes -/

/-- Whether a name on its own is a class of characters. -/
def isClassName (name : List Char) : Bool :=
  let name := loose name
  binaryProperties.contains name || categories.contains name || scripts.contains name

/-- Whether a property has a value. -/
def isPropertyValue (property value : List Char) : Bool :=
  valuesOf.any fun (names, values) =>
    names.contains (loose property) && values.contains (loose value)

/-- Split at the first place where the separator stands. -/
def splitAtFirst (separator : List Char) : List Char → Option (List Char × List Char)
  | [] => none
  | c :: rest =>
    if separator.isPrefixOf (c :: rest) then some ([], (c :: rest).drop separator.length)
    else (splitAtFirst separator rest).map fun (before, after) => (c :: before, after)

/-- Whether what stands between the braces of a property class names a class. -/
def isClass (name : List Char) : Bool :=
  match ["!=".toList, ":".toList, "=".toList].findSome? fun s => splitAtFirst s name with
  | some (property, value) => isPropertyValue property value
  | none => isClassName name

end Flaky.Regex
