/-!
# Unicode properties by name

The properties that a regular expression can ask for. Names are compared without
letter case, blanks, hyphens and underlines, and an `is` in front of them does not
count. What a property holds is not kept, only how many ranges it falls into.
-/
namespace DnsBalancer.Text.Pattern

/-- The names of a property, in the form they are compared in. -/
structure Property where
  names : List String
  /-- How many ranges of characters have it. -/
  ranges : Nat
  deriving DecidableEq, Repr, Inhabited

namespace Property

/-- The general categories, and what is said of code points at large. -/
def categories : List Property := [
  ⟨["c", "other"], 742⟩, ⟨["cc", "control", "cntrl"], 2⟩, ⟨["cf", "format"], 21⟩,
  ⟨["cn", "unassigned"], 735⟩, ⟨["co", "privateuse"], 3⟩, ⟨["l", "letter"], 684⟩,
  ⟨["lc", "casedletter"], 144⟩, ⟨["ll", "lowercaseletter"], 664⟩, ⟨["lm", "modifierletter"], 79⟩,
  ⟨["lo", "otherletter"], 537⟩, ⟨["lt", "titlecaseletter"], 10⟩,
  ⟨["lu", "uppercaseletter"], 655⟩, ⟨["m", "mark", "combiningmark"], 327⟩,
  ⟨["mc", "spacingmark"], 193⟩, ⟨["me", "enclosingmark"], 5⟩, ⟨["mn", "nonspacingmark"], 365⟩,
  ⟨["n", "number"], 146⟩, ⟨["nd", "decimalnumber", "digit"], 72⟩, ⟨["nl", "letternumber"], 13⟩,
  ⟨["no", "othernumber"], 72⟩, ⟨["p", "punctuation", "punct"], 199⟩,
  ⟨["pc", "connectorpunctuation"], 6⟩, ⟨["pd", "dashpunctuation"], 20⟩,
  ⟨["pe", "closepunctuation"], 76⟩, ⟨["pf", "finalpunctuation"], 10⟩,
  ⟨["pi", "initialpunctuation"], 11⟩, ⟨["po", "otherpunctuation"], 194⟩,
  ⟨["ps", "openpunctuation"], 79⟩, ⟨["s", "symbol"], 242⟩, ⟨["sc", "currencysymbol"], 21⟩,
  ⟨["sk", "modifiersymbol"], 31⟩, ⟨["sm", "mathsymbol"], 67⟩, ⟨["so", "othersymbol"], 193⟩,
  ⟨["z", "separator"], 8⟩, ⟨["zl", "lineseparator"], 1⟩, ⟨["zp", "paragraphseparator"], 1⟩,
  ⟨["zs", "spaceseparator"], 7⟩, ⟨["any"], 2⟩, ⟨["ascii"], 1⟩, ⟨["assigned"], 735⟩]

/-- The properties that a character has or has not. -/
def binary : List Property := [
  ⟨["ahex", "asciihexdigit"], 3⟩, ⟨["alpha", "alphabetic"], 761⟩, ⟨["bidic", "bidicontrol"], 4⟩,
  ⟨["ci", "caseignorable"], 464⟩, ⟨["cased"], 158⟩, ⟨["cwcf", "changeswhencasefolded"], 630⟩,
  ⟨["cwcm", "changeswhencasemapped"], 131⟩, ⟨["cwl", "changeswhenlowercased"], 618⟩,
  ⟨["cwt", "changeswhentitlecased"], 633⟩, ⟨["cwu", "changeswhenuppercased"], 634⟩,
  ⟨["dash"], 24⟩, ⟨["di", "defaultignorablecodepoint"], 17⟩, ⟨["dep", "deprecated"], 8⟩,
  ⟨["dia", "diacritic"], 220⟩, ⟨["ebase", "emojimodifierbase"], 40⟩,
  ⟨["ecomp", "emojicomponent"], 10⟩, ⟨["emod", "emojimodifier"], 1⟩, ⟨["emoji"], 151⟩,
  ⟨["epres", "emojipresentation"], 81⟩, ⟨["ext", "extender"], 43⟩,
  ⟨["extpict", "extendedpictographic"], 156⟩, ⟨["grbase", "graphemebase"], 904⟩,
  ⟨["grext", "graphemeextend"], 383⟩, ⟨["grlink", "graphemelink"], 50⟩, ⟨["hex", "hexdigit"], 6⟩,
  ⟨["hyphen"], 10⟩, ⟨["idc", "idcontinue"], 799⟩, ⟨["idcompatmathcontinue"], 12⟩,
  ⟨["idcompatmathstart"], 10⟩, ⟨["ids", "idstart"], 684⟩, ⟨["idsb", "idsbinaryoperator"], 3⟩,
  ⟨["idst", "idstrinaryoperator"], 1⟩, ⟨["idsu", "idsunaryoperator"], 1⟩,
  ⟨["ideo", "ideographic"], 21⟩, ⟨["joinc", "joincontrol"], 1⟩,
  ⟨["loe", "logicalorderexception"], 7⟩, ⟨["lower", "lowercase"], 677⟩, ⟨["math"], 141⟩,
  ⟨["mcm", "modifiercombiningmark"], 8⟩, ⟨["nchar", "noncharactercodepoint"], 18⟩,
  ⟨["oalpha", "otheralphabetic"], 240⟩, ⟨["odi", "otherdefaultignorablecodepoint"], 11⟩,
  ⟨["ogrext", "othergraphemeextend"], 30⟩, ⟨["oidc", "otheridcontinue"], 20⟩,
  ⟨["oids", "otheridstart"], 4⟩, ⟨["olower", "otherlowercase"], 28⟩,
  ⟨["omath", "othermath"], 134⟩, ⟨["oupper", "otheruppercase"], 5⟩,
  ⟨["patsyn", "patternsyntax"], 28⟩, ⟨["patws", "patternwhitespace"], 5⟩,
  ⟨["pcm", "prependedconcatenationmark"], 7⟩, ⟨["qmark", "quotationmark"], 13⟩, ⟨["radical"], 3⟩,
  ⟨["ri", "regionalindicator"], 1⟩, ⟨["sd", "softdotted"], 34⟩,
  ⟨["sterm", "sentenceterminal"], 88⟩, ⟨["term", "terminalpunctuation"], 116⟩,
  ⟨["uideo", "unifiedideograph"], 16⟩, ⟨["upper", "uppercase"], 660⟩,
  ⟨["vs", "variationselector"], 4⟩, ⟨["wspace", "whitespace", "space"], 10⟩,
  ⟨["xidc", "xidcontinue"], 806⟩, ⟨["xids", "xidstart"], 691⟩]

/-- The scripts. -/
def scripts : List Property := [
  ⟨["adlm", "adlam"], 3⟩, ⟨["aghb", "caucasianalbanian"], 2⟩, ⟨["ahom"], 3⟩,
  ⟨["arab", "arabic"], 56⟩, ⟨["armi", "imperialaramaic"], 2⟩, ⟨["armn", "armenian"], 4⟩,
  ⟨["avst", "avestan"], 2⟩, ⟨["bali", "balinese"], 2⟩, ⟨["bamu", "bamum"], 2⟩,
  ⟨["bass", "bassavah"], 2⟩, ⟨["batk", "batak"], 2⟩, ⟨["beng", "bengali"], 14⟩,
  ⟨["bhks", "bhaiksuki"], 4⟩, ⟨["bopo", "bopomofo"], 3⟩, ⟨["brah", "brahmi"], 3⟩,
  ⟨["brai", "braille"], 1⟩, ⟨["bugi", "buginese"], 2⟩, ⟨["buhd", "buhid"], 1⟩,
  ⟨["cakm", "chakma"], 2⟩, ⟨["cans", "canadianaboriginal"], 3⟩, ⟨["cari", "carian"], 1⟩,
  ⟨["cham"], 4⟩, ⟨["cher", "cherokee"], 3⟩, ⟨["chrs", "chorasmian"], 1⟩,
  ⟨["copt", "coptic", "qaac"], 3⟩, ⟨["cpmn", "cyprominoan"], 1⟩, ⟨["cprt", "cypriot"], 6⟩,
  ⟨["cyrl", "cyrillic"], 10⟩, ⟨["deva", "devanagari"], 5⟩, ⟨["diak", "divesakuru"], 8⟩,
  ⟨["dogr", "dogra"], 1⟩, ⟨["dsrt", "deseret"], 1⟩, ⟨["dupl", "duployan"], 5⟩,
  ⟨["egyp", "egyptianhieroglyphs"], 2⟩, ⟨["elba", "elbasan"], 1⟩, ⟨["elym", "elymaic"], 1⟩,
  ⟨["ethi", "ethiopic"], 36⟩, ⟨["gara", "garay"], 3⟩, ⟨["geor", "georgian"], 10⟩,
  ⟨["glag", "glagolitic"], 6⟩, ⟨["gong", "gunjalagondi"], 6⟩, ⟨["gonm", "masaramgondi"], 7⟩,
  ⟨["goth", "gothic"], 1⟩, ⟨["gran", "grantha"], 15⟩, ⟨["grek", "greek"], 36⟩,
  ⟨["gujr", "gujarati"], 14⟩, ⟨["gukh", "gurungkhema"], 1⟩, ⟨["guru", "gurmukhi"], 16⟩,
  ⟨["hang", "hangul"], 14⟩, ⟨["hani", "han"], 21⟩, ⟨["hano", "hanunoo"], 1⟩,
  ⟨["hatr", "hatran"], 3⟩, ⟨["hebr", "hebrew"], 9⟩, ⟨["hira", "hiragana"], 6⟩,
  ⟨["hluw", "anatolianhieroglyphs"], 1⟩, ⟨["hmng", "pahawhhmong"], 5⟩,
  ⟨["hmnp", "nyiakengpuachuehmong"], 4⟩, ⟨["hung", "oldhungarian"], 3⟩,
  ⟨["ital", "olditalic"], 2⟩, ⟨["java", "javanese"], 3⟩, ⟨["kali", "kayahli"], 2⟩,
  ⟨["kana", "katakana"], 14⟩, ⟨["kawi"], 3⟩, ⟨["khar", "kharoshthi"], 8⟩, ⟨["khmr", "khmer"], 4⟩,
  ⟨["khoj", "khojki"], 2⟩, ⟨["kits", "khitansmallscript"], 3⟩, ⟨["knda", "kannada"], 13⟩,
  ⟨["krai", "kiratrai"], 1⟩, ⟨["kthi", "kaithi"], 2⟩, ⟨["lana", "taitham"], 5⟩,
  ⟨["laoo", "lao"], 11⟩, ⟨["latn", "latin"], 36⟩, ⟨["lepc", "lepcha"], 3⟩,
  ⟨["limb", "limbu"], 5⟩, ⟨["lina", "lineara"], 3⟩, ⟨["linb", "linearb"], 7⟩, ⟨["lisu"], 2⟩,
  ⟨["lyci", "lycian"], 1⟩, ⟨["lydi", "lydian"], 2⟩, ⟨["mahj", "mahajani"], 1⟩,
  ⟨["maka", "makasar"], 1⟩, ⟨["mand", "mandaic"], 2⟩, ⟨["mani", "manichaean"], 2⟩,
  ⟨["marc", "marchen"], 3⟩, ⟨["medf", "medefaidrin"], 1⟩, ⟨["mend", "mendekikakui"], 2⟩,
  ⟨["merc", "meroiticcursive"], 3⟩, ⟨["mero", "meroitichieroglyphs"], 1⟩,
  ⟨["mlym", "malayalam"], 7⟩, ⟨["modi"], 2⟩, ⟨["mong", "mongolian"], 6⟩, ⟨["mroo", "mro"], 3⟩,
  ⟨["mtei", "meeteimayek"], 3⟩, ⟨["mult", "multani"], 5⟩, ⟨["mymr", "myanmar"], 4⟩,
  ⟨["nagm", "nagmundari"], 1⟩, ⟨["nand", "nandinagari"], 3⟩, ⟨["narb", "oldnortharabian"], 1⟩,
  ⟨["nbat", "nabataean"], 2⟩, ⟨["newa"], 2⟩, ⟨["nkoo", "nko"], 2⟩, ⟨["nshu", "nushu"], 2⟩,
  ⟨["ogam", "ogham"], 1⟩, ⟨["olck", "olchiki"], 1⟩, ⟨["onao", "olonal"], 2⟩,
  ⟨["orkh", "oldturkic"], 1⟩, ⟨["orya", "oriya"], 14⟩, ⟨["osge", "osage"], 2⟩,
  ⟨["osma", "osmanya"], 2⟩, ⟨["ougr", "olduyghur"], 1⟩, ⟨["palm", "palmyrene"], 1⟩,
  ⟨["pauc", "paucinhau"], 1⟩, ⟨["perm", "oldpermic"], 1⟩, ⟨["phag", "phagspa"], 1⟩,
  ⟨["phli", "inscriptionalpahlavi"], 2⟩, ⟨["phlp", "psalterpahlavi"], 3⟩,
  ⟨["phnx", "phoenician"], 2⟩, ⟨["plrd", "miao"], 3⟩, ⟨["prti", "inscriptionalparthian"], 2⟩,
  ⟨["rjng", "rejang"], 2⟩, ⟨["rohg", "hanifirohingya"], 2⟩, ⟨["runr", "runic"], 2⟩,
  ⟨["samr", "samaritan"], 2⟩, ⟨["sarb", "oldsoutharabian"], 1⟩, ⟨["saur", "saurashtra"], 2⟩,
  ⟨["sgnw", "signwriting"], 3⟩, ⟨["shaw", "shavian"], 1⟩, ⟨["shrd", "sharada"], 2⟩,
  ⟨["sidd", "siddham"], 2⟩, ⟨["sind", "khudawadi"], 2⟩, ⟨["sinh", "sinhala"], 13⟩,
  ⟨["sogd", "sogdian"], 1⟩, ⟨["sogo", "oldsogdian"], 1⟩, ⟨["sora", "sorasompeng"], 2⟩,
  ⟨["soyo", "soyombo"], 1⟩, ⟨["sund", "sundanese"], 2⟩, ⟨["sunu", "sunuwar"], 2⟩,
  ⟨["sylo", "sylotinagri"], 1⟩, ⟨["syrc", "syriac"], 4⟩, ⟨["tagb", "tagbanwa"], 3⟩,
  ⟨["takr", "takri"], 2⟩, ⟨["tale", "taile"], 2⟩, ⟨["talu", "newtailue"], 4⟩,
  ⟨["taml", "tamil"], 18⟩, ⟨["tang", "tangut"], 4⟩, ⟨["tavt", "taiviet"], 2⟩,
  ⟨["telu", "telugu"], 13⟩, ⟨["tfng", "tifinagh"], 3⟩, ⟨["tglg", "tagalog"], 2⟩,
  ⟨["thaa", "thaana"], 1⟩, ⟨["thai"], 2⟩, ⟨["tibt", "tibetan"], 7⟩, ⟨["tirh", "tirhuta"], 2⟩,
  ⟨["tnsa", "tangsa"], 2⟩, ⟨["todr", "todhri"], 1⟩, ⟨["toto"], 1⟩,
  ⟨["tutg", "tulutigalari"], 11⟩, ⟨["ugar", "ugaritic"], 2⟩, ⟨["vaii", "vai"], 1⟩,
  ⟨["vith", "vithkuqi"], 8⟩, ⟨["wara", "warangciti"], 2⟩, ⟨["wcho", "wancho"], 2⟩,
  ⟨["xpeo", "oldpersian"], 2⟩, ⟨["xsux", "cuneiform"], 4⟩, ⟨["yezi", "yezidi"], 3⟩,
  ⟨["yiii", "yi"], 2⟩, ⟨["zanb", "zanabazarsquare"], 1⟩, ⟨["zinh", "inherited", "qaai"], 30⟩,
  ⟨["zyyy", "common"], 176⟩]

/-- The versions of the standard, each with all that was assigned by then. -/
def ages : List Property :=
  ["1.1", "2.0", "2.1", "3.0", "3.1", "3.2", "4.0", "4.1", "5.0", "5.1", "5.2", "6.0", "6.1",
    "6.2", "6.3", "7.0", "8.0", "9.0", "10.0", "11.0", "12.0", "12.1", "13.0", "14.0", "15.0",
    "15.1", "16.0"].map fun age =>
      ⟨[age, "v" ++ String.ofList (age.toList.filter (· != '.'))], 400⟩

/-- What a character is to the bounds of grapheme clusters. -/
def graphemeBreaks : List Property := [
  ⟨["cn", "control"], 19⟩, ⟨["cr"], 1⟩, ⟨["ex", "extend"], 383⟩, ⟨["l"], 2⟩, ⟨["lf"], 1⟩,
  ⟨["lv"], 399⟩, ⟨["lvt"], 399⟩, ⟨["pp", "prepend"], 15⟩, ⟨["ri", "regionalindicator"], 1⟩,
  ⟨["sm", "spacingmark"], 160⟩, ⟨["t"], 2⟩, ⟨["v"], 4⟩, ⟨["zwj"], 1⟩]

/-- What a character is to the bounds of sentences. -/
def sentenceBreaks : List Property := [
  ⟨["at", "aterm"], 4⟩, ⟨["cl", "close"], 177⟩, ⟨["cr"], 1⟩, ⟨["ex", "extend"], 508⟩,
  ⟨["fo", "format"], 18⟩, ⟨["le", "oletter"], 578⟩, ⟨["lf"], 1⟩, ⟨["lo", "lower"], 672⟩,
  ⟨["nu", "numeric"], 73⟩, ⟨["sc", "scontinue"], 18⟩, ⟨["se", "sep"], 2⟩, ⟨["sp"], 10⟩,
  ⟨["st", "sterm"], 88⟩, ⟨["up", "upper"], 656⟩]

/-- What a character is to the bounds of words. -/
def wordBreaks : List Property := [
  ⟨["cr"], 1⟩, ⟨["dq", "doublequote"], 1⟩, ⟨["ex", "extendnumlet"], 6⟩, ⟨["extend"], 508⟩,
  ⟨["fo", "format"], 17⟩, ⟨["hl", "hebrewletter"], 9⟩, ⟨["ka", "katakana"], 19⟩,
  ⟨["le", "aletter"], 600⟩, ⟨["lf"], 1⟩, ⟨["mb", "midnumlet"], 7⟩, ⟨["ml", "midletter"], 9⟩,
  ⟨["mn", "midnum"], 15⟩, ⟨["nl", "newline"], 4⟩, ⟨["nu", "numeric"], 72⟩,
  ⟨["ri", "regionalindicator"], 1⟩, ⟨["sq", "singlequote"], 1⟩, ⟨["wsegspace"], 7⟩,
  ⟨["zwj"], 1⟩]

/-- A name as names are compared. What is no ASCII does not count either. -/
def simplify (name : List Char) : String :=
  let led := (name.take 2).map Char.toLower == ['i', 's']
  let body := ((if led then name.drop 2 else name).filter fun c =>
    c.toNat < 0x80 && c != ' ' && c != '_' && c != '-').map Char.toLower
  if led && body == ['c'] then "isc" else String.ofList body

def find? (name : List Char) (ps : List Property) : Option Property :=
  ps.find? (·.names.contains (simplify name))

/-- A property that is asked for by its own name. -/
def named? (name : List Char) : Option Property :=
  find? name (binary ++ categories ++ scripts)

/-- A property that is asked for as the value of another. -/
def valued? (name value : List Char) : Option Property :=
  let name := simplify name
  if ["gc", "generalcategory"].contains name then find? value categories
  else if ["sc", "script", "scx", "scriptextensions"].contains name then find? value scripts
  else if name == "age" then find? value ages
  else if ["gcb", "graphemeclusterbreak"].contains name then find? value graphemeBreaks
  else if ["sb", "sentencebreak"].contains name then find? value sentenceBreaks
  else if ["wb", "wordbreak"].contains name then find? value wordBreaks
  else none

/-- The texts before and after the first `mark`. -/
def splitAt? (mark : List Char) : List Char → Option (List Char × List Char)
  | [] => none
  | c :: rest =>
    if mark.isPrefixOf (c :: rest) then some ([], (c :: rest).drop mark.length)
    else (splitAt? mark rest).map fun (front, back) => (c :: front, back)

/-- The property that stands between the braces of an escape: a name, or a name and a
value. -/
def ofText? (s : List Char) : Option Property :=
  match splitAt? ['!', '='] s, splitAt? [':'] s, splitAt? ['='] s with
  | some (name, value), _, _ => valued? name value
  | none, some (name, value), _ => valued? name value
  | none, none, some (name, value) => valued? name value
  | none, none, none => named? s

end Property

end DnsBalancer.Text.Pattern
