import GridQuery.Text.Blank

/-!
# Character properties by name

A pattern may name a set of characters by a Unicode property: a general category, a script, a
property that is true or false, or a property and one of its values. Names are compared
without case, blanks, hyphens and underscores, and without a leading `is`.

With each name stands the room that its set takes in a compiled pattern, and the room that
the characters outside the set take, both in bytes.
-/

namespace GridQuery.Pattern

/-- A name in its loose form, with the room that the set and its complement take. -/
structure PropertyName where
  name : String
  room : Nat
  roomOutside : Nat

/-- General categories. -/
def generalCategories : List PropertyName :=
  [⟨"c", 43204, 50864⟩, ⟨"other", 43204, 50864⟩, ⟨"cc", 204, 1032⟩, ⟨"control", 204, 1032⟩,
    ⟨"cntrl", 204, 1032⟩, ⟨"cf", 1784, 4776⟩, ⟨"format", 1784, 4776⟩, ⟨"cn", 42516, 51044⟩,
    ⟨"unassigned", 42516, 51044⟩, ⟨"co", 864, 1196⟩, ⟨"privateuse", 864, 1196⟩,
    ⟨"l", 43216, 43216⟩, ⟨"letter", 43216, 43216⟩, ⟨"lc", 9640, 11388⟩,
    ⟨"casedletter", 9640, 11388⟩, ⟨"ll", 27740, 31344⟩, ⟨"lowercaseletter", 27740, 31344⟩,
    ⟨"lm", 5256, 11340⟩, ⟨"modifierletter", 5256, 11340⟩, ⟨"lo", 34532, 37176⟩,
    ⟨"otherletter", 34532, 37176⟩, ⟨"lt", 552, 1696⟩, ⟨"titlecaseletter", 552, 1696⟩,
    ⟨"lu", 26672, 30284⟩, ⟨"uppercaseletter", 26672, 30284⟩, ⟨"m", 19012, 27596⟩,
    ⟨"mark", 19012, 27596⟩, ⟨"combiningmark", 19012, 27596⟩, ⟨"mc", 10448, 16176⟩,
    ⟨"spacingmark", 10448, 16176⟩, ⟨"me", 468, 2088⟩, ⟨"enclosingmark", 468, 2088⟩,
    ⟨"mn", 19700, 29436⟩, ⟨"nonspacingmark", 19700, 29436⟩, ⟨"n", 9884, 20608⟩,
    ⟨"number", 9884, 20608⟩, ⟨"nd", 5184, 12824⟩, ⟨"decimalnumber", 5184, 12824⟩,
    ⟨"digit", 5184, 12824⟩, ⟨"nl", 1212, 3480⟩, ⟨"letternumber", 1212, 3480⟩, ⟨"no", 5100, 11008⟩,
    ⟨"othernumber", 5100, 11008⟩, ⟨"p", 11952, 22932⟩, ⟨"punctuation", 11952, 22932⟩,
    ⟨"punct", 11952, 22932⟩, ⟨"pc", 540, 1884⟩, ⟨"connectorpunctuation", 540, 1884⟩,
    ⟨"pd", 1392, 3608⟩, ⟨"dashpunctuation", 1392, 3608⟩, ⟨"pe", 3504, 5968⟩,
    ⟨"closepunctuation", 3504, 5968⟩, ⟨"pf", 552, 1796⟩, ⟨"finalpunctuation", 552, 1796⟩,
    ⟨"pi", 588, 1832⟩, ⟨"initialpunctuation", 588, 1832⟩, ⟨"po", 11280, 21708⟩,
    ⟨"otherpunctuation", 11280, 21708⟩, ⟨"ps", 3644, 6040⟩, ⟨"openpunctuation", 3644, 6040⟩,
    ⟨"s", 15936, 21636⟩, ⟨"symbol", 15936, 21636⟩, ⟨"sc", 1720, 4720⟩,
    ⟨"currencysymbol", 1720, 4720⟩, ⟨"sk", 2020, 4500⟩, ⟨"modifiersymbol", 2020, 4500⟩,
    ⟨"sm", 4160, 7488⟩, ⟨"mathsymbol", 4160, 7488⟩, ⟨"so", 13264, 17396⟩,
    ⟨"othersymbol", 13264, 17396⟩, ⟨"z", 608, 1852⟩, ⟨"separator", 608, 1852⟩, ⟨"zl", 164, 1268⟩,
    ⟨"lineseparator", 164, 1268⟩, ⟨"zp", 164, 1268⟩, ⟨"paragraphseparator", 164, 1268⟩,
    ⟨"zs", 572, 1816⟩, ⟨"spaceseparator", 572, 1816⟩, ⟨"any", 964, 32⟩,
    ⟨"assigned", 51044, 42516⟩, ⟨"ascii", 72, 928⟩]

/-- Scripts. -/
def scripts : List PropertyName :=
  [⟨"adlm", 336, 1372⟩, ⟨"adlam", 336, 1372⟩, ⟨"aghb", 300, 1304⟩,
    ⟨"caucasianalbanian", 300, 1304⟩, ⟨"ahom", 336, 1404⟩, ⟨"arab", 3268, 4608⟩,
    ⟨"arabic", 3268, 4608⟩, ⟨"armi", 232, 1236⟩, ⟨"imperialaramaic", 232, 1236⟩,
    ⟨"armn", 440, 1544⟩, ⟨"armenian", 440, 1544⟩, ⟨"avst", 232, 1200⟩, ⟨"avestan", 232, 1200⟩,
    ⟨"bali", 268, 1200⟩, ⟨"balinese", 268, 1200⟩, ⟨"bamu", 432, 1704⟩, ⟨"bamum", 432, 1704⟩,
    ⟨"bass", 232, 1372⟩, ⟨"bassavah", 232, 1372⟩, ⟨"batk", 200, 1200⟩, ⟨"batak", 200, 1200⟩,
    ⟨"beng", 700, 1600⟩, ⟨"bengali", 700, 1600⟩, ⟨"bhks", 372, 1440⟩, ⟨"bhaiksuki", 372, 1440⟩,
    ⟨"bopo", 300, 1644⟩, ⟨"bopomofo", 300, 1644⟩, ⟨"brah", 336, 1268⟩, ⟨"brahmi", 336, 1268⟩,
    ⟨"brai", 164, 1232⟩, ⟨"braille", 164, 1232⟩, ⟨"bugi", 200, 1236⟩, ⟨"buginese", 200, 1236⟩,
    ⟨"buhd", 164, 1200⟩, ⟨"buhid", 164, 1200⟩, ⟨"cakm", 300, 1368⟩, ⟨"chakma", 300, 1368⟩,
    ⟨"cans", 432, 1672⟩, ⟨"canadianaboriginal", 432, 1672⟩, ⟨"cari", 264, 1268⟩,
    ⟨"carian", 264, 1268⟩, ⟨"cham", 304, 1440⟩, ⟨"cher", 436, 1640⟩, ⟨"cherokee", 436, 1640⟩,
    ⟨"chrs", 264, 1200⟩, ⟨"chorasmian", 264, 1200⟩, ⟨"copt", 336, 1472⟩, ⟨"coptic", 336, 1472⟩,
    ⟨"qaac", 336, 1472⟩, ⟨"cpmn", 264, 1300⟩, ⟨"cyprominoan", 264, 1300⟩, ⟨"cprt", 376, 1344⟩,
    ⟨"cypriot", 376, 1344⟩, ⟨"cyrl", 1244, 2964⟩, ⟨"cyrillic", 1244, 2964⟩, ⟨"deva", 536, 1808⟩,
    ⟨"devanagari", 536, 1808⟩, ⟨"diak", 516, 1584⟩, ⟨"divesakuru", 516, 1584⟩,
    ⟨"dogr", 196, 1300⟩, ⟨"dogra", 196, 1300⟩, ⟨"dsrt", 264, 1200⟩, ⟨"deseret", 264, 1200⟩,
    ⟨"dupl", 440, 1476⟩, ⟨"duployan", 440, 1476⟩, ⟨"egyp", 536, 1332⟩,
    ⟨"egyptianhieroglyphs", 536, 1332⟩, ⟨"elba", 196, 1200⟩, ⟨"elbasan", 196, 1200⟩,
    ⟨"elym", 196, 1168⟩, ⟨"elymaic", 196, 1168⟩, ⟨"ethi", 2016, 3524⟩, ⟨"ethiopic", 2016, 3524⟩,
    ⟨"geor", 652, 1856⟩, ⟨"georgian", 652, 1856⟩, ⟨"glag", 508, 1712⟩, ⟨"glagolitic", 508, 1712⟩,
    ⟨"gong", 444, 1548⟩, ⟨"gunjalagondi", 444, 1548⟩, ⟨"gonm", 480, 1548⟩,
    ⟨"masaramgondi", 480, 1548⟩, ⟨"goth", 264, 1268⟩, ⟨"gothic", 264, 1268⟩, ⟨"gran", 768, 1836⟩,
    ⟨"grantha", 768, 1836⟩, ⟨"grek", 2244, 3960⟩, ⟨"greek", 2244, 3960⟩, ⟨"gujr", 700, 1600⟩,
    ⟨"gujarati", 700, 1600⟩, ⟨"guru", 772, 1708⟩, ⟨"gurmukhi", 772, 1708⟩, ⟨"hang", 1456, 2672⟩,
    ⟨"hangul", 1456, 2672⟩, ⟨"hani", 3584, 3564⟩, ⟨"han", 3584, 3564⟩, ⟨"hano", 164, 1236⟩,
    ⟨"hanunoo", 164, 1236⟩, ⟨"hatr", 268, 1272⟩, ⟨"hatran", 268, 1272⟩, ⟨"hebr", 584, 1724⟩,
    ⟨"hebrew", 584, 1724⟩, ⟨"hira", 740, 2216⟩, ⟨"hiragana", 740, 2216⟩, ⟨"hluw", 264, 1300⟩,
    ⟨"anatolianhieroglyphs", 264, 1300⟩, ⟨"hmng", 476, 1476⟩, ⟨"pahawhhmong", 476, 1476⟩,
    ⟨"hmnp", 336, 1440⟩, ⟨"nyiakengpuachuehmong", 336, 1440⟩, ⟨"hung", 300, 1268⟩,
    ⟨"oldhungarian", 300, 1268⟩, ⟨"ital", 232, 1236⟩, ⟨"olditalic", 232, 1236⟩,
    ⟨"java", 304, 1372⟩, ⟨"javanese", 304, 1372⟩, ⟨"kali", 200, 1336⟩, ⟨"kayahli", 200, 1336⟩,
    ⟨"kana", 1220, 2940⟩, ⟨"katakana", 1220, 2940⟩, ⟨"kawi", 336, 1404⟩, ⟨"khar", 516, 1484⟩,
    ⟨"kharoshthi", 516, 1484⟩, ⟨"khmr", 372, 1408⟩, ⟨"khmer", 372, 1408⟩, ⟨"khoj", 300, 1368⟩,
    ⟨"khojki", 300, 1368⟩, ⟨"kits", 400, 1604⟩, ⟨"khitansmallscript", 400, 1604⟩,
    ⟨"knda", 664, 1564⟩, ⟨"kannada", 664, 1564⟩, ⟨"kthi", 300, 1336⟩, ⟨"kaithi", 300, 1336⟩,
    ⟨"lana", 444, 1444⟩, ⟨"taitham", 444, 1444⟩, ⟨"laoo", 556, 1528⟩, ⟨"lao", 556, 1528⟩,
    ⟨"latn", 2740, 4796⟩, ⟨"latin", 2740, 4796⟩, ⟨"lepc", 304, 1304⟩, ⟨"lepcha", 304, 1304⟩,
    ⟨"limb", 340, 1376⟩, ⟨"limbu", 340, 1376⟩, ⟨"lina", 368, 1304⟩, ⟨"lineara", 368, 1304⟩,
    ⟨"linb", 580, 1412⟩, ⟨"linearb", 580, 1412⟩, ⟨"lisu", 296, 1672⟩, ⟨"lyci", 196, 1200⟩,
    ⟨"lycian", 196, 1200⟩, ⟨"lydi", 232, 1236⟩, ⟨"lydian", 232, 1236⟩, ⟨"mahj", 196, 1336⟩,
    ⟨"mahajani", 196, 1336⟩, ⟨"maka", 196, 1336⟩, ⟨"makasar", 196, 1336⟩, ⟨"mand", 200, 1136⟩,
    ⟨"mandaic", 200, 1136⟩, ⟨"mani", 232, 1236⟩, ⟨"manichaean", 232, 1236⟩, ⟨"marc", 336, 1440⟩,
    ⟨"marchen", 336, 1440⟩, ⟨"medf", 264, 1300⟩, ⟨"medefaidrin", 264, 1300⟩, ⟨"mend", 300, 1336⟩,
    ⟨"mendekikakui", 300, 1336⟩, ⟨"merc", 336, 1304⟩, ⟨"meroiticcursive", 336, 1304⟩,
    ⟨"mero", 196, 1200⟩, ⟨"meroitichieroglyphs", 196, 1200⟩, ⟨"mlym", 448, 1312⟩,
    ⟨"malayalam", 448, 1312⟩, ⟨"modi", 300, 1336⟩, ⟨"mong", 540, 1780⟩, ⟨"mongolian", 540, 1780⟩,
    ⟨"mroo", 268, 1372⟩, ⟨"mro", 268, 1372⟩, ⟨"mtei", 268, 1508⟩, ⟨"meeteimayek", 268, 1508⟩,
    ⟨"mult", 340, 1444⟩, ⟨"multani", 340, 1444⟩, ⟨"mymr", 532, 2012⟩, ⟨"myanmar", 532, 2012⟩,
    ⟨"nagm", 196, 1336⟩, ⟨"nagmundari", 196, 1336⟩, ⟨"nand", 336, 1440⟩,
    ⟨"nandinagari", 336, 1440⟩, ⟨"narb", 196, 1200⟩, ⟨"oldnortharabian", 196, 1200⟩,
    ⟨"nbat", 232, 1236⟩, ⟨"nabataean", 232, 1236⟩, ⟨"newa", 300, 1336⟩, ⟨"nkoo", 168, 1032⟩,
    ⟨"nko", 168, 1032⟩, ⟨"nshu", 432, 1672⟩, ⟨"nushu", 432, 1672⟩, ⟨"ogam", 164, 1200⟩,
    ⟨"ogham", 164, 1200⟩, ⟨"olck", 164, 1200⟩, ⟨"olchiki", 164, 1200⟩, ⟨"orkh", 264, 1200⟩,
    ⟨"oldturkic", 264, 1200⟩, ⟨"orya", 700, 1636⟩, ⟨"oriya", 700, 1636⟩, ⟨"osge", 300, 1304⟩,
    ⟨"osage", 300, 1304⟩, ⟨"osma", 232, 1236⟩, ⟨"osmanya", 232, 1236⟩, ⟨"ougr", 264, 1268⟩,
    ⟨"olduyghur", 264, 1268⟩, ⟨"palm", 196, 1200⟩, ⟨"palmyrene", 196, 1200⟩, ⟨"pauc", 196, 1300⟩,
    ⟨"paucinhau", 196, 1300⟩, ⟨"perm", 196, 1236⟩, ⟨"oldpermic", 196, 1236⟩, ⟨"phag", 164, 1300⟩,
    ⟨"phagspa", 164, 1300⟩, ⟨"phli", 232, 1236⟩, ⟨"inscriptionalpahlavi", 232, 1236⟩,
    ⟨"phlp", 268, 1272⟩, ⟨"psalterpahlavi", 268, 1272⟩, ⟨"phnx", 232, 1236⟩,
    ⟨"phoenician", 232, 1236⟩, ⟨"plrd", 404, 1404⟩, ⟨"miao", 404, 1404⟩, ⟨"prti", 232, 1236⟩,
    ⟨"inscriptionalparthian", 232, 1236⟩, ⟨"rjng", 268, 1404⟩, ⟨"rejang", 268, 1404⟩,
    ⟨"rohg", 232, 1236⟩, ⟨"hanifirohingya", 232, 1236⟩, ⟨"runr", 268, 1304⟩, ⟨"runic", 268, 1304⟩,
    ⟨"samr", 200, 1068⟩, ⟨"samaritan", 200, 1068⟩, ⟨"sarb", 196, 1200⟩,
    ⟨"oldsoutharabian", 196, 1200⟩, ⟨"saur", 268, 1336⟩, ⟨"saurashtra", 268, 1336⟩,
    ⟨"sgnw", 336, 1372⟩, ⟨"signwriting", 336, 1372⟩, ⟨"shaw", 196, 1200⟩, ⟨"shavian", 196, 1200⟩,
    ⟨"shrd", 332, 1472⟩, ⟨"sharada", 332, 1472⟩, ⟨"sidd", 300, 1368⟩, ⟨"siddham", 300, 1368⟩,
    ⟨"sind", 300, 1404⟩, ⟨"khudawadi", 300, 1404⟩, ⟨"sinh", 724, 1936⟩, ⟨"sinhala", 724, 1936⟩,
    ⟨"sogd", 264, 1268⟩, ⟨"sogdian", 264, 1268⟩, ⟨"sogo", 196, 1200⟩, ⟨"oldsogdian", 196, 1200⟩,
    ⟨"sora", 232, 1372⟩, ⟨"sorasompeng", 232, 1372⟩, ⟨"soyo", 264, 1368⟩, ⟨"soyombo", 264, 1368⟩,
    ⟨"sund", 232, 1268⟩, ⟨"sundanese", 232, 1268⟩, ⟨"sylo", 164, 1300⟩,
    ⟨"sylotinagri", 164, 1300⟩, ⟨"syrc", 372, 1376⟩, ⟨"syriac", 372, 1376⟩, ⟨"tagb", 236, 1308⟩,
    ⟨"tagbanwa", 236, 1308⟩, ⟨"takr", 264, 1368⟩, ⟨"takri", 264, 1368⟩, ⟨"tale", 200, 1272⟩,
    ⟨"taile", 200, 1272⟩, ⟨"talu", 340, 1340⟩, ⟨"newtailue", 340, 1340⟩, ⟨"taml", 940, 1976⟩,
    ⟨"tamil", 940, 1976⟩, ⟨"tang", 600, 1640⟩, ⟨"tangut", 600, 1640⟩, ⟨"tavt", 268, 1336⟩,
    ⟨"taiviet", 268, 1336⟩, ⟨"telu", 664, 1528⟩, ⟨"telugu", 664, 1528⟩, ⟨"tfng", 304, 1404⟩,
    ⟨"tifinagh", 304, 1404⟩, ⟨"tglg", 200, 1236⟩, ⟨"tagalog", 200, 1236⟩, ⟨"thaa", 132, 1100⟩,
    ⟨"thaana", 132, 1100⟩, ⟨"thai", 232, 1204⟩, ⟨"tibt", 584, 1312⟩, ⟨"tibetan", 584, 1312⟩,
    ⟨"tirh", 300, 1336⟩, ⟨"tirhuta", 300, 1336⟩, ⟨"tnsa", 332, 1436⟩, ⟨"tangsa", 332, 1436⟩,
    ⟨"toto", 196, 1336⟩, ⟨"ugar", 232, 1236⟩, ⟨"ugaritic", 232, 1236⟩, ⟨"vaii", 232, 1300⟩,
    ⟨"vai", 232, 1300⟩, ⟨"vith", 516, 1520⟩, ⟨"vithkuqi", 516, 1520⟩, ⟨"wara", 300, 1368⟩,
    ⟨"warangciti", 300, 1368⟩, ⟨"wcho", 232, 1300⟩, ⟨"wancho", 232, 1300⟩, ⟨"xpeo", 300, 1304⟩,
    ⟨"oldpersian", 300, 1304⟩, ⟨"xsux", 572, 1472⟩, ⟨"cuneiform", 572, 1472⟩, ⟨"yezi", 268, 1272⟩,
    ⟨"yezidi", 268, 1272⟩, ⟨"yiii", 336, 1300⟩, ⟨"yi", 336, 1300⟩, ⟨"zanb", 264, 1300⟩,
    ⟨"zanabazarsquare", 264, 1300⟩, ⟨"zinh", 2444, 5436⟩, ⟨"inherited", 2444, 5436⟩,
    ⟨"qaai", 2444, 5436⟩, ⟨"zyyy", 12544, 15588⟩, ⟨"common", 12544, 15588⟩, ⟨"gara", 336, 1304⟩,
    ⟨"garay", 336, 1304⟩, ⟨"gukh", 196, 1300⟩, ⟨"gurungkhema", 196, 1300⟩, ⟨"krai", 196, 1300⟩,
    ⟨"kiratrai", 196, 1300⟩, ⟨"onao", 232, 1336⟩, ⟨"olonal", 232, 1336⟩, ⟨"sunu", 232, 1336⟩,
    ⟨"sunuwar", 232, 1336⟩, ⟨"todr", 196, 1200⟩, ⟨"todhri", 196, 1200⟩, ⟨"tutg", 624, 1692⟩,
    ⟨"tulutigalari", 624, 1692⟩, ⟨"berf", 300, 1404⟩, ⟨"beriaerfe", 300, 1404⟩,
    ⟨"sidt", 196, 1200⟩, ⟨"sidetic", 196, 1200⟩, ⟨"tayo", 268, 1336⟩, ⟨"taiyo", 268, 1336⟩,
    ⟨"tols", 300, 1404⟩, ⟨"tolongsiki", 300, 1404⟩]

/-- Properties that are true or false. -/
def binaryProperties : List PropertyName :=
  [⟨"ahex", 88, 1072⟩, ⟨"asciihexdigit", 88, 1072⟩, ⟨"alpha", 47480, 44916⟩,
    ⟨"alphabetic", 47480, 44916⟩, ⟨"bidic", 336, 1580⟩, ⟨"bidicontrol", 336, 1580⟩,
    ⟨"bidim", 5560, 8336⟩, ⟨"bidimirrored", 5560, 8336⟩, ⟨"ci", 25024, 35648⟩,
    ⟨"caseignorable", 25024, 35648⟩, ⟨"cased", 10436, 12492⟩, ⟨"cwcf", 25240, 28748⟩,
    ⟨"changeswhencasefolded", 25240, 28748⟩, ⟨"cwcm", 8496, 10568⟩,
    ⟨"changeswhencasemapped", 8496, 10568⟩, ⟨"cwl", 24680, 28188⟩,
    ⟨"changeswhenlowercased", 24680, 28188⟩, ⟨"cwt", 25556, 29064⟩,
    ⟨"changeswhentitlecased", 25556, 29064⟩, ⟨"cwu", 25624, 29200⟩,
    ⟨"changeswhenuppercased", 25624, 29200⟩, ⟨"dash", 1632, 4024⟩, ⟨"di", 1476, 4200⟩,
    ⟨"defaultignorablecodepoint", 1476, 4200⟩, ⟨"dep", 736, 2668⟩, ⟨"deprecated", 736, 2668⟩,
    ⟨"dia", 13688, 23996⟩, ⟨"diacritic", 13688, 23996⟩, ⟨"emoji", 7660, 10332⟩,
    ⟨"ecomp", 908, 2864⟩, ⟨"emojicomponent", 908, 2864⟩, ⟨"emod", 196, 1300⟩,
    ⟨"emojimodifier", 196, 1300⟩, ⟨"ebase", 2144, 4468⟩, ⟨"emojimodifierbase", 2144, 4468⟩,
    ⟨"epres", 4856, 6864⟩, ⟨"emojipresentation", 4856, 6864⟩, ⟨"extpict", 8172, 10396⟩,
    ⟨"extendedpictographic", 8172, 10396⟩, ⟨"ext", 3084, 8028⟩, ⟨"extender", 3084, 8028⟩,
    ⟨"grbase", 55856, 50544⟩, ⟨"graphemebase", 55856, 50544⟩, ⟨"grext", 20548, 30248⟩,
    ⟨"graphemeextend", 20548, 30248⟩, ⟨"grlink", 1500, 3000⟩, ⟨"graphemelink", 1500, 3000⟩,
    ⟨"hex", 376, 1484⟩, ⟨"hexdigit", 376, 1484⟩, ⟨"hyphen", 1500, 3000⟩, ⟨"idsb", 300, 1576⟩,
    ⟨"idsbinaryoperator", 300, 1576⟩, ⟨"idst", 164, 1268⟩, ⟨"idstrinaryoperator", 164, 1268⟩,
    ⟨"idsu", 1500, 3000⟩, ⟨"idsunaryoperator", 1500, 3000⟩, ⟨"idcompatmathcontinue", 1500, 3000⟩,
    ⟨"idcompatmathstart", 1500, 3000⟩, ⟨"idc", 49908, 46324⟩, ⟨"idcontinue", 49908, 46324⟩,
    ⟨"ids", 43352, 43244⟩, ⟨"idstart", 43352, 43244⟩, ⟨"ideo", 3952, 4000⟩,
    ⟨"ideographic", 3952, 4000⟩, ⟨"joinc", 164, 1268⟩, ⟨"joincontrol", 164, 1268⟩,
    ⟨"loe", 540, 1988⟩, ⟨"logicalorderexception", 540, 1988⟩, ⟨"lower", 28368, 32144⟩,
    ⟨"lowercase", 28368, 32144⟩, ⟨"math", 7368, 9892⟩, ⟨"mcm", 1500, 3000⟩,
    ⟨"modifiercombiningmark", 1500, 3000⟩, ⟨"nchar", 1992, 5356⟩,
    ⟨"noncharactercodepoint", 1992, 5356⟩, ⟨"oalpha", 1500, 3000⟩,
    ⟨"otheralphabetic", 1500, 3000⟩, ⟨"odi", 1500, 3000⟩,
    ⟨"otherdefaultignorablecodepoint", 1500, 3000⟩, ⟨"ogrext", 1500, 3000⟩,
    ⟨"othergraphemeextend", 1500, 3000⟩, ⟨"oidc", 1500, 3000⟩, ⟨"otheridcontinue", 1500, 3000⟩,
    ⟨"oids", 1500, 3000⟩, ⟨"otheridstart", 1500, 3000⟩, ⟨"olower", 1500, 3000⟩,
    ⟨"otherlowercase", 1500, 3000⟩, ⟨"omath", 1500, 3000⟩, ⟨"othermath", 1500, 3000⟩,
    ⟨"oupper", 1500, 3000⟩, ⟨"otheruppercase", 1500, 3000⟩, ⟨"patsyn", 1792, 3244⟩,
    ⟨"patternsyntax", 1792, 3244⟩, ⟨"patws", 340, 1480⟩, ⟨"patternwhitespace", 340, 1480⟩,
    ⟨"pcm", 1500, 3000⟩, ⟨"prependedconcatenationmark", 1500, 3000⟩, ⟨"qmark", 852, 2512⟩,
    ⟨"quotationmark", 852, 2512⟩, ⟨"radical", 404, 1368⟩, ⟨"ri", 196, 1300⟩,
    ⟨"regionalindicator", 196, 1300⟩, ⟨"sterm", 5796, 13172⟩, ⟨"sentenceterminal", 5796, 13172⟩,
    ⟨"sd", 2248, 5236⟩, ⟨"softdotted", 2248, 5236⟩, ⟨"term", 7316, 15772⟩,
    ⟨"terminalpunctuation", 7316, 15772⟩, ⟨"uideo", 2740, 2756⟩, ⟨"unifiedideograph", 2740, 2756⟩,
    ⟨"upper", 27152, 30932⟩, ⟨"uppercase", 27152, 30932⟩, ⟨"vs", 500, 1976⟩,
    ⟨"variationselector", 500, 1976⟩, ⟨"wspace", 680, 1924⟩, ⟨"space", 680, 1924⟩,
    ⟨"whitespace", 680, 1924⟩, ⟨"xidc", 50296, 46608⟩, ⟨"xidcontinue", 50296, 46608⟩,
    ⟨"xids", 43740, 43528⟩, ⟨"xidstart", 43740, 43528⟩]

/-- Versions in which characters were added. -/
def ages : List PropertyName :=
  [⟨"1.1", 20000, 20000⟩, ⟨"v11", 20000, 20000⟩, ⟨"10.0", 20000, 20000⟩, ⟨"v100", 20000, 20000⟩,
    ⟨"11.0", 20000, 20000⟩, ⟨"v110", 20000, 20000⟩, ⟨"12.0", 20000, 20000⟩,
    ⟨"v120", 20000, 20000⟩, ⟨"12.1", 20000, 20000⟩, ⟨"v121", 20000, 20000⟩,
    ⟨"13.0", 20000, 20000⟩, ⟨"v130", 20000, 20000⟩, ⟨"14.0", 20000, 20000⟩,
    ⟨"v140", 20000, 20000⟩, ⟨"15.0", 20000, 20000⟩, ⟨"v150", 20000, 20000⟩, ⟨"2.0", 20000, 20000⟩,
    ⟨"v20", 20000, 20000⟩, ⟨"2.1", 20000, 20000⟩, ⟨"v21", 20000, 20000⟩, ⟨"3.0", 20000, 20000⟩,
    ⟨"v30", 20000, 20000⟩, ⟨"3.1", 20000, 20000⟩, ⟨"v31", 20000, 20000⟩, ⟨"3.2", 20000, 20000⟩,
    ⟨"v32", 20000, 20000⟩, ⟨"4.0", 20000, 20000⟩, ⟨"v40", 20000, 20000⟩, ⟨"4.1", 20000, 20000⟩,
    ⟨"v41", 20000, 20000⟩, ⟨"5.0", 20000, 20000⟩, ⟨"v50", 20000, 20000⟩, ⟨"5.1", 20000, 20000⟩,
    ⟨"v51", 20000, 20000⟩, ⟨"5.2", 20000, 20000⟩, ⟨"v52", 20000, 20000⟩, ⟨"6.0", 20000, 20000⟩,
    ⟨"v60", 20000, 20000⟩, ⟨"6.1", 20000, 20000⟩, ⟨"v61", 20000, 20000⟩, ⟨"6.2", 20000, 20000⟩,
    ⟨"v62", 20000, 20000⟩, ⟨"6.3", 20000, 20000⟩, ⟨"v63", 20000, 20000⟩, ⟨"7.0", 20000, 20000⟩,
    ⟨"v70", 20000, 20000⟩, ⟨"8.0", 20000, 20000⟩, ⟨"v80", 20000, 20000⟩, ⟨"9.0", 20000, 20000⟩,
    ⟨"v90", 20000, 20000⟩, ⟨"15.1", 20000, 20000⟩, ⟨"v151", 20000, 20000⟩, ⟨"16.0", 20000, 20000⟩,
    ⟨"v160", 20000, 20000⟩, ⟨"17.0", 20000, 20000⟩, ⟨"v170", 20000, 20000⟩]

/-- Values of Grapheme_Cluster_Break. -/
def graphemeBreaks : List PropertyName :=
  [⟨"cn", 4000, 4000⟩, ⟨"control", 4000, 4000⟩, ⟨"cr", 4000, 4000⟩, ⟨"ex", 4000, 4000⟩,
    ⟨"extend", 4000, 4000⟩, ⟨"l", 4000, 4000⟩, ⟨"lf", 4000, 4000⟩, ⟨"lv", 4000, 4000⟩,
    ⟨"lvt", 4000, 4000⟩, ⟨"pp", 4000, 4000⟩, ⟨"prepend", 4000, 4000⟩, ⟨"ri", 4000, 4000⟩,
    ⟨"regionalindicator", 4000, 4000⟩, ⟨"sm", 4000, 4000⟩, ⟨"spacingmark", 4000, 4000⟩,
    ⟨"t", 4000, 4000⟩, ⟨"v", 4000, 4000⟩, ⟨"zwj", 4000, 4000⟩]

/-- Values of Sentence_Break. -/
def sentenceBreaks : List PropertyName :=
  [⟨"at", 4000, 4000⟩, ⟨"aterm", 4000, 4000⟩, ⟨"cl", 4000, 4000⟩, ⟨"close", 4000, 4000⟩,
    ⟨"cr", 4000, 4000⟩, ⟨"ex", 4000, 4000⟩, ⟨"extend", 4000, 4000⟩, ⟨"fo", 4000, 4000⟩,
    ⟨"format", 4000, 4000⟩, ⟨"le", 4000, 4000⟩, ⟨"oletter", 4000, 4000⟩, ⟨"lf", 4000, 4000⟩,
    ⟨"lo", 4000, 4000⟩, ⟨"lower", 4000, 4000⟩, ⟨"nu", 4000, 4000⟩, ⟨"numeric", 4000, 4000⟩,
    ⟨"sc", 4000, 4000⟩, ⟨"scontinue", 4000, 4000⟩, ⟨"se", 4000, 4000⟩, ⟨"sep", 4000, 4000⟩,
    ⟨"sp", 4000, 4000⟩, ⟨"st", 4000, 4000⟩, ⟨"sterm", 4000, 4000⟩, ⟨"up", 4000, 4000⟩,
    ⟨"upper", 4000, 4000⟩]

/-- Values of Word_Break. -/
def wordBreaks : List PropertyName :=
  [⟨"cr", 4000, 4000⟩, ⟨"dq", 4000, 4000⟩, ⟨"doublequote", 4000, 4000⟩, ⟨"ex", 4000, 4000⟩,
    ⟨"extendnumlet", 4000, 4000⟩, ⟨"extend", 4000, 4000⟩, ⟨"fo", 4000, 4000⟩,
    ⟨"format", 4000, 4000⟩, ⟨"hl", 4000, 4000⟩, ⟨"hebrewletter", 4000, 4000⟩, ⟨"ka", 4000, 4000⟩,
    ⟨"katakana", 4000, 4000⟩, ⟨"le", 4000, 4000⟩, ⟨"aletter", 4000, 4000⟩, ⟨"lf", 4000, 4000⟩,
    ⟨"mb", 4000, 4000⟩, ⟨"midnumlet", 4000, 4000⟩, ⟨"ml", 4000, 4000⟩, ⟨"midletter", 4000, 4000⟩,
    ⟨"mn", 4000, 4000⟩, ⟨"midnum", 4000, 4000⟩, ⟨"nl", 4000, 4000⟩, ⟨"newline", 4000, 4000⟩,
    ⟨"nu", 4000, 4000⟩, ⟨"numeric", 4000, 4000⟩, ⟨"ri", 4000, 4000⟩,
    ⟨"regionalindicator", 4000, 4000⟩, ⟨"sq", 4000, 4000⟩, ⟨"singlequote", 4000, 4000⟩,
    ⟨"wsegspace", 4000, 4000⟩, ⟨"zwj", 4000, 4000⟩]

/-! ## Looking names up -/

/-- The characters of a name that count. -/
def looseChars (cs : List Char) : List Char :=
  (cs.filter fun c => c.toNat < 0x80 && c != ' ' && c != '_' && c != '-').map Char.toLower

/-- A name in the form in which names are compared. -/
def looseName (cs : List Char) : String :=
  match cs with
  | i :: s :: rest =>
    if i.toLower = 'i' ∧ s.toLower = 's' then
      let rest := looseChars rest
      -- a comment property and not the category c
      if rest = ['c'] then "isc" else String.ofList rest
    else String.ofList (looseChars cs)
  | cs => String.ofList (looseChars cs)

def findName (names : List PropertyName) (name : String) : Option PropertyName :=
  names.find? (·.name == name)

/-- A set of characters as a pattern names it. -/
inductive PropertyQuery where
  | named (name : List Char)
  | valued (name value : List Char)

namespace PropertyQuery

/-- The values of the properties that take one. -/
def valuesOf? (name : String) : Option (List PropertyName) :=
  match name with
  | "gc" | "generalcategory" => some generalCategories
  | "sc" | "script" => some scripts
  | "scx" | "scriptextensions" => some scripts
  | "age" => some ages
  | "gcb" | "graphemeclusterbreak" => some graphemeBreaks
  | "sb" | "sentencebreak" => some sentenceBreaks
  | "wb" | "wordbreak" => some wordBreaks
  | _ => none

/-- The set that a query names, if it names one. -/
def find? : PropertyQuery → Option PropertyName
  | .named name =>
    let n := looseName name
    findName binaryProperties n <|> findName generalCategories n <|> findName scripts n
  | .valued name value => do
    let values ← valuesOf? (looseName name)
    findName values (looseName value)

end PropertyQuery

end GridQuery.Pattern
