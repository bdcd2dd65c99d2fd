import InlineChoice.Unicode.Runs

/-!
# Scripts

The properties `Script` and `Script_Extensions`. A script goes by its four-letter
code and by its names. The extensions of most characters are their script alone,
so the second table holds the others.
-/

namespace InlineChoice

namespace Unicode

namespace Script

/-- The names of each script, in the form in which names are compared, and its
code. -/
def names : List (List String × String) :=
  [(["adlm", "adlam"], "Adlm"),
   (["aghb", "caucasianalbanian"], "Aghb"),
   (["ahom"], "Ahom"),
   (["arab", "arabic"], "Arab"),
   (["armi", "imperialaramaic"], "Armi"),
   (["armn", "armenian"], "Armn"),
   (["avst", "avestan"], "Avst"),
   (["bali", "balinese"], "Bali"),
   (["bamu", "bamum"], "Bamu"),
   (["bass", "bassavah"], "Bass"),
   (["batk", "batak"], "Batk"),
   (["beng", "bengali"], "Beng"),
   (["bhks", "bhaiksuki"], "Bhks"),
   (["bopo", "bopomofo"], "Bopo"),
   (["brah", "brahmi"], "Brah"),
   (["brai", "braille"], "Brai"),
   (["bugi", "buginese"], "Bugi"),
   (["buhd", "buhid"], "Buhd"),
   (["cakm", "chakma"], "Cakm"),
   (["cans", "canadianaboriginal"], "Cans"),
   (["cari", "carian"], "Cari"),
   (["cham"], "Cham"),
   (["cher", "cherokee"], "Cher"),
   (["chrs", "chorasmian"], "Chrs"),
   (["copt", "coptic", "qaac"], "Copt"),
   (["cpmn", "cyprominoan"], "Cpmn"),
   (["cprt", "cypriot"], "Cprt"),
   (["cyrl", "cyrillic"], "Cyrl"),
   (["deva", "devanagari"], "Deva"),
   (["diak", "divesakuru"], "Diak"),
   (["dogr", "dogra"], "Dogr"),
   (["dsrt", "deseret"], "Dsrt"),
   (["dupl", "duployan"], "Dupl"),
   (["egyp", "egyptianhieroglyphs"], "Egyp"),
   (["elba", "elbasan"], "Elba"),
   (["elym", "elymaic"], "Elym"),
   (["ethi", "ethiopic"], "Ethi"),
   (["gara", "garay"], "Gara"),
   (["geor", "georgian"], "Geor"),
   (["glag", "glagolitic"], "Glag"),
   (["gong", "gunjalagondi"], "Gong"),
   (["gonm", "masaramgondi"], "Gonm"),
   (["goth", "gothic"], "Goth"),
   (["gran", "grantha"], "Gran"),
   (["grek", "greek"], "Grek"),
   (["gujr", "gujarati"], "Gujr"),
   (["gukh", "gurungkhema"], "Gukh"),
   (["guru", "gurmukhi"], "Guru"),
   (["hang", "hangul"], "Hang"),
   (["hani", "han"], "Hani"),
   (["hano", "hanunoo"], "Hano"),
   (["hatr", "hatran"], "Hatr"),
   (["hebr", "hebrew"], "Hebr"),
   (["hira", "hiragana"], "Hira"),
   (["hluw", "anatolianhieroglyphs"], "Hluw"),
   (["hmng", "pahawhhmong"], "Hmng"),
   (["hmnp", "nyiakengpuachuehmong"], "Hmnp"),
   (["hung", "oldhungarian"], "Hung"),
   (["ital", "olditalic"], "Ital"),
   (["java", "javanese"], "Java"),
   (["kali", "kayahli"], "Kali"),
   (["kana", "katakana"], "Kana"),
   (["kawi"], "Kawi"),
   (["khar", "kharoshthi"], "Khar"),
   (["khmr", "khmer"], "Khmr"),
   (["khoj", "khojki"], "Khoj"),
   (["kits", "khitansmallscript"], "Kits"),
   (["knda", "kannada"], "Knda"),
   (["krai", "kiratrai"], "Krai"),
   (["kthi", "kaithi"], "Kthi"),
   (["lana", "taitham"], "Lana"),
   (["laoo", "lao"], "Laoo"),
   (["latn", "latin"], "Latn"),
   (["lepc", "lepcha"], "Lepc"),
   (["limb", "limbu"], "Limb"),
   (["lina", "lineara"], "Lina"),
   (["linb", "linearb"], "Linb"),
   (["lisu"], "Lisu"),
   (["lyci", "lycian"], "Lyci"),
   (["lydi", "lydian"], "Lydi"),
   (["mahj", "mahajani"], "Mahj"),
   (["maka", "makasar"], "Maka"),
   (["mand", "mandaic"], "Mand"),
   (["mani", "manichaean"], "Mani"),
   (["marc", "marchen"], "Marc"),
   (["medf", "medefaidrin"], "Medf"),
   (["mend", "mendekikakui"], "Mend"),
   (["merc", "meroiticcursive"], "Merc"),
   (["mero", "meroitichieroglyphs"], "Mero"),
   (["mlym", "malayalam"], "Mlym"),
   (["modi"], "Modi"),
   (["mong", "mongolian"], "Mong"),
   (["mroo", "mro"], "Mroo"),
   (["mtei", "meeteimayek"], "Mtei"),
   (["mult", "multani"], "Mult"),
   (["mymr", "myanmar"], "Mymr"),
   (["nagm", "nagmundari"], "Nagm"),
   (["nand", "nandinagari"], "Nand"),
   (["narb", "oldnortharabian"], "Narb"),
   (["nbat", "nabataean"], "Nbat"),
   (["newa"], "Newa"),
   (["nkoo", "nko"], "Nkoo"),
   (["nshu", "nushu"], "Nshu"),
   (["ogam", "ogham"], "Ogam"),
   (["olck", "olchiki"], "Olck"),
   (["onao", "olonal"], "Onao"),
   (["orkh", "oldturkic"], "Orkh"),
   (["orya", "oriya"], "Orya"),
   (["osge", "osage"], "Osge"),
   (["osma", "osmanya"], "Osma"),
   (["ougr", "olduyghur"], "Ougr"),
   (["palm", "palmyrene"], "Palm"),
   (["pauc", "paucinhau"], "Pauc"),
   (["perm", "oldpermic"], "Perm"),
   (["phag", "phagspa"], "Phag"),
   (["phli", "inscriptionalpahlavi"], "Phli"),
   (["phlp", "psalterpahlavi"], "Phlp"),
   (["phnx", "phoenician"], "Phnx"),
   (["plrd", "miao"], "Plrd"),
   (["prti", "inscriptionalparthian"], "Prti"),
   (["rjng", "rejang"], "Rjng"),
   (["rohg", "hanifirohingya"], "Rohg"),
   (["runr", "runic"], "Runr"),
   (["samr", "samaritan"], "Samr"),
   (["sarb", "oldsoutharabian"], "Sarb"),
   (["saur", "saurashtra"], "Saur"),
   (["sgnw", "signwriting"], "Sgnw"),
   (["shaw", "shavian"], "Shaw"),
   (["shrd", "sharada"], "Shrd"),
   (["sidd", "siddham"], "Sidd"),
   (["sind", "khudawadi"], "Sind"),
   (["sinh", "sinhala"], "Sinh"),
   (["sogd", "sogdian"], "Sogd"),
   (["sogo", "oldsogdian"], "Sogo"),
   (["sora", "sorasompeng"], "Sora"),
   (["soyo", "soyombo"], "Soyo"),
   (["sund", "sundanese"], "Sund"),
   (["sunu", "sunuwar"], "Sunu"),
   (["sylo", "sylotinagri"], "Sylo"),
   (["syrc", "syriac"], "Syrc"),
   (["tagb", "tagbanwa"], "Tagb"),
   (["takr", "takri"], "Takr"),
   (["tale", "taile"], "Tale"),
   (["talu", "newtailue"], "Talu"),
   (["taml", "tamil"], "Taml"),
   (["tang", "tangut"], "Tang"),
   (["tavt", "taiviet"], "Tavt"),
   (["telu", "telugu"], "Telu"),
   (["tfng", "tifinagh"], "Tfng"),
   (["tglg", "tagalog"], "Tglg"),
   (["thaa", "thaana"], "Thaa"),
   (["thai"], "Thai"),
   (["tibt", "tibetan"], "Tibt"),
   (["tirh", "tirhuta"], "Tirh"),
   (["tnsa", "tangsa"], "Tnsa"),
   (["todr", "todhri"], "Todr"),
   (["toto"], "Toto"),
   (["tutg", "tulutigalari"], "Tutg"),
   (["ugar", "ugaritic"], "Ugar"),
   (["vaii", "vai"], "Vaii"),
   (["vith", "vithkuqi"], "Vith"),
   (["wara", "warangciti"], "Wara"),
   (["wcho", "wancho"], "Wcho"),
   (["xpeo", "oldpersian"], "Xpeo"),
   (["xsux", "cuneiform"], "Xsux"),
   (["yezi", "yezidi"], "Yezi"),
   (["yiii", "yi"], "Yiii"),
   (["zanb", "zanabazarsquare"], "Zanb"),
   (["zinh", "inherited", "qaai"], "Zinh"),
   (["zyyy", "common"], "Zyyy")]

/-- The code of the script with a given name. -/
def named? (name : String) : Option String :=
  (names.find? fun (known, _) => known.contains name).map (·.2)

/-- The script of every code point. -/
def table : RunTable :=
  RunTable.ofLines
    ["41:Zyyy 1A:Latn 6:Zyyy 1A:Latn 2F:Zyyy Latn F:Zyyy Latn 5:Zyyy 17:Latn Zyyy 1F:Latn Zyyy",
     "1C1:Latn 27:Zyyy 5:Latn 5:Zyyy 2:Bopo 14:Zyyy 70:Zinh 4:Grek Zyyy 3:Grek 2:Zzzz 4:Grek Zyyy",
     "Grek 4:Zzzz Grek Zyyy Grek Zyyy 3:Grek Zzzz Grek Zzzz 14:Grek Zzzz 3F:Grek E:Copt 10:Grek",
     "85:Cyrl 2:Zinh A9:Cyrl Zzzz 26:Armn 2:Zzzz 32:Armn 2:Zzzz 3:Armn Zzzz 37:Hebr 8:Zzzz 1B:Hebr",
     "4:Zzzz 6:Hebr B:Zzzz 5:Arab Zyyy 6:Arab Zyyy E:Arab Zyyy 3:Arab Zyyy 20:Arab Zyyy A:Arab",
     "B:Zinh 1A:Arab Zinh 6C:Arab Zyyy 22:Arab E:Syrc Zzzz 3C:Syrc 2:Zzzz 3:Syrc 30:Arab 32:Thaa",
     "E:Zzzz 3B:Nkoo 2:Zzzz 3:Nkoo 2E:Samr 2:Zzzz F:Samr Zzzz 1C:Mand 2:Zzzz Mand Zzzz B:Syrc",
     "5:Zzzz 22:Arab 5:Zzzz 4B:Arab Zyyy 1D:Arab 51:Deva 4:Zinh F:Deva 2:Zyyy 1A:Deva 4:Beng Zzzz",
     "8:Beng 2:Zzzz 2:Beng 2:Zzzz 16:Beng Zzzz 7:Beng Zzzz Beng 3:Zzzz 4:Beng 2:Zzzz 9:Beng 2:Zzzz",
     "2:Beng 2:Zzzz 4:Beng 8:Zzzz Beng 4:Zzzz 2:Beng Zzzz 5:Beng 2:Zzzz 19:Beng 2:Zzzz 3:Guru Zzzz",
     "6:Guru 4:Zzzz 2:Guru 2:Zzzz 16:Guru Zzzz 7:Guru Zzzz 2:Guru Zzzz 2:Guru Zzzz 2:Guru 2:Zzzz",
     "Guru Zzzz 5:Guru 4:Zzzz 2:Guru 2:Zzzz 3:Guru 3:Zzzz Guru 7:Zzzz 4:Guru Zzzz Guru 7:Zzzz",
     "11:Guru A:Zzzz 3:Gujr Zzzz 9:Gujr Zzzz 3:Gujr Zzzz 16:Gujr Zzzz 7:Gujr Zzzz 2:Gujr Zzzz",
     "5:Gujr 2:Zzzz A:Gujr Zzzz 3:Gujr Zzzz 3:Gujr 2:Zzzz Gujr F:Zzzz 4:Gujr 2:Zzzz C:Gujr 7:Zzzz",
     "7:Gujr Zzzz 3:Orya Zzzz 8:Orya 2:Zzzz 2:Orya 2:Zzzz 16:Orya Zzzz 7:Orya Zzzz 2:Orya Zzzz",
     "5:Orya 2:Zzzz 9:Orya 2:Zzzz 2:Orya 2:Zzzz 3:Orya 7:Zzzz 3:Orya 4:Zzzz 2:Orya Zzzz 5:Orya",
     "2:Zzzz 12:Orya A:Zzzz 2:Taml Zzzz 6:Taml 3:Zzzz 3:Taml Zzzz 4:Taml 3:Zzzz 2:Taml Zzzz Taml",
     "Zzzz 2:Taml 3:Zzzz 2:Taml 3:Zzzz 3:Taml 3:Zzzz C:Taml 4:Zzzz 5:Taml 3:Zzzz 3:Taml Zzzz",
     "4:Taml 2:Zzzz Taml 6:Zzzz Taml E:Zzzz 15:Taml 5:Zzzz D:Telu Zzzz 3:Telu Zzzz 17:Telu Zzzz",
     "10:Telu 2:Zzzz 9:Telu Zzzz 3:Telu Zzzz 4:Telu 7:Zzzz 2:Telu Zzzz 3:Telu Zzzz 2:Telu 2:Zzzz",
     "4:Telu 2:Zzzz A:Telu 7:Zzzz 9:Telu D:Knda Zzzz 3:Knda Zzzz 17:Knda Zzzz A:Knda Zzzz 5:Knda",
     "2:Zzzz 9:Knda Zzzz 3:Knda Zzzz 4:Knda 7:Zzzz 2:Knda 5:Zzzz 3:Knda Zzzz 4:Knda 2:Zzzz A:Knda",
     "Zzzz 3:Knda C:Zzzz D:Mlym Zzzz 3:Mlym Zzzz 33:Mlym Zzzz 3:Mlym Zzzz 6:Mlym 4:Zzzz 10:Mlym",
     "2:Zzzz 1A:Mlym Zzzz 3:Sinh Zzzz 12:Sinh 3:Zzzz 18:Sinh Zzzz 9:Sinh Zzzz Sinh 2:Zzzz 7:Sinh",
     "3:Zzzz Sinh 4:Zzzz 6:Sinh Zzzz Sinh Zzzz 8:Sinh 6:Zzzz A:Sinh 2:Zzzz 3:Sinh C:Zzzz 3A:Thai",
     "4:Zzzz Zyyy 1C:Thai 25:Zzzz 2:Laoo Zzzz Laoo Zzzz 5:Laoo Zzzz 18:Laoo Zzzz Laoo Zzzz 17:Laoo",
     "2:Zzzz 5:Laoo Zzzz Laoo Zzzz 7:Laoo Zzzz A:Laoo 2:Zzzz 4:Laoo 20:Zzzz 48:Tibt Zzzz 24:Tibt",
     "4:Zzzz 27:Tibt Zzzz 24:Tibt Zzzz F:Tibt Zzzz 7:Tibt 4:Zyyy 2:Tibt 25:Zzzz A0:Mymr 26:Geor",
     "Zzzz Geor 5:Zzzz Geor 2:Zzzz 2B:Geor Zyyy 4:Geor 100:Hang 49:Ethi Zzzz 4:Ethi 2:Zzzz 7:Ethi",
     "Zzzz Ethi Zzzz 4:Ethi 2:Zzzz 29:Ethi Zzzz 4:Ethi 2:Zzzz 21:Ethi Zzzz 4:Ethi 2:Zzzz 7:Ethi",
     "Zzzz Ethi Zzzz 4:Ethi 2:Zzzz F:Ethi Zzzz 39:Ethi Zzzz 4:Ethi 2:Zzzz 43:Ethi 2:Zzzz 20:Ethi",
     "3:Zzzz 1A:Ethi 6:Zzzz 56:Cher 2:Zzzz 6:Cher 2:Zzzz 280:Cans 1D:Ogam 3:Zzzz 4B:Runr 3:Zyyy",
     "B:Runr 7:Zzzz 16:Tglg 9:Zzzz Tglg 15:Hano 2:Zyyy 9:Zzzz 14:Buhd C:Zzzz D:Tagb Zzzz 3:Tagb",
     "Zzzz 2:Tagb C:Zzzz 5E:Khmr 2:Zzzz A:Khmr 6:Zzzz A:Khmr 6:Zzzz 2:Mong 2:Zyyy Mong Zyyy",
     "14:Mong 6:Zzzz 59:Mong 7:Zzzz 2B:Mong 5:Zzzz 46:Cans A:Zzzz 1F:Limb Zzzz C:Limb 4:Zzzz",
     "C:Limb 4:Zzzz Limb 3:Zzzz C:Limb 1E:Tale 2:Zzzz 5:Tale B:Zzzz 2C:Talu 4:Zzzz 1A:Talu 6:Zzzz",
     "B:Talu 3:Zzzz 2:Talu 20:Khmr 1C:Bugi 2:Zzzz 2:Bugi 3F:Lana Zzzz 1D:Lana 2:Zzzz B:Lana 6:Zzzz",
     "A:Lana 6:Zzzz E:Lana 2:Zzzz 2E:Zinh 2:Zzzz C:Zinh 14:Zzzz 4D:Bali Zzzz 32:Bali 40:Sund",
     "34:Batk 8:Zzzz 4:Batk 38:Lepc 3:Zzzz F:Lepc 3:Zzzz 3:Lepc 30:Olck B:Cyrl 5:Zzzz 2B:Geor",
     "2:Zzzz 3:Geor 8:Sund 8:Zzzz 3:Zinh Zyyy D:Zinh Zyyy 7:Zinh 4:Zyyy Zinh 6:Zyyy Zinh 3:Zyyy",
     "2:Zinh Zyyy 5:Zzzz 26:Latn 5:Grek Cyrl 31:Latn 5:Grek 4:Latn 5:Grek D:Latn Cyrl 46:Latn Grek",
     "40:Zinh 100:Latn 16:Grek 2:Zzzz 6:Grek 2:Zzzz 26:Grek 2:Zzzz 6:Grek 2:Zzzz 8:Grek Zzzz Grek",
     "Zzzz Grek Zzzz Grek Zzzz 1F:Grek 2:Zzzz 35:Grek Zzzz F:Grek Zzzz E:Grek 2:Zzzz 6:Grek Zzzz",
     "13:Grek 2:Zzzz 3:Grek Zzzz 9:Grek Zzzz C:Zyyy 2:Zinh 57:Zyyy Zzzz B:Zyyy Latn 2:Zzzz B:Zyyy",
     "Latn F:Zyyy Zzzz D:Latn 3:Zzzz 22:Zyyy E:Zzzz 21:Zinh F:Zzzz 26:Zyyy Grek 3:Zyyy 2:Latn",
     "6:Zyyy Latn 1B:Zyyy Latn 11:Zyyy 29:Latn 3:Zyyy 4:Zzzz 29A:Zyyy 16:Zzzz B:Zyyy 15:Zzzz",
     "3A0:Zyyy 100:Brai 274:Zyyy 2:Zzzz 8A:Zyyy 60:Glag 20:Latn 74:Copt 5:Zzzz 7:Copt 26:Geor Zzzz",
     "Geor 5:Zzzz Geor 2:Zzzz 38:Tfng 7:Zzzz 2:Tfng E:Zzzz Tfng 17:Ethi 9:Zzzz 7:Ethi Zzzz 7:Ethi",
     "Zzzz 7:Ethi Zzzz 7:Ethi Zzzz 7:Ethi Zzzz 7:Ethi Zzzz 7:Ethi Zzzz 7:Ethi Zzzz 20:Cyrl 5E:Zyyy",
     "22:Zzzz 1A:Hani Zzzz 59:Hani C:Zzzz D6:Hani 1A:Zzzz 15:Zyyy Hani Zyyy Hani 19:Zyyy 9:Hani",
     "4:Zinh 2:Hang 8:Zyyy 4:Hani 4:Zyyy Zzzz 56:Hira 2:Zzzz 2:Zinh 2:Zyyy 3:Hira Zyyy 5A:Kana",
     "2:Zyyy 3:Kana 5:Zzzz 2B:Bopo Zzzz 5E:Hang Zzzz 10:Zyyy 20:Bopo 26:Zyyy 9:Zzzz Zyyy 10:Kana",
     "1F:Hang Zzzz 40:Zyyy 1F:Hang 51:Zyyy 2F:Kana Zyyy 58:Kana A8:Zyyy 19C0:Hani 40:Zyyy",
     "5200:Hani 48D:Yiii 3:Zzzz 37:Yiii 9:Zzzz 30:Lisu 12C:Vaii 14:Zzzz 60:Cyrl 58:Bamu 8:Zzzz",
     "22:Zyyy 66:Latn 3:Zyyy 52:Latn 14:Zzzz F:Latn 2D:Sylo 3:Zzzz A:Zyyy 6:Zzzz 38:Phag 8:Zzzz",
     "46:Saur 8:Zzzz C:Saur 6:Zzzz 20:Deva 2E:Kali Zyyy Kali 24:Rjng B:Zzzz Rjng 1D:Hang 3:Zzzz",
     "4E:Java Zzzz Zyyy A:Java 4:Zzzz 2:Java 1F:Mymr Zzzz 37:Cham 9:Zzzz E:Cham 2:Zzzz A:Cham",
     "2:Zzzz 4:Cham 20:Mymr 43:Tavt 18:Zzzz 5:Tavt 17:Mtei A:Zzzz 6:Ethi 2:Zzzz 6:Ethi 2:Zzzz",
     "6:Ethi 9:Zzzz 7:Ethi Zzzz 7:Ethi Zzzz 2B:Latn Zyyy 9:Latn Grek 4:Latn 2:Zyyy 4:Zzzz 50:Cher",
     "2E:Mtei 2:Zzzz A:Mtei 6:Zzzz 2BA4:Hang C:Zzzz 17:Hang 4:Zzzz 31:Hang 2104:Zzzz 16E:Hani",
     "2:Zzzz 6A:Hani 26:Zzzz 7:Latn C:Zzzz 5:Armn 5:Zzzz 1A:Hebr Zzzz 5:Hebr Zzzz Hebr Zzzz 2:Hebr",
     "Zzzz 2:Hebr Zzzz A:Hebr 1EE:Arab 2:Zyyy 90:Arab 20:Zzzz 10:Arab 10:Zinh A:Zyyy 6:Zzzz E:Zinh",
     "2:Cyrl 23:Zyyy Zzzz 13:Zyyy Zzzz 4:Zyyy 4:Zzzz 5:Arab Zzzz 87:Arab 2:Zzzz Zyyy Zzzz 20:Zyyy",
     "1A:Latn 6:Zyyy 1A:Latn B:Zyyy A:Kana Zyyy 2D:Kana 2:Zyyy 1F:Hang 3:Zzzz 6:Hang 2:Zzzz 6:Hang",
     "2:Zzzz 6:Hang 2:Zzzz 3:Hang 3:Zzzz 7:Zyyy Zzzz 7:Zyyy A:Zzzz 5:Zyyy 2:Zzzz C:Linb Zzzz",
     "1A:Linb Zzzz 13:Linb Zzzz 2:Linb Zzzz F:Linb 2:Zzzz E:Linb 22:Zzzz 7B:Linb 5:Zzzz 3:Zyyy",
     "4:Zzzz 2D:Zyyy 3:Zzzz 9:Zyyy 4F:Grek Zzzz D:Zyyy 3:Zzzz Grek 2F:Zzzz 2D:Zyyy Zinh 82:Zzzz",
     "1D:Lyci 3:Zzzz 31:Cari F:Zzzz Zinh 1B:Zyyy 4:Zzzz 24:Ital 9:Zzzz 3:Ital 1B:Goth 5:Zzzz",
     "2B:Perm 5:Zzzz 1E:Ugar Zzzz Ugar 24:Xpeo 4:Zzzz E:Xpeo 2A:Zzzz 50:Dsrt 30:Shaw 1E:Osma",
     "2:Zzzz A:Osma 6:Zzzz 24:Osge 4:Zzzz 24:Osge 4:Zzzz 28:Elba 8:Zzzz 34:Aghb B:Zzzz Aghb B:Vith",
     "Zzzz F:Vith Zzzz 7:Vith Zzzz 2:Vith Zzzz B:Vith Zzzz F:Vith Zzzz 7:Vith Zzzz 2:Vith 3:Zzzz",
     "34:Todr C:Zzzz 137:Lina 9:Zzzz 16:Lina A:Zzzz 8:Lina 18:Zzzz 6:Latn Zzzz 2A:Latn Zzzz 9:Latn",
     "45:Zzzz 6:Cprt 2:Zzzz Cprt Zzzz 2C:Cprt Zzzz 2:Cprt 3:Zzzz Cprt 2:Zzzz Cprt 16:Armi Zzzz",
     "9:Armi 20:Palm 1F:Nbat 8:Zzzz 9:Nbat 30:Zzzz 13:Hatr Zzzz 2:Hatr 5:Zzzz 5:Hatr 1C:Phnx",
     "3:Zzzz Phnx 1A:Lydi 5:Zzzz Lydi 40:Zzzz 20:Mero 18:Merc 4:Zzzz 14:Merc 2:Zzzz 2E:Merc 4:Khar",
     "Zzzz 2:Khar 5:Zzzz 8:Khar Zzzz 3:Khar Zzzz 1D:Khar 2:Zzzz 3:Khar 4:Zzzz A:Khar 7:Zzzz 9:Khar",
     "7:Zzzz 20:Sarb 20:Narb 20:Zzzz 27:Mani 4:Zzzz C:Mani 9:Zzzz 36:Avst 3:Zzzz 7:Avst 16:Prti",
     "2:Zzzz 8:Prti 13:Phli 5:Zzzz 8:Phli 12:Phlp 7:Zzzz 4:Phlp C:Zzzz 7:Phlp 50:Zzzz 49:Orkh",
     "37:Zzzz 33:Hung D:Zzzz 33:Hung 7:Zzzz 6:Hung 28:Rohg 8:Zzzz A:Rohg 6:Zzzz 26:Gara 3:Zzzz",
     "1D:Gara 8:Zzzz 2:Gara D0:Zzzz 1F:Arab Zzzz 2A:Yezi Zzzz 3:Yezi 2:Zzzz 2:Yezi 10:Zzzz 6:Arab",
     "8:Zzzz 9:Arab 21:Zzzz 6:Arab 28:Sogo 8:Zzzz 2A:Sogd 16:Zzzz 1A:Ougr 26:Zzzz 1C:Chrs 14:Zzzz",
     "17:Elym 9:Zzzz 4E:Brah 4:Zzzz 24:Brah 9:Zzzz Brah 43:Kthi A:Zzzz Kthi 2:Zzzz 19:Sora 7:Zzzz",
     "A:Sora 6:Zzzz 35:Cakm Zzzz 12:Cakm 8:Zzzz 27:Mahj 9:Zzzz 60:Shrd Zzzz 14:Sinh B:Zzzz 12:Khoj",
     "Zzzz 2F:Khoj 3E:Zzzz 7:Mult Zzzz Mult Zzzz 4:Mult Zzzz F:Mult Zzzz B:Mult 6:Zzzz 3B:Sind",
     "5:Zzzz A:Sind 6:Zzzz 4:Gran Zzzz 8:Gran 2:Zzzz 2:Gran 2:Zzzz 16:Gran Zzzz 7:Gran Zzzz 2:Gran",
     "Zzzz 5:Gran Zzzz Zinh 9:Gran 2:Zzzz 2:Gran 2:Zzzz 3:Gran 2:Zzzz Gran 6:Zzzz Gran 5:Zzzz",
     "7:Gran 2:Zzzz 7:Gran 3:Zzzz 5:Gran B:Zzzz A:Tutg Zzzz Tutg 2:Zzzz Tutg Zzzz 26:Tutg Zzzz",
     "A:Tutg Zzzz Tutg 2:Zzzz Tutg Zzzz 4:Tutg Zzzz A:Tutg Zzzz 2:Tutg 8:Zzzz 2:Tutg 1D:Zzzz",
     "5C:Newa Zzzz 5:Newa 1E:Zzzz 48:Tirh 8:Zzzz A:Tirh A6:Zzzz 36:Sidd 2:Zzzz 26:Sidd 22:Zzzz",
     "45:Modi B:Zzzz A:Modi 6:Zzzz D:Mong 13:Zzzz 3A:Takr 6:Zzzz A:Takr 6:Zzzz 14:Mymr 1C:Zzzz",
     "1B:Ahom 2:Zzzz F:Ahom 4:Zzzz 17:Ahom B9:Zzzz 3C:Dogr 64:Zzzz 53:Wara C:Zzzz Wara 7:Diak",
     "2:Zzzz Diak 2:Zzzz 8:Diak Zzzz 2:Diak Zzzz 1E:Diak Zzzz 2:Diak 2:Zzzz C:Diak 9:Zzzz A:Diak",
     "46:Zzzz 8:Nand 2:Zzzz 2E:Nand 2:Zzzz B:Nand 1B:Zzzz 48:Zanb 8:Zzzz 53:Soyo D:Zzzz 10:Cans",
     "39:Pauc 7:Zzzz A:Deva 56:Zzzz 8:Shrd 58:Zzzz 22:Sunu E:Zzzz A:Sunu 6:Zzzz 9:Bhks Zzzz",
     "2D:Bhks Zzzz E:Bhks A:Zzzz 1D:Bhks 3:Zzzz 20:Marc 2:Zzzz 16:Marc Zzzz E:Marc 49:Zzzz 7:Gonm",
     "Zzzz 2:Gonm Zzzz 2C:Gonm 3:Zzzz Gonm Zzzz 2:Gonm Zzzz 9:Gonm 8:Zzzz A:Gonm 6:Zzzz 6:Gong",
     "Zzzz 2:Gong Zzzz 25:Gong Zzzz 2:Gong Zzzz 6:Gong 7:Zzzz A:Gong 136:Zzzz 19:Maka 7:Zzzz",
     "11:Kawi Zzzz 29:Kawi 3:Zzzz 1D:Kawi 55:Zzzz Lisu F:Zzzz 32:Taml D:Zzzz Taml 39A:Xsux 66:Zzzz",
     "6F:Xsux Zzzz 5:Xsux B:Zzzz C4:Xsux A4C:Zzzz 63:Cpmn D:Zzzz 456:Egyp A:Zzzz F9B:Egyp 5:Zzzz",
     "247:Hluw 1AB9:Zzzz 3A:Gukh 6C6:Zzzz 239:Bamu 7:Zzzz 1F:Mroo Zzzz A:Mroo 4:Zzzz 2:Mroo",
     "4F:Tnsa Zzzz A:Tnsa 6:Zzzz 1E:Bass 2:Zzzz 6:Bass A:Zzzz 46:Hmng A:Zzzz A:Hmng Zzzz 7:Hmng",
     "Zzzz 15:Hmng 5:Zzzz 13:Hmng 1B0:Zzzz 3A:Krai C6:Zzzz 5B:Medf 65:Zzzz 4B:Plrd 4:Zzzz 39:Plrd",
     "7:Zzzz 11:Plrd 40:Zzzz Tang Nshu 2:Hani Kits B:Zzzz 7:Hani 9:Zzzz 1B00:Tang 1D6:Kits 29:Zzzz",
     "Kits 1F:Tang 61:Zzzz 73:Tang 21FD:Zzzz 4:Kana Zzzz 7:Kana Zzzz 2:Kana Zzzz Kana 11F:Hira",
     "3:Kana F:Zzzz Hira 1D:Zzzz 3:Hira 2:Zzzz Kana E:Zzzz 4:Kana 8:Zzzz 18C:Nshu 904:Zzzz 6B:Dupl",
     "5:Zzzz D:Dupl 3:Zzzz 9:Dupl 7:Zzzz A:Dupl 2:Zzzz 4:Dupl 4:Zyyy F5C:Zzzz FD:Zyyy 3:Zzzz",
     "1B4:Zyyy 6:Zzzz 17:Zyyy F:Zzzz 11:Zyyy F:Zzzz 2E:Zinh 2:Zzzz 17:Zinh 9:Zzzz 74:Zyyy 3C:Zzzz",
     "F6:Zyyy A:Zzzz 27:Zyyy 2:Zzzz 3E:Zyyy 3:Zinh 11:Zyyy 8:Zinh 2:Zyyy 7:Zinh 1E:Zyyy 4:Zinh",
     "3D:Zyyy 15:Zzzz 46:Grek 7A:Zzzz 14:Zyyy C:Zzzz 14:Zyyy C:Zzzz 57:Zyyy 9:Zzzz 19:Zyyy 87:Zzzz",
     "55:Zyyy Zzzz 47:Zyyy Zzzz 2:Zyyy 2:Zzzz Zyyy 2:Zzzz 2:Zyyy 2:Zzzz 4:Zyyy Zzzz C:Zyyy Zzzz",
     "Zyyy Zzzz 7:Zyyy Zzzz 41:Zyyy Zzzz 4:Zyyy 2:Zzzz 8:Zyyy Zzzz 7:Zyyy Zzzz 1C:Zyyy Zzzz 4:Zyyy",
     "Zzzz 5:Zyyy Zzzz Zyyy 3:Zzzz 7:Zyyy Zzzz 154:Zyyy 2:Zzzz 124:Zyyy 2:Zzzz 32:Zyyy 28C:Sgnw",
     "F:Zzzz 5:Sgnw Zzzz F:Sgnw 450:Zzzz 1F:Latn 6:Zzzz 6:Latn D5:Zzzz 7:Glag Zzzz 11:Glag 2:Zzzz",
     "7:Glag Zzzz 2:Glag Zzzz 5:Glag 5:Zzzz 3E:Cyrl 21:Zzzz Cyrl 70:Zzzz 2D:Hmnp 3:Zzzz E:Hmnp",
     "2:Zzzz A:Hmnp 4:Zzzz 2:Hmnp 140:Zzzz 1F:Toto 11:Zzzz 3A:Wcho 5:Zzzz Wcho 1D0:Zzzz 2A:Nagm",
     "D6:Zzzz 2B:Onao 4:Zzzz Onao 1E0:Zzzz 7:Ethi Zzzz 4:Ethi Zzzz 2:Ethi Zzzz F:Ethi Zzzz C5:Mend",
     "2:Zzzz 10:Mend 29:Zzzz 4C:Adlm 4:Zzzz A:Adlm 4:Zzzz 2:Adlm 311:Zzzz 44:Zyyy 4C:Zzzz 3D:Zyyy",
     "C2:Zzzz 4:Arab Zzzz 1B:Arab Zzzz 2:Arab Zzzz Arab 2:Zzzz Arab Zzzz A:Arab Zzzz 4:Arab Zzzz",
     "Arab Zzzz Arab 6:Zzzz Arab 4:Zzzz Arab Zzzz Arab Zzzz Arab Zzzz 3:Arab Zzzz 2:Arab Zzzz Arab",
     "2:Zzzz Arab Zzzz Arab Zzzz Arab Zzzz Arab Zzzz Arab Zzzz 2:Arab Zzzz Arab 2:Zzzz 4:Arab Zzzz",
     "7:Arab Zzzz 4:Arab Zzzz 4:Arab Zzzz Arab Zzzz A:Arab Zzzz 11:Arab 5:Zzzz 3:Arab Zzzz 5:Arab",
     "Zzzz 11:Arab 34:Zzzz 2:Arab 10E:Zzzz 2C:Zyyy 4:Zzzz 64:Zyyy C:Zzzz F:Zyyy 2:Zzzz F:Zyyy Zzzz",
     "F:Zyyy Zzzz 25:Zyyy A:Zzzz AE:Zyyy 38:Zzzz 1A:Zyyy Hira 2:Zyyy D:Zzzz 2C:Zyyy 4:Zzzz 9:Zyyy",
     "7:Zzzz 2:Zyyy E:Zzzz 6:Zyyy 9A:Zzzz 3D9:Zyyy 3:Zzzz 11:Zyyy 3:Zzzz D:Zyyy 3:Zzzz DA:Zyyy",
     "6:Zzzz C:Zyyy 4:Zzzz Zyyy F:Zzzz C:Zyyy 4:Zzzz 38:Zyyy 8:Zzzz A:Zyyy 6:Zzzz 28:Zyyy 8:Zzzz",
     "1E:Zyyy 2:Zzzz C:Zyyy 4:Zzzz 2:Zyyy E:Zzzz 9:Zyyy 27:Zzzz 158:Zyyy 8:Zzzz E:Zyyy 2:Zzzz",
     "D:Zyyy 3:Zzzz B:Zyyy 3:Zzzz 39:Zyyy Zzzz Zyyy 4:Zzzz 10:Zyyy 2:Zzzz C:Zyyy 4:Zzzz A:Zyyy",
     "7:Zzzz 93:Zyyy Zzzz 67:Zyyy 405:Zzzz A6E0:Hani 20:Zzzz 111E:Hani 2:Zzzz 168E:Hani 2:Zzzz",
     "1D31:Hani F:Zzzz 26E:Hani 9A2:Zzzz 21E:Hani 5E2:Zzzz 134B:Hani 5:Zzzz 212A:Hani ACB87:Zzzz",
     "Zyyy 1E:Zzzz 60:Zyyy 80:Zzzz F0:Zinh 2FE10:Zzzz"]

/-- The scripts that share a code point, joined by plus signs; a hyphen stands for
its own script alone. -/
def extensionTable : RunTable :=
  RunTable.ofLines
    ["B7:- Avst+Cari+Copt+Dupl+Elba+Geor+Glag+Gong+Goth+Grek+Hani+Latn+Lydi+Mahj+Perm+Shaw 204:-",
     "Beng+Cyrl+Deva+Latn+Lisu+Thai+Toto A:- Bopo+Latn - 3:Bopo+Latn - Latn+Lisu 9:- Latn+Thai -",
     "Bopo+Latn 26:- Cher+Copt+Cyrl+Grek+Latn+Perm+Sunu+Tale",
     "Cher+Cyrl+Grek+Latn+Osge+Sunu+Tale+Todr Cher+Cyrl+Latn+Tfng Glag+Latn+Sunu+Syrc+Thai",
     "Aghb+Cher+Copt+Cyrl+Goth+Grek+Latn+Osge+Syrc+Tfng+Todr Copt+Elba+Glag+Goth+Kana+Latn",
     "Cyrl+Grek+Latn+Perm+Tfng Copt+Dupl+Hebr+Latn+Perm+Syrc+Tale+Tfng+Todr",
     "Armn+Cyrl+Dupl+Goth+Grek+Hebr+Latn+Perm+Syrc+Tale+Tfng Latn+Tfng Dupl+Latn+Syrc",
     "Cher+Cyrl+Latn+Osge Cher+Latn+Tale Latn+Sunu Ethi+Latn - Latn+Sunu Cyrl+Latn+Todr -",
     "Grek+Latn+Perm+Todr F:- Cher+Dupl+Kana+Latn+Syrc+Tfng Cher+Dupl+Latn+Syrc Latn+Syrc 7:-",
     "Latn+Sunu+Syrc Latn+Syrc - Cher+Latn+Syrc Aghb+Cher+Goth+Latn+Sunu+Syrc+Thai 10:- Grek 2:-",
     "Grek 12:- Latn+Osge 5:- Aghb+Latn+Todr 4:- D:Latn 4:- 2:Copt+Grek 10D:- Cyrl+Perm Cyrl+Glag",
     "2:Cyrl+Latn Cyrl+Glag 101:- Armn+Geor+Glag 82:- Arab+Gara+Nkoo+Rohg+Syrc+Thaa+Yezi E:-",
     "Arab+Gara+Nkoo+Rohg+Syrc+Thaa+Yezi Arab+Syrc+Thaa 2:-",
     "Adlm+Arab+Gara+Nkoo+Rohg+Syrc+Thaa+Yezi 20:- Adlm+Arab+Mand+Mani+Ougr+Phlp+Rohg+Sogd+Syrc",
     "A:- B:Arab+Syrc A:- A:Arab+Thaa+Yezi 6:- Arab+Syrc 63:- Arab+Rohg 27C:-",
     "Beng+Deva+Gran+Gujr+Guru+Knda+Latn+Mlym+Nand+Newa+Orya+Shrd+Taml+Telu+Tirh",
     "Beng+Deva+Gran+Gujr+Guru+Knda+Latn+Mlym+Newa+Orya+Taml+Telu+Tirh 11:-",
     "Beng+Deva+Dogr+Gong+Gonm+Gran+Gujr+Guru+Knda+Mahj+Mlym+Nand+Onao+Orya+Sind+Sinh+Sylo+Takr+Taml+Telu+Tirh",
     "Beng+Deva+Dogr+Gong+Gonm+Gran+Gujr+Gukh+Guru+Knda+Limb+Mahj+Mlym+Nand+Onao+Orya+Sind+Sinh+Sylo+Takr+Taml+Telu+Tirh",
     "A:Deva+Dogr+Kthi+Mahj 76:- A:Beng+Cakm+Sylo 76:- A:Guru+Mult 76:- A:Gujr+Khoj F6:-",
     "E:Gran+Taml F2:- A:Knda+Nand+Tutg 350:- A:Cakm+Mymr+Tale B1:- Geor+Glag+Latn 5EF:- 3:Runr",
     "47:- 2:Buhd+Hano+Tagb+Tglg CB:- 2:Mong+Phag - Mong+Phag 4CA:- Beng+Deva+Gran+Knda Deva",
     "Beng+Deva+Gran+Knda Deva+Gran+Knda Deva Beng+Deva+Newa+Telu+Tirh Beng+Deva+Telu",
     "Deva+Newa+Shrd Beng+Deva+Newa+Telu Deva+Shrd Deva+Knda+Mlym+Orya+Taml+Telu Deva 2:Deva+Shrd",
     "2:Deva Deva+Shrd Beng+Deva Deva+Newa+Tirh 6:Deva Deva+Nand+Newa Beng+Deva+Shrd Deva+Newa",
     "Deva Beng+Deva+Newa+Shrd 4:Deva Beng+Deva+Gran+Knda+Mlym+Nand+Orya+Sinh+Telu+Tirh+Tutg",
     "Deva+Gran Deva+Gran+Knda+Tutg 2:Beng+Deva Beng 2:Deva+Gran Nand C5:- 2:Grek 36:-",
     "Cyrl+Latn+Syrc - Syrc 234:- Latn+Mong+Phag 1F:- Adlm+Arab A:- Cari+Geor+Glag+Hung+Lyci+Orkh",
     "2:- Cari+Grek+Hung+Mero 92:- Deva+Gran+Latn D26:- Copt+Latn 18:- Avst+Orkh",
     "Avst+Cari+Geor+Hung+Kthi+Lydi+Samr A:- Dupl 4:- Adlm+Arab+Hung - Cyrl+Glag 1AC:-",
     "10:Hani+Tang - Bopo+Hang+Hani+Hira+Kana+Mong+Yiii Bopo+Hang+Hani+Hira+Kana+Mong+Phag+Yiii",
     "Bopo+Hang+Hani+Hira+Kana 2:- Hani - 2:Bopo+Hang+Hani+Hira+Kana+Mong+Tibt+Yiii",
     "2:Bopo+Hang+Hani+Hira+Kana+Lisu+Mong+Tibt+Yiii 6:Bopo+Hang+Hani+Hira+Kana+Yiii -",
     "Bopo+Hang+Hani+Hira+Kana 8:Bopo+Hang+Hani+Hira+Kana+Yiii 4:Bopo+Hang+Hani+Hira+Kana A:-",
     "4:Bopo+Hani 2:- Bopo+Hang+Hani+Hira+Kana 5:Hira+Kana - Bopo+Hang+Hani+Hira+Kana 4:-",
     "2:Hani+Hira+Kana 2:Hani 59:- 4:Hira+Kana 3:- Hira+Kana 5A:- Bopo+Hang+Hani+Hira+Kana+Yiii",
     "Hira+Kana 93:- 10:Hani 20:- 26:Hani 9:- Hani+Tang 30:- 28:Hani 38:- 31:Hani F:- C:Hani 33:-",
     "Hani 58:- 19:Hani A:- 5:Hani 60:- 1F:Hani 7270:- Cyrl+Glag 90:- 8:Hani+Latn 128:-",
     "3:Deva+Dogr+Gujr+Guru+Khoj+Knda+Kthi+Mahj+Mlym+Modi+Nand+Shrd+Sind+Takr+Tirh+Tutg",
     "3:Deva+Dogr+Gujr+Guru+Khoj+Knda+Kthi+Mahj+Modi+Nand+Shrd+Sind+Takr+Tirh+Tutg",
     "2:Deva+Dogr+Gujr+Guru+Khoj+Kthi+Mahj+Modi+Sind+Takr+Tirh",
     "Deva+Dogr+Gujr+Guru+Khoj+Kthi+Mahj+Modi+Shrd+Sind+Takr+Tirh",
     "Deva+Dogr+Gujr+Guru+Khoj+Kthi+Mahj+Modi+Sind+Takr+Tirh B7:- Beng+Deva+Tutg - Deva+Taml 3A:-",
     "Kali+Latn+Mymr A0:- Bugi+Java 536E:- 2:Arab+Nkoo B2:- Arab+Thaa A:- Arab+Thaa 47:-",
     "2:Bopo+Hang+Hani+Hira+Kana 11A:- 5:Bopo+Hang+Hani+Hira+Kana+Yiii A:- Hira+Kana 2D:-",
     "2:Hira+Kana 160:- 2:Cpmn+Cprt+Linb Cprt+Linb 4:- 2D:Cprt+Lina+Linb 3:- 9:Cprt+Linb 1A0:-",
     "1C:Arab+Copt 7F6:- Mani+Ougr 80E:- Gran+Taml - Gran+Taml 37:- 2:Gran+Taml C93:- 2:Gran+Taml",
     "- Gran+Taml 9CCC:- 4:Dupl 16BC:- 12:Hani 1EDE:- 2:Hani F0DAE:-"]

/-- Whether a character belongs to a script. -/
def contains (code : String) (c : Char) : Bool :=
  table.value c = code

/-- Whether a character is used in a script. -/
def isUsedIn (code : String) (c : Char) : Bool :=
  let shared := extensionTable.value c
  if shared = "-" then contains code c else (shared.splitOn "+").contains code

end Script

end Unicode

end InlineChoice
