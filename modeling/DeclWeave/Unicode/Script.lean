import DeclWeave.Unicode.Category

/-!
# Scripts

Every assigned character belongs to one script, which has a tag of four letters; `Zyyy` is for
characters that many scripts share and `Zinh` for marks that take the script of what they mark.
Some characters of these two, and a few others, are used with certain scripts only: their script
extensions are those scripts. For all other characters they are the script itself. The tables are
those of Unicode 16.0.
-/

namespace DeclWeave.Unicode

open DeclWeave.Text (CharSet)

/-- The scripts of the characters. Code points that have none lie in the runs of their
neighbours. -/
def scriptRows : List String := [
  "0:Zyyy 41:Latn 5B:Zyyy 61:Latn 7B:Zyyy AA:Latn AB:Zyyy BA:Latn BB:Zyyy C0:Latn D7:Zyyy D8:Latn",
  "F7:Zyyy F8:Latn 2B9:Zyyy 2E0:Latn 2E5:Zyyy 2EA:Bopo 2EC:Zyyy 300:Zinh 370:Grek 374:Zyyy",
  "375:Grek 37E:Zyyy 37F:Grek 385:Zyyy 386:Grek 387:Zyyy 388:Grek 3E2:Copt 3F0:Grek 400:Cyrl",
  "485:Zinh 487:Cyrl 531:Armn 591:Hebr 600:Arab 605:Zyyy 606:Arab 60C:Zyyy 60D:Arab 61B:Zyyy",
  "61C:Arab 61F:Zyyy 620:Arab 640:Zyyy 641:Arab 64B:Zinh 656:Arab 670:Zinh 671:Arab 6DD:Zyyy",
  "6DE:Arab 700:Syrc 750:Arab 780:Thaa 7C0:Nkoo 800:Samr 840:Mand 860:Syrc 870:Arab 8E2:Zyyy",
  "8E3:Arab 900:Deva 951:Zinh 955:Deva 964:Zyyy 966:Deva 980:Beng A01:Guru A81:Gujr B01:Orya",
  "B82:Taml C00:Telu C80:Knda D00:Mlym D81:Sinh E01:Thai E3F:Zyyy E40:Thai E81:Laoo F00:Tibt",
  "FD5:Zyyy FD9:Tibt 1000:Mymr 10A0:Geor 10FB:Zyyy 10FC:Geor 1100:Hang 1200:Ethi 13A0:Cher",
  "1400:Cans 1680:Ogam 16A0:Runr 16EB:Zyyy 16EE:Runr 1700:Tglg 1720:Hano 1735:Zyyy 1740:Buhd",
  "1760:Tagb 1780:Khmr 1800:Mong 1802:Zyyy 1804:Mong 1805:Zyyy 1806:Mong 18B0:Cans 1900:Limb",
  "1950:Tale 1980:Talu 19E0:Khmr 1A00:Bugi 1A20:Lana 1AB0:Zinh 1B00:Bali 1B80:Sund 1BC0:Batk",
  "1C00:Lepc 1C50:Olck 1C80:Cyrl 1C90:Geor 1CC0:Sund 1CD0:Zinh 1CD3:Zyyy 1CD4:Zinh 1CE1:Zyyy",
  "1CE2:Zinh 1CE9:Zyyy 1CED:Zinh 1CEE:Zyyy 1CF4:Zinh 1CF5:Zyyy 1CF8:Zinh 1CFA:Zyyy 1D00:Latn",
  "1D26:Grek 1D2B:Cyrl 1D2C:Latn 1D5D:Grek 1D62:Latn 1D66:Grek 1D6B:Latn 1D78:Cyrl 1D79:Latn",
  "1DBF:Grek 1DC0:Zinh 1E00:Latn 1F00:Grek 2000:Zyyy 200C:Zinh 200E:Zyyy 2071:Latn 2074:Zyyy",
  "207F:Latn 2080:Zyyy 2090:Latn 20A0:Zyyy 20D0:Zinh 2100:Zyyy 2126:Grek 2127:Zyyy 212A:Latn",
  "212C:Zyyy 2132:Latn 2133:Zyyy 214E:Latn 214F:Zyyy 2160:Latn 2189:Zyyy 2800:Brai 2900:Zyyy",
  "2C00:Glag 2C60:Latn 2C80:Copt 2D00:Geor 2D30:Tfng 2D80:Ethi 2DE0:Cyrl 2E00:Zyyy 2E80:Hani",
  "2FF0:Zyyy 3005:Hani 3006:Zyyy 3007:Hani 3008:Zyyy 3021:Hani 302A:Zinh 302E:Hang 3030:Zyyy",
  "3038:Hani 303C:Zyyy 3041:Hira 3099:Zinh 309B:Zyyy 309D:Hira 30A0:Zyyy 30A1:Kana 30FB:Zyyy",
  "30FD:Kana 3105:Bopo 3131:Hang 3190:Zyyy 31A0:Bopo 31C0:Zyyy 31F0:Kana 3200:Hang 3220:Zyyy",
  "3260:Hang 327F:Zyyy 32D0:Kana 32FF:Zyyy 3300:Kana 3358:Zyyy 3400:Hani 4DC0:Zyyy 4E00:Hani",
  "A000:Yiii A4D0:Lisu A500:Vaii A640:Cyrl A6A0:Bamu A700:Zyyy A722:Latn A788:Zyyy A78B:Latn",
  "A800:Sylo A830:Zyyy A840:Phag A880:Saur A8E0:Deva A900:Kali A92E:Zyyy A92F:Kali A930:Rjng",
  "A960:Hang A980:Java A9CF:Zyyy A9D0:Java A9E0:Mymr AA00:Cham AA60:Mymr AA80:Tavt AAE0:Mtei",
  "AB01:Ethi AB30:Latn AB5B:Zyyy AB5C:Latn AB65:Grek AB66:Latn AB6A:Zyyy AB70:Cher ABC0:Mtei",
  "AC00:Hang F900:Hani FB00:Latn FB13:Armn FB1D:Hebr FB50:Arab FD3E:Zyyy FD40:Arab FE00:Zinh",
  "FE10:Zyyy FE20:Zinh FE2E:Cyrl FE30:Zyyy FE70:Arab FEFF:Zyyy FF21:Latn FF3B:Zyyy FF41:Latn",
  "FF5B:Zyyy FF66:Kana FF70:Zyyy FF71:Kana FF9E:Zyyy FFA0:Hang FFE0:Zyyy 10000:Linb 10100:Zyyy",
  "10140:Grek 10190:Zyyy 101A0:Grek 101D0:Zyyy 101FD:Zinh 10280:Lyci 102A0:Cari 102E0:Zinh",
  "102E1:Zyyy 10300:Ital 10330:Goth 10350:Perm 10380:Ugar 103A0:Xpeo 10400:Dsrt 10450:Shaw",
  "10480:Osma 104B0:Osge 10500:Elba 10530:Aghb 10570:Vith 105C0:Todr 10600:Lina 10780:Latn",
  "10800:Cprt 10840:Armi 10860:Palm 10880:Nbat 108E0:Hatr 10900:Phnx 10920:Lydi 10980:Mero",
  "109A0:Merc 10A00:Khar 10A60:Sarb 10A80:Narb 10AC0:Mani 10B00:Avst 10B40:Prti 10B60:Phli",
  "10B80:Phlp 10C00:Orkh 10C80:Hung 10D00:Rohg 10D40:Gara 10E60:Arab 10E80:Yezi 10EC2:Arab",
  "10F00:Sogo 10F30:Sogd 10F70:Ougr 10FB0:Chrs 10FE0:Elym 11000:Brah 11080:Kthi 110D0:Sora",
  "11100:Cakm 11150:Mahj 11180:Shrd 111E1:Sinh 11200:Khoj 11280:Mult 112B0:Sind 11300:Gran",
  "1133B:Zinh 1133C:Gran 11380:Tutg 11400:Newa 11480:Tirh 11580:Sidd 11600:Modi 11660:Mong",
  "11680:Takr 116D0:Mymr 11700:Ahom 11800:Dogr 118A0:Wara 11900:Diak 119A0:Nand 11A00:Zanb",
  "11A50:Soyo 11AB0:Cans 11AC0:Pauc 11B00:Deva 11BC0:Sunu 11C00:Bhks 11C70:Marc 11D00:Gonm",
  "11D60:Gong 11EE0:Maka 11F00:Kawi 11FB0:Lisu 11FC0:Taml 12000:Xsux 12F90:Cpmn 13000:Egyp",
  "14400:Hluw 16100:Gukh 16800:Bamu 16A40:Mroo 16A70:Tnsa 16AD0:Bass 16B00:Hmng 16D40:Krai",
  "16E40:Medf 16F00:Plrd 16FE0:Tang 16FE1:Nshu 16FE2:Hani 16FE4:Kits 16FF0:Hani 17000:Tang",
  "18B00:Kits 18D00:Tang 1AFF0:Kana 1B001:Hira 1B120:Kana 1B132:Hira 1B155:Kana 1B170:Nshu",
  "1BC00:Dupl 1BCA0:Zyyy 1CF00:Zinh 1CF50:Zyyy 1D167:Zinh 1D16A:Zyyy 1D17B:Zinh 1D183:Zyyy",
  "1D185:Zinh 1D18C:Zyyy 1D1AA:Zinh 1D1AE:Zyyy 1D200:Grek 1D2C0:Zyyy 1D800:Sgnw 1DF00:Latn",
  "1E000:Glag 1E030:Cyrl 1E100:Hmnp 1E290:Toto 1E2C0:Wcho 1E4D0:Nagm 1E5D0:Onao 1E7E0:Ethi",
  "1E800:Mend 1E900:Adlm 1EC71:Zyyy 1EE00:Arab 1F000:Zyyy 1F200:Hira 1F201:Zyyy 20000:Hani",
  "E0001:Zyyy E0100:Zinh"]

/-- The scripts, apart from code points that have none. -/
def scriptRuns : Partition :=
  .ofRows scriptRows

/-- The code points that belong to a script. -/
def scripted : CharSet :=
  (categories ["Cn", "Co", "Cs"]).complement

/-- The characters of a script. -/
def script (tag : String) : CharSet :=
  (scriptRuns.part (· == tag)).inter scripted

/-- The tags of the scripts with their names. Case, blanks, hyphens and underscores are left out
of the names. -/
def scriptNames : List (String × List String) := [
  ("Adlm", ["adlm", "adlam"]), ("Aghb", ["aghb", "caucasianalbanian"]), ("Ahom", ["ahom"]),
  ("Arab", ["arab", "arabic"]), ("Armi", ["armi", "imperialaramaic"]),
  ("Armn", ["armn", "armenian"]), ("Avst", ["avst", "avestan"]), ("Bali", ["bali", "balinese"]),
  ("Bamu", ["bamu", "bamum"]), ("Bass", ["bass", "bassavah"]), ("Batk", ["batk", "batak"]),
  ("Beng", ["beng", "bengali"]), ("Bhks", ["bhks", "bhaiksuki"]), ("Bopo", ["bopo", "bopomofo"]),
  ("Brah", ["brah", "brahmi"]), ("Brai", ["brai", "braille"]), ("Bugi", ["bugi", "buginese"]),
  ("Buhd", ["buhd", "buhid"]), ("Cakm", ["cakm", "chakma"]),
  ("Cans", ["cans", "canadianaboriginal"]), ("Cari", ["cari", "carian"]), ("Cham", ["cham"]),
  ("Cher", ["cher", "cherokee"]), ("Chrs", ["chrs", "chorasmian"]),
  ("Copt", ["copt", "coptic", "qaac"]), ("Cpmn", ["cpmn", "cyprominoan"]),
  ("Cprt", ["cprt", "cypriot"]), ("Cyrl", ["cyrl", "cyrillic"]), ("Deva", ["deva", "devanagari"]),
  ("Diak", ["diak", "divesakuru"]), ("Dogr", ["dogr", "dogra"]), ("Dsrt", ["dsrt", "deseret"]),
  ("Dupl", ["dupl", "duployan"]), ("Egyp", ["egyp", "egyptianhieroglyphs"]),
  ("Elba", ["elba", "elbasan"]), ("Elym", ["elym", "elymaic"]), ("Ethi", ["ethi", "ethiopic"]),
  ("Gara", ["gara", "garay"]), ("Geor", ["geor", "georgian"]), ("Glag", ["glag", "glagolitic"]),
  ("Gong", ["gong", "gunjalagondi"]), ("Gonm", ["gonm", "masaramgondi"]),
  ("Goth", ["goth", "gothic"]), ("Gran", ["gran", "grantha"]), ("Grek", ["grek", "greek"]),
  ("Gujr", ["gujr", "gujarati"]), ("Gukh", ["gukh", "gurungkhema"]), ("Guru", ["guru", "gurmukhi"]),
  ("Hang", ["hang", "hangul"]), ("Hani", ["hani", "han"]), ("Hano", ["hano", "hanunoo"]),
  ("Hatr", ["hatr", "hatran"]), ("Hebr", ["hebr", "hebrew"]), ("Hira", ["hira", "hiragana"]),
  ("Hluw", ["hluw", "anatolianhieroglyphs"]), ("Hmng", ["hmng", "pahawhhmong"]),
  ("Hmnp", ["hmnp", "nyiakengpuachuehmong"]), ("Hung", ["hung", "oldhungarian"]),
  ("Ital", ["ital", "olditalic"]), ("Java", ["java", "javanese"]), ("Kali", ["kali", "kayahli"]),
  ("Kana", ["kana", "katakana"]), ("Kawi", ["kawi"]), ("Khar", ["khar", "kharoshthi"]),
  ("Khmr", ["khmr", "khmer"]), ("Khoj", ["khoj", "khojki"]),
  ("Kits", ["kits", "khitansmallscript"]), ("Knda", ["knda", "kannada"]),
  ("Krai", ["krai", "kiratrai"]), ("Kthi", ["kthi", "kaithi"]), ("Lana", ["lana", "taitham"]),
  ("Laoo", ["laoo", "lao"]), ("Latn", ["latn", "latin"]), ("Lepc", ["lepc", "lepcha"]),
  ("Limb", ["limb", "limbu"]), ("Lina", ["lina", "lineara"]), ("Linb", ["linb", "linearb"]),
  ("Lisu", ["lisu"]), ("Lyci", ["lyci", "lycian"]), ("Lydi", ["lydi", "lydian"]),
  ("Mahj", ["mahj", "mahajani"]), ("Maka", ["maka", "makasar"]), ("Mand", ["mand", "mandaic"]),
  ("Mani", ["mani", "manichaean"]), ("Marc", ["marc", "marchen"]),
  ("Medf", ["medf", "medefaidrin"]), ("Mend", ["mend", "mendekikakui"]),
  ("Merc", ["merc", "meroiticcursive"]), ("Mero", ["mero", "meroitichieroglyphs"]),
  ("Mlym", ["mlym", "malayalam"]), ("Modi", ["modi"]), ("Mong", ["mong", "mongolian"]),
  ("Mroo", ["mroo", "mro"]), ("Mtei", ["mtei", "meeteimayek"]), ("Mult", ["mult", "multani"]),
  ("Mymr", ["mymr", "myanmar"]), ("Nagm", ["nagm", "nagmundari"]),
  ("Nand", ["nand", "nandinagari"]), ("Narb", ["narb", "oldnortharabian"]),
  ("Nbat", ["nbat", "nabataean"]), ("Newa", ["newa"]), ("Nkoo", ["nkoo", "nko"]),
  ("Nshu", ["nshu", "nushu"]), ("Ogam", ["ogam", "ogham"]), ("Olck", ["olck", "olchiki"]),
  ("Onao", ["onao", "olonal"]), ("Orkh", ["orkh", "oldturkic"]), ("Orya", ["orya", "oriya"]),
  ("Osge", ["osge", "osage"]), ("Osma", ["osma", "osmanya"]), ("Ougr", ["ougr", "olduyghur"]),
  ("Palm", ["palm", "palmyrene"]), ("Pauc", ["pauc", "paucinhau"]), ("Perm", ["perm", "oldpermic"]),
  ("Phag", ["phag", "phagspa"]), ("Phli", ["phli", "inscriptionalpahlavi"]),
  ("Phlp", ["phlp", "psalterpahlavi"]), ("Phnx", ["phnx", "phoenician"]),
  ("Plrd", ["plrd", "miao"]), ("Prti", ["prti", "inscriptionalparthian"]),
  ("Rjng", ["rjng", "rejang"]), ("Rohg", ["rohg", "hanifirohingya"]), ("Runr", ["runr", "runic"]),
  ("Samr", ["samr", "samaritan"]), ("Sarb", ["sarb", "oldsoutharabian"]),
  ("Saur", ["saur", "saurashtra"]), ("Sgnw", ["sgnw", "signwriting"]),
  ("Shaw", ["shaw", "shavian"]), ("Shrd", ["shrd", "sharada"]), ("Sidd", ["sidd", "siddham"]),
  ("Sind", ["sind", "khudawadi"]), ("Sinh", ["sinh", "sinhala"]), ("Sogd", ["sogd", "sogdian"]),
  ("Sogo", ["sogo", "oldsogdian"]), ("Sora", ["sora", "sorasompeng"]),
  ("Soyo", ["soyo", "soyombo"]), ("Sund", ["sund", "sundanese"]), ("Sunu", ["sunu", "sunuwar"]),
  ("Sylo", ["sylo", "sylotinagri"]), ("Syrc", ["syrc", "syriac"]), ("Tagb", ["tagb", "tagbanwa"]),
  ("Takr", ["takr", "takri"]), ("Tale", ["tale", "taile"]), ("Talu", ["talu", "newtailue"]),
  ("Taml", ["taml", "tamil"]), ("Tang", ["tang", "tangut"]), ("Tavt", ["tavt", "taiviet"]),
  ("Telu", ["telu", "telugu"]), ("Tfng", ["tfng", "tifinagh"]), ("Tglg", ["tglg", "tagalog"]),
  ("Thaa", ["thaa", "thaana"]), ("Thai", ["thai"]), ("Tibt", ["tibt", "tibetan"]),
  ("Tirh", ["tirh", "tirhuta"]), ("Tnsa", ["tnsa", "tangsa"]), ("Todr", ["todr", "todhri"]),
  ("Toto", ["toto"]), ("Tutg", ["tutg", "tulutigalari"]), ("Ugar", ["ugar", "ugaritic"]),
  ("Vaii", ["vaii", "vai"]), ("Vith", ["vith", "vithkuqi"]), ("Wara", ["wara", "warangciti"]),
  ("Wcho", ["wcho", "wancho"]), ("Xpeo", ["xpeo", "oldpersian"]), ("Xsux", ["xsux", "cuneiform"]),
  ("Yezi", ["yezi", "yezidi"]), ("Yiii", ["yiii", "yi"]), ("Zanb", ["zanb", "zanabazarsquare"]),
  ("Zinh", ["zinh", "inherited", "qaai"]), ("Zyyy", ["zyyy", "common"])]

/-- The scripts that characters are used with, where these are not just the script of the
characters. -/
def extensionRows : List (String × String) := [
  ("Avst Cari Copt Dupl Elba Geor Glag Gong Goth Grek Hani Latn Lydi Mahj Perm Shaw", "B7"),
  ("Beng Cyrl Deva Latn Lisu Thai Toto", "2BC"),
  ("Bopo Latn", "2C7 2C9-2CB 2D9"),
  ("Latn Lisu", "2CD"),
  ("Latn Thai", "2D7"),
  ("Cher Copt Cyrl Grek Latn Perm Sunu Tale", "300"),
  ("Cher Cyrl Grek Latn Osge Sunu Tale Todr", "301"),
  ("Cher Cyrl Latn Tfng", "302"),
  ("Glag Latn Sunu Syrc Thai", "303"),
  ("Aghb Cher Copt Cyrl Goth Grek Latn Osge Syrc Tfng Todr", "304"),
  ("Copt Elba Glag Goth Kana Latn", "305"),
  ("Cyrl Grek Latn Perm Tfng", "306"),
  ("Copt Dupl Hebr Latn Perm Syrc Tale Tfng Todr", "307"),
  ("Armn Cyrl Dupl Goth Grek Hebr Latn Perm Syrc Tale Tfng", "308"),
  ("Latn Tfng", "309"),
  ("Dupl Latn Syrc", "30A"),
  ("Cher Cyrl Latn Osge", "30B"),
  ("Cher Latn Tale", "30C"),
  ("Latn Sunu", "30D 310"),
  ("Ethi Latn", "30E"),
  ("Cyrl Latn Todr", "311"),
  ("Grek Latn Perm Todr", "313"),
  ("Cher Dupl Kana Latn Syrc Tfng", "323"),
  ("Cher Dupl Latn Syrc", "324"),
  ("Latn Syrc", "325 32E"),
  ("Latn Sunu Syrc", "32D"),
  ("Cher Latn Syrc", "330"),
  ("Aghb Cher Goth Latn Sunu Syrc Thai", "331"),
  ("Grek", "342 345 1DC0-1DC1"),
  ("Latn Osge", "358"),
  ("Aghb Latn Todr", "35E"),
  ("Latn", "363-36F"),
  ("Copt Grek", "374-375"),
  ("Cyrl Perm", "483"),
  ("Cyrl Glag", "484 487 2E43 A66F"),
  ("Cyrl Latn", "485-486"),
  ("Armn Geor Glag", "589"),
  ("Arab Gara Nkoo Rohg Syrc Thaa Yezi", "60C 61B"),
  ("Arab Syrc Thaa", "61C"),
  ("Adlm Arab Gara Nkoo Rohg Syrc Thaa Yezi", "61F"),
  ("Adlm Arab Mand Mani Ougr Phlp Rohg Sogd Syrc", "640"),
  ("Arab Syrc", "64B-655 670"),
  ("Arab Thaa Yezi", "660-669"),
  ("Arab Rohg", "6D4"),
  ("Beng Deva Gran Gujr Guru Knda Latn Mlym Nand Newa Orya Shrd Taml Telu Tirh", "951"),
  ("Beng Deva Gran Gujr Guru Knda Latn Mlym Newa Orya Taml Telu Tirh", "952"),
  ("Beng Deva Dogr Gong Gonm Gran Gujr Guru Knda Mahj Mlym " ++
    "Nand Onao Orya Sind Sinh Sylo Takr Taml Telu Tirh",
    "964"),
  ("Beng Deva Dogr Gong Gonm Gran Gujr Gukh Guru Knda Limb Mahj " ++
    "Mlym Nand Onao Orya Sind Sinh Sylo Takr Taml Telu Tirh",
    "965"),
  ("Deva Dogr Kthi Mahj", "966-96F"),
  ("Beng Cakm Sylo", "9E6-9EF"),
  ("Guru Mult", "A66-A6F"),
  ("Gujr Khoj", "AE6-AEF"),
  ("Gran Taml", "BE6-BF3 11301 11303 1133B-1133C 11FD0-11FD1 11FD3"),
  ("Knda Nand Tutg", "CE6-CEF"),
  ("Cakm Mymr Tale", "1040-1049"),
  ("Geor Glag Latn", "10FB"),
  ("Runr", "16EB-16ED"),
  ("Buhd Hano Tagb Tglg", "1735-1736"),
  ("Mong Phag", "1802-1803 1805"),
  ("Beng Deva Gran Knda", "1CD0 1CD2"),
  ("Deva", "1CD1 1CD4 1CDB 1CDE-1CDF 1CE3-1CE8 1CEC 1CEE-1CF1"),
  ("Deva Gran Knda", "1CD3"),
  ("Beng Deva Newa Telu Tirh", "1CD5"),
  ("Beng Deva Telu", "1CD6"),
  ("Deva Newa Shrd", "1CD7"),
  ("Beng Deva Newa Telu", "1CD8"),
  ("Deva Shrd", "1CD9 1CDC-1CDD 1CE0"),
  ("Deva Knda Mlym Orya Taml Telu", "1CDA"),
  ("Beng Deva", "1CE1 1CF5-1CF6"),
  ("Deva Newa Tirh", "1CE2"),
  ("Deva Nand Newa", "1CE9"),
  ("Beng Deva Shrd", "1CEA"),
  ("Deva Newa", "1CEB"),
  ("Beng Deva Newa Shrd", "1CED"),
  ("Beng Deva Gran Knda Mlym Nand Orya Sinh Telu Tirh Tutg", "1CF2"),
  ("Deva Gran", "1CF3 1CF8-1CF9"),
  ("Deva Gran Knda Tutg", "1CF4"),
  ("Beng", "1CF7"),
  ("Nand", "1CFA"),
  ("Cyrl Latn Syrc", "1DF8"),
  ("Syrc", "1DFA"),
  ("Latn Mong Phag", "202F"),
  ("Adlm Arab", "204F"),
  ("Cari Geor Glag Hung Lyci Orkh", "205A"),
  ("Cari Grek Hung Mero", "205D"),
  ("Deva Gran Latn", "20F0"),
  ("Copt Latn", "2E17"),
  ("Avst Orkh", "2E30"),
  ("Avst Cari Geor Hung Kthi Lydi Samr", "2E31"),
  ("Dupl", "2E3C 1BCA0-1BCA3"),
  ("Adlm Arab Hung", "2E41"),
  ("Hani Tang", "2FF0-2FFF 31EF"),
  ("Bopo Hang Hani Hira Kana Mong Yiii", "3001"),
  ("Bopo Hang Hani Hira Kana Mong Phag Yiii", "3002"),
  ("Bopo Hang Hani Hira Kana", "3003 3013 301C-301F 3030 3037 FE45-FE46"),
  ("Hani",
    "3006 303E-303F 3190-319F 31C0-31E5 3220-3247 3280-32B0 32C0-32CB 32FF 3358-3370 " ++
    "337B-337F 33E0-33FE 1D360-1D371 1F250-1F251"),
  ("Bopo Hang Hani Hira Kana Mong Tibt Yiii", "3008-3009"),
  ("Bopo Hang Hani Hira Kana Lisu Mong Tibt Yiii", "300A-300B"),
  ("Bopo Hang Hani Hira Kana Yiii", "300C-3011 3014-301B 30FB FF61-FF65"),
  ("Bopo Hani", "302A-302D"),
  ("Hira Kana", "3031-3035 3099-309C 30A0 30FC FF70 FF9E-FF9F"),
  ("Hani Hira Kana", "303C-303D"),
  ("Hani Latn", "A700-A707"),
  ("Deva Dogr Gujr Guru Khoj Knda Kthi Mahj Mlym Modi Nand Shrd Sind Takr Tirh Tutg", "A830-A832"),
  ("Deva Dogr Gujr Guru Khoj Knda Kthi Mahj Modi Nand Shrd Sind Takr Tirh Tutg", "A833-A835"),
  ("Deva Dogr Gujr Guru Khoj Kthi Mahj Modi Sind Takr Tirh", "A836-A837 A839"),
  ("Deva Dogr Gujr Guru Khoj Kthi Mahj Modi Shrd Sind Takr Tirh", "A838"),
  ("Beng Deva Tutg", "A8F1"),
  ("Deva Taml", "A8F3"),
  ("Kali Latn Mymr", "A92E"),
  ("Bugi Java", "A9CF"),
  ("Arab Nkoo", "FD3E-FD3F"),
  ("Arab Thaa", "FDF2 FDFD"),
  ("Cpmn Cprt Linb", "10100-10101"),
  ("Cprt Linb", "10102 10137-1013F"),
  ("Cprt Lina Linb", "10107-10133"),
  ("Arab Copt", "102E0-102FB"),
  ("Mani Ougr", "10AF2")]

/-- The tag of the script with a name. -/
def scriptTag? (name : String) : Option String :=
  (scriptNames.find? (·.2.contains name)).map (·.1)

/-- The characters that are used with a script. -/
def scriptExtension (tag : String) : CharSet :=
  let listed := extensionRows.map fun (tags, row) => (tags.splitOn " ", CharSet.ofRows [row])
  let exceptions := CharSet.unionAll (listed.map (·.2))
  let added := CharSet.unionAll ((listed.filter (·.1.contains tag)).map (·.2))
  ((script tag).diff exceptions).union added

end DeclWeave.Unicode
