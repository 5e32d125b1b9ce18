import DocFlow.Text.CharSet

/-!
# Characters by script

The scripts of the Unicode standard: long name, short name, and the ranges of their characters.
-/

namespace DocFlow.Text.Table

/-- Each script with its long name, its short name and its characters in hexadecimal ranges. -/
def scripts : List (String × String × String) := [
  ("Adlam", "Adlm",
    "1E900-1E94B 1E950-1E959 1E95E-1E95F"),
  ("Caucasian_Albanian", "Aghb",
    "10530-10563 1056F"),
  ("Ahom", "Ahom",
    "11700-1171A 1171D-1172B 11730-11746"),
  ("Arabic", "Arab",
    "0600-0604 0606-060B 060D-061A 061C-061E 0620-063F 0641-064A 0656-066F 0671-06DC
    06DE-06FF 0750-077F 0870-0891 0897-08E1 08E3-08FF FB50-FD3D FD40-FDCF FDF0-FDFF
    FE70-FE74 FE76-FEFC 10E60-10E7E 10EC2-10EC7 10ED0-10ED8 10EFA-10EFF 1EE00-1EE03
    1EE05-1EE1F 1EE21-1EE22 1EE24 1EE27 1EE29-1EE32 1EE34-1EE37 1EE39 1EE3B 1EE42 1EE47
    1EE49 1EE4B 1EE4D-1EE4F 1EE51-1EE52 1EE54 1EE57 1EE59 1EE5B 1EE5D 1EE5F 1EE61-1EE62
    1EE64 1EE67-1EE6A 1EE6C-1EE72 1EE74-1EE77 1EE79-1EE7C 1EE7E 1EE80-1EE89 1EE8B-1EE9B
    1EEA1-1EEA3 1EEA5-1EEA9 1EEAB-1EEBB 1EEF0-1EEF1"),
  ("Imperial_Aramaic", "Armi",
    "10840-10855 10857-1085F"),
  ("Armenian", "Armn",
    "0531-0556 0559-058A 058D-058F FB13-FB17"),
  ("Avestan", "Avst",
    "10B00-10B35 10B39-10B3F"),
  ("Balinese", "Bali",
    "1B00-1B4C 1B4E-1B7F"),
  ("Bamum", "Bamu",
    "A6A0-A6F7 16800-16A38"),
  ("Bassa_Vah", "Bass",
    "16AD0-16AED 16AF0-16AF5"),
  ("Batak", "Batk",
    "1BC0-1BF3 1BFC-1BFF"),
  ("Bengali", "Beng",
    "0980-0983 0985-098C 098F-0990 0993-09A8 09AA-09B0 09B2 09B6-09B9 09BC-09C4 09C7-09C8
    09CB-09CE 09D7 09DC-09DD 09DF-09E3 09E6-09FE"),
  ("Bhaiksuki", "Bhks",
    "11C00-11C08 11C0A-11C36 11C38-11C45 11C50-11C6C"),
  ("Bopomofo", "Bopo",
    "02EA-02EB 3105-312F 31A0-31BF"),
  ("Brahmi", "Brah",
    "11000-1104D 11052-11075 1107F"),
  ("Braille", "Brai",
    "2800-28FF"),
  ("Buginese", "Bugi",
    "1A00-1A1B 1A1E-1A1F"),
  ("Buhid", "Buhd",
    "1740-1753"),
  ("Chakma", "Cakm",
    "11100-11134 11136-11147"),
  ("Canadian_Aboriginal", "Cans",
    "1400-167F 18B0-18F5 11AB0-11ABF"),
  ("Carian", "Cari",
    "102A0-102D0"),
  ("Cham", "Cham",
    "AA00-AA36 AA40-AA4D AA50-AA59 AA5C-AA5F"),
  ("Cherokee", "Cher",
    "13A0-13F5 13F8-13FD AB70-ABBF"),
  ("Chorasmian", "Chrs",
    "10FB0-10FCB"),
  ("Coptic", "Copt",
    "03E2-03EF 2C80-2CF3 2CF9-2CFF"),
  ("Cypro_Minoan", "Cpmn",
    "12F90-12FF2"),
  ("Cypriot", "Cprt",
    "10800-10805 10808 1080A-10835 10837-10838 1083C 1083F"),
  ("Cyrillic", "Cyrl",
    "0400-0484 0487-052F 1C80-1C8A 1D2B 1D78 2DE0-2DFF A640-A69F FE2E-FE2F 1E030-1E06D 1E08F"),
  ("Devanagari", "Deva",
    "0900-0950 0955-0963 0966-097F A8E0-A8FF 11B00-11B09"),
  ("Dives_Akuru", "Diak",
    "11900-11906 11909 1190C-11913 11915-11916 11918-11935 11937-11938 1193B-11946
    11950-11959"),
  ("Dogra", "Dogr",
    "11800-1183B"),
  ("Deseret", "Dsrt",
    "10400-1044F"),
  ("Duployan", "Dupl",
    "1BC00-1BC6A 1BC70-1BC7C 1BC80-1BC88 1BC90-1BC99 1BC9C-1BC9F"),
  ("Egyptian_Hieroglyphs", "Egyp",
    "13000-13455 13460-143FA"),
  ("Elbasan", "Elba",
    "10500-10527"),
  ("Elymaic", "Elym",
    "10FE0-10FF6"),
  ("Ethiopic", "Ethi",
    "1200-1248 124A-124D 1250-1256 1258 125A-125D 1260-1288 128A-128D 1290-12B0 12B2-12B5
    12B8-12BE 12C0 12C2-12C5 12C8-12D6 12D8-1310 1312-1315 1318-135A 135D-137C 1380-1399
    2D80-2D96 2DA0-2DA6 2DA8-2DAE 2DB0-2DB6 2DB8-2DBE 2DC0-2DC6 2DC8-2DCE 2DD0-2DD6
    2DD8-2DDE AB01-AB06 AB09-AB0E AB11-AB16 AB20-AB26 AB28-AB2E 1E7E0-1E7E6 1E7E8-1E7EB
    1E7ED-1E7EE 1E7F0-1E7FE"),
  ("Garay", "Gara",
    "10D40-10D65 10D69-10D85 10D8E-10D8F"),
  ("Georgian", "Geor",
    "10A0-10C5 10C7 10CD 10D0-10FA 10FC-10FF 1C90-1CBA 1CBD-1CBF 2D00-2D25 2D27 2D2D"),
  ("Glagolitic", "Glag",
    "2C00-2C5F 1E000-1E006 1E008-1E018 1E01B-1E021 1E023-1E024 1E026-1E02A"),
  ("Gunjala_Gondi", "Gong",
    "11D60-11D65 11D67-11D68 11D6A-11D8E 11D90-11D91 11D93-11D98 11DA0-11DA9"),
  ("Masaram_Gondi", "Gonm",
    "11D00-11D06 11D08-11D09 11D0B-11D36 11D3A 11D3C-11D3D 11D3F-11D47 11D50-11D59"),
  ("Gothic", "Goth",
    "10330-1034A"),
  ("Grantha", "Gran",
    "11300-11303 11305-1130C 1130F-11310 11313-11328 1132A-11330 11332-11333 11335-11339
    1133C-11344 11347-11348 1134B-1134D 11350 11357 1135D-11363 11366-1136C 11370-11374"),
  ("Greek", "Grek",
    "0370-0373 0375-0377 037A-037D 037F 0384 0386 0388-038A 038C 038E-03A1 03A3-03E1
    03F0-03FF 1D26-1D2A 1D5D-1D61 1D66-1D6A 1DBF 1F00-1F15 1F18-1F1D 1F20-1F45 1F48-1F4D
    1F50-1F57 1F59 1F5B 1F5D 1F5F-1F7D 1F80-1FB4 1FB6-1FC4 1FC6-1FD3 1FD6-1FDB 1FDD-1FEF
    1FF2-1FF4 1FF6-1FFE 2126 AB65 10140-1018E 101A0 1D200-1D245"),
  ("Gujarati", "Gujr",
    "0A81-0A83 0A85-0A8D 0A8F-0A91 0A93-0AA8 0AAA-0AB0 0AB2-0AB3 0AB5-0AB9 0ABC-0AC5
    0AC7-0AC9 0ACB-0ACD 0AD0 0AE0-0AE3 0AE6-0AF1 0AF9-0AFF"),
  ("Gurung_Khema", "Gukh",
    "16100-16139"),
  ("Gurmukhi", "Guru",
    "0A01-0A03 0A05-0A0A 0A0F-0A10 0A13-0A28 0A2A-0A30 0A32-0A33 0A35-0A36 0A38-0A39 0A3C
    0A3E-0A42 0A47-0A48 0A4B-0A4D 0A51 0A59-0A5C 0A5E 0A66-0A76"),
  ("Hangul", "Hang",
    "1100-11FF 302E-302F 3131-318E 3200-321E 3260-327E A960-A97C AC00-D7A3 D7B0-D7C6
    D7CB-D7FB FFA0-FFBE FFC2-FFC7 FFCA-FFCF FFD2-FFD7 FFDA-FFDC"),
  ("Han", "Hani",
    "2E80-2E99 2E9B-2EF3 2F00-2FD5 3005 3007 3021-3029 3038-303B 3400-4DBF 4E00-9FFF
    F900-FA6D FA70-FAD9 16FE2-16FE3 16FF0-16FF6 20000-2A6DF 2A700-2B81D 2B820-2CEAD
    2CEB0-2EBE0 2EBF0-2EE5D 2F800-2FA1D 30000-3134A 31350-33479"),
  ("Hanunoo", "Hano",
    "1720-1734"),
  ("Hatran", "Hatr",
    "108E0-108F2 108F4-108F5 108FB-108FF"),
  ("Hebrew", "Hebr",
    "0591-05C7 05D0-05EA 05EF-05F4 FB1D-FB36 FB38-FB3C FB3E FB40-FB41 FB43-FB44 FB46-FB4F"),
  ("Hiragana", "Hira",
    "3041-3096 309D-309F 1B001-1B11F 1B132 1B150-1B152 1F200"),
  ("Anatolian_Hieroglyphs", "Hluw",
    "14400-14646"),
  ("Pahawh_Hmong", "Hmng",
    "16B00-16B45 16B50-16B59 16B5B-16B61 16B63-16B77 16B7D-16B8F"),
  ("Nyiakeng_Puachue_Hmong", "Hmnp",
    "1E100-1E12C 1E130-1E13D 1E140-1E149 1E14E-1E14F"),
  ("Old_Hungarian", "Hung",
    "10C80-10CB2 10CC0-10CF2 10CFA-10CFF"),
  ("Old_Italic", "Ital",
    "10300-10323 1032D-1032F"),
  ("Javanese", "Java",
    "A980-A9CD A9D0-A9D9 A9DE-A9DF"),
  ("Kayah_Li", "Kali",
    "A900-A92D A92F"),
  ("Katakana", "Kana",
    "30A1-30FA 30FD-30FF 31F0-31FF 32D0-32FE 3300-3357 FF66-FF6F FF71-FF9D 1AFF0-1AFF3
    1AFF5-1AFFB 1AFFD-1AFFE 1B000 1B120-1B122 1B155 1B164-1B167"),
  ("Kawi", "Kawi",
    "11F00-11F10 11F12-11F3A 11F3E-11F5A"),
  ("Kharoshthi", "Khar",
    "10A00-10A03 10A05-10A06 10A0C-10A13 10A15-10A17 10A19-10A35 10A38-10A3A 10A3F-10A48
    10A50-10A58"),
  ("Khmer", "Khmr",
    "1780-17DD 17E0-17E9 17F0-17F9 19E0-19FF"),
  ("Khojki", "Khoj",
    "11200-11211 11213-11241"),
  ("Khitan_Small_Script", "Kits",
    "16FE4 18B00-18CD5 18CFF"),
  ("Kannada", "Knda",
    "0C80-0C8C 0C8E-0C90 0C92-0CA8 0CAA-0CB3 0CB5-0CB9 0CBC-0CC4 0CC6-0CC8 0CCA-0CCD
    0CD5-0CD6 0CDC-0CDE 0CE0-0CE3 0CE6-0CEF 0CF1-0CF3"),
  ("Kirat_Rai", "Krai",
    "16D40-16D79"),
  ("Kaithi", "Kthi",
    "11080-110C2 110CD"),
  ("Tai_Tham", "Lana",
    "1A20-1A5E 1A60-1A7C 1A7F-1A89 1A90-1A99 1AA0-1AAD"),
  ("Lao", "Laoo",
    "0E81-0E82 0E84 0E86-0E8A 0E8C-0EA3 0EA5 0EA7-0EBD 0EC0-0EC4 0EC6 0EC8-0ECE 0ED0-0ED9
    0EDC-0EDF"),
  ("Latin", "Latn",
    "0041-005A 0061-007A 00AA 00BA 00C0-00D6 00D8-00F6 00F8-02B8 02E0-02E4 1D00-1D25
    1D2C-1D5C 1D62-1D65 1D6B-1D77 1D79-1DBE 1E00-1EFF 2071 207F 2090-209C 212A-212B 2132
    214E 2160-2188 2C60-2C7F A722-A787 A78B-A7DC A7F1-A7FF AB30-AB5A AB5C-AB64 AB66-AB69
    FB00-FB06 FF21-FF3A FF41-FF5A 10780-10785 10787-107B0 107B2-107BA 1DF00-1DF1E
    1DF25-1DF2A"),
  ("Lepcha", "Lepc",
    "1C00-1C37 1C3B-1C49 1C4D-1C4F"),
  ("Limbu", "Limb",
    "1900-191E 1920-192B 1930-193B 1940 1944-194F"),
  ("Linear_A", "Lina",
    "10600-10736 10740-10755 10760-10767"),
  ("Linear_B", "Linb",
    "10000-1000B 1000D-10026 10028-1003A 1003C-1003D 1003F-1004D 10050-1005D 10080-100FA"),
  ("Lisu", "Lisu",
    "A4D0-A4FF 11FB0"),
  ("Lycian", "Lyci",
    "10280-1029C"),
  ("Lydian", "Lydi",
    "10920-10939 1093F"),
  ("Mahajani", "Mahj",
    "11150-11176"),
  ("Makasar", "Maka",
    "11EE0-11EF8"),
  ("Mandaic", "Mand",
    "0840-085B 085E"),
  ("Manichaean", "Mani",
    "10AC0-10AE6 10AEB-10AF6"),
  ("Marchen", "Marc",
    "11C70-11C8F 11C92-11CA7 11CA9-11CB6"),
  ("Medefaidrin", "Medf",
    "16E40-16E9A"),
  ("Mende_Kikakui", "Mend",
    "1E800-1E8C4 1E8C7-1E8D6"),
  ("Meroitic_Cursive", "Merc",
    "109A0-109B7 109BC-109CF 109D2-109FF"),
  ("Meroitic_Hieroglyphs", "Mero",
    "10980-1099F"),
  ("Malayalam", "Mlym",
    "0D00-0D0C 0D0E-0D10 0D12-0D44 0D46-0D48 0D4A-0D4F 0D54-0D63 0D66-0D7F"),
  ("Modi", "Modi",
    "11600-11644 11650-11659"),
  ("Mongolian", "Mong",
    "1800-1801 1804 1806-1819 1820-1878 1880-18AA 11660-1166C"),
  ("Mro", "Mroo",
    "16A40-16A5E 16A60-16A69 16A6E-16A6F"),
  ("Meetei_Mayek", "Mtei",
    "AAE0-AAF6 ABC0-ABED ABF0-ABF9"),
  ("Multani", "Mult",
    "11280-11286 11288 1128A-1128D 1128F-1129D 1129F-112A9"),
  ("Myanmar", "Mymr",
    "1000-109F A9E0-A9FE AA60-AA7F 116D0-116E3"),
  ("Nag_Mundari", "Nagm",
    "1E4D0-1E4F9"),
  ("Nandinagari", "Nand",
    "119A0-119A7 119AA-119D7 119DA-119E4"),
  ("Old_North_Arabian", "Narb",
    "10A80-10A9F"),
  ("Nabataean", "Nbat",
    "10880-1089E 108A7-108AF"),
  ("Newa", "Newa",
    "11400-1145B 1145D-11461"),
  ("Nko", "Nkoo",
    "07C0-07FA 07FD-07FF"),
  ("Nushu", "Nshu",
    "16FE1 1B170-1B2FB"),
  ("Ogham", "Ogam",
    "1680-169C"),
  ("Ol_Chiki", "Olck",
    "1C50-1C7F"),
  ("Ol_Onal", "Onao",
    "1E5D0-1E5FA 1E5FF"),
  ("Old_Turkic", "Orkh",
    "10C00-10C48"),
  ("Oriya", "Orya",
    "0B01-0B03 0B05-0B0C 0B0F-0B10 0B13-0B28 0B2A-0B30 0B32-0B33 0B35-0B39 0B3C-0B44
    0B47-0B48 0B4B-0B4D 0B55-0B57 0B5C-0B5D 0B5F-0B63 0B66-0B77"),
  ("Osage", "Osge",
    "104B0-104D3 104D8-104FB"),
  ("Osmanya", "Osma",
    "10480-1049D 104A0-104A9"),
  ("Old_Uyghur", "Ougr",
    "10F70-10F89"),
  ("Palmyrene", "Palm",
    "10860-1087F"),
  ("Pau_Cin_Hau", "Pauc",
    "11AC0-11AF8"),
  ("Old_Permic", "Perm",
    "10350-1037A"),
  ("Phags_Pa", "Phag",
    "A840-A877"),
  ("Inscriptional_Pahlavi", "Phli",
    "10B60-10B72 10B78-10B7F"),
  ("Psalter_Pahlavi", "Phlp",
    "10B80-10B91 10B99-10B9C 10BA9-10BAF"),
  ("Phoenician", "Phnx",
    "10900-1091B 1091F"),
  ("Miao", "Plrd",
    "16F00-16F4A 16F4F-16F87 16F8F-16F9F"),
  ("Inscriptional_Parthian", "Prti",
    "10B40-10B55 10B58-10B5F"),
  ("Rejang", "Rjng",
    "A930-A953 A95F"),
  ("Hanifi_Rohingya", "Rohg",
    "10D00-10D27 10D30-10D39"),
  ("Runic", "Runr",
    "16A0-16EA 16EE-16F8"),
  ("Samaritan", "Samr",
    "0800-082D 0830-083E"),
  ("Old_South_Arabian", "Sarb",
    "10A60-10A7F"),
  ("Saurashtra", "Saur",
    "A880-A8C5 A8CE-A8D9"),
  ("SignWriting", "Sgnw",
    "1D800-1DA8B 1DA9B-1DA9F 1DAA1-1DAAF"),
  ("Shavian", "Shaw",
    "10450-1047F"),
  ("Sharada", "Shrd",
    "11180-111DF 11B60-11B67"),
  ("Siddham", "Sidd",
    "11580-115B5 115B8-115DD"),
  ("Khudawadi", "Sind",
    "112B0-112EA 112F0-112F9"),
  ("Sinhala", "Sinh",
    "0D81-0D83 0D85-0D96 0D9A-0DB1 0DB3-0DBB 0DBD 0DC0-0DC6 0DCA 0DCF-0DD4 0DD6 0DD8-0DDF
    0DE6-0DEF 0DF2-0DF4 111E1-111F4"),
  ("Sogdian", "Sogd",
    "10F30-10F59"),
  ("Old_Sogdian", "Sogo",
    "10F00-10F27"),
  ("Sora_Sompeng", "Sora",
    "110D0-110E8 110F0-110F9"),
  ("Soyombo", "Soyo",
    "11A50-11AA2"),
  ("Sundanese", "Sund",
    "1B80-1BBF 1CC0-1CC7"),
  ("Sunuwar", "Sunu",
    "11BC0-11BE1 11BF0-11BF9"),
  ("Syloti_Nagri", "Sylo",
    "A800-A82C"),
  ("Syriac", "Syrc",
    "0700-070D 070F-074A 074D-074F 0860-086A"),
  ("Tagbanwa", "Tagb",
    "1760-176C 176E-1770 1772-1773"),
  ("Takri", "Takr",
    "11680-116B9 116C0-116C9"),
  ("Tai_Le", "Tale",
    "1950-196D 1970-1974"),
  ("New_Tai_Lue", "Talu",
    "1980-19AB 19B0-19C9 19D0-19DA 19DE-19DF"),
  ("Tamil", "Taml",
    "0B82-0B83 0B85-0B8A 0B8E-0B90 0B92-0B95 0B99-0B9A 0B9C 0B9E-0B9F 0BA3-0BA4 0BA8-0BAA
    0BAE-0BB9 0BBE-0BC2 0BC6-0BC8 0BCA-0BCD 0BD0 0BD7 0BE6-0BFA 11FC0-11FF1 11FFF"),
  ("Tangut", "Tang",
    "16FE0 17000-18AFF 18D00-18D1E 18D80-18DF2"),
  ("Tai_Viet", "Tavt",
    "AA80-AAC2 AADB-AADF"),
  ("Telugu", "Telu",
    "0C00-0C0C 0C0E-0C10 0C12-0C28 0C2A-0C39 0C3C-0C44 0C46-0C48 0C4A-0C4D 0C55-0C56
    0C58-0C5A 0C5C-0C5D 0C60-0C63 0C66-0C6F 0C77-0C7F"),
  ("Tifinagh", "Tfng",
    "2D30-2D67 2D6F-2D70 2D7F"),
  ("Tagalog", "Tglg",
    "1700-1715 171F"),
  ("Thaana", "Thaa",
    "0780-07B1"),
  ("Thai", "Thai",
    "0E01-0E3A 0E40-0E5B"),
  ("Tibetan", "Tibt",
    "0F00-0F47 0F49-0F6C 0F71-0F97 0F99-0FBC 0FBE-0FCC 0FCE-0FD4 0FD9-0FDA"),
  ("Tirhuta", "Tirh",
    "11480-114C7 114D0-114D9"),
  ("Tangsa", "Tnsa",
    "16A70-16ABE 16AC0-16AC9"),
  ("Todhri", "Todr",
    "105C0-105F3"),
  ("Toto", "Toto",
    "1E290-1E2AE"),
  ("Tulu_Tigalari", "Tutg",
    "11380-11389 1138B 1138E 11390-113B5 113B7-113C0 113C2 113C5 113C7-113CA 113CC-113D5
    113D7-113D8 113E1-113E2"),
  ("Ugaritic", "Ugar",
    "10380-1039D 1039F"),
  ("Vai", "Vaii",
    "A500-A62B"),
  ("Vithkuqi", "Vith",
    "10570-1057A 1057C-1058A 1058C-10592 10594-10595 10597-105A1 105A3-105B1 105B3-105B9
    105BB-105BC"),
  ("Warang_Citi", "Wara",
    "118A0-118F2 118FF"),
  ("Wancho", "Wcho",
    "1E2C0-1E2F9 1E2FF"),
  ("Old_Persian", "Xpeo",
    "103A0-103C3 103C8-103D5"),
  ("Cuneiform", "Xsux",
    "12000-12399 12400-1246E 12470-12474 12480-12543"),
  ("Yezidi", "Yezi",
    "10E80-10EA9 10EAB-10EAD 10EB0-10EB1"),
  ("Yi", "Yiii",
    "A000-A48C A490-A4C6"),
  ("Zanabazar_Square", "Zanb",
    "11A00-11A47"),
  ("Inherited", "Zinh",
    "0300-036F 0485-0486 064B-0655 0670 0951-0954 1AB0-1ADD 1AE0-1AEB 1CD0-1CD2 1CD4-1CE0
    1CE2-1CE8 1CED 1CF4 1CF8-1CF9 1DC0-1DFF 200C-200D 20D0-20F0 302A-302D 3099-309A
    FE00-FE0F FE20-FE2D 101FD 102E0 1133B 1CF00-1CF2D 1CF30-1CF46 1D167-1D169 1D17B-1D182
    1D185-1D18B 1D1AA-1D1AD E0100-E01EF"),
  ("Common", "Zyyy",
    "0000-0040 005B-0060 007B-00A9 00AB-00B9 00BB-00BF 00D7 00F7 02B9-02DF 02E5-02E9
    02EC-02FF 0374 037E 0385 0387 0605 060C 061B 061F 0640 06DD 08E2 0964-0965 0E3F
    0FD5-0FD8 10FB 16EB-16ED 1735-1736 1802-1803 1805 1CD3 1CE1 1CE9-1CEC 1CEE-1CF3
    1CF5-1CF7 1CFA 2000-200B 200E-2064 2066-2070 2074-207E 2080-208E 20A0-20C1 2100-2125
    2127-2129 212C-2131 2133-214D 214F-215F 2189-218B 2190-2429 2440-244A 2460-27FF
    2900-2B73 2B76-2BFF 2E00-2E5D 2FF0-3004 3006 3008-3020 3030-3037 303C-303F 309B-309C
    30A0 30FB-30FC 3190-319F 31C0-31E5 31EF 3220-325F 327F-32CF 32FF 3358-33FF 4DC0-4DFF
    A700-A721 A788-A78A A830-A839 A92E A9CF AB5B AB6A-AB6B FD3E-FD3F FE10-FE19 FE30-FE52
    FE54-FE66 FE68-FE6B FEFF FF01-FF20 FF3B-FF40 FF5B-FF65 FF70 FF9E-FF9F FFE0-FFE6
    FFE8-FFEE FFF9-FFFD 10100-10102 10107-10133 10137-1013F 10190-1019C 101D0-101FC
    102E1-102FB 1BCA0-1BCA3 1CC00-1CCFC 1CD00-1CEB3 1CEBA-1CED0 1CEE0-1CEF0 1CF50-1CFC3
    1D000-1D0F5 1D100-1D126 1D129-1D166 1D16A-1D17A 1D183-1D184 1D18C-1D1A9 1D1AE-1D1EA
    1D2C0-1D2D3 1D2E0-1D2F3 1D300-1D356 1D360-1D378 1D400-1D454 1D456-1D49C 1D49E-1D49F
    1D4A2 1D4A5-1D4A6 1D4A9-1D4AC 1D4AE-1D4B9 1D4BB 1D4BD-1D4C3 1D4C5-1D505 1D507-1D50A
    1D50D-1D514 1D516-1D51C 1D51E-1D539 1D53B-1D53E 1D540-1D544 1D546 1D54A-1D550
    1D552-1D6A5 1D6A8-1D7CB 1D7CE-1D7FF 1EC71-1ECB4 1ED01-1ED3D 1F000-1F02B 1F030-1F093
    1F0A0-1F0AE 1F0B1-1F0BF 1F0C1-1F0CF 1F0D1-1F0F5 1F100-1F1AD 1F1E6-1F1FF 1F201-1F202
    1F210-1F23B 1F240-1F248 1F250-1F251 1F260-1F265 1F300-1F6D8 1F6DC-1F6EC 1F6F0-1F6FC
    1F700-1F7D9 1F7E0-1F7EB 1F7F0 1F800-1F80B 1F810-1F847 1F850-1F859 1F860-1F887
    1F890-1F8AD 1F8B0-1F8BB 1F8C0-1F8C1 1F8D0-1F8D8 1F900-1FA57 1FA60-1FA6D 1FA70-1FA7C
    1FA80-1FA8A 1FA8E-1FAC6 1FAC8 1FACD-1FADC 1FADF-1FAEA 1FAEF-1FAF8 1FB00-1FB92
    1FB94-1FBFA E0001 E0020-E007F")]

end DocFlow.Text.Table
