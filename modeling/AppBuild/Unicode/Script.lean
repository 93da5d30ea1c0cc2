/-
The script of each character, and the scripts a character is used with.

A character belongs to one script; some are shared between scripts, and the
extended set of a script also has those.  The table of each script lists the steps
between the bounds of its set, and then those of the characters at which the extended
set differs.
-/
import AppBuild.Text.CharSet

namespace AppBuild.Unicode

/-- A script: its names in lower case letters, its characters, and the characters used with it. -/
structure Script where
  names : List String
  members : CharSet
  extended : CharSet

namespace Script

/-- A script from its names and the written tables of its characters and of the exceptions. -/
def ofTables (names : List String) (members exceptions : List String) : Script :=
  let own := CharSet.ofSteps members
  ⟨names, own, own.symmDiff (.ofSteps exceptions)⟩

/-- The scripts from Adlam to Cypro Minoan. -/
def fromAdlam : List Script :=
  [.ofTables ["adlam", "adlm"]
    ["1e900 4c 4 a 4 2"]
    ["61f 1 20 1 1a0e 1 df1 1"],
   .ofTables ["ahom"]
    ["11700 1b 2 f 4 17"]
    [],
   .ofTables ["anatolianhieroglyphs", "hluw"]
    ["14400 247"]
    [],
   .ofTables ["arabic", "arab"]
    ["600 5 1 6 1 e 1 3 1 20 1 a b 1a 1 6c 1 22 50 30 f0 22 5 4b 1 1d f250 1ee 2 90 20 10 70 5 1",
     "87 f63 1f 43 6 8 9 21 6 df00 4 1 1b 1 2 1 1 2 1 1 a 1 4 1 1 1 1 6 1 4 1 1 1 1 1 1 3 1 2 1",
     "1 2 1 1 1 1 1 1 1 1 1 1 2 1 1 2 4 1 7 1 4 1 4 1 1 1 a 1 11 5 3 1 5 1 11 34 2"]
    ["60c 1 e 1 3 1 20 1 a b 1a 1 19de 1 df1 1 cefc 2 5a0 1c"],
   .ofTables ["armenian", "armn"]
    ["531 26 2 32 2 3 f583 5"]
    ["308 1"],
   .ofTables ["avestan", "avst"]
    ["10b00 36 3 7"]
    ["b7 1 2d78 2"],
   .ofTables ["balinese", "bali"]
    ["1b00 4d 1 32"]
    [],
   .ofTables ["bamum", "bamu"]
    ["a6a0 58 c108 239"]
    [],
   .ofTables ["bassavah", "bass"]
    ["16ad0 1e 2 6"]
    [],
   .ofTables ["batak", "batk"]
    ["1bc0 34 8 4"]
    [],
   .ofTables ["bengali", "beng"]
    ["980 4 1 8 2 2 2 16 1 7 1 1 3 4 2 9 2 2 2 4 8 1 4 2 1 5 2 19"]
    ["2bc 1 694 2 11 2 136a 1 1 1 2 2 1 1 8 1 8 1 2 1 4 1 2 3 8bf9 1"],
   .ofTables ["beriaerfe", "berf"]
    ["16ea0 19 2 19"]
    [],
   .ofTables ["bhaiksuki", "bhks"]
    ["11c00 9 1 2d 1 e a 1d"]
    [],
   .ofTables ["bopomofo", "bopo"]
    ["2ea 2 2e19 2b 70 20"]
    ["2c7 1 1 3 d 1 2d27 3 4 a 1 d a 4 2 1 6 1 c3 1 cd49 2 11a 5"],
   .ofTables ["brahmi", "brah"]
    ["11000 4e 4 24 9 1"]
    [],
   .ofTables ["braille", "brai"]
    ["2800 100"]
    [],
   .ofTables ["buginese", "bugi"]
    ["1a00 1c 2 2"]
    ["a9cf 1"],
   .ofTables ["buhid", "buhd"]
    ["1740 14"]
    ["1735 2"],
   .ofTables ["canadianaboriginal", "cans"]
    ["1400 280 230 46 101ba 10"]
    [],
   .ofTables ["carian", "cari"]
    ["102a0 31"]
    ["b7 1 1fa2 1 2 1 dd3 1"],
   .ofTables ["caucasianalbanian", "aghb"]
    ["10530 34 b 1"]
    ["304 1 2c 1 2c 1"],
   .ofTables ["chakma", "cakm"]
    ["11100 35 1 12"]
    ["9e6 a 650 a"],
   .ofTables ["cham"]
    ["aa00 37 9 e 2 a 2 4"]
    [],
   .ofTables ["cherokee", "cher"]
    ["13a0 56 2 6 9772 50"]
    ["300 3 1 1 6 2 16 2 b 2"],
   .ofTables ["chorasmian", "chrs"]
    ["10fb0 1c"]
    [],
   .ofTables ["common", "zyyy"]
    ["0 41 1a 6 1a 2f 1 f 1 5 17 1 1f 1 1c1 27 5 5 2 14 74 1 9 1 6 1 1 1 27d 1 6 1 e 1 3 1 20 1",
     "9c 1 204 1 81 2 4d9 1 195 4 122 1 5ef 3 47 2 cb 2 1 1 4cd 1 d 1 7 4 1 6 1 3 2 1 305 c 2 57",
     "1 b 3 b 1 f 11 22 3e 26 1 3 2 6 1 1b 1 11 29 3 4 29a 16 b 15 3a0 100 274 2 8a 200 5e 192",
     "15 1 1 1 19 f 8 4 4 5b 2 3 1 5a 2 93 10 20 26 9 1 30 40 1f 51 2f 1 58 a8 19c0 40 5900 22",
     "66 3 a5 a f4 1 a0 1 18b 1 e 2 51d2 2 d0 a 16 23 1 13 1 4 93 1 1 20 1a 6 1a b a 1 2d 2 40 7",
     "1 7 a 5 102 3 4 2d 3 9 50 d 33 2d e4 1b b9a4 4 f5c fd 3 1b4 6 17 f 11 5f 74 3c f6 a 27 2",
     "3e 3 11 8 2 7 1e 4 3d d5 14 c 14 c 57 9 19 87 55 1 47 1 2 2 1 2 2 2 4 1 c 1 1 1 7 1 41 1 4",
     "2 8 1 7 1 1c 1 4 1 5 1 1 3 7 1 154 2 124 2 32 1471 44 4c 3d 2c2 2c 4 64 c f 2 f 1 f 1 25 a",
     "ae 38 1a 1 2 d 2c 4 9 7 2 e 6 9a 3d9 3 11 3 d 3 da 6 c 4 1 f c 4 38 8 a 6 28 8 1e 2 c 4 2",
     "e 9 27 158 8 e 2 d 3 b 3 39 1 1 4 10 2 c 4 a 7 93 1 67 c0406 1 1e 60"]
    ["b7 1 204 1 a 1 1 3 1 1 9 1 1 1 9a 1 297 1 e 1 3 1 20 1 323 2 795 1 5ef 3 47 2 cb 2 1 1 4cd",
     "1 d 1 7 4 1 6 1 3 2 1 334 1 1f 1 a 1 2 1 db9 1 18 2 a 1 4 1 1 1 1ac 10 1 3 2 1 1 a 1 d 10",
     "6 1 1 4 4 5b 2 3 1 5a 2 93 10 20 26 9 1 30 28 38 31 f c 33 1 58 19 a 5 60 1f 7301 8 128 a",
     "f4 1 a0 1 536e 2 105 2 11a 5 a 1 2d 2 160 3 4 2d 3 9 1a1 1b b9a4 4 16bc 12 1ede 2"],
   .ofTables ["coptic", "copt", "qaac"]
    ["3e2 e 2890 74 5 7"]
    ["b7 1 248 1 3 2 1 1 6c 2 2aa1 1 d4c8 1c"],
   .ofTables ["cuneiform", "xsux"]
    ["12000 39a 66 6f 1 5 b c4"]
    [],
   .ofTables ["cypriot", "cprt"]
    ["10800 6 2 1 1 2c 1 2 3 1 2 1"]
    ["10100 3 4 2d 3 9"],
   .ofTables ["cyprominoan", "cpmn"]
    ["12f90 63"]
    ["10100 2"]]

/-- The scripts from Cyrillic to Inscriptional Pahlavi. -/
def fromCyrillic : List Script :=
  [.ofTables ["cyrillic", "cyrl"]
    ["400 85 2 a9 1750 b a0 1 4c 1 1067 20 7840 60 578e 2 e200 3e 21 1"]
    ["2bc 1 43 3 1 1 1 1 1 1 2 1 5 1 173 2 1971 1 104a 1"],
   .ofTables ["deseret", "dsrt"]
    ["10400 50"]
    [],
   .ofTables ["devanagari", "deva"]
    ["900 51 4 f 2 1a 9f60 20 7200 a"]
    ["2bc 1 694 2 11 2 136a 27 1 2 3f6 1 873f a"],
   .ofTables ["divesakuru", "diak"]
    ["11900 7 2 1 2 8 1 2 1 1e 1 2 2 c 9 a"]
    [],
   .ofTables ["dogra", "dogr"]
    ["11800 3c"]
    ["964 c 9ec0 a"],
   .ofTables ["duployan", "dupl"]
    ["1bc00 6b 5 d 3 9 7 a 2 4"]
    ["b7 1 24f 2 1 1 18 2 2b17 1 18e63 4"],
   .ofTables ["egyptianhieroglyphs", "egyp"]
    ["13000 456 a f9b"]
    [],
   .ofTables ["elbasan", "elba"]
    ["10500 28"]
    ["b7 1 24d 1"],
   .ofTables ["elymaic", "elym"]
    ["10fe0 17"]
    [],
   .ofTables ["ethiopic", "ethi"]
    ["1200 49 1 4 2 7 1 1 1 4 2 29 1 4 2 21 1 4 2 7 1 1 1 4 2 f 1 39 1 4 2 43 2 20 3 1a 19e6 17",
     "9 7 1 7 1 7 1 7 1 7 1 7 1 7 1 7 7d22 6 2 6 2 6 9 7 1 7 13cb1 7 1 4 1 2 1 f"]
    ["30e 1"],
   .ofTables ["garay", "gara"]
    ["10d40 26 3 1d 8 2"]
    ["60c 1 e 1 3 1"],
   .ofTables ["georgian", "geor"]
    ["10a0 26 1 1 5 1 2 2b 1 4 b90 2b 2 3 1040 26 1 1 5 1"]
    ["b7 1 4d1 1 b71 1 f5e 1 dd6 1"],
   .ofTables ["glagolitic", "glag"]
    ["2c00 60 1b3a0 7 1 11 2 7 1 2 1 5"]
    ["b7 1 24b 1 1 1 17e 1 2 1 101 1 b71 1 f5e 1 de8 1 782b 1"],
   .ofTables ["gothic", "goth"]
    ["10330 1b"]
    ["b7 1 24c 2 2 1 28 1"],
   .ofTables ["grantha", "gran"]
    ["11300 4 1 8 2 2 2 16 1 7 1 2 1 5 2 9 2 2 2 3 2 1 6 1 5 7 2 7 3 5"]
    ["951 2 11 2 280 e 10dc 1 1 2 1e 3 3 2 3f6 1 f24a 1 c94 2 1 1"],
   .ofTables ["greek", "grek"]
    ["370 4 1 3 2 4 1 1 4 1 1 1 1 3 1 1 1 14 1 3f e 10 1926 5 32 5 4 5 54 1 140 16 2 6 2 26 2 6",
     "2 8 1 1 1 1 1 1 1 1f 2 35 1 f 1 e 2 6 1 13 2 3 1 9 127 1 8a3e 1 55da 4f 11 1 d05f 46"]
    ["b7 1 248 2 2 1 1 1 1 1 a 1 2e 1 2 1 2e 1 1a4b 2 29b 1"],
   .ofTables ["gujarati", "gujr"]
    ["a81 3 1 9 1 3 1 16 1 7 1 2 1 5 2 a 1 3 1 3 2 1 f 4 2 c 7 7"]
    ["951 2 11 2 9eca a"],
   .ofTables ["gunjalagondi", "gong"]
    ["11d60 6 1 2 1 25 1 2 1 6 7 a"]
    ["b7 1 8ac 2"],
   .ofTables ["gurmukhi", "guru"]
    ["a01 3 1 6 4 2 2 16 1 7 1 2 1 2 1 2 2 1 1 5 4 2 2 3 3 1 7 4 1 1 7 11"]
    ["951 2 11 2 9eca a"],
   .ofTables ["gurungkhema", "gukh"]
    ["16100 3a"]
    ["965 1"],
   .ofTables ["han", "hani"]
    ["2e80 1a 1 59 c d6 2f 1 1 1 19 9 e 4 3c4 19c0 40 5200 5900 16e 2 6a 7508 2 c 7 9009 a6e0 20",
     "111e 2 168e 2 1d31 f 26e 9a2 21e 5e2 134b 5 212a"]
    ["b7 1 2f38 10 1 3 2 1 1 a 1 d a 4 2 1 6 1 4 4 bb 1 94 10 20 26 9 1 30 28 38 31 f c 33 1 58",
     "19 a 5 60 1f 7301 8 573d 2 11a 5 d3fa 12 1ede 2"],
   .ofTables ["hangul", "hang"]
    ["1100 100 1e2e 2 101 5e 71 1f 41 1f 76e1 1d 283 2ba4 c 17 4 31 27a4 1f 3 6 2 6 2 6 2 3"]
    ["3001 3 4 a 1 d 10 1 6 1 c3 1 cd49 2 11a 5"],
   .ofTables ["hanifirohingya", "rohg"]
    ["10d00 28 8 a"]
    ["60c 1 e 1 3 1 20 1 93 1"],
   .ofTables ["hanunoo", "hano"]
    ["1720 15"]
    ["1735 2"],
   .ofTables ["hatran", "hatr"]
    ["108e0 13 1 2 5 5"]
    [],
   .ofTables ["hebrew", "hebr"]
    ["591 37 8 1b 4 6 f528 1a 1 5 1 1 1 2 1 2 1 a"]
    ["307 2"],
   .ofTables ["hiragana", "hira"]
    ["3041 56 6 3 17f61 11f 12 1 1d 3 40ad 1"]
    ["3001 3 4 a 1 d 10 6 1 1 4 2 5b 4 3 1 5a 2 cd48 2 11a 5 a 1 2d 2"],
   .ofTables ["imperialaramaic", "armi"]
    ["10840 16 1 9"]
    [],
   .ofTables ["inherited", "zinh", "qaai"]
    ["300 70 115 2 1c4 b 1a 1 2e0 4 115b 2e 2 c 1e4 3 1 d 1 7 4 1 6 1 3 2 c6 40 20c 2 c2 21 f39",
     "4 6b 2 cd65 10 10 e 3cf 1 e2 1 105a 1 bbc4 2e 2 17 220 3 11 8 2 7 1e 4 c2f52 f0"]
    ["300 f 1 2 1 1 f 3 7 2 1 2 10 1 2 1 12 1 5 1 4 d 115 2 1c4 b 1a 1 2e0 2 137d 3 1 d 1 7 4 1",
     "6 1 3 2 c6 2 36 1 1 1 2f5 1 f39 4 6b 2 d245 1 105a 1"],
   .ofTables ["inscriptionalpahlavi", "phli"]
    ["10b60 13 5 8"]
    []]

/-- The scripts from Inscriptional Parthian to Medefaidrin. -/
def fromInscriptionalParthian : List Script :=
  [.ofTables ["inscriptionalparthian", "prti"]
    ["10b40 16 2 8"]
    [],
   .ofTables ["javanese", "java"]
    ["a980 4e 2 a 4 2"]
    ["a9cf 1"],
   .ofTables ["kaithi", "kthi"]
    ["11080 43 a 1"]
    ["966 a 24c1 1 79fe a"],
   .ofTables ["kannada", "knda"]
    ["c80 d 1 3 1 17 1 a 1 5 2 9 1 3 1 4 7 2 5 3 1 4 2 a 1 3"]
    ["951 2 11 2 136a 1 1 2 6 1 17 1 1 1 8b3b 6"],
   .ofTables ["katakana", "kana"]
    ["30a1 5a 2 3 f0 10 d0 2f 1 58 cc0e a 1 2d b052 4 1 7 1 2 1 1 11f 3 32 1 e 4"]
    ["305 1 1d 1 2cdd 3 4 a 1 d 10 6 1 1 4 2 5b 4 3 1 5a 2 cd48 2 11a 5 a 1 2d 2"],
   .ofTables ["kawi"]
    ["11f00 11 1 29 3 1d"]
    [],
   .ofTables ["kayahli", "kali"]
    ["a900 2e 1 1"]
    ["a92e 1"],
   .ofTables ["kharoshthi", "khar"]
    ["10a00 4 1 2 5 8 1 3 1 1d 2 3 4 a 7 9"]
    [],
   .ofTables ["khitansmallscript", "kits"]
    ["16fe4 1 1b1b 1d6 29 1"]
    [],
   .ofTables ["khmer", "khmr"]
    ["1780 5e 2 a 6 a 1e6 20"]
    [],
   .ofTables ["khojki", "khoj"]
    ["11200 12 1 2f"]
    ["ae6 a 9d40 a"],
   .ofTables ["khudawadi", "sind"]
    ["112b0 3b 5 a"]
    ["964 2 9eca a"],
   .ofTables ["kiratrai", "krai"]
    ["16d40 3a"]
    [],
   .ofTables ["lao", "laoo"]
    ["e81 2 1 1 1 5 1 18 1 1 1 17 2 5 1 1 1 7 1 a 2 4"]
    [],
   .ofTables ["latin", "latn"]
    ["41 1a 6 1a 2f 1 f 1 5 17 1 1f 1 1c1 27 5 1a1b 26 6 31 5 4 5 d 1 46 41 100 171 1 d 1 10 d",
     "8d 2 6 1 1b 1 11 29 ad7 20 7aa2 66 3 52 14 f 330 2b 1 9 1 4 4f96 7 41a 1a 6 1a 825 6 1 2a",
     "1 9 d745 1f 6 6"]
    ["b7 1 204 1 a 1 1 3 1 1 9 1 1 1 26 f 1 2 1 1 f 3 7 2 1 2 26 1 5 1 4 d 115 2 4ca 2 7a8 1 cfc",
     "1 236 1 c0 1 d26 1 78e8 8 226 1"],
   .ofTables ["lepcha", "lepc"]
    ["1c00 38 3 f 3 3"]
    [],
   .ofTables ["limbu", "limb"]
    ["1900 1f 1 c 4 c 4 1 3 c"]
    ["965 1"],
   .ofTables ["lineara", "lina"]
    ["10600 137 9 16 a 8"]
    ["10107 2d"],
   .ofTables ["linearb", "linb"]
    ["10000 c 1 1a 1 13 1 2 1 f 2 e 22 7b"]
    ["10100 3 4 2d 3 9"],
   .ofTables ["lisu"]
    ["a4d0 30 7ab0 1"]
    ["2bc 1 10 1 2d3c 2"],
   .ofTables ["lycian", "lyci"]
    ["10280 1d"]
    ["205a 1"],
   .ofTables ["lydian", "lydi"]
    ["10920 1a 5 1"]
    ["b7 1 2d79 1"],
   .ofTables ["mahajani", "mahj"]
    ["11150 27"]
    ["b7 1 8ac c 9ec0 a"],
   .ofTables ["makasar", "maka"]
    ["11ee0 19"]
    [],
   .ofTables ["malayalam", "mlym"]
    ["d00 d 1 3 1 33 1 3 1 6 4 10 2 1a"]
    ["951 2 11 2 1374 1 17 1 8b3d 3"],
   .ofTables ["mandaic", "mand"]
    ["840 1c 2 1"]
    ["640 1"],
   .ofTables ["manichaean", "mani"]
    ["10ac0 27 4 c"]
    ["640 1"],
   .ofTables ["marchen", "marc"]
    ["11c70 20 2 16 1 e"]
    [],
   .ofTables ["masaramgondi", "gonm"]
    ["11d00 7 1 2 1 2c 3 1 1 2 1 9 8 a"]
    ["964 2"],
   .ofTables ["medefaidrin", "medf"]
    ["16e40 5b"]
    []]

/-- The scripts from Meetei Mayek to Old Uyghur. -/
def fromMeeteiMayek : List Script :=
  [.ofTables ["meeteimayek", "mtei"]
    ["aae0 17 c9 2e 2 a"]
    [],
   .ofTables ["mendekikakui", "mend"]
    ["1e800 c5 2 10"]
    [],
   .ofTables ["meroiticcursive", "merc"]
    ["109a0 18 4 14 2 2e"]
    [],
   .ofTables ["meroitichieroglyphs", "mero"]
    ["10980 20"]
    ["205d 1"],
   .ofTables ["miao", "plrd"]
    ["16f00 4b 4 39 7 11"]
    [],
   .ofTables ["modi"]
    ["11600 45 b a"]
    ["a830 a"],
   .ofTables ["mongolian", "mong"]
    ["1800 2 2 1 1 14 6 59 7 2b fdb5 d"]
    ["1802 2 1 1 829 1 fd1 2 5 4"],
   .ofTables ["mro", "mroo"]
    ["16a40 1f 1 a 4 2"]
    [],
   .ofTables ["multani", "mult"]
    ["11280 7 1 1 1 4 1 f 1 b"]
    ["a66 a"],
   .ofTables ["myanmar", "mymr"]
    ["1000 a0 9940 1f 61 20 6c50 14"]
    ["a92e 1"],
   .ofTables ["nabataean", "nbat"]
    ["10880 1f 8 9"]
    [],
   .ofTables ["nagmundari", "nagm"]
    ["1e4d0 2a"]
    [],
   .ofTables ["nandinagari", "nand"]
    ["119a0 8 2 2e 2 b"]
    ["951 1 12 2 380 a ff9 1 8 1 7 1 8b35 6"],
   .ofTables ["newtailue", "talu"]
    ["1980 2c 4 1a 6 b 3 2"]
    [],
   .ofTables ["newa"]
    ["11400 5c 1 5"]
    ["951 2 1382 1 1 2 9 1 6 1 1 1 1 1"],
   .ofTables ["nko", "nkoo"]
    ["7c0 3b 2 3"]
    ["60c 1 e 1 3 1 f71e 2"],
   .ofTables ["nushu", "nshu"]
    ["16fe1 1 418e 18c"]
    [],
   .ofTables ["nyiakengpuachuehmong", "hmnp"]
    ["1e100 2d 3 e 2 a 4 2"]
    [],
   .ofTables ["ogham", "ogam"]
    ["1680 1d"]
    [],
   .ofTables ["olchiki", "olck"]
    ["1c50 30"]
    [],
   .ofTables ["olonal", "onao"]
    ["1e5d0 2b 4 1"]
    ["964 2"],
   .ofTables ["oldhungarian", "hung"]
    ["10c80 33 d 33 7 6"]
    ["205a 1 2 1 dd3 1 f 1"],
   .ofTables ["olditalic", "ital"]
    ["10300 24 9 3"]
    [],
   .ofTables ["oldnortharabian", "narb"]
    ["10a80 20"]
    [],
   .ofTables ["oldpermic", "perm"]
    ["10350 2b"]
    ["b7 1 248 1 5 3 a 1 16f 1"],
   .ofTables ["oldpersian", "xpeo"]
    ["103a0 24 4 e"]
    [],
   .ofTables ["oldsogdian", "sogo"]
    ["10f00 28"]
    [],
   .ofTables ["oldsoutharabian", "sarb"]
    ["10a60 20"]
    [],
   .ofTables ["oldturkic", "orkh"]
    ["10c00 49"]
    ["205a 1 dd5 1"],
   .ofTables ["olduyghur", "ougr"]
    ["10f70 1a"]
    ["640 1 104b1 1"]]

/-- The scripts from Oriya to Tai Tham. -/
def fromOriya : List Script :=
  [.ofTables ["oriya", "orya"]
    ["b01 3 1 8 2 2 2 16 1 7 1 2 1 5 2 9 2 2 2 3 7 3 4 2 1 5 2 12"]
    ["951 2 11 2 1374 1 17 1"],
   .ofTables ["osage", "osge"]
    ["104b0 24 4 24"]
    ["301 1 2 1 6 1 4c 1"],
   .ofTables ["osmanya", "osma"]
    ["10480 1e 2 a"]
    [],
   .ofTables ["pahawhhmong", "hmng"]
    ["16b00 46 a a 1 7 1 15 5 13"]
    [],
   .ofTables ["palmyrene", "palm"]
    ["10860 20"]
    [],
   .ofTables ["paucinhau", "pauc"]
    ["11ac0 39"]
    [],
   .ofTables ["phagspa", "phag"]
    ["a840 38"]
    ["1802 2 1 1 829 1 fd2 1"],
   .ofTables ["phoenician", "phnx"]
    ["10900 1c 3 1"]
    [],
   .ofTables ["psalterpahlavi", "phlp"]
    ["10b80 12 7 4 c 7"]
    ["640 1"],
   .ofTables ["rejang", "rjng"]
    ["a930 24 b 1"]
    [],
   .ofTables ["runic", "runr"]
    ["16a0 4b 3 b"]
    ["16eb 3"],
   .ofTables ["samaritan", "samr"]
    ["800 2e 2 f"]
    ["2e31 1"],
   .ofTables ["saurashtra", "saur"]
    ["a880 46 8 c"]
    [],
   .ofTables ["sharada", "shrd"]
    ["11180 60 980 8"]
    ["951 1 1385 1 1 1 2 2 2 1 9 1 2 1 8b42 6 2 1"],
   .ofTables ["shavian", "shaw"]
    ["10450 30"]
    ["b7 1"],
   .ofTables ["siddham", "sidd"]
    ["11580 36 2 26"]
    [],
   .ofTables ["sidetic", "sidt"]
    ["10940 1a"]
    [],
   .ofTables ["signwriting", "sgnw"]
    ["1d800 28c f 5 1 f"]
    [],
   .ofTables ["sinhala", "sinh"]
    ["d81 3 1 12 3 18 1 9 1 1 2 7 3 1 4 6 1 1 1 8 6 a 2 3 103ec 14"]
    ["964 2 138c 1"],
   .ofTables ["sogdian", "sogd"]
    ["10f30 2a"]
    ["640 1"],
   .ofTables ["sorasompeng", "sora"]
    ["110d0 19 7 a"]
    [],
   .ofTables ["soyombo", "soyo"]
    ["11a50 53"]
    [],
   .ofTables ["sundanese", "sund"]
    ["1b80 40 100 8"]
    [],
   .ofTables ["sunuwar", "sunu"]
    ["11bc0 22 e a"]
    ["300 2 1 1 9 1 2 1 1c 1 3 1"],
   .ofTables ["sylotinagri", "sylo"]
    ["a800 2d"]
    ["964 2 80 a"],
   .ofTables ["syriac", "syrc"]
    ["700 e 1 3c 2 3 110 b"]
    ["303 2 2 2 1 1 18 3 7 2 1 2 2da 1 e 2 2 1 20 1 a b 1a 1 1787 1 1 1"],
   .ofTables ["tagalog", "tglg"]
    ["1700 16 9 1"]
    ["1735 2"],
   .ofTables ["tagbanwa", "tagb"]
    ["1760 d 1 3 1 2"]
    ["1735 2"],
   .ofTables ["taile", "tale"]
    ["1950 1e 2 5"]
    ["300 2 5 2 3 1 d33 a"],
   .ofTables ["taitham", "lana"]
    ["1a20 3f 1 1d 2 b 6 a 6 e"]
    []]

/-- The scripts from Tai Viet to Zanabazar Square. -/
def fromTaiViet : List Script :=
  [.ofTables ["taiviet", "tavt"]
    ["aa80 43 18 5"]
    [],
   .ofTables ["taiyo", "tayo"]
    ["1e6c0 1f 1 16 8 2"]
    [],
   .ofTables ["takri", "takr"]
    ["11680 3a 6 a"]
    ["964 2 9eca a"],
   .ofTables ["tamil", "taml"]
    ["b82 2 1 6 3 3 1 4 3 2 1 1 1 2 3 2 3 3 3 c 4 5 3 3 1 4 2 1 6 1 e 15 113c5 32 d 1"]
    ["951 2 11 2 1374 1 8c18 1 6a0d 1 1 1 37 2"],
   .ofTables ["tangsa", "tnsa"]
    ["16a70 4f 1 a"]
    [],
   .ofTables ["tangut", "tang"]
    ["16fe0 1 1f 1b00 200 1f 61 73"]
    ["2ff0 10 1ef 1"],
   .ofTables ["telugu", "telu"]
    ["c00 d 1 3 1 17 1 10 2 9 1 3 1 4 7 2 1 3 1 2 2 4 2 a 7 9"]
    ["951 2 11 2 136f 2 1 1 1 1 17 1"],
   .ofTables ["thaana", "thaa"]
    ["780 32"]
    ["60c 1 e 2 2 1 40 a f788 1 a 1"],
   .ofTables ["thai"]
    ["e01 3a 5 1c"]
    ["2bc 1 1a 1 2b 1 2d 1"],
   .ofTables ["tibetan", "tibt"]
    ["f00 48 1 24 4 27 1 24 1 f 1 7 4 2"]
    ["3008 4"],
   .ofTables ["tifinagh", "tfng"]
    ["2d30 38 7 2 e 1"]
    ["302 1 1 1 1 4 19 1"],
   .ofTables ["tirhuta", "tirh"]
    ["11480 48 8 a"]
    ["951 2 11 2 136f 1 c 1 f 1 8b3d a"],
   .ofTables ["todhri", "todr"]
    ["105c0 34"]
    ["301 1 2 1 2 1 9 1 1 1 4a 1"],
   .ofTables ["tolongsiki", "tols"]
    ["11db0 2c 4 a"]
    [],
   .ofTables ["toto"]
    ["1e290 1f"]
    ["2bc 1"],
   .ofTables ["tulutigalari", "tutg"]
    ["11380 a 1 1 2 1 1 26 1 a 1 1 2 1 1 4 1 a 1 2 8 2"]
    ["ce6 a 1002 1 1 1 8b3b 6 bb 1"],
   .ofTables ["ugaritic", "ugar"]
    ["10380 1e 1 1"]
    [],
   .ofTables ["vai", "vaii"]
    ["a500 12c"]
    [],
   .ofTables ["vithkuqi", "vith"]
    ["10570 b 1 f 1 7 1 2 1 b 1 f 1 7 1 2"]
    [],
   .ofTables ["wancho", "wcho"]
    ["1e2c0 3a 5 1"]
    [],
   .ofTables ["warangciti", "wara"]
    ["118a0 53 c 1"]
    [],
   .ofTables ["yezidi", "yezi"]
    ["10e80 2a 1 3 2 2"]
    ["60c 1 e 1 3 1 40 a"],
   .ofTables ["yi", "yiii"]
    ["a000 48d 3 37"]
    ["3001 2 5 a 2 8 df 1 ce65 5"],
   .ofTables ["zanabazarsquare", "zanb"]
    ["11a00 48"]
    []]

/-- All scripts. -/
def table : List Script :=
  fromAdlam ++ fromCyrillic ++ fromInscriptionalParthian ++ fromMeeteiMayek ++ fromOriya ++
    fromTaiViet

end Script
end AppBuild.Unicode
