import DiscountTables.Unicode.CharSet

namespace DiscountTables.Unicode.Script

def adlam : CharSet := .read
  "1e900:4b 4:9 4:1"

def ahom : CharSet := .read
  "11700:1a 2:e 4:16"

def anatolianHieroglyphs : CharSet := .read
  "14400:246"

def arabic : CharSet := .read
  "600:4 1:5 1:d 1:2 1:1f 1:9 b:19 1:6b 1:21 50:2f f0:1e 1:1 5:4a 1:1c f250:72 10:16a 2:4f 2:35
7 20:f 70:4 1:86 f63:1e 43:2 37:3 df00:3 1:1a 1:1 1 2 1:9 1:3 1 1 6 4 1 1 1:2 1:1 1 2 1 1 1
1 1:1 1 2:3 1:6 1:3 1:3 1 1:9 1:10 5:2 1:4 1:10 34:1"

def armenian : CharSet := .read
  "531:25 2:31 2:2 f583:4"

def avestan : CharSet := .read
  "10b00:35 3:6"

def balinese : CharSet := .read
  "1b00:4c 1:31"

def bamum : CharSet := .read
  "a6a0:57 c108:238"

def bassaVah : CharSet := .read
  "16ad0:1d 2:5"

def batak : CharSet := .read
  "1bc0:33 8:3"

def bengali : CharSet := .read
  "980:3 1:7 2:1 2:15 1:6 1 3:3 2:8 2:1 2:3 8 4:1 1:4 2:18"

def bhaiksuki : CharSet := .read
  "11c00:8 1:2c 1:d a:1c"

def bopomofo : CharSet := .read
  "2ea:1 2e19:2a 70:1f"

def brahmi : CharSet := .read
  "11000:4d 4:23 9"

def braille : CharSet := .read
  "2800:ff"

def buginese : CharSet := .read
  "1a00:1b 2:1"

def buhid : CharSet := .read
  "1740:13"

def canadianAboriginal : CharSet := .read
  "1400:27f 230:45 101ba:f"

def carian : CharSet := .read
  "102a0:30"

def caucasianAlbanian : CharSet := .read
  "10530:33 b"

def chakma : CharSet := .read
  "11100:34 1:11"

def cham : CharSet := .read
  "aa00:36 9:d 2:9 2:3"

def cherokee : CharSet := .read
  "13a0:55 2:5 9772:4f"

def chorasmian : CharSet := .read
  "10fb0:1b"

def common : CharSet := .read
  "0:40 1a:5 1a:2e 1:e 1:4 17 1f 1c1:26 5:4 2:13 74 9 6 1 27d 6 e 3 20 9c 204 81:1 4d9 195:3
122 5ef:2 47:1 cb:1 1 4cd d 7:3 1:5 1:2 2 305:b 2:56 1:a 3:a 1:e 11:20 3f:25 1:2 2:5 1:1a
1:10 29:2 4:299 16:a 15:39f 100:273 2:1f 1:68 200:5d 192:14 1 1:18 f:7 4:3 5b:1 3 5a:1 93:f
20:25 9 30:3f 1f:50 2f 58:a7 19c0:3f 5900:21 66:2 a5:9 f4 a0 18b e:1 51d2:1 d0:9 16:22 1:12
1:3 93 1:1f 1a:5 1a:a a 2d:1 40:6 1:6 a:4 102:2 4:2c 3:8 50:c 33:2c e4:1a b9a4:3 f5c:f9
6:1b3 9c:73 3c:f5 a:26 2:3d 3:10 8:1 7:1d 4:3c d5:13 c:13 c:56 9:18 87:54 1:46 1:1 2 2:1 2:3
1:b 1 1:6 1:40 1:3 2:7 1:6 1:1b 1:3 1:4 1 3:6 1:153 2:123 2:31 1471:43 4c:3c 2c2:2b 4:63 c:e
2:e 1:e 1:24 a:ad 38:19 1:1 d:2b 4:8 7:1 e:5 9a:3d7 4:10 3:c 3:76 4:5e 6:b 4 f:b 4:37 8:9
6:27 8:1d 2:b 4:1 3e:153 c:d 2:c 3:9 5:37 7:e 2:a 6:8 7:92 1:65 c0407 1e:5f"

def coptic : CharSet := .read
  "3e2:d 2890:73 5:6"

def cuneiform : CharSet := .read
  "12000:399 66:6e 1:4 b:c3"

def cypriot : CharSet := .read
  "10800:5 2 1:2b 1:1 3 2"

def cyproMinoan : CharSet := .read
  "12f90:62"

def cyrillic : CharSet := .read
  "400:84 2:a8 1750:a a0 4c 1067:1f 7840:5f 578e:1 e200:3d 21"

def deseret : CharSet := .read
  "10400:4f"

def devanagari : CharSet := .read
  "900:50 4:e 2:19 9f60:1f 7200:9"

def divesAkuru : CharSet := .read
  "11900:6 2 2:7 1:1 1:1d 1:1 2:b 9:9"

def dogra : CharSet := .read
  "11800:3b"

def duployan : CharSet := .read
  "1bc00:6a 5:c 3:8 7:9 2:3"

def egyptianHieroglyphs : CharSet := .read
  "13000:455 a:f9a"

def elbasan : CharSet := .read
  "10500:27"

def elymaic : CharSet := .read
  "10fe0:16"

def ethiopic : CharSet := .read
  "1200:48 1:3 2:6 1 1:3 2:28 1:3 2:20 1:3 2:6 1 1:3 2:e 1:38 1:3 2:42 2:1f 3:19 19e6:16 9:6
1:6 1:6 1:6 1:6 1:6 1:6 1:6 7d22:5 2:5 2:5 9:6 1:6 13cb1:6 1:3 1:1 1:e"

def garay : CharSet := .read
  "10d40:25 3:1c 8:1"

def georgian : CharSet := .read
  "10a0:25 1 5 2:2a 1:3 b90:2a 2:2 1040:25 1 5"

def glagolitic : CharSet := .read
  "2c00:5f 1b3a0:6 1:10 2:6 1:1 1:4"

def gothic : CharSet := .read
  "10330:1a"

def grantha : CharSet := .read
  "11300:3 1:7 2:1 2:15 1:6 1:1 1:4 2:8 2:1 2:2 2 6 5:6 2:6 3:4"

def greek : CharSet := .read
  "370:3 1:2 2:3 1 4 1 1:2 1 1:13 1:3e e:f 1926:4 32:4 4:4 54 140:15 2:5 2:25 2:5 2:7 1 1 1
1:1e 2:34 1:e 1:d 2:5 1:12 2:2 1:8 127 8a3e 55da:4e 11 d05f:45"

def gujarati : CharSet := .read
  "a81:2 1:8 1:2 1:15 1:6 1:1 1:4 2:9 1:2 1:2 2 f:3 2:b 7:6"

def gunjalaGondi : CharSet := .read
  "11d60:5 1:1 1:24 1:1 1:5 7:9"

def gurmukhi : CharSet := .read
  "a01:2 1:5 4:1 2:15 1:6 1:1 1:1 1:1 2 1:4 4:1 2:2 3 7:3 1 7:10"

def gurungKhema : CharSet := .read
  "16100:39"

def han : CharSet := .read
  "2e80:19 1:58 c:d5 2f 1 19:8 e:3 3c4:19bf 40:51ff 5900:16d 2:69 7508:1 c:1 900e:a6df 20:1039
6:dd 2:1681 e:1d30 f:26d 9a2:21d 5e2:134a 5:105f"

def hangul : CharSet := .read
  "1100:ff 1e2e:1 101:5d 71:1e 41:1e 76e1:1c 283:2ba3 c:16 4:30 27a4:1e 3:5 2:5 2:5 2:2"

def hanifiRohingya : CharSet := .read
  "10d00:27 8:9"

def hanunoo : CharSet := .read
  "1720:14"

def hatran : CharSet := .read
  "108e0:12 1:1 5:4"

def hebrew : CharSet := .read
  "591:36 8:1a 4:5 f528:19 1:4 1 1:1 1:1 1:9"

def hiragana : CharSet := .read
  "3041:55 6:2 17f61:11e 12 1d:2 40ad"

def imperialAramaic : CharSet := .read
  "10840:15 1:8"

def inherited : CharSet := .read
  "300:6f 115:1 1c4:a 1a 2e0:3 115b:1e 201:2 1:c 1:6 4 6 3:1 c6:3f 20c:1 c2:20 f39:3 6b:1
cd65:f 10:d 3cf e2 105a bbc4:2d 2:16 220:2 11:7 2:6 1e:3 c2f52:ef"

def inscriptionalPahlavi : CharSet := .read
  "10b60:12 5:7"

def inscriptionalParthian : CharSet := .read
  "10b40:15 2:7"

def javanese : CharSet := .read
  "a980:4d 2:9 4:1"

def kaithi : CharSet := .read
  "11080:42 a"

def kannada : CharSet := .read
  "c80:c 1:2 1:16 1:9 1:4 2:8 1:2 1:3 7:1 6:1 1:3 2:9 1:2"

def katakana : CharSet := .read
  "30a1:59 2:2 f0:f d0:2e 1:57 cc0e:9 1:2c b052:3 1:6 1:1 1 11f:2 32 e:3"

def kawi : CharSet := .read
  "11f00:10 1:28 3:1c"

def kayahLi : CharSet := .read
  "a900:2d 1"

def kharoshthi : CharSet := .read
  "10a00:3 1:1 5:7 1:2 1:1c 2:2 4:9 7:8"

def khitanSmallScript : CharSet := .read
  "16fe4 1b1b:1d5 29"

def khmer : CharSet := .read
  "1780:5d 2:9 6:9 1e6:1f"

def khojki : CharSet := .read
  "11200:11 1:2e"

def khudawadi : CharSet := .read
  "112b0:3a 5:9"

def kiratRai : CharSet := .read
  "16d40:39"

def lao : CharSet := .read
  "e81:1 1 1:4 1:17 1 1:16 2:4 1 1:6 1:9 2:3"

def latin : CharSet := .read
  "41:19 6:19 2f f 5:16 1:1e 1:1c0 27:4 1a1b:25 6:30 5:3 5:c 1:45 41:ff 171 d 10:c 8d:1 6 1b
11:28 ad7:1f 7aa2:65 3:42 2:1 1 1:7 15:d 330:2a 1:8 1:3 4f96:6 41a:19 6:19 825:5 1:29 1:8
d745:1e 6:5"

def lepcha : CharSet := .read
  "1c00:37 3:e 3:2"

def limbu : CharSet := .read
  "1900:1e 1:b 4:b 4 3:b"

def linearA : CharSet := .read
  "10600:136 9:15 a:7"

def linearB : CharSet := .read
  "10000:b 1:19 1:12 1:1 1:e 2:d 22:7a"

def lisu : CharSet := .read
  "a4d0:2f 7ab0"

def lycian : CharSet := .read
  "10280:1c"

def lydian : CharSet := .read
  "10920:19 5"

def mahajani : CharSet := .read
  "11150:26"

def makasar : CharSet := .read
  "11ee0:18"

def malayalam : CharSet := .read
  "d00:c 1:2 1:32 1:2 1:5 4:f 2:19"

def mandaic : CharSet := .read
  "840:1b 2"

def manichaean : CharSet := .read
  "10ac0:26 4:b"

def marchen : CharSet := .read
  "11c70:1f 2:15 1:d"

def masaramGondi : CharSet := .read
  "11d00:6 1:1 1:2b 3 1:1 1:8 8:9"

def medefaidrin : CharSet := .read
  "16e40:5a"

def meeteiMayek : CharSet := .read
  "aae0:16 c9:2d 2:9"

def mendeKikakui : CharSet := .read
  "1e800:c4 2:f"

def meroiticCursive : CharSet := .read
  "109a0:17 4:13 2:2d"

def meroiticHieroglyphs : CharSet := .read
  "10980:1f"

def miao : CharSet := .read
  "16f00:4a 4:38 7:10"

def modi : CharSet := .read
  "11600:44 b:9"

def mongolian : CharSet := .read
  "1800:1 2 1:13 6:58 7:2a fdb5:c"

def mro : CharSet := .read
  "16a40:1e 1:9 4:1"

def multani : CharSet := .read
  "11280:6 1 1:3 1:e 1:a"

def myanmar : CharSet := .read
  "1000:9f 9940:1e 61:1f 6c50:13"

def nabataean : CharSet := .read
  "10880:1e 8:8"

def nagMundari : CharSet := .read
  "1e4d0:29"

def nandinagari : CharSet := .read
  "119a0:7 2:2d 2:a"

def newTaiLue : CharSet := .read
  "1980:2b 4:19 6:a 3:1"

def newa : CharSet := .read
  "11400:5b 1:4"

def nko : CharSet := .read
  "7c0:3a 2:2"

def nushu : CharSet := .read
  "16fe1 418e:18b"

def nyiakengPuachueHmong : CharSet := .read
  "1e100:2c 3:d 2:9 4:1"

def ogham : CharSet := .read
  "1680:1c"

def olChiki : CharSet := .read
  "1c50:2f"

def olOnal : CharSet := .read
  "1e5d0:2a 4"

def oldHungarian : CharSet := .read
  "10c80:32 d:32 7:5"

def oldItalic : CharSet := .read
  "10300:23 9:2"

def oldNorthArabian : CharSet := .read
  "10a80:1f"

def oldPermic : CharSet := .read
  "10350:2a"

def oldPersian : CharSet := .read
  "103a0:23 4:d"

def oldSogdian : CharSet := .read
  "10f00:27"

def oldSouthArabian : CharSet := .read
  "10a60:1f"

def oldTurkic : CharSet := .read
  "10c00:48"

def oldUyghur : CharSet := .read
  "10f70:19"

def oriya : CharSet := .read
  "b01:2 1:7 2:1 2:15 1:6 1:1 1:4 2:8 2:1 2:2 7:2 4:1 1:4 2:11"

def osage : CharSet := .read
  "104b0:23 4:23"

def osmanya : CharSet := .read
  "10480:1d 2:9"

def pahawhHmong : CharSet := .read
  "16b00:45 a:9 1:6 1:14 5:12"

def palmyrene : CharSet := .read
  "10860:1f"

def pauCinHau : CharSet := .read
  "11ac0:38"

def phagsPa : CharSet := .read
  "a840:37"

def phoenician : CharSet := .read
  "10900:1b 3"

def psalterPahlavi : CharSet := .read
  "10b80:11 7:3 c:6"

def rejang : CharSet := .read
  "a930:23 b"

def runic : CharSet := .read
  "16a0:4a 3:a"

def samaritan : CharSet := .read
  "800:2d 2:e"

def saurashtra : CharSet := .read
  "a880:45 8:b"

def sharada : CharSet := .read
  "11180:5f"

def shavian : CharSet := .read
  "10450:2f"

def siddham : CharSet := .read
  "11580:35 2:25"

def signwriting : CharSet := .read
  "1d800:28b f:4 1:e"

def sinhala : CharSet := .read
  "d81:2 1:11 3:17 1:8 1 2:6 3 4:5 1 1:7 6:9 2:2 103ec:13"

def sogdian : CharSet := .read
  "10f30:29"

def soraSompeng : CharSet := .read
  "110d0:18 7:9"

def soyombo : CharSet := .read
  "11a50:52"

def sundanese : CharSet := .read
  "1b80:3f 100:7"

def sunuwar : CharSet := .read
  "11bc0:21 e:9"

def sylotiNagri : CharSet := .read
  "a800:2c"

def syriac : CharSet := .read
  "700:d 1:3b 2:2 110:a"

def tagalog : CharSet := .read
  "1700:15 9"

def tagbanwa : CharSet := .read
  "1760:c 1:2 1:1"

def taiLe : CharSet := .read
  "1950:1d 2:4"

def taiTham : CharSet := .read
  "1a20:3e 1:1c 2:a 6:9 6:d"

def taiViet : CharSet := .read
  "aa80:42 18:4"

def takri : CharSet := .read
  "11680:39 6:9"

def tamil : CharSet := .read
  "b82:1 1:5 3:2 1:3 3:1 1 1:1 3:1 3:2 3:b 4:4 3:2 1:3 2 6 e:14 113c5:31 d"

def tangsa : CharSet := .read
  "16a70:4e 1:9"

def tangut : CharSet := .read
  "16fe0 1f:17f7 8:2ff 200:8"

def telugu : CharSet := .read
  "c00:c 1:2 1:16 1:f 2:8 1:2 1:3 7:1 1:2 2 2:3 2:9 7:8"

def thaana : CharSet := .read
  "780:31"

def thai : CharSet := .read
  "e01:39 5:1b"

def tibetan : CharSet := .read
  "f00:47 1:23 4:26 1:23 1:e 1:6 4:1"

def tifinagh : CharSet := .read
  "2d30:37 7:1 e"

def tirhuta : CharSet := .read
  "11480:47 8:9"

def todhri : CharSet := .read
  "105c0:33"

def toto : CharSet := .read
  "1e290:1e"

def tuluTigalari : CharSet := .read
  "11380:9 1 2 1:25 1:9 1 2 1:3 1:9 1:1 8:1"

def ugaritic : CharSet := .read
  "10380:1d 1"

def vai : CharSet := .read
  "a500:12b"

def vithkuqi : CharSet := .read
  "10570:a 1:e 1:6 1:1 1:a 1:e 1:6 1:1"

def wancho : CharSet := .read
  "1e2c0:39 5"

def warangCiti : CharSet := .read
  "118a0:52 c"

def yezidi : CharSet := .read
  "10e80:29 1:2 2:1"

def yi : CharSet := .read
  "a000:48c 3:36"

def zanabazarSquare : CharSet := .read
  "11a00:47"

def names : List (List String × CharSet) :=
  [(["adlam", "adlm"], adlam),
    (["ahom"], ahom),
    (["anatolianhieroglyphs", "hluw"], anatolianHieroglyphs),
    (["arab", "arabic"], arabic),
    (["armenian", "armn"], armenian),
    (["avestan", "avst"], avestan),
    (["bali", "balinese"], balinese),
    (["bamu", "bamum"], bamum),
    (["bass", "bassavah"], bassaVah),
    (["batak", "batk"], batak),
    (["beng", "bengali"], bengali),
    (["bhaiksuki", "bhks"], bhaiksuki),
    (["bopo", "bopomofo"], bopomofo),
    (["brah", "brahmi"], brahmi),
    (["brai", "braille"], braille),
    (["bugi", "buginese"], buginese),
    (["buhd", "buhid"], buhid),
    (["canadianaboriginal", "cans"], canadianAboriginal),
    (["cari", "carian"], carian),
    (["aghb", "caucasianalbanian"], caucasianAlbanian),
    (["cakm", "chakma"], chakma),
    (["cham"], cham),
    (["cher", "cherokee"], cherokee),
    (["chorasmian", "chrs"], chorasmian),
    (["common", "zyyy"], common),
    (["copt", "coptic", "qaac"], coptic),
    (["cuneiform", "xsux"], cuneiform),
    (["cprt", "cypriot"], cypriot),
    (["cpmn", "cyprominoan"], cyproMinoan),
    (["cyrillic", "cyrl"], cyrillic),
    (["deseret", "dsrt"], deseret),
    (["deva", "devanagari"], devanagari),
    (["diak", "divesakuru"], divesAkuru),
    (["dogr", "dogra"], dogra),
    (["dupl", "duployan"], duployan),
    (["egyp", "egyptianhieroglyphs"], egyptianHieroglyphs),
    (["elba", "elbasan"], elbasan),
    (["elym", "elymaic"], elymaic),
    (["ethi", "ethiopic"], ethiopic),
    (["gara", "garay"], garay),
    (["geor", "georgian"], georgian),
    (["glag", "glagolitic"], glagolitic),
    (["goth", "gothic"], gothic),
    (["gran", "grantha"], grantha),
    (["greek", "grek"], greek),
    (["gujarati", "gujr"], gujarati),
    (["gong", "gunjalagondi"], gunjalaGondi),
    (["gurmukhi", "guru"], gurmukhi),
    (["gukh", "gurungkhema"], gurungKhema),
    (["han", "hani"], han),
    (["hang", "hangul"], hangul),
    (["hanifirohingya", "rohg"], hanifiRohingya),
    (["hano", "hanunoo"], hanunoo),
    (["hatr", "hatran"], hatran),
    (["hebr", "hebrew"], hebrew),
    (["hira", "hiragana"], hiragana),
    (["armi", "imperialaramaic"], imperialAramaic),
    (["inherited", "qaai", "zinh"], inherited),
    (["inscriptionalpahlavi", "phli"], inscriptionalPahlavi),
    (["inscriptionalparthian", "prti"], inscriptionalParthian),
    (["java", "javanese"], javanese),
    (["kaithi", "kthi"], kaithi),
    (["kannada", "knda"], kannada),
    (["kana", "katakana"], katakana),
    (["kawi"], kawi),
    (["kali", "kayahli"], kayahLi),
    (["khar", "kharoshthi"], kharoshthi),
    (["khitansmallscript", "kits"], khitanSmallScript),
    (["khmer", "khmr"], khmer),
    (["khoj", "khojki"], khojki),
    (["khudawadi", "sind"], khudawadi),
    (["kiratrai", "krai"], kiratRai),
    (["lao", "laoo"], lao),
    (["latin", "latn"], latin),
    (["lepc", "lepcha"], lepcha),
    (["limb", "limbu"], limbu),
    (["lina", "lineara"], linearA),
    (["linb", "linearb"], linearB),
    (["lisu"], lisu),
    (["lyci", "lycian"], lycian),
    (["lydi", "lydian"], lydian),
    (["mahajani", "mahj"], mahajani),
    (["maka", "makasar"], makasar),
    (["malayalam", "mlym"], malayalam),
    (["mand", "mandaic"], mandaic),
    (["mani", "manichaean"], manichaean),
    (["marc", "marchen"], marchen),
    (["gonm", "masaramgondi"], masaramGondi),
    (["medefaidrin", "medf"], medefaidrin),
    (["meeteimayek", "mtei"], meeteiMayek),
    (["mend", "mendekikakui"], mendeKikakui),
    (["merc", "meroiticcursive"], meroiticCursive),
    (["mero", "meroitichieroglyphs"], meroiticHieroglyphs),
    (["miao", "plrd"], miao),
    (["modi"], modi),
    (["mong", "mongolian"], mongolian),
    (["mro", "mroo"], mro),
    (["mult", "multani"], multani),
    (["myanmar", "mymr"], myanmar),
    (["nabataean", "nbat"], nabataean),
    (["nagm", "nagmundari"], nagMundari),
    (["nand", "nandinagari"], nandinagari),
    (["newtailue", "talu"], newTaiLue),
    (["newa"], newa),
    (["nko", "nkoo"], nko),
    (["nshu", "nushu"], nushu),
    (["hmnp", "nyiakengpuachuehmong"], nyiakengPuachueHmong),
    (["ogam", "ogham"], ogham),
    (["olchiki", "olck"], olChiki),
    (["olonal", "onao"], olOnal),
    (["hung", "oldhungarian"], oldHungarian),
    (["ital", "olditalic"], oldItalic),
    (["narb", "oldnortharabian"], oldNorthArabian),
    (["oldpermic", "perm"], oldPermic),
    (["oldpersian", "xpeo"], oldPersian),
    (["oldsogdian", "sogo"], oldSogdian),
    (["oldsoutharabian", "sarb"], oldSouthArabian),
    (["oldturkic", "orkh"], oldTurkic),
    (["olduyghur", "ougr"], oldUyghur),
    (["oriya", "orya"], oriya),
    (["osage", "osge"], osage),
    (["osma", "osmanya"], osmanya),
    (["hmng", "pahawhhmong"], pahawhHmong),
    (["palm", "palmyrene"], palmyrene),
    (["pauc", "paucinhau"], pauCinHau),
    (["phag", "phagspa"], phagsPa),
    (["phnx", "phoenician"], phoenician),
    (["phlp", "psalterpahlavi"], psalterPahlavi),
    (["rejang", "rjng"], rejang),
    (["runic", "runr"], runic),
    (["samaritan", "samr"], samaritan),
    (["saur", "saurashtra"], saurashtra),
    (["sharada", "shrd"], sharada),
    (["shavian", "shaw"], shavian),
    (["sidd", "siddham"], siddham),
    (["sgnw", "signwriting"], signwriting),
    (["sinh", "sinhala"], sinhala),
    (["sogd", "sogdian"], sogdian),
    (["sora", "sorasompeng"], soraSompeng),
    (["soyo", "soyombo"], soyombo),
    (["sund", "sundanese"], sundanese),
    (["sunu", "sunuwar"], sunuwar),
    (["sylo", "sylotinagri"], sylotiNagri),
    (["syrc", "syriac"], syriac),
    (["tagalog", "tglg"], tagalog),
    (["tagb", "tagbanwa"], tagbanwa),
    (["taile", "tale"], taiLe),
    (["lana", "taitham"], taiTham),
    (["taiviet", "tavt"], taiViet),
    (["takr", "takri"], takri),
    (["tamil", "taml"], tamil),
    (["tangsa", "tnsa"], tangsa),
    (["tang", "tangut"], tangut),
    (["telu", "telugu"], telugu),
    (["thaa", "thaana"], thaana),
    (["thai"], thai),
    (["tibetan", "tibt"], tibetan),
    (["tfng", "tifinagh"], tifinagh),
    (["tirh", "tirhuta"], tirhuta),
    (["todhri", "todr"], todhri),
    (["toto"], toto),
    (["tulutigalari", "tutg"], tuluTigalari),
    (["ugar", "ugaritic"], ugaritic),
    (["vai", "vaii"], vai),
    (["vith", "vithkuqi"], vithkuqi),
    (["wancho", "wcho"], wancho),
    (["wara", "warangciti"], warangCiti),
    (["yezi", "yezidi"], yezidi),
    (["yi", "yiii"], yi),
    (["zanabazarsquare", "zanb"], zanabazarSquare)]

def named? (name : String) : Option CharSet :=
  (names.find? fun entry => entry.1.contains name).map Prod.snd

/-- Names of scripts that are known but hold no characters of their own. -/
def bareNames : List String := ["hrkt", "katakanaorhiragana", "unknown", "zzzz"]

end DiscountTables.Unicode.Script
