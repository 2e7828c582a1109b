import DiscountTables.Unicode.CharSet

namespace DiscountTables.Unicode

inductive Category where
  | uppercaseLetter
  | lowercaseLetter
  | titlecaseLetter
  | modifierLetter
  | otherLetter
  | nonspacingMark
  | spacingMark
  | enclosingMark
  | decimalNumber
  | letterNumber
  | otherNumber
  | connectorPunctuation
  | dashPunctuation
  | openPunctuation
  | closePunctuation
  | initialPunctuation
  | finalPunctuation
  | otherPunctuation
  | mathSymbol
  | currencySymbol
  | modifierSymbol
  | otherSymbol
  | spaceSeparator
  | lineSeparator
  | paragraphSeparator
  | control
  | format
  | privateUse
  | unassigned
  deriving DecidableEq, Repr

namespace Category

def uppercaseLetterSet : CharSet := .read
  "41:19 65:16 1:6 21 1 1 1 1 1 1 1 1 1 1 1 1 1 1 1 1 1 1 1 1 1 1 1 1 1 1 1 2 1 1 1 1 1 1 1 2 1
1 1 1 1 1 1 1 1 1 1 1 1 1 1 1 1 1 1 1 1 1 1:1 1 1 3:1 1 1:1 1:2 2:3 1:1 1:2 3:1 1:1 1 1 1:1
1 2 1:1 1:2 1 1:1 3 7 2 2 2 1 1 1 1 1 1 1 2 1 1 1 1 1 1 1 1 2 2 1:2 1 1 1 1 1 1 1 1 1 1 1 1
1 1 1 1 1 1 1 1 1 1 1 1 1 1 1 1 1 7:1 1:1 2 1:3 1 1 1 1 121 1 3 8 6 1:2 1 1:1 1:10 1:8 23
2:2 3 1 1 1 1 1 1 1 1 1 1 1 5 2 1:1 2:32 30 1 1 1 1 1 1 1 1 1 1 1 1 1 1 1 1 9 1 1 1 1 1 1 1
1 1 1 1 1 1 1 1 1 1 1 1 1 1 1 1 1 1 1 1:1 1 1 1 1 1 1 2 1 1 1 1 1 1 1 1 1 1 1 1 1 1 1 1 1 1
1 1 1 1 1 1 1 1 1 1 1 1 1 1 1 1 1 1 1 1 1 1 1 1 1 1 1 1 1 2:25 b49:25 1 5 2d2:55 893 6:2a
2:2 140 1 1 1 1 1 1 1 1 1 1 1 1 1 1 1 1 1 1 1 1 1 1 1 1 1 1 1 1 1 1 1 1 1 1 1 1 1 1 1 1 1 1
1 1 1 1 1 1 1 1 1 1 1 1 1 1 1 1 1 1 1 1 1 1 1 1 1 1 1 1 1 1 1 1 9 1 1 1 1 1 1 1 1 1 1 1 1 1
1 1 1 1 1 1 1 1 1 1 1 1 1 1 1 1 1 1 1 1 1 1 1 1 1 1 1 1 1 1 1 1 1 1 1 9:7 8:5 a:7 8:7 8:5 b
1 1 1 8:7 48:3 c:3 c:3 c:4 b:3 106 4 3:2 2:2 2 3:4 6 1 1 1:3 2:3 a:1 5 3d a7c:2f 30 1:2 2 1
1 1:3 1 2 8:2 1 1 1 1 1 1 1 1 1 1 1 1 1 1 1 1 1 1 1 1 1 1 1 1 1 1 1 1 1 1 1 1 1 1 1 1 1 1 1
1 1 1 1 1 1 1 1 1 1 8 1 4 794d 1 1 1 1 1 1 1 1 1 1 1 1 1 1 1 1 1 1 1 1 1 1 13 1 1 1 1 1 1 1
1 1 1 1 1 1 87 1 1 1 1 1 1 3 1 1 1 1 1 1 1 1 1 1 1 1 1 1 1 1 1 1 1 1 1 1 1 1 1 1 1 1 1 1 a 1
1:1 1 1 1 1 4 1 2 1 3 1 1 1 1 1 1 1 1 1 1:4 1:4 1 1 1 1 1 1 1 1:3 1 1:1 3 5 1 1 1 18 572b:19
4c5:27 88:23 9c:a 1:e 1:6 1:1 6ea:32 9d:15 b3a:1f 5580:1f 65a0:19 1a:19 1a:19 1a 1:1 2 2:1
2:3 1:7 1a:19 1a:1 1:3 2:7 1:6 1b:1 1:3 1:4 1 3:6 1b:19 1a:19 1a:19 1a:19 1a:19 1a:19 1e:18
21:18 21:18 21:18 21:18 21 1135:21"

def lowercaseLetterSet : CharSet := .read
  "61:19 3a 29:17 1:7 1 1 1 1 1 1 1 1 1 1 1 1 1 1 1 1 1 1 1 1 1 1 1 1 1 1 1 1:1 1 1 1 1 1 1 1
1:1 1 1 1 1 1 1 1 1 1 1 1 1 1 1 1 1 1 1 1 1 1 1 1 2 1 1:2 2 1 2 3:1 4 2 3:2 2 2 1 1 2 1:1 1
2 3 1 2:1 2:2 6 2 2 1 1 1 1 1 1 1 1:1 1 1 1 1 1 1 1 1 1:1 2 1 3 1 1 1 1 1 1 1 1 1 1 1 1 1 1
1 1 1 1 1 1 1 1 1 1 1 1 1 1 1:6 2 2:1 1 4 1 1 1 1:44 1:1a c1 1 3 3:2 12 1b:22 1:1 3:2 1 1 1
1 1 1 1 1 1 1 1 1:4 1 2 2:1 33:2f 1 1 1 1 1 1 1 1 1 1 1 1 1 1 1 1 1 9 1 1 1 1 1 1 1 1 1 1 1
1 1 1 1 1 1 1 1 1 1 1 1 1 1 1 2 1 1 1 1 1 1:1 1 1 1 1 1 1 1 1 1 1 1 1 1 1 1 1 1 1 1 1 1 1 1
1 1 1 1 1 1 1 1 1 1 1 1 1 1 1 1 1 1 1 1 1 1 1 1 1 30:28 b47:2a 2:2 2f8:5 882:8 1 75:2b 3f:c
1:21 66 1 1 1 1 1 1 1 1 1 1 1 1 1 1 1 1 1 1 1 1 1 1 1 1 1 1 1 1 1 1 1 1 1 1 1 1 1 1 1 1 1 1
1 1 1 1 1 1 1 1 1 1 1 1 1 1 1 1 1 1 1 1 1 1 1 1 1 1 1 1 1 1 1 1:8 1 1 1 1 1 1 1 1 1 1 1 1 1
1 1 1 1 1 1 1 1 1 1 1 1 1 1 1 1 1 1 1 1 1 1 1 1 1 1 1 1 1 1 1 1 1 1 1 1:8 8:5 a:7 8:7 8:5
a:7 8:7 8:d 2:7 8:7 8:7 8:4 1:1 6 3:2 1:1 8:3 2:1 8:7 a:2 1:1 112 3:1 3 1b 4 4 2:1 8:3 4 35
aab:2f 1 3:1 1 1 1 4 1:1 1:5 5 1 1 1 1 1 1 1 1 1 1 1 1 1 1 1 1 1 1 1 1 1 1 1 1 1 1 1 1 1 1 1
1 1 1 1 1 1 1 1 1 1 1 1 1 1 1 1 1 1:1 7 1 4 c:25 1 5 7913 1 1 1 1 1 1 1 1 1 1 1 1 1 1 1 1 1
1 1 1 1 1 13 1 1 1 1 1 1 1 1 1 1 1 1 1 87 1 1 1 1 1 1:2 1 1 1 1 1 1 1 1 1 1 1 1 1 1 1 1 1 1
1 1 1 1 1 1 1 1 1 1 1 1 1 1:7 1 1 2 1 1 1 1 4 1 2 1:2 1 1 1 1 1 1 1 1 1 1 5 5 1 1 1 1 1 1 1
4 1 2 3 1 1 1 1 1 1a 3 335:2a 5:8 7:4f 4f40:6 c:4 429:19 4cd:27 88:23 9b:a 1:e 1:6 1:1
703:32 7d:15 b3a:1f 5580:1f 659a:19 1a:6 1:11 1a:19 1a:3 1 1:6 1:a 1a:19 1a:19 1a:19 1a:19
1a:19 1a:19 1a:19 1a:19 1a:1b 1c:18 1:5 1a:18 1:5 1a:18 1:5 1a:18 1:5 1a:18 1:5 1 734:9 1:13
6:5 9f7:21"

def titlecaseLetterSet : CharSet := .read
  "1c5 2 2 26 1d95:7 8:7 8:7 c f 2f"

def modifierLetterSet : CharSet := .read
  "2b0:11 4:b e:4 7 1 85 5 1de e6 a4:1 10d:1 4 1f 9 3 a0 a7 4d4 7f 235 6da 6b 263 1d0:5 ae:3e d
22:24 2b1 d 10:c bdf:1 f1 bf 1d5 2b:4 5 61:1 5d:2 6f16 4e2:5 10e 72 1c:1 79:8 50 17 69:2 3:1
1d5 16 89 6c 15:1 67:3 9 5406 2d:1 7e0:5 1:29 1:8 593 20 5dd0:3 1fc:2 28:1 226:c 40:1 1
400c:3 1:6 1:1 3031:3d c9:6 3ad 45f"

def otherLetterSet : CharSet := .read
  "aa f 100 4:3 d0 33b:1a 4:3 2d:1f 1:9 23:1 1:62 1 18:1 a:2 2 10 1:1d 1d:58 b 18:20 15:15
2a:18 7:a 5:17 1:5 11:28 3b:35 3 12 7:9 10:e 4:7 2:1 2:15 1:6 1 3:3 3 10 d:1 1:2 e:1 a 8:5
4:1 2:15 1:6 1:1 1:1 1:1 1f:3 1 13:2 10:8 1:2 1:15 1:6 1:1 1:4 3 12 f:1 17 b:7 2:1 2:15 1:6
1:1 1:4 3 1e:1 1:2 f 11 1:5 3:2 1:3 3:1 1 1:1 3:1 3:2 3:b 16 34:7 1:2 1:16 1:f 3 1a:2 2 2:1
1e 4:7 1:2 1:16 1:9 1:4 3 1f:1 1:1 f:1 11:8 1:2 1:28 2 10 5:2 8:2 18:5 5:11 3:17 1:8 1 2:6
3a:2f 1:1 c:5 3b:1 1 1:4 1:17 1 1:9 1:1 9 2:4 17:3 20 3f:7 1:23 1b:4 73:2a 14 10:5 4:3 3 3:1
7:2 4:c c 71:148 1:3 2:6 1 1:3 2:28 1:3 2:20 1:3 2:6 1 1:3 2:e 1:38 1:3 2:42 25:f 71:26b
2:10 1:19 5:4a 6:7 7:11 d:12 e:11 e:c 1:2 f:33 28 43:22 1:34 7:4 2:21 1 5:45 a:1e 31:1d 2:4
b:2b 4:19 36:16 9:34 b0:2e 11:7 36:1d d:1 a:2b 1a:23 29:2 a:1d 71:3 1:5 1:1 3 43a:3 bf7:37
18:16 9:6 1:6 1:6 1:6 1:6 1:6 1:6 1:6 227 35 4:55 8 1:59 4 5:2a 1:5d 11:1f 30:f 200:19bf
40:5214 1:476 43:27 8:10b 4:f a:1 42 31:45 a9 67 3:6 1:2 1:3 1:16 1d:33 e:31 3e:5 3 1:1 b:1b
a:16 19:1c 7:2e 2d:4 2:8 a:4 1:28 17:2 1:7 14:f 1:5 3 3:31 1 3:1 2:4 2 1 18:1 3:a 7 e:5 2:5
2:5 9:6 1:6 91:22 1d:2ba3 c:16 4:30 2104:16d 2:69 43 1:9 1:c 1:4 1 1:1 1:1 1:6b 21:16a 12:3f
2:35 28:b 74:4 1:86 69:9 1:2c 2:1e 3:5 2:5 2:5 2:2 23:b 1:19 1:12 1:1 1:e 2:d 22:7a 185:1c
3:30 2f:1f d:13 1:7 6:25 a:1d 2:23 4:7 80:4d 62:27 8:33 5c:33 c:136 9:15 a:7 98:5 2 1:2b 1:1
3 2:16 a:16 9:1e 41:12 1:1 a:15 a:19 46:37 6:1 40 f:3 1:2 1:1c 2a:1c 3:1c 23:7 1:1b 1b:35
a:15 a:12 d:11 6e:48 b7:23 26:3 1 130:29 6:1 10:2 3b:1c a 8:15 2a:11 2e:14 1b:16 c:34 39:1 2
d:2c 20:18 1a:23 1d 2 8:22 3 c:2f e:3 15 1 23:11 1:18 13:1 3f:6 1 1:3 1:e 1:9 7:2e 26:7 2:1
2:15 1:6 1:1 1:4 3 12 c:4 1e:9 1 2 1:25 1 19 1 2c:34 12:3 14:2 1e:2f 14:1 1 b8:2e 29:3 24:2f
14 3b:2a d 47:1a 25:6 b9:2b d3:7 2 2:7 1:1 1:17 f 1 5e:7 2:26 10 1 1c a:27 7 15 b:2d 13
12:48 c7:20 1f:8 1:24 11 31:1d 70:6 1:1 1:25 15 19:5 1:1 1:1f e 147:12 f 1:c 1:21 7c 4f:399
e6:c3 a4c:60 f:42f 11:5 19:f9a 5:246 1ab9:1d 6e2:238 7:1e 11:4e 11:1d 12:2f 33:14 5:12
1b3:27 195:4a 5 af:17f7 8:4d5 29:9 22f7:122 f 1d:2 2 e:3 8:18b 904:6a 5:c 3:8 7:9 2270
1f5:2c 21 141:1d 12:2b 1e4:1a e5:1d 2 1ef:6 1:3 1:1 1:e 1:c4 53b:3 1:1a 1:1 1 2 1:9 1:3 1 1
6 4 1 1 1:2 1:1 1 2 1 1 1 1 1:1 1 2:3 1:6 1:3 1:3 1 1:9 1:10 5:2 1:4 1:10 1144:a6df 20:1039
6:dd 2:1681 e:1d30 f:26d 9a2:21d 5e2:134a 5:105f"

def nonspacingMarkSet : CharSet := .read
  "300:6f 113:4 109:2c 1 1:1 1:1 1 48:a 30:14 10 65:6 2:5 2:1 1:3 23 1e:1a 5b:a 3a:8 9 18:3 1:8
1:2 1:4 2b:2 3b:8 2a:17 1:1f 37 1 4:7 4 3:6 a:1 1d 3a 4:3 8 14:1 1a 2:1 39 4:1 4:1 2:2 3
1e:1 3 b:1 39 4:4 1:1 4 14:1 16:5 1 3a 2 1:3 8 7:1 b:1 1e 3d c 32 3 37 1:2 5:2 1:3 7:1 b:1
1d 3a 2 6 5:1 14:1 1c:1 39:1 4:3 8 14:1 1d 48 7:2 1 5a 2:6 c:7 62 2:8 b:6 49:1 1b 1 1 37:d
1:4 1:1 5:a 1:23 9 66:3 1:5 1:1 2:1 19:1 4:2 10:3 d 2:1 6 f 2bf:2 3b2:2 1d:1 1e:1 1e:1 40:1
1:6 8 2:a 9 2d:2 1 75:1 22 76:2 4:1 9 6:2 db:1 2 3a 1:6 1 1 2:7 6:9 2 30:d 1:f 31:3 30 1:4 1
5 28:8 c:1 20:3 2:1 1:2 38 1:1 3 1:2 3a:7 2:1 98:2 1:c 1:6 4 6 3:1 c6:3f 2d0:c 4 3:b bfe:2
8d 60:1f 22a:3 6b:1 75d4 4:9 20:1 50:1 110 3 4 19:1 5 97:1 1a:11 d 26:7 19:a 2e:2 30 2:3 2:1
27 43:5 2:1 2:1 c 8 2f 33 1:2 2:1 5:1 1 2a:1 8 ee 2 4 4f30 2e1:f 10:f 3cd e2 95:4 686:2 1:1
5:3 28:2 4 a5:1 23d:3 41:4 13d:1 4f:3 46:a 31:3 7b 36:e 29 2:1 a:2 31:3 2:1 7 3d:2 24:4 1:7
3e c:1 34:8 a:3 2 5f:2 2 1:1 6 2 9d 3:7 15:1 39:1 3 25:6 3:4 46:5 d 1 1 e:1 55:7 2:2 1 17
54:5 1 4:1 1:1 ee:3 6:1 1:1 1b:1 55:7 2 1:1 6a 1 2:5 1 65 1 2:3 1:4 103:8 1:1 100:1 1 4 90:3
2:1 4 20:9 28:5 2:3 8 9:5 2:2 2e:c 1:1 196:6 1:5 1 52:15 2:6 1:1 1:1 7a:5 3 1:1 1:6 1 48:1 3
1 15b:1 b:1 34:4 5 1 17 14e5 6:e 2cc8:b 3:2 9c0:4 3b:6 418 3f:3 51 4cb8:1 1261:2d 2:16 220:2
11:7 2:6 1e:3 94:2 7bb:36 4:31 8 e 16:4 1:e 550:6 1:10 2:6 1:1 1:4 64 a0:6 177 3d:3 1fc:3
fe:1 2e0:6 6d:6 c17b5:ef"

def spacingMarkSet : CharSet := .read
  "903 37 2:2 8:3 1:1 32:1 3a:2 6:1 2:1 a 2b 3a:2 42 3a:2 8 1:1 35:1 3a 1 6:1 2:1 a 66:1 1:1
3:2 1:2 a 29:2 3d:3 3d:1 3a 1:4 2:1 1:1 9:1 1c e:1 3a:2 5:2 1:2 a 2a:1 4b:2 6:7 12:1 14a:1
3f ab:1 4 6 2:1 19:1 a:2 2:6 15:1 2:5 2 a:2 678 1e 81 7:7 1:1 15a:3 2:2 4:1 1:5 e0:1 3a 1 9
1:1 8:5 91 30 5 1:4 1:1 3d 1e 4:1 2 3c 2:2 1 3:1 30:7 8:1 ab 15 1336:1 77f3:1 2 58:1 32:f
8e:1 2f 30:1 4:1 2:2 6e:1 2:1 18 2d 1 6d 2:1 5 ed:1 1:1 1:1 1 6413 1 7f 2d:2 4:1 73 18:1 3b
30:2 9:1 d 5d:2 3:1 1 aa:2 1f:1 3a:1 1:3 2:1 2:2 9 a:1 54:2 7 2 1:3 1:1 1 65:2 8:1 3 6a:2 6
1:3 2 ed:2 6:3 2 71:2 8:1 1 6d 1:1 6 67 1:1 4 105:2 9 f7:5 1:1 4 2 1 8e:2 8:3 4 54 1d:1 3e
197 e 6a 7 2 d5:4 4:1 1 15e:1 c 30:1 8:1 1 41e8:2 e24:36 68:1 6173:1 6:5"

def enclosingMarkSet : CharSet := .read
  "488:1 1634 61e:3 1:2 858b:2"

def decimalNumberSet : CharSet where
  changes :=
    [0x30, 0x3a, 0x660, 0x66a, 0x6f0, 0x6fa, 0x7c0, 0x7ca, 0x966, 0x970, 0x9e6, 0x9f0, 0xa66,
      0xa70, 0xae6, 0xaf0, 0xb66, 0xb70, 0xbe6, 0xbf0, 0xc66, 0xc70, 0xce6, 0xcf0, 0xd66,
      0xd70, 0xde6, 0xdf0, 0xe50, 0xe5a, 0xed0, 0xeda, 0xf20, 0xf2a, 0x1040, 0x104a, 0x1090,
      0x109a, 0x17e0, 0x17ea, 0x1810, 0x181a, 0x1946, 0x1950, 0x19d0, 0x19da, 0x1a80,
      0x1a8a, 0x1a90, 0x1a9a, 0x1b50, 0x1b5a, 0x1bb0, 0x1bba, 0x1c40, 0x1c4a, 0x1c50,
      0x1c5a, 0xa620, 0xa62a, 0xa8d0, 0xa8da, 0xa900, 0xa90a, 0xa9d0, 0xa9da, 0xa9f0,
      0xa9fa, 0xaa50, 0xaa5a, 0xabf0, 0xabfa, 0xff10, 0xff1a, 0x104a0, 0x104aa, 0x10d30,
      0x10d3a, 0x10d40, 0x10d4a, 0x11066, 0x11070, 0x110f0, 0x110fa, 0x11136, 0x11140,
      0x111d0, 0x111da, 0x112f0, 0x112fa, 0x11450, 0x1145a, 0x114d0, 0x114da, 0x11650,
      0x1165a, 0x116c0, 0x116ca, 0x116d0, 0x116e4, 0x11730, 0x1173a, 0x118e0, 0x118ea,
      0x11950, 0x1195a, 0x11bf0, 0x11bfa, 0x11c50, 0x11c5a, 0x11d50, 0x11d5a, 0x11da0,
      0x11daa, 0x11f50, 0x11f5a, 0x16130, 0x1613a, 0x16a60, 0x16a6a, 0x16ac0, 0x16aca,
      0x16b50, 0x16b5a, 0x16d70, 0x16d7a, 0x1ccf0, 0x1ccfa, 0x1d7ce, 0x1d800, 0x1e140,
      0x1e14a, 0x1e2f0, 0x1e2fa, 0x1e4f0, 0x1e4fa, 0x1e5f1, 0x1e5fb, 0x1e950, 0x1e95a,
      0x1fbf0, 0x1fbfa]

def letterNumberSet : CharSet := .read
  "16ee:2 a6f:22 2:3 e7e 19:8 e:2 76ab:9 5a50:34 1cc 8 86:4 202a:6e"

def otherNumberSet : CharSet := .read
  "b2:1 5 2:2 935:5 178:5 78:2 85:6 d9:6 11:8 1b1:9 435:13 473:9 1e0 695 3:5 6:9 c6:f 29 2d6:3b
4e:15 276:1d 569 494:3 8a:9 1e:7 1:e 20:9 27:e 7570:5 58d1:2c 41:3 11:1 155:1a 24:3 534:7
19:6 27:8 4b:4 16:5 a0:1 2:f 2:2d 40:8 34:1 1e:2 4b:4 68:7 18:7 29:6 14a:5 160:1e 9e:9 2a:3
70:6 86:13 17b:13 545:1 1ae:8 367:12 353:14 4b86:6 31e:16 6429:13 c:13 6c:18 154e:8 3a1:3a
1:2 1:3 4c:2c 1:e 3c2:c"

def connectorPunctuationSet : CharSet := .read
  "5f 1fdf:1 13 ddde:1 18:2 ef"

def dashPunctuationSet : CharSet := .read
  "2d 55c 33 e41 405 809:5 e01 2 1f:1 4 1c 1be 13 6f cd90:1 25 a a9 e60 13e"

def openPunctuationSet : CharSet := .read
  "28 32 1f ebe 1 75e 97e 3 26 37 f 27a 1 1e 43e 1 1 1 1 1 1 50 20 1 1 1 1 194 1 1 1 1 1 1 1 1
1 1 40 1 21 425 1 1 1 19 12 1 1 1 1ac 1 1 1 1 3 1 1 1 2 cd21 d7 1d 1 1 1 1 1 1 1 3 11 1 1 aa
32 1f 3 2"

def closePunctuationSet : CharSet := .read
  "29 33 1f ebd 1 75e 9a9 37 f 27a 1 1e 43e 1 1 1 1 1 1 50 20 1 1 1 1 194 1 1 1 1 1 1 1 1 1 1
40 1 21 425 1 1 1 2c 1 1 1 1ac 1 1 1 1 3 1 1 1 2:1 cd1e d9 1d 1 1 1 1 1 1 1 3 11 1 1 aa 33
1f 2 2"

def initialPunctuationSet : CharSet := .read
  "ab 1f6c 2:1 2 19 dc8 1 4 2 f 3"

def finalPunctuationSet : CharSet := .read
  "bb 1f5d 3 1c dc8 1 4 2 f 3"

def otherPunctuationSet : CharSet := .read
  "21:2 1:2 2 1 1:1 a:1 3:1 1b 44 5 e:1 7 2be 8 1d2:5 29 36 2 2 2c:1 14:1 1:1 d 1:2 4a:3 66
2b:d e9:2 36:e 1f 105:1 a 8c 78 79 186 c 16f 5a a:1 a8:e 1 70 4a:4 4:1 6f:5 ab 264:8 305
7c:2 47:1 9d:2 1:2 25:5 1:3 139:1 d8:1 80:6 1:5 a0:1 a:6 1c:2 7c:3 3b:4 3e:1 40:7 b 342:1
8:7 8:8 2:3 2:2 3:a 1 1:9 c9a:3 1:1 70 8f:1 4:2 2 2:8 1:1 1 2:1 a:4 1:9 2:3 1 1:c 2:2 1ac:2
39 bd 7402:1 10d:2 63 a 73:5 17c:3 56:1 28:2 1 31:1 2f 61:c 10:1 7c:3 7e:1 10:1 f9 5224:6 2
16 14:1 2:3 3:2 1:3 7:2 6 1:1 95:2 1:2 2 1 1:1 a:1 3:1 1b 24 2:1 19a:2 29c 30 19e 2e7 c7 1f
110:8 26 70:6 42:6 59:3 3b8:4 2c:3 bd:6 6d:1 1:3 7e:3 30:1 4f:3 4 d 1:2 58:5 6b 12a:1 1:1
72:4 a:1 1 68 fa:16 69:2 1c:c 4c 82:2 fc 108:2 9b 5c:7 53:2 1:4 5d:9 d7 5f:4 2a:1 285:1 4a:c
af 470:4 b7c:1 3a7b:1 85 41:4 8 228:2 127:3 147 4cbc 1de7:4 b73 35e:1"

def mathSymbolSet : CharSet := .read
  "2b 10:2 3d 1 2d 4 25 1f 2fe 20f:2 1a3b d 27:2 d:2 8b 27:4 6 44:4 5:1 4 2 2 7 1f:1 2 1 1f:10b
20:1 5a 1e:18 28:5 1d5 9 36:7 6f 150:4 2:1e a:f 100:82 16:3e 4:1f 2:101 30:14 2:5 cfdc 338
1:2 a4 10:2 3d 1 83 6:3 da1:1 c931 19 1f 19 1f 19 1f 19 1f 19 172c:1"

def currencySymbolSet : CharSet := .read
  "24 7d:3 4e9 7b 1f2:1 1f2:1 7 f5 107 245 99b 8c4:20 8777 55c3 6c 9a db:1 3:1 1ff6:3 c31e 9b0"

def modifierSymbolSet : CharSet := .read
  "5e 1 47 6 4 3 209:3 c:d 5:6 1 1:10 75 e:1 502 1734 1:2 b:2 d:2 d:2 d:1 109c:1 7663:16 9:1
67:1 3d0 e:1 5046:10 37b 1 a2 f417:4"

def otherSymbolSet : CharSet := .read
  "a6 2 4 1 3d1 10a:1 7f:1 ce a 13:1 f7 203 175 82:5 1 84 cf 29 187:2 f 1:2 2:5 14 1 1 85:7 1:5
1:1 5:3 c5:1 2f0:9 2d3 2d2 9d:21 161:9 9:8 583:1 1:3 1:1 a 1:1 6:5 1 1 1 4 b:1 e 1:1 1 3a:1
9:4 2:3 1:1 1:1 1:6 1:1e 2:1 1 1:1e 10c:7 4:13 2:6 2:50 1:1d 19:27 6:47 16:a 51:4d 16:b6 1:8
1:35 8:6e 1:f7 2c:2b 40:ff 200:2f 15:1 6:26 2:1f 1:68 e5:5 165:1 2e:19 1:58 c:d5 1a:f 4 d:1
c 15:1 6:1 150:1 4:9 20:25 9 10:1e b:1d 8 f:1f a:26 f:13f 19c0:3f 5690:36 361:3 a:1 1 23d:2
52c6:f 7f 2d:2 1e4 3 4:1 d:1 139:8 39:10 2:2 1:c 3 2f:2c 67a:1 24f c76 895:7 4:10 4b4a:3 5
5156 f63:ef 10:1b3 9c:73 3c:f5 a:26 2:3b 5:2 16:1 7:1d 4:3c 15:41 3 ba:56 4a9:1ff 37:3 32:7
1:d 1:1 6c8 b5c 81 2d1:2b 4:63 c:e 2:e 1:e 1:24 17:a0 38:1c d:2b 4:8 7:1 e:5 9a:fa 5:2d7
4:10 3:c 3:76 4:5e 6:b 4 f:b 4:37 8:9 6:27 8:1d 2:b 4:1 3e:153 c:d 2:c 3:9 5:37 7:e 2:a 6:8
7:92 1:5b"

def spaceSeparatorSet : CharSet := .read
  "20 7f 15df 97f:a 24 2f fa0"

def lineSeparatorSet : CharSet := .read
  "2028"

def paragraphSeparatorSet : CharSet := .read
  "2029"

def controlSet : CharSet := .read
  "0:1f 5f:20"

def formatSet : CharSet := .read
  "ad 552:5 16 c0 31 180:1 50 f2b 7fc:4 1a:4 31:4 1:9 de8f f9:2 10c1 f 2362:f 8860:3 14cf:7
c2e86 1e:5f"

def privateUseSet : CharSet := .read
  "e000:18ff e0700:fffd 2:fffd"

def unassignedSet : CharSet := .read
  "378:1 6:3 7 1 14 18d 26:1 32:1 3 37:7 1b:3 6:a 10e 3c:1 65:d 3b:1 31:1 f 1c:1 1 b:4 1f 2:4
ed 8:1 2:1 16 7 1:2 4:1 9:1 2:1 4:7 1:3 2 5:1 19:1 3 6:3 2:1 16 7 2 2 2:1 1 5:3 2:1 3:2 1:6
4 1:6 11:9 3 9 3 16 7 2 5:1 a 3 3:1 1:e 4:1 c:6 7 3 8:1 2:1 16 7 2 5:1 9:1 2:1 3:6 3:3 2 5:1
12:9 2 6:2 3 4:2 2 1 2:2 2:2 3:2 c:3 5:2 3 4:1 1:5 1:d 15:4 d 3 17 10:1 9 3 4:6 2 3:1 1:1
4:1 a:6 16 3 17 a 5:1 9 3 4:6 2:5 2 4:1 a 3:b d 3 33 3 6:3 10:1 1a 3 12:2 18 9 1:1 7:2 1:3 6
1 8:5 a:1 3:b 3a:3 1d:24 2 1 5 18 1 17:1 5 1 7 a:1 4:1f 48 24:3 27 24 f d:24 c6 1:4 1:1 179
4:1 7 1 4:1 29 4:1 21 4:1 7 1 4:1 f 39 4:1 43:1 20:2 1a:5 56:1 6:1 29d:2 59:6 16:8 18:8 14:b
d 3 2:b 5e:1 a:5 a:5 1a:5 59:6 2b:4 46:9 1f c:3 c:3 1:2 2a:1 5:a 2c:3 1a:5 b:2 3e:1 41 1d:1
b:5 a:5 e:1 1f:30 4d a6:7 3c:2 f:2 3e:4 2b:1 b:7 2b:4 216:1 6:1 26:1 6:1 8 1 1 1 1f:1 35 f
e:1 6 13:1 3 9 65 c:1 1b d:2 21:e 21:e 8c:3 29a:15 b:14 714:1 20 15d:4 2d 1:4 1:1 38:6 2:d
18:8 7 7 7 7 7 7 7 7 7e:21 1a 59:b d6:19 50 56:1 67:4 2b 5e 56:8 30 726d:2 37:8 15c:13 b8:7
ce:1 2 1 8:14 3b:2 a:5 38:7 46:7 c:5 74:a 1e:2 4e b:3 21 37:8 e:1 a:1 67:17 1c:9 6:1 6:1 6:8
7 7 3c:3 7e:1 a:5 2ba4:b 17:3 31:3 226e:1 6a:25 7:b 5:4 1a 5 1 2 2 7d:f 1bd:1 36:6 1:1f 2a:5
33 13 4:3 5 87:1 1 be:2 6:1 6:1 6:1 3:2 7 7:9 5:1 c 1a 13 2 f:1 e:21 7b:4 3:3 2d:2 58 d:2
1:2e 2e:81 1d:2 31:e 1c:3 24:8 1e:4 2b:4 1e 25:3 e:29 9e:1 a:5 24:3 24:3 28:7 34:a c f 7 2 b
f 7 2:2 34:b 137:8 16:9 8:17 6 2a 9:44 6:1 1 2c 2:2 1:1 17 48:7 9:2f 13 2:4 21:2 1b:4 1:3f
38:3 14:1 32 2:4 8 3 1d:1 3:3 a:6 9:6 40:1f 27:3 c:8 36:2 1d:1 1b:4 1a:6 4:b 7:4f 49:36 33:c
33:6 2e:7 a:5 26:2 1d:7 2:cf 1f 2a 3:1 2:f 3:36 2c:7 2a:15 1a:25 1c:13 17:8 4e:3 24:8 44:9
1:1 19:6 a:5 35 12:7 27:8 60 14:a 12 2f:3d 7 1 4 f b:5 3b:4 a:5 4 8:1 2:1 16 7 2 5 a:1 2:1
3:1 1:5 1:4 7:1 7:2 5:a a 1:1 1 26 a 1:1 1 4 a 2:7 2:1c 5c 5:1d 48:7 a:a5 36:1 26:21 45:a
a:5 d:12 3a:5 a:5 14:1b 1b:1 f:3 17:b8 3c:63 53:b 8:1 1:1 8 2 1e 2:1 c:8 a:45 8:1 2e:1 b:1a
48:7 53:c 49:6 a:b5 22:d a:5 9 2d e:9 1d:2 20:1 16 e:48 7 2 2c:2 1 2 9:7 a:5 6 2 25 2 6:6
a:135 19:6 11 29:2 1d:54 1:e 32:c 39b:65 6f 5:a c4:a4b 63:c 456:9 f9b:4 247:1ab8 3a:6c5
239:6 1f a:3 51 a:5 1e:1 6:9 46:9 a 7 15:4 13:1af 3a:c5 5b:64 4b:3 39:6 11:3f 5:a 2:d 17f8:7
4d6:28 a:22e6 4 7 2 123:e 1:1c 3:1 1:d 4:7 18c:903 6b:4 d:2 9:6 a:1 8:f5b fa:5 1b4:4b 2e:1
17:8 74:3b f6:9 27:1 c2:14 46:79 14:b 14:b 57:8 19:86 55 47 2:1 1:1 2:1 4 c 1 7 41 4:1 8 7
1c 4 5 1:2 7 154:1 124:1 2be:e 5 f:44f 1f:5 6:d4 7 11:1 7 2 5:4 3e:20 1:6f 2d:2 e:1 a:3
2:13f 1f:10 3a:4 1:1cf 2a:d5 2b:3 1:1df 7 4 2 f c5:1 10:28 4c:3 a:3 2:310 44:4b 3d:c1 4 1b 2
1:1 1 a 4 1 1:5 1:3 1 1 1 3 2 1:1 1 1 1 1 1 2 1:1 4 7 4 4 1 a 11:4 3 5 11:33 2:10d 2c:3 64:b
f:1 f f 25:9 ae:37 1d:c 2c:3 9:6 2:d 6:99 3d8:3 11:2 d:2 77:3 5f:5 c:3 1:e c:3 38:7 a:5 28:7
1e:1 c:3 2:3d 154:b e:1 d:2 a:4 38:6 f:1 b:5 9:6 93 66:405 a6e0:1f 103a:5 de:1 1682:d 1d31:e
26e:9a1 21e:5e1 134b:4 1060:adc50 1:1d 60:7f f0:fe0f fffe:1 fffe:1"

def set : Category → CharSet
  | .uppercaseLetter => uppercaseLetterSet
  | .lowercaseLetter => lowercaseLetterSet
  | .titlecaseLetter => titlecaseLetterSet
  | .modifierLetter => modifierLetterSet
  | .otherLetter => otherLetterSet
  | .nonspacingMark => nonspacingMarkSet
  | .spacingMark => spacingMarkSet
  | .enclosingMark => enclosingMarkSet
  | .decimalNumber => decimalNumberSet
  | .letterNumber => letterNumberSet
  | .otherNumber => otherNumberSet
  | .connectorPunctuation => connectorPunctuationSet
  | .dashPunctuation => dashPunctuationSet
  | .openPunctuation => openPunctuationSet
  | .closePunctuation => closePunctuationSet
  | .initialPunctuation => initialPunctuationSet
  | .finalPunctuation => finalPunctuationSet
  | .otherPunctuation => otherPunctuationSet
  | .mathSymbol => mathSymbolSet
  | .currencySymbol => currencySymbolSet
  | .modifierSymbol => modifierSymbolSet
  | .otherSymbol => otherSymbolSet
  | .spaceSeparator => spaceSeparatorSet
  | .lineSeparator => lineSeparatorSet
  | .paragraphSeparator => paragraphSeparatorSet
  | .control => controlSet
  | .format => formatSet
  | .privateUse => privateUseSet
  | .unassigned => unassignedSet

def letter : List Category :=
  [uppercaseLetter, lowercaseLetter, titlecaseLetter, modifierLetter, otherLetter]

def casedLetter : List Category := [uppercaseLetter, lowercaseLetter, titlecaseLetter]

def mark : List Category := [nonspacingMark, spacingMark, enclosingMark]

def number : List Category := [decimalNumber, letterNumber, otherNumber]

def punctuation : List Category :=
  [connectorPunctuation, dashPunctuation, openPunctuation, closePunctuation, initialPunctuation,
    finalPunctuation, otherPunctuation]

def symbol : List Category := [mathSymbol, currencySymbol, modifierSymbol, otherSymbol]

def separator : List Category := [spaceSeparator, lineSeparator, paragraphSeparator]

def other : List Category := [control, format, privateUse, unassigned]

def names : List (List String × List Category) :=
  [(["lu", "uppercaseletter"], [uppercaseLetter]),
    (["ll", "lowercaseletter"], [lowercaseLetter]),
    (["lt", "titlecaseletter"], [titlecaseLetter]),
    (["lm", "modifierletter"], [modifierLetter]),
    (["lo", "otherletter"], [otherLetter]),
    (["mn", "nonspacingmark"], [nonspacingMark]),
    (["mc", "spacingmark"], [spacingMark]),
    (["enclosingmark", "me"], [enclosingMark]),
    (["decimalnumber", "digit", "nd"], [decimalNumber]),
    (["letternumber", "nl"], [letterNumber]),
    (["no", "othernumber"], [otherNumber]),
    (["connectorpunctuation", "pc"], [connectorPunctuation]),
    (["dashpunctuation", "pd"], [dashPunctuation]),
    (["openpunctuation", "ps"], [openPunctuation]),
    (["closepunctuation", "pe"], [closePunctuation]),
    (["initialpunctuation", "pi"], [initialPunctuation]),
    (["finalpunctuation", "pf"], [finalPunctuation]),
    (["otherpunctuation", "po"], [otherPunctuation]),
    (["mathsymbol", "sm"], [mathSymbol]),
    (["currencysymbol", "sc"], [currencySymbol]),
    (["modifiersymbol", "sk"], [modifierSymbol]),
    (["othersymbol", "so"], [otherSymbol]),
    (["spaceseparator", "zs"], [spaceSeparator]),
    (["lineseparator", "zl"], [lineSeparator]),
    (["paragraphseparator", "zp"], [paragraphSeparator]),
    (["cc", "cntrl", "control"], [control]),
    (["cf", "format"], [format]),
    (["co", "privateuse"], [privateUse]),
    (["cn", "unassigned"], [unassigned]),
    (["l", "letter"], letter),
    (["casedletter", "lc"], casedLetter),
    (["combiningmark", "m", "mark"], mark),
    (["n", "number"], number),
    (["p", "punct", "punctuation"], punctuation),
    (["s", "symbol"], symbol),
    (["separator", "z"], separator),
    (["c", "other"], other)]

def named? (name : String) : Option (List Category) :=
  (names.find? fun entry => entry.1.contains name).map Prod.snd

def union (categories : List Category) : CharSet := .unions (categories.map set)

end Category

def isDecimalDigit (c : Char) : Bool := Category.decimalNumberSet.contains c

/-! Characters that version 17 of the standard adds to those of version 16. The other tables are of version 16, by which
patterns are read and matched. -/

namespace Additions

def assigned : CharSet := .read
  "88f 3cc 7f df2:e 2:b 5d5 ad4 7c37:1 2 1 1c 53d1:f 1bd:1 36:6 b71:19 56b:2 8:8 21:1 c64:7
248:2b 4:9 50b6:18 2:18 11e:4 1801:7 509:15 61:72 3f07:2 1bd:16 f:10 17cf:1e 1:15 8:1 fd8
9e:3 155:8 17b:3 32 3 39 4 1c 4 10a bb3f:5 1762:b 5502:10c9"

def alphabetic : CharSet := .read
  "88f 3cc 7f 9af1:1 2 1 1c 614e:19 56b:2 32:1 c64:7 248:2b 50c4:18 2:18 11e:4 1801:7 509:15
61:72 58cd:1e 1:15 8:1 d03a:5 1762:b 5502:10c9"

def number : CharSet := .read
  "11de0:9 520a:2"

def extending : CharSet := .read
  "1acf:e 2:b f40e:1 c64 1:2 1 cb7c 2 7:1 5"

end Additions

end DiscountTables.Unicode
