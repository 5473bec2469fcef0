import CatalogGraph.Unicode.CodeTable

/-!
# Characters in domain names

The classes that decide which characters a label of a domain may hold, whether it may mix directions
and where it may hold a joiner.
-/

namespace CatalogGraph.Unicode

/-- The direction class of each code point that is not a plain left-to-right one. -/
def directionRows : List (String × String) := [
  ("R",
    "590 2d 1 2 2 1+37 1c0+2a 9+1 4+2 1+17 4 9 3 5+2a 3+3 17af db0d 1+9 1+25 cb0+11e 1+e0 3 2+4 4+27
3+3 1+a4 2+51 7+1bf 40+11f 1f+2b 2+12 40+2f 40+11 4+79 d800+cf 7+6c 7+324 50+3f 50+af 100+ff"),
  ("AL",
    "608 2 1 d+2f 22+2 1+64 f+1 7+1 a+16 1+1d 1b+5a b+e a0+2f 2+5 8+29 f286+1ed 12+7e 21+c 73+8e
e01+23 4+7 a+5 180+3c 33+15 b+1e dd00+4f 40+4f b0+ef 2+d"),
  ("AN",
    "600+5 5a+9 1+1 70 1b2+1 50 1044d+9 126+1e"),
  ("EN",
    "30+9 78+1 5 636+9 1976 3+5 6+9 3fe+13 da74+9 3c7+1a d4d2+31 1900+a ae5+9"),
  ("ES",
    "2b 1 204c+1 e+1 186 d916 338+1 a7 1"),
  ("CS",
    "2c 1+1 a 65 56b 1a22 14 de0b 1 2 b6 1+1 a"),
  ("ET",
    "23+2 7c+3 a+1 4dd 79+1 5f 387+1 7 f5 107 245 99b 854+4 6b+2f 5e e4 8624+1 5625 9+1 98+2 da+1
3+1 1ff6+3 c31e"),
  ("ON",
    "21+1 3+4 10+5 1a+5 1a+3 22 4+3 1+1 1+1 4 1+2 2+4 17 1f 1c1+1 7+d 2+d 5+8 1+10 74+1 8 5+1 1 6e
193 2+1 77+1 6+1 ce a 10c+3 3f9+5 1 7d+6 2bb+3 452+9 66 29a+1 153+9 6+a 135 3+1 98+21 5bd 1+2
b+2 d+2 d+2 d+1 11+17 d+e 1+19 1d+2 d+2 71+1 1+3 1+1 a 1+2 5+5 1 1 1 10+1 4+4 5+3 2+f 29+2 4+81
2+121 45+19 1+90 19+a 15+27 62+1c1 1+152 100+273 2+1f 1+68 e5+5 e+6 100+5d 22+19 1+58 c+d5 1a+b
5+3 3+18 f 5+1 5+2 5b+1 3 5a c4+23 39+1 31+f 1c+2 32+e c+3 a7+3 63+1 1f 19c0+3f 5690+36 146+2 63
a+1 80+21 66 9f+3 48+3 2f2+1 51d2+11 7f 2d+2 10+9 16+1f 1 2 1+8 1+1 2+2 1 2 95+1 3+4 10+5 1a+5
1a+a 7c+2 3+6 a+4 103 3e+4c 3+c 3 77e 219+6 512+13 5fa+c 968+7 4+10 4ff0 6206+1 15+41 3 ba+56
384 39 39 39 39 172c+1 10e+2b 4+63 c+e 2+e 1+e 1+24 15+4 1f 3a+5 3d b2+5 9a+3d7 4+10 3+c 3+76
4+5e 6+b 4 f+b 4+37 8+9 6+27 8+1d 2+1 4e+153 c+d 2+c 3+8 7+2d 1+6 8+d 4+8 7+8 7+92 1+36"),
  ("BN",
    "0+8 5+d 63+5 1+19 d 1760 7fc+2 52+5 4+5 dd60+1f 10f f0+8 5+1 bca0+3 14cf+7 2e83+1 fffe+1 fffe+1
fffe+1 fffe+1 fffe+1 fffe+1 fffe+1 fffe+1 fffe+1 fffe+1 fffe+1 fffe+101 f0+e0f effe+1 fffe+1
fffe+1"),
  ("NSM",
    "300+6f 113+6 107+2c 1 1+1 1+1 1 48+a 30+14 10 65+6 2+5 2+1 1+3 23 1e+1a 5b+a 3a+8 9 18+3 1+8
1+2 1+4 2b+2 3c+7 2a+17 1+1f 37 1 4+7 4 3+6 a+1 1d 3a 4+3 8 14+1 1a 2+1 39 4+1 4+1 2+2 3 1e+1 3
b+1 39 4+4 1+1 4 14+1 16+5 1 3a 2 1+3 8 7+1 b+1 1e 3d c 32 3 37 1+2 5+2 1+3 7+1 b+1 1d 3a f+1
14+1 1c+1 39+1 4+3 8 14+1 1d 48 7+2 1 5a 2+6 c+7 62 2+8 b+6 49+1 1b 1 1 37+d 1+4 1+1 5+a 1+23 9
66+3 1+5 1+1 2+1 19+1 4+2 10+3 d 2+1 6 f 2bf+2 3b2+2 1d+1 1e+1 1e+1 40+1 1+6 8 2+a 9 2d+2 1 75+1
22 76+2 4+1 9 6+2 db+1 2 3a 1+6 1 1 2+7 6+9 2 30+1e 31+3 30 1+4 1 5 28+8 c+1 20+3 2+1 1+2 38 1+1
3 1+2 3a+7 2+1 98+2 1+c 1+6 4 6 3+1 c6+3f 2d0+20 bfe+2 8d 60+1f 22a+3 6b+1 75d4+3 1+9 20+1 50+1
110 3 4 19+1 5 97+1 1a+11 d 26+7 19+a 2e+2 30 2+3 2+1 27 43+5 2+1 2+1 c 8 2f 33 1+2 2+1 5+1 1
2a+1 8 ee 2 4 4f30 2e1+f 10+f 3cd e2 95+4 686+2 1+1 5+3 28+2 4 a5+1 23d+3 183+1 50+2 46+a 31+3
7b 36+e 29 2+1 a+2 31+3 2+1 7 3d+2 24+4 1+7 3e c+1 34+8 a+3 2 5f+2 2 1+1 6 2 9d 3+7 15+1 39+1 3
25+6 3+4 c3+7 2+2 1 17 54+5 1 4+1 1+1 ee+3 6+1 1+1 1b+1 55+7 2 1+1 6a 1 2+5 1 65+2 2+3 1+4 103+8
1+1 100+1 1 4 90+3 2+1 4 20+5 2+1 28+5 2+3 8 9+5 2+2 2e+c 1+1 196+6 1+5 54+15 2+6 1+1 1+1 7a+5 3
1+1 1+6 1 48+1 3 1 15b+1 b+1 34+4 5 1 14fd 6+e 369a+4 3b+6 418 3f+3 51 4cb8+1 1261+2d 2+16 220+2
11+7 2+6 1e+3 94+2 7bb+36 4+31 8 e 16+4 1+e 550+6 1+10 2+6 1+1 1+4 64 a0+6 177 3d+3 1fc+3 3e0+6
6d+6 c17b5+ef")
]

/-- The joining types: dual, to the right, to the left and transparent. -/
def joiningRows : List (String × String) := [
  ("D",
    "620 5 1 1+4 4+c 1+6 1+1 23+1 8+f 12+25 1+1 9 1 1+1 28+2 2 12+2 5+3 1+8 1 1 1+1 1f+a 3+e 2+3 1
2+2 2+5 4a+20 56+4 2 1+9 1 a 1+3 2 1d 2+4 12+9 5+1 2+5 1+e f3e 18+58 e+21 1 8f95+31 624e+4 e+3
1+4 1+2 a+3 91 1 3+2 1+1 1 2 1c+1 152+20 1 20c+2 1+10 c+2 1c+3 2+b 2e 1+1 4 2+1 1+1 1 2 5
d935+43"),
  ("R",
    "622+3 1 1 5+3 15 28+2 1+2 10+11 26 2+8 1 1 2+1 1 18+1 20 4+4 4 9 1 1 2 1d b+2 f+1 4 1+1 3+1 c6
5+1 1 a 1+2 e 1+1 5+12 b 1b+2 1 2+1 6 1020b 1 1+1 3+4 a 3 2 a 91 1+2 3 2 1+1 1 17+3 175 210 20
1f+1 3e+2 2+1 2 4+1 5"),
  ("L",
    "a872 625a 9 228 2ca"),
  ("T",
    "ad 252+6f 113+6 107+2c 1 1+1 1+1 1 48+a 1 2e+14 10 65+6 2+5 2+1 1+3 21 1 1e+1a 5b+a 3a+8 9 18+3
1+8 1+2 1+4 2b+2 3c+7 2a+17 1+1f 37 1 4+7 4 3+6 a+1 1d 3a 4+3 8 14+1 1a 2+1 39 4+1 4+1 2+2 3
1e+1 3 b+1 39 4+4 1+1 4 14+1 16+5 1 3a 2 1+3 8 7+1 b+1 1e 3d c 32 3 37 1+2 5+2 1+3 7+1 b+1 1d 3a
2 6 5+1 14+1 1c+1 39+1 4+3 8 14+1 1d 48 7+2 1 5a 2+6 c+7 62 2+8 b+6 49+1 1b 1 1 37+d 1+4 1+1 5+a
1+23 9 66+3 1+5 1+1 2+1 19+1 4+2 10+3 d 2+1 6 f 2bf+2 3b2+2 1d+1 1e+1 1e+1 40+1 1+6 8 2+a 9 2d+2
1 75+1 22 76+2 4+1 9 6+2 db+1 2 3a 1+6 1 1 2+7 6+9 2 30+1e 31+3 30 1+4 1 5 28+8 c+1 20+3 2+1 1+2
38 1+1 3 1+2 3a+7 2+1 98+2 1+c 1+6 4 6 3+1 c6+3f 20b 2+1 1a+4 31+4 5+5 60+20 bfe+2 8d 60+1f
22a+3 6b+1 75d4+3 1+9 20+1 50+1 110 3 4 19+1 5 97+1 1a+11 d 26+7 19+a 2e+2 30 2+3 2+1 27 43+5
2+1 2+1 c 8 2f 33 1+2 2+1 5+1 1 2a+1 8 ee 2 4 4f30 2e1+f 10+f cf f9+2 201 e2 95+4 686+2 1+1 5+3
28+2 4 a5+1 23d+3 183+1 50+2 46+a 31+3 7b 36+e 29 2+1 a+2 31+3 2+1 7 3d+2 24+4 1+7 3e c+1 34+8
a+3 2 5f+2 2 1+1 6 2 9d 3+7 15+1 39+1 3 25+6 3+4 c3+7 2+2 1 17 54+5 1 4+1 1+1 ee+3 6+1 1+1 1b+1
55+7 2 1+1 6a 1 2+5 1 65+2 2+3 1+4 103+8 1+1 100+1 1 4 90+3 2+1 4 20+9 28+5 2+3 8 9+5 2+2 2e+c
1+1 196+6 1+5 1 52+15 2+6 1+1 1+1 7a+5 3 1+1 1+6 1 48+1 3 1 15b+1 b+1 34+4 5 1 14ed+10 6+e
369a+4 3b+6 418 3f+3 51 4cb8+1 1+3 125c+2d 2+16 220+2 9+f 2+6 1e+3 94+2 7bb+36 4+31 8 e 16+4 1+e
550+6 1+10 2+6 1+1 1+4 64 a0+6 177 3d+3 1fc+3 3e0+6 6d+7 c16b5 1e+5f 80+ef")
]

/-- The signs that silence the vowel of the letter before them. -/
def viramaRows : List (String × String) := [
  ("virama",
    "94d 7f 7f 7f 7f 7f 7f 7f 6d+1 10 7c 6f 7f c9 b4+1 6d9+1 1e 9d 28d e3 65+1 46+1 118b 7a86 25 97
8e 6c 135 f6 5e51 606 29 e 39 79+1 8b 74 b4 62 f4 7f fc 7f 76 74 10d 103+1 a1 53 12 51 1a5 104+1
51 1a9+1")
]

/-- The characters that no name may hold in any form, and those that a written name may hold but whose
common form is another character. -/
def namingRows : List (String × String) := [
  ("refused",
    "61c 19f1+1 14+2 3+4 36+4 41e+13 f26 4 10 ca39 6 16 21 19d+8 f107 c0eff+ff f0+e0f"),
  ("altered",
    "a8 1 4 2+3 2+2 1+2 74 c 8 35 46 2 2 26 bc+8 1f+5 2+4 5b+1 1+2 2e 5 3 5+1 1 48+1 3+1 19+2 2 191
ed+3 2df+7 7c+1 1 53 2 22+2 2 fd+1 2d5 7f 28+1 2e 36 9 4 4 4 c 9 1+4 7 11 9 4 4 4 c 142 2fb+5
882+8 ba+a 1+1b d 22+24 da+1 d5 1 1 1 1 1 1 2+7 8+7 8+7 a+2 2 5+7 2 5+2 3 9+2 3 9+2 2+2 2 5+1
12 5 1b+1 1+1 4 1 8+2 d 18+1 2+1a 1+c 63+1 3+1 3 3+1 3 1b 4+5 2+1 2 5+3 6+f 10+f 9 a2+1 1+1
f8+1 135+27 14+19 1a+1a 521 67+2 65 19f f2 12f 53 c+d5 60 1+2 60+1 2 5f 31+32 1+29 3+d 60+1e
1+27 9+2d 1+4b 1 2+a0 1 1 1+3 1+4 8+1 3+2 5+13 4+6 10+1 4 1 2+7 4 4+1f 729c+1 d2 88 362+3 9
6+4f 4d40+10d 2 1 2+9 1 1 2+1 3+43 2+69 26+6 c+4 5 1+17 1+4 1 1+1 1+1 1+6b 21+16a 12+3f 2+35
28+c 13+1 1+5 18+13 2+a 2+12 1+3 4+2 1 1+86 4+1f 1a+64 1+1d 3+5 2+5 2+5 2+2 3+6 1+6 792+4 1+29
1+8 c9a3+6 56+5 259+19 1a+6 1+11 1a+19 1a+3 1 1+6 1+a 1a+19 1a+19 1a+19 1a+19 1a+19 1a+19
1a+19 1a+19 1a+1b 1b+20 19+20 19+20 19+20 19+20 1 2+31 830+3d d92+3 1+1a 1+1 1 2 1+9 1+3 1 1 6
4 1 1 1+2 1+1 1 2 1 1 1 1 1+1 1 2+3 1+6 1+3 1+3 1 1+9 1+10 5+2 1+4 1+10 245+9 f5+2 d+2b 4+8
7+1 99e+9 fc06+21d")
]

end CatalogGraph.Unicode
