/-!
# Binary properties: data

A binary property is given by some general categories and by the ranges of code points where it differs from them. The
ranges are packed in base 36: the distance from the range before, and the length.
-/

namespace WikiGateway.Unicode.PropertyData

/-- A binary property as it is kept. -/
structure Entry where
  /-- Its names in small letters without separators. -/
  names : String
  /-- The numbers of the categories that mostly have it. -/
  categories : List Nat
  /-- The ranges where it differs from the categories. -/
  exceptions : String

/-- Every property. -/
def entries : List Entry := [
  ⟨"alpha alphabetic", [0, 1, 2, 3, 4, 6, 9],
    "n9 1 t d g0 e 1 1 1 2 1 2 1 1 20 b 1c d 1 7 g 1 2t 7 4 4 2 2 4 1 z 1 u g 2u b 2t 2 3 9 1 3 1 4 2y 1 1o c 3 7
    6 j 1j 1 6 8 c 3 a 2 t 1 1r 4 t 2 t 2 1q 2 4 2 2 2 4 1 u 2 3 1 b 2 1q 5 1 2 p 2 m 3 4 1 1p 1 1 4 h 1 b 2 u 1
    1p 1 1r 1 3 1 1l 3 5 3 1 3 8 2 b 2 t 1 1p 1 6 1 5 1 l 2 s 2 1r 4 t 2 t 1 28 3 1 1 2i 1 2 7 i 1 2r 1 2 6 1 2
    g 1 34 2 1d e 1 4 9 b 1 10 34 4 1 5 6 2 p 2 4 3 g 4 d 1 2 2 6 1 f 1 19w 2 1 1 s 3 t 2 u 2 1v 7 8 1 5a 2 y 1
    3a 3 4 2 9 1 6c 2 2 1 1m 1 1 7 3 1 2 8 6 2 22 2 b 3 1d 4 1e 5 1 1 5 1 1 1 1n 2 w 4 2 3 1 2 1m 2 3 1 1 5 1k 8
    2 1 4q 1 l 1 63 y 1c1 1g 1rq w fi 2 nd0 8 y 2 9u 1 8 1 p 2 4e 1 1l 1 12 5 s b 1 1 18 3 1f 4 2 2 2 1 10 1 1v
    6 2 2 2 2 c 1 8 1 1b 1 1f 1 1 3 2 2 5 1 19 2 6v 1 2 1 3 1 fn5 1 1nb 5 1ae 3 1 2 5 4 lw 4 1t 1 8x 2 25 3 78 1
    1i e 19 2 b 2 1d 4 b 1 1p 3 10 5 1 6 25 2 1g 9 1 1 e 1 2n 3 2 2 1 1 6 1 2 1 4d 1 3 6 n 2 1q 1 c 1 31 6 e 1
    2w 8 3 2 32 6 1 1 4 2 6p 4 6 2 u 2 2d 8 2 1 2 1 2y 1 1 1 2 7 2u 1 1 1 2 4 1 4 78 9 77 3 46 4 2 2 11 a 16 4 2
    4 i 6 2 3 1a d 5l 1 1 3 1 1 5l 7 1 6 2c m 2 7 1 2 1 2 3e 6 3 1 1 2 1 3 1 1 3 1 20 2 3 1 9p 2 b 2 1g 5 5 2
    d0c c 3 2 2sg 1 1r 4 f7v 1 43q 2 6 6 2vh 7 1 h 2 7 1 2 1 5 2s 1 18z 1 2 1 7 2 5 1 gh 1 1k8 q 6 q 6 q"⟩,
  ⟨"upper uppercase", [0],
    "6lc g na q 2ixs q 6 q 6 q"⟩,
  ⟨"lower lowercase", [1, 3],
    "4q 1 f 1 e6 7 6 c q 1 1 1 2e 1 1a 1 dg 1 6e 1 4k 2 7h 2 4 1 v 1 9 1 3 1 4g 1 4n 1 yc 1 3j 1 1sg 1 2z 1 gz 1
    cw 6 z6 g nk q 1ol 1 5b 1 d1 1 17 5 5 1 2p 2 2l 3 lxy 1 yq 6 7i 1 36 1 47 9 2w 1 g6 1 m 1 3t 1 30 1 l 2 gor
    1 19 2 1k1 2 157 1 w 1 9h 1 2z7 1 fae 4 e4 3 14 2 fa d 1s 2 1 1 e 2 cn0 4 1 7 1 2 9q0 7 q5 1 er 1 gb 1"⟩,
  ⟨"space wspace whitespace", [22, 23, 24],
    "9 5 3b 1"⟩,
  ⟨"ahex asciihexdigit", [],
    "1c a 7 6 q 6"⟩,
  ⟨"hex hexdigit", [],
    "1c a 7 6 q 6 1eax a 7 6 q 6"⟩,
  ⟨"dash", [12],
    "6dv 1 13 1 f 1 au 1"⟩,
  ⟨"emoji", [],
    "z 1 6 1 5 a 33 1 4 1 68d 1 c 1 60 1 m 1 2i 6 f 2 a7 2 c 1 4m 1 p b 4 3 5j 1 6f 2 a 1 9 1 1m 4 1 5 9 1 2 1 2
    2 2 1 4 1 2 1 1 2 2 1 3 1 3 2 8 3 5 1 1 1 5 c b 2 2 1 1 2 1 1 i 1 2 2 i 6 1 1 1 2 3 2 5 1 2 2 4 2 b 2 5 2 2
    1 5 2 1 1 1 2 k 2 5 6 1 4 2 1 4 1 2 1 2 6 1 1 2 1 1 1 1 1 6 1 3 1 6 1 a 2 f 1 2 1 4 1 1 1 4 3 1 1 b 2 1c 3 9
    1 e 1 e 1 ac 2 cv 3 j 2 1f 1 4 1 yi 1 c 1 gp 1 1 1 2fze 1 5m 1 4g 2 c 2 e 1 2 a 23 q 1 2 n 1 k 1 2 9 l 2 4u
    y 2 34 2 2 1 3 2 2b 2 3 1 7b 1 1r b 6 1 o 7 2 2 8 c 1 2 4 2 1 4 2 d 2 2 1 8 2 9 1 5 3 c 3 8 3 2 1 1 1 4 1 6
    1 3 1 6 2e 1c 1y 5 8 2 4 3 a 3 1 1 2 3 1 2 a 6b c 4 1 7v 1b 1 a 1 55 34 d 3 b 3 1l 1 1 4 g 2 c 4 a"⟩,
  ⟨"epres emojipresentation", [],
    "6xm 2 5p 4 3 1 2 1 eh 2 l 2 1e c 17 1 j 1 d 1 8 2 h 2 5 2 8 1 5 1 l 1 7 2 1 1 4 1 2 1 7 1 4 2 s 1 z 1 1 1 4
    3 1 1 1p 3 o 1 e 1 nv 2 1f 1 4 1 2hf2 1 5m 1 5a 1 2 a 23 q 1 1 o 1 k 1 2 5 1 3 l 2 4u x c 9 1 1y 1 m c 17 4
    5 c h 3 1 3 1z 1 1 1 57 2 1r d 4 1 o i 1 q 2 d 1 2e 2d 1c 1y 6 1 3 3 2 4 3 4 b 2 7 9 6b c 4 1 7v 1b 1 a 1 55
    34 d 3 b 3 1l 1 1 4 g 2 c 4 a"⟩,
  ⟨"emod emojimodifier", [],
    "2qrf 5"⟩,
  ⟨"ebase emojimodifierbase", [],
    "7j1 1 63 1 g 4 2iyf 1 1o 3 2 1 2 3 39 2 2 b l j 3 1 4 3 1 3 7 1 1 1 o 1 5l 2 4 1 l 1 4 2 4u 3 3 5 2b 1 g 3 9
    1 b 1 fz 1 2 1 8 8 6 1 9 a 2 3 1k 1 1p 2 1 2 1 1 h 3 1 d 6d 3 16 9"⟩,
  ⟨"ecomp emojicomponent", [],
    "z 1 6 1 5 a 6ab 1 5x 1 17or 1 1c5y q e3 5 14g 4 gw30 2o"⟩,
  ⟨"extpict extendedpictographic", [],
    "4p 1 4 1 68d 1 c 1 60 1 m 1 2i 6 f 2 a7 2 c 1 4m 1 p b 4 3 5j 1 6f 2 a 1 9 1 1m 4 1 5 9 1 2 1 2 2 2 1 4 1 2
    1 1 2 2 1 3 1 3 2 8 3 5 1 1 1 5 c b 2 2 1 1 2 1 1 i 1 2 2 i 6 1 1 1 2 3 2 5 1 2 2 4 2 b 2 5 2 2 1 5 2 1 1 1
    2 k 2 5 6 1 4 2 1 4 1 2 1 2 6 1 1 2 1 1 1 1 1 6 1 3 1 6 1 a 2 f 1 2 1 4 1 1 1 4 3 1 1 b 2 1c 3 9 1 e 1 e 1
    ac 2 cv 3 j 2 1f 1 4 1 yi 1 c 1 gp 1 1 1 2fze 1 13 4 2s c f 2 f 1 e 2 11 a 34 2 c 2 e 1 2 a j 1k r f a 1 k 1
    2 9 1 4 9 n 6 58 2 34 2 2 1 3 2 2b 2 3 1 4 5 72 1 1r b 6 1 o 7 2 2 8 c 1 2 4 2 1 4 2 d 2 2 1 8 2 9 1 5 3 c 3
    8 3 2 1 1 1 4 1 6 1 3 1 6 2e 1c 1y 5 8 2 h 3 1 1 6 2 d 62 12 c 4 1k 8 a 6 14 8 u 2 c 4 2 e 9 13 c 1b 1 a 1
    55 2g 8 e 42 74 se"⟩,
  ⟨"ideo ideographic", [],
    "9hi 2 p 9 e 3 qt 534 1s g74 hkw a6 2 2y n4a 1 d 5 9 5p2 15 w 2p 37 70d b0 f7o wyo w 3dq 2 4ge 2 5rl f ha 1wi
    f2 15u 3t7 5 6ju"⟩,
  ⟨"math", [18],
    "2m 1 oh 3 2 1 q 2 2 2 5k0 1 r 3 b 1 w 4 o 2 e 2 1t d 4 1 3 2 4 5 i 1 4 1 2 a 1 1 3 5 6 1 3 2 2 2 1 3 1 6 3 4
    5 5 23 5 2 4 1 2 1 2 1 1 1 5 2 2 4 2 4 i 2 2 1 1 1 7 1 1 6 2 82 4 4o 2 1 1 o 1 h 1 cd 2 c 9 5 5 5 2 2 2 3 5
    e 1 1 1 2 6 o 2 1l 1 1 1 t 4 9 2 9i 2 v a b7 m 1r 4 w 2 15yb 1 1 1 4 1 5v 1 1 1 160x 2d 1 1z 1 2 2 1 2 2 2 4
    1 c 1 1 1 7 1 1t 1 4 2 8 1 7 1 s 1 4 1 5 1 1 3 7 1 9g 2 p 1 p 1 v 1 p 1 v 1 p 1 v 1 p 1 v 1 p 1 8 2 1e 4cg 4
    1 r 1 2 1 1 2 1 1 a 1 4 1 1 1 1 6 1 4 1 1 1 1 1 1 3 1 2 1 1 2 1 1 1 1 1 1 1 1 1 1 2 1 1 2 4 1 7 1 4 1 4 1 1
    1 a 1 h 5 3 1 5 1 h"⟩,
  ⟨"ids idstart", [0, 1, 2, 3, 4, 9],
    "4ud 2 1ox 1 l 1 2kg 1 h7 2"⟩,
  ⟨"idc idcontinue", [0, 1, 2, 3, 4, 5, 6, 8, 9, 11],
    "53 1 jz 1 34x 9 19k 1 181 2 7e 1 l 1 2kg 1 h7 2 2m 1 14rt 1"⟩,
  ⟨"xids xidstart", [0, 1, 2, 3, 4, 9],
    "oq 1 248 1 3j 1 1xt 2 1ox 1 l 1 2kg 1 14q6 6 ba 2 38 1 1 1 1 1 1 1 1 1 1 1 1 1 1 1 7z 2"⟩,
  ⟨"xidc xidcontinue", [0, 1, 2, 3, 4, 5, 6, 8, 9, 11],
    "53 1 jm 1 c 1 34x 9 19k 1 181 2 7e 1 l 1 2kg 1 jv 1 146a 6 ba 2 38 1 1 1 1 1 1 1 1 1 1 1 1 1 1 1 6e 1"⟩,
  ⟨"joinc joincontrol", [],
    "6bw 2"⟩,
  ⟨"cased", [0, 1, 2, 3],
    "4q 1 f 1 e6 7 6 c q 1 1 1 2e 1 1a 1 dg 1 6e 1 4k 2 7h 2 4 1 v 1 9 1 3 1 4g 1 4n 1 yc 1 3j 1 1sg 1 2z 1 gz 1
    cw 6 yq w mu 1g 1ol 1 5b 1 d1 1 17 5 5 1 2p 2 2l 3 lxy 1 yq 6 7i 1 36 1 47 9 2w 1 g6 1 m 1 3t 1 30 1 l 2 gor
    1 19 2 1k1 2 157 1 w 1 9h 1 2z7 1 fae 4 e4 3 14 2 fa d 1s 2 1 1 e 2 cn0 4 1 7 1 2 9q0 7 q5 1 er 1 gb 1 1k4 q
    6 q 6 q"⟩,
  ⟨"ci caseignorable", [3, 5, 7, 20, 26],
    "13 1 6 1 b 1 3g 1 jz 1 d3 1 44 1 55v 2 a 1 2 1 17u3 1 1q 1 2 1 4x 1 6 1 b 1"⟩,
  ⟨"di defaultignorablecodepoint", [],
    "4t 1 ip 1 jw 1 282 2 18z 2 2d 5 1kr 5 q 5 1d g 3ck 1 14ez g 6n 1 4g 1 27 9 119j 4 43z 8 h405 35s"⟩,
  ⟨"ext extender", [],
    "53 1 ew 2 oe 1 c9 1 hi 1 3t 1 2h 1 kw 1 3j 1 1tv 1 1k 1 gz 1 b2 1 1w 1 3ux 1 17 5 2v 2 2l 3 lxy 1 16e 1 qq 1
    m 1 3t 1 30 1 l 2 gor 1 1lc 2 157 1 r 1 4 1 xz 1 85 1 38 2 du 3 y7 1 n4 1 fag 2 ws 2 1 1 e 2 mdk 2 xd 1 no 3"⟩,
  ⟨"dia diacritic", [3, 20],
    "53 1 g8 27 1 8 5 6 80 5 7d 19 1 1 1 2 1 2 1 1 3c 1 a 8 4 2 3q 2 9 3 1v r 2j b 1m 9 6 1 t 3 9 1 3 1 2n 1 f 8
    16 9 g s 1p 1 g 1 3 4 2v 1 g 1 32 1 g 1 32 1 g 1 1b 3 1o 1 g 1 7 1 3b 1 32 1 g 1 32 1 g 1 31 2 g 1 3g 1 33 1
    b 7 1 1 2z 1 b 1 1 5 23 2 r 1 1 1 1 1 4 2 1u 3 1 2 1q 1 34 1 1 2 14 2 4 5 p 7 1 1 a 2 2o 1 gw 3 qc 2 u 1 44
    b 3 1 5 1 2t 1 6t 3 84 1 k 8 2 1 13 1 8 f 2 b 3 f 2 c 20 1 f 1 12 9 1i 2 1m 1 b 2 1u 2 48 p 4 1 6 1 2 3 3i 1
    1y 1 4 c 11 b hd 1 d 1 g d 2cf 2 35 3 3h 1 id 1 10 6 1 5 5 1 2l 2 2 2 2m 2 lxy 1 yq 6 7i 1 2q 1 c 2 36 2 3i
    1 3l 3 h 1 11 1 47 1 r i 1l 4 10 1 2n 1 c 1 e 1 l 2 3t 1 a 3 1t 4 q 1 l 2 1 1 6t 2 fn4 1 43 h gt g xc 1 1g7
    3 4 1 4l 2 fv 6 1t 5 1 1 9h 1 1g 1 2 3 1y b 1d 4 5c 1 15 1 20 2 3c 2 1q 1 24 1 9 3 2w 2 4y 2 28 2 g 1 o 7 3
    5 2h 3 1 2 d 2 2n 1 3 1 3f 2 6z 2 3i 1 3a 2 37 1 7h 2 76 2 4 1 4c 1 2b 1 i 1 29 1 bp 1 76 1 1 2 29 1 bt 2 n
    1 44s f 8ux 1 1xc 5 1n 7 9 4 e4 3 gc 4 25 2 1 1 c 4 irw 1a 2 n f4 3 3 6 8 8 2 7 u 4 32a e a8 1 1p 4 e3 1 76
    2 7j 1 cw 7 31 3 1 4 23z 5"⟩,
  ⟨"qmark quotationmark", [],
    "y 1 4 1 3n 1 f 1 670 8 p 2 2rr 1 cp 4 d 3 14pt 4 59 1 4 1 2i 2"⟩,
  ⟨"radical", [],
    "96o q 1 2h c 5y"⟩,
  ⟨"nchar noncharactercodepoint", [],
    "1e4w w em 2 1eke 2 1eke 2 1eke 2 1eke 2 1eke 2 1eke 2 1eke 2 1eke 2 1eke 2 1eke 2 1eke 2 1eke 2 1eke 2 1eke
    2 1eke 2 1eke 2"⟩,
  ⟨"patsyn patternsyntax", [],
    "x f a 7 q 4 1 1 q 4 y 7 1 1 1 2 1 1 1 2 4 1 4 1 3 1 n 1 v 1 654 o 8 f 2 j 1 a 8h k0 4g hi u vg e8 3k ap 3 4
    p f 1 14i5 2 79 2"⟩,
  ⟨"patws patternwhitespace", [23, 24],
    "9 5 i 1 2s 1 688 2"⟩,
  ⟨"sterm sentenceterminal", [],
    "x 1 c 1 g 1 11l 1 43 3 50 1 17 3 6u 1 1p 1 1 1 3 2 85 2 1d0 2 ly 1 4 2 lh 1 5i 2 4d 2 19 1 5 1 8q 2 9u 4 4i
    2 a 2 2 2 t 3 57 2 1t 2 pw 1 n 2 9 3 2i7 3 8i 1 d 1 m 2 bx 1 n3w 1 7i 2 6b 1 3 1 am 2 2e 2 2n 1 48 2 43 3 40
    2 6x 1 g86 1 2 2 1n 1 3 2 4p 1 c 1 g 1 1t 1 25w 2 zh 5 18 4 59 2 39 4 3j 3 3l 2 6 1 g 2 2g 2 1 2 30 1 8a 2
    39 2 ad 2 5 f 2x 2 6x 3 ed 1 1 1 6z 2 2f 2 bo 2 j8 2 22 2 euh 2 3p 1 1t 2 b 1 fd 2 88 1 feu 1 5wo 1"⟩,
  ⟨"term terminalpunctuation", [],
    "x 1 a 1 1 1 b 2 3 1 n2 1 8 1 e9 1 1l 1 20 1 e 1 1 3 50 1 17 b 1 1 6j 2 1i 6 1 8 v 1 79 2 z8 2 4s 1 4 6 8n 2
    lx 8 lh 1 3g 3 1z 2 4d 3 3 1 13 4 2 2 8q 2 9u 4 4i 2 a 2 1 3 t 3 57 5 1q 2 pw 1 n 2 9 3 2i7 3 8i 1 d 1 4 1 a
    1 1 2 3 2 bw 2 n3v 2 7h 3 6b 5 am 2 2e 2 2n 1 47 3 43 3 3j 1 g 2 6x 1 g86 1 2 2 1l 3 1 4 4p 1 a 1 1 1 b 2 3
    1 1t 1 2 1 u2 1 1c 1 w6 1 5j 1 8m 2 48 6 1w 6 2h 4 qg 5 18 4 59 7 34 4 3j 3 3l 2 6 1 g 2 2g 5 30 1 8a 2 39 3
    c 2 9y 4 3 f 2x 2 6x 3 ed 1 1 1 6z 2 2f 2 4 2 bi 3 19 1 hx 2 22 2 10r 5 dtl 2 3p 1 1t 3 a 1 fd 2 87 2 feu 1
    5wn 4"⟩,
  ⟨"vs variationselector", [],
    "4qz 3 1 1 19f4 g i9yo 6o"⟩,
  ⟨"uideo unifiedideograph", [],
    "a9s 534 1s g74 hse 2 1 1 1 2 a 1 1 1 1 2 2 3 1fpy wyo w 3dq 2 4ge 2 5rl f ha 3he 3t7 5 6ju"⟩,
  ⟨"ri regionalindicator", [],
    "2qcm q"⟩,
  ⟨"sd softdotted", [],
    "2x 2 5g 1 7t 1 u 1 1g 1 k 1 8w 1 2q 1 1 1 4y1 1 1f 1 d 1 3 1 3o 1 4d 1 bp 1 5y 2 27m 1 2bol 2 1e 2 1e 2 1e 2
    1e 2 1e 2 1e 2 1e 2 1e 2 1e 2 1e 2 1e 2 1e 2 1om 1 8h 2 q 1"⟩,
  ⟨"loe logicalorderexception", [],
    "2tc 5 3f 5 25s 3 2 1 smy 2 2 1 1 2"⟩,
  ⟨"dep deprecated", [],
    "95 1 10p 1 1s3 1 1 1 1m1 2 1qd 6 jd 2 jh06 1"⟩,
  ⟨"bidic bidicontrol", [],
    "17g 1 54h 2 q 5 1j 4"⟩,
  ⟨"grbase graphemebase", [0, 1, 2, 3, 4, 6, 8, 9, 10, 11, 12, 13, 14, 15, 16, 17, 18, 19, 20, 21, 22],
    "1xa 1 o 1 9y 1 o 1 2u 1 o 1 6g 1 1 1 4 2 1 2 9 2 2v 1 o 1 3b 1 f 1 1th 1 u 1 sg 1 5 1 1 1 5 2 2t 1 1z 2 3zu
    2 nxf 1 30 1 gyl 2 3kw 1 38 1 7c 1 e 1 9 1 2o 1 9 1 2 1 1 3 5 1 68 1 c 1 6p 1 7a 1 hl 1 c 1 16r 1 fxq 2 j8z
    2 6 6"⟩,
  ⟨"grext graphemeextend", [5, 7, 26],
    "4t 1 11u 6 m 1 5c 1 1d 1 ao 2 28 1 63 1 o 1 9y 1 o 1 2u 1 o 1 6g 1 1 1 4 2 1 2 9 2 2v 1 o 1 3b 1 f 1 1th 1 u
    1 61 1 me 1 5 1 1 1 5 2 2t 1 1z 2 t3 1 1 3 q 5 1d 5 1 a 33y 2 nxf 1 30 1 gu6 1 4e 2 2h 3 3b5 1 f 1 6q 1 38 1
    7c 1 e 1 9 1 2o 1 9 1 2 1 1 3 5 1 68 1 c 1 6p 1 7a 1 hl 1 c 1 16r 1 44u g bsg 2 f5a 4 43l 2 6 e h406 1"⟩,
  ⟨"idsb idsbinaryoperator", [],
    "9gw 2 2 a dt 1"⟩,
  ⟨"idst idstrinaryoperator", [],
    "9gy 2"⟩,
  ⟨"cwl changeswhenlowercased", [0, 2],
    "r6 3 5rh 1 4 1 3 3 2 3 2 1 3 5 6 1 3 1 3 2 2 2 1 1 a 2 5 1 q g na q 2d68 q q q q q q 1 1 2 2 1 2 2 2 4 1 8 q
    q q 2 1 4 2 8 1 7 r 2 1 4 1 5 1 1 3 7 r q q q q q q q q q q q u p x p x p x p x p x 1"⟩,
  ⟨"cwu changeswhenuppercased", [1, 2],
    "8o 1 2c 1 s 2 e 1 3 1 2q 1 i 6 r 1 2 1 1 1 2 3 2 1 4 1 5 2 1 1 2 2 1 7 1 2 1 1 2 3 6 5 1 1 2 7 2 h 45 1 52 1
    9v 1 13 1 4mv 18 1r d 2 3 1 g 1 c 75 2 1 1 h6 1 3 2 3 1 r 1 4 1 4 1 2 2 8 4 12 g nk q 1hj 1 2 1 2 5 2w 1 o5n
    2 1r 8 l 1 6 1 p 1 22 1 mt z 1 7 5 9 1mlt q q 7 1 i q q q 4 1 1 1 7 1 b q q q q q q q q q q q q q q q q q s
    s p 1 6 q p 1 6 q p 1 6 q p 1 6 q p 1 6 1 1 1f8 a 1 k 6 6"⟩,
  ⟨"cwt changeswhentitlecased", [1],
    "8o 1 2c 1 s 2 e 1 3 1 5 1 2 1 2 1 12 1 1b 1 i 6 r 1 2 1 1 1 2 3 2 1 4 1 5 2 1 1 2 2 1 7 1 2 1 1 2 3 6 5 1 1
    2 7 2 h 45 1 52 1 9v 1 13 1 287 17 2 3 2dc 18 1r d 2 3 1 g 1 c 75 2 1 1 h6 1 3 2 3 1 r 1 4 1 4 1 2 2 8 4 12
    g nk q 1hj 1 2 1 2 5 2w 1 o5n 2 1r 8 l 1 6 1 p 1 22 1 mt z 1 7 5 9 1mlt q q 7 1 i q q q 4 1 1 1 7 1 b q q q
    q q q q q q q q q q q q q q s s p 1 6 q p 1 6 q p 1 6 q p 1 6 q p 1 6 1 1 1f8 a 1 k 6 6"⟩,
  ⟨"cwcf changeswhencasefolded", [0, 2],
    "51 1 15 1 2x 1 1h 1 cl 1 3g 1 d 7 p 2 3 1 b5 1 2s8 2e 2 6 1oi 9 ep 2 6c 8 8 8 8 8 a 3 2 1 a 3 2 1 16 3 2 1
    7e 1 4 1 3 3 2 3 2 1 3 5 6 1 3 1 3 2 2 2 1 1 a 2 5 1 q g na q qlc 28 fnk 7 c 5 16ug q q q q q q 1 1 2 2 1 2
    2 2 4 1 8 q q q 2 1 4 2 8 1 7 r 2 1 4 1 5 1 1 3 7 r q q q q q q q q q q q u p x p x p x p x p x 1"⟩,
  ⟨"cwcm changeswhencasemapped", [0, 1, 2],
    "8o 1 2c 1 s 2 e 1 3 1 2q 1 i 6 r 1 2 1 1 1 2 3 2 1 4 1 5 2 1 1 2 2 1 7 1 2 1 1 2 3 6 5 1 1 2 7 2 h 45 1 3w 3
    13 1 9v 1 13 1 4mv 18 1r d 2 3 1 g 1 c 75 2 1 1 gy 1 4 1 2 a 1 1 3 5 6 1 3 1 3 2 1 3 1 2 4 1 2 4 5 5 m w mu
    1g 1hj 1 2 1 2 5 2w 1 o5n 2 1r 8 l 1 6 1 p 1 22 1 mt z 1 7 5 9 1ml3 2d 1 1z 1 2 2 1 2 2 2 4 1 c 1 1 1 7 1 1t
    1 4 2 8 1 7 1 s 1 4 1 5 1 1 3 7 1 9g 2 p 1 p 1 v 1 p 1 v 1 p 1 v 1 p 1 v 1 p 1 8 1f8 a 1 k 6 6"⟩]

end WikiGateway.Unicode.PropertyData
