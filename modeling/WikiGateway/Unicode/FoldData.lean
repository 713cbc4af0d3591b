/-!
# Case folding: data

The simple case folding of letters, packed in base 36 as runs: the distance from the start of the run before, the
number of letters, the distance between them, and what the first one folds to.
-/

namespace WikiGateway.Unicode.FoldData

/-- The runs. -/
def runs : String :=
  "1t q 1 2p 38 1 1 qk b n 1 68 o 7 1 6w 14 o 2 75 1e 3 2 8j 7 8 2 8q h n 2 97 1a 1 1 73 1 3 2 ai 6 1 1 37 2 1 1 gj
  1 2 2 ar 4 1 1 gk 1 1 1 aw 2 2 1 gm 2 1 1 b0 3 1 1 d9 1 1 1 gp 1 1 1 gr 1 1 1 b6 2 1 1 gw 1 1 1 gz 2 1 1 h5 1 1
  1 h4 1 1 1 bd 4 1 1 hb 1 1 1 he 2 1 1 hh 1 3 2 bl 6 1 1 hs 1 1 1 bs 2 1 1 hv 3 1 1 bx 2 1 1 i0 1 1 1 c0 2 2 1 i2
  2 2 2 c4 4 1 1 ia 1 1 1 c9 4 1 1 cd 8 1 1 cm 1 1 1 cm 2 1 1 cp 1 1 1 cp 2 1 1 cs 1 9 2 cs j 9 2 db j 1 1 dv 1 2
  2 dv 4 1 1 b9 1 1 1 cf 1 k 2 e1 14 1 1 bi 2 9 2 f7 o 1 1 8rp 1 1 1 fw 2 1 1 be 1 1 1 8rq 3 1 1 g2 2 1 1 ao 1 1 1
  i1 1 1 1 i4 1 5 2 g7 73 1 1 qh 17 2 2 oh 6 1 1 on 9 1 1 s3 7 1 1 q4 2 3 1 q5 4 1 1 r0 2 2 1 r1 3 h 1 q9 i 9 1 qr
  v 1 1 qr d 1 1 rb 1 1 1 qa 1 1 1 qg 4 1 1 qu 1 1 1 qo 2 c 2 rd o 1 1 qi 1 1 1 qp 3 1 1 qg 1 1 1 qd 2 1 1 s8 2 1
  1 s2 1 1 1 sb 3 3 1 or 3 g 1 uo g w 1 ts 28 h 2 v5 16 r 2 wb 1i 1 1 y7 1 7 2 xu f 1c 2 y9 2p 12 1 129 29b 12 1
  8w0 13 1 1 8x3 6 1 1 8x9 mj 6 1 3xs 1oo 1 1 tu 1 1 1 tw 1 1 1 u6 1 2 1 u9 2 1 1 ua 1 1 1 ui 1 1 1 v7 1 1 1 wuj 1
  1 1 5my 7 17 1 3bk 19 3 1 3ct 8z 23 2 5xd 4b 1 1 601 3 1 1 67 2 1c 2 61t 2w 8 1 64g g 6 1 64w g 8 1 65c g 8 1
  65s g 6 1 668 h 4 2 66p f 8 1 674 w 8 1 680 g 8 1 68g g 8 1 68w g 2 1 69c 2 2 1 67k 2 1 1 69f 2 1 1 qh a 4 1 67m
  4 1 1 69v c 2 1 6a8 2 2 1 67q e 2 1 6ao 2 2 1 67u 2 1 1 6at c 2 1 67s 2 2 1 67w 2 1 1 6b7 8a 1 1 qx 4 1 1 2z 1 1
  1 6d 7 1 1 6ku 1a g 1 6ls z 1 1 6mc mr q 1 79s 1fu 1c 1 8q8 2o 1 1 8rl 2 1 1 h7 1 1 1 5tp 1 1 1 hp 3 3 2 8rs 6 1
  1 gh 1 1 1 hd 1 1 1 gg 1 1 1 gi 2 1 1 8s3 3 1 1 8s6 9 2 1 fz 2 1e 2 8sh 2z 2 2 8vg 7 1 1 8vn nym n 2 wu9 1s e 2
  ww1 4i 7 2 x0j g v 2 x0z 1z 2 2 x2y 4 1 1 5tl 1 5 2 x33 d 1 1 x3g 2 1 1 h1 3 2 2 x3l 6 a 2 x3r k 1 1 h2 1 1 1 gs
  1 1 1 gx 1 1 1 h8 1 1 1 h6 2 1 1 im 1 1 1 hz 1 1 1 il 1 1 1 xub 1 8 2 x4l g 1 1 x3o 1 1 1 hu 1 1 1 5u6 1 2 2 x54
  4 1 1 h0 1 8 2 x59 g 1 1 bf p 1 1 x6e or 28 1 3vk gj5 q 1 1ef5 yn 14 1 1fe0 4w 10 1 1fiw 5c b 1 1fo7 c f 1 1foj
  g 7 1 1foz 8 2 1 1fp7 1d8 1f 1 1h34 5s m 1 1h80 28g w 1 1jgg gww w 1 20dc 2o p 1 20fv o68 y 1 2oma"

end WikiGateway.Unicode.FoldData
