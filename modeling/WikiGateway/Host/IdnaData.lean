/-!
# Internationalised host names: data

What becomes of each character of a host name, and the classes that the rules for labels speak of. Numbers are in
base 36 with blanks between them; the first number of an entry is the distance from the end of the entry before.
-/

namespace WikiGateway.Host.IdnaData

/-- Characters that are replaced: length of the run, number of characters put in their place, and these for the first
of the run; the others of a run lie at the same distance. Characters that normalization alone replaces are left out. -/
def mappings : String :=
  "4q 1 1 2p 2 1 0 4 2 1 1e 1 1 1 qk 3 1 1 1d 0 1 1 33 1 1 3 1d 6dg 1g 0 1 3 1d 6dg 1e 0 1 3 1f 6dg 1g 1 n 1 68 1 7
  1 6w x 1 1 75 1 1 1 77 1 1 1 79 1 1 1 7b 1 1 1 7d 1 1 1 7f 1 1 1 7h 1 1 1 7j 1 1 1 7l 1 1 1 7n 1 1 1 7p 1 1 1 7r
  1 1 1 7t 1 1 1 7v 1 1 1 7x 1 1 1 7z 1 1 1 81 1 1 1 83 1 1 1 85 1 1 1 87 1 1 1 89 1 1 1 8b 1 1 1 8d 1 1 1 8f 1 1
  2 2x lj 1 1 2 2x 2y 0 1 2 2x 2y 0 1 1 8l 1 1 1 8n 2 1 1 8q 1 1 1 8s 1 1 1 8u 1 1 2 30 53 0 1 2 30 53 0 1 1 8y 1
  1 1 90 1 1 1 92 1 1 1 94 1 1 2 jg 32 0 1 1 97 1 1 1 99 1 1 1 9b 1 1 1 9d 1 1 1 9f 1 1 1 9h 1 1 1 9j 1 1 1 9l 1 1
  1 9n 1 1 1 9p 1 1 1 9r 1 1 1 9t 1 1 1 9v 1 1 1 9x 1 1 1 9z 1 1 1 a1 1 1 1 a3 1 1 1 a5 1 1 1 a7 1 1 1 a9 1 1 1 ab
  1 1 1 ad 1 1 1 af 1 1 1 73 0 1 1 ai 1 1 1 ak 1 1 1 am 1 1 1 37 1 1 1 gj 0 1 1 ar 1 1 1 at 1 1 1 gk 0 1 1 aw 1 2
  1 gm 0 1 1 b0 2 1 1 d9 0 1 1 gp 0 1 1 gr 0 1 1 b6 1 1 1 gw 0 1 1 gz 1 1 1 h5 0 1 1 h4 0 1 1 bd 3 1 1 hb 0 1 1 he
  1 1 1 hh 0 1 1 bl 1 1 1 bn 1 1 1 bp 1 1 1 hs 0 1 1 bs 1 1 1 hv 2 1 1 bx 1 1 1 i0 0 1 1 c0 1 2 1 i2 0 1 1 c4 1 1
  1 c6 1 1 1 ia 0 1 1 c9 3 1 1 cd 7 1 2 2s am 0 1 2 2s am 0 1 2 2s am 0 1 2 30 2y 0 1 2 30 2y 0 1 2 30 2y 0 1 2 32
  2y 0 1 2 32 2y 0 1 2 32 2y 0 1 1 cu 1 1 1 cw 1 1 1 cy 1 1 1 d0 1 1 1 d2 1 1 1 d4 1 1 1 d6 1 1 1 d8 2 1 1 db 1 1
  1 dd 1 1 1 df 1 1 1 dh 1 1 1 dj 1 1 1 dl 1 1 1 dn 1 1 1 dp 1 1 1 dr 2 1 2 2s 3e 0 1 2 2s 3e 0 1 2 2s 3e 0 1 1 dx
  1 1 1 b9 0 1 1 cf 0 1 1 e1 1 1 1 e3 1 1 1 e5 1 1 1 e7 1 1 1 e9 1 1 1 eb 1 1 1 ed 1 1 1 ef 1 1 1 eh 1 1 1 ej 1 1
  1 el 1 1 1 en 1 1 1 ep 1 1 1 er 1 1 1 et 1 1 1 ev 1 1 1 ex 1 1 1 ez 1 1 1 f1 1 1 1 f3 1 1 1 bi 1 1 1 f7 1 1 1 f9
  1 1 1 fb 1 1 1 fd 1 1 1 ff 1 1 1 fh 1 1 1 fj 1 1 1 fl 1 1 1 fn 7 1 1 8rp 0 1 1 fw 1 1 1 be 0 1 1 8rq 2 1 1 g2 1
  1 1 ao 0 1 1 i1 0 1 1 i4 0 1 1 g7 1 1 1 g9 1 1 1 gb 1 1 1 gd 1 1 1 gf 2p 1 1 2w 0 1 1 h2 0 1 1 2y 0 1 1 36 0 1 1
  hl 0 1 1 hn 0 1 1 ht 0 1 1 3b 0 1 1 3d 13 1 1 gz 0 1 1 30 0 1 1 37 0 1 1 3c 0 1 1 id 2o 1 1 qh 9 1 0 w 1 1 oh 1
  1 1 oj 3 1 1 on 8 1 1 s3 6 1 1 q4 1 3 1 q5 1 1 1 r0 1 2 1 r1 1 h 1 q9 1 9 1 qr z 1 1 rb 0 1 1 qa 0 1 1 qg 0 1 1
  qt 0 1 1 r1 0 1 1 qz 0 1 1 qu 0 1 1 qo 1 1 1 rd 1 1 1 rf 1 1 1 rh 1 1 1 rj 1 1 1 rl 1 1 1 rn 1 1 1 rp 1 1 1 rr 1
  1 1 rt 1 1 1 rv 1 1 1 rx 1 1 1 rz 1 1 1 qi 0 1 1 qp 0 1 1 qr 1 1 1 qg 0 1 1 qd 1 1 1 s8 1 1 1 qr 0 1 1 sb 2 3 1
  or 0 g 1 uo 0 w 1 ts 1c 1 1 v5 1 1 1 v7 1 1 1 v9 1 1 1 vb 1 1 1 vd 1 1 1 vf 1 1 1 vh 1 1 1 vj 1 1 1 vl 1 1 1 vn
  1 1 1 vp 1 1 1 vr 1 1 1 vt 1 1 1 vv 1 1 1 vx 1 1 1 vz 1 1 1 w1 9 1 1 wb 1 1 1 wd 1 1 1 wf 1 1 1 wh 1 1 1 wj 1 1
  1 wl 1 1 1 wn 1 1 1 wp 1 1 1 wr 1 1 1 wt 1 1 1 wv 1 1 1 wx 1 1 1 wz 1 1 1 x1 1 1 1 x3 1 1 1 x5 1 1 1 x7 1 1 1 x9
  1 1 1 xb 1 1 1 xd 1 1 1 xf 1 1 1 xh 1 1 1 xj 1 1 1 xl 1 1 1 xn 1 1 1 xp 1 1 1 xr 2 1 1 xu 1 1 1 xw 1 1 1 xy 1 1
  1 y0 1 1 1 y2 1 1 1 y4 1 1 1 y6 2 1 1 y9 1 1 1 yb 1 1 1 yd 1 1 1 yf 1 1 1 yh 1 1 1 yj 1 1 1 yl 1 1 1 yn 1 1 1 yp
  1 1 1 yr 1 1 1 yt 1 1 1 yv 1 1 1 yx 1 1 1 yz 1 1 1 z1 1 1 1 z3 1 1 1 z5 1 1 1 z7 1 1 1 z9 1 1 1 zb 1 1 1 zd 1 1
  1 zf 1 1 1 zh 1 1 1 zj 1 1 1 zl 1 1 1 zn 1 1 1 zp 1 1 1 zr 1 1 1 zt 1 1 1 zv 1 1 1 zx 1 1 1 zz 1 1 1 101 1 1 1
  103 1 1 1 105 1 1 1 107 1 1 1 109 1 1 1 10b 1 1 1 10d 1 1 1 10f 1 1 1 10h 1 1 1 10j 1 1 1 10l 1 1 1 10n 1 1 1
  10p 1 1 1 10r 1 1 1 10t 1 1 1 10v 2 12 1 129 1c 1 2 12d 136 6l 1 2 17r 19w 0 1 2 18o 19w 0 1 2 1c7 19w 0 1 2 18q
  19w 1iy 1 2 2tp 2sy 3j 1 2 2x9 2wi 14 1 2 2wb 2vt 0 1 2 2wb 2w1 1a 1 1 2yz 2y 1 3 33m 31t 328 1 1 3 33n 31t 328
  99 1 1 8x3 5 1 1 8x9 1a 1 1 3bw l7 6 1 3xs st 3 0 1 1 0 vk 1 1 tu 0 1 1 tw 0 1 1 u6 0 2 1 u9 0 1 1 ua 0 1 1 ui 0
  1 1 v7 0 1 1 wuj 7 17 1 3bk 2 3 1 3ct 30 1 1 2p 0 1 1 6e 0 1 1 2q 1 2 1 2s 0 1 1 d9 0 8 1 2v 1 1 1 33 0 1 1 f7 0
  1 1 34 0 1 1 36 0 2 1 38 0 1 1 3b 0 1 1 2p 0 2 1 gg 0 1 1 5qa 0 1 1 2q 0 2 1 2s 0 1 1 gp 0 2 1 gr 0 1 1 2v 1 1 1
  2z 0 1 1 31 0 1 1 97 0 1 1 33 0 1 1 gk 0 2 1 5qu 0 1 1 34 0 2 1 38 0 1 1 5r1 0 1 1 hb 0 1 1 3a 0 1 1 5r9 0 3 1
  qa 0 2 1 qu 0 1 1 2x 0 1 1 36 0 2 1 39 0 2 1 qa 0 1 1 qp 0 2 1 qu d 1 1 u5 y 1 1 gi 0 1 1 2r 0 1 1 gl 0 1 1 6o 0
  1 1 gs 0 1 1 2u 0 1 1 gv 0 1 1 gx 0 1 1 h1 0 3 1 h4 0 1 1 5tn 0 1 1 il 0 1 1 h9 0 1 1 5tx 0 1 1 in 0 1 1 hd 0 1
  1 hc 0 4 1 he 0 1 1 hk 0 2 1 hu 0 1 1 bv 0 2 1 i1 0 1 1 5r0 0 2 1 i3 0 1 1 3e 0 3 1 i8 0 1 1 qg 1s 1 1 5xd 1 1 1
  5xf 1 1 1 5xh 1 1 1 5xj 1 1 1 5xl 1 1 1 5xn 1 1 1 5xp 1 1 1 5xr 1 1 1 5xt 1 1 1 5xv 1 1 1 5xx 1 1 1 5xz 1 1 1
  5y1 1 1 1 5y3 1 1 1 5y5 1 1 1 5y7 1 1 1 5y9 1 1 1 5yb 1 1 1 5yd 1 1 1 5yf 1 1 1 5yh 1 1 1 5yj 1 1 1 5yl 1 1 1
  5yn 1 1 1 5yp 1 1 1 5yr 1 1 1 5yt 1 1 1 5yv 1 1 1 5yx 1 1 1 5yz 1 1 1 5z1 1 1 1 5z3 1 1 1 5z5 1 1 1 5z7 1 1 1
  5z9 1 1 1 5zb 1 1 1 5zd 1 1 1 5zf 1 1 1 5zh 1 1 1 5zj 1 1 1 5zl 1 1 1 5zn 1 1 1 5zp 1 1 1 5zr 1 1 1 5zt 1 1 1
  5zv 1 1 1 5zx 1 1 1 5zz 1 1 1 601 1 1 1 603 1 1 1 605 1 1 1 607 1 1 1 609 1 1 1 60b 1 1 1 60d 1 1 1 60f 1 1 1
  60h 1 1 1 60j 1 1 1 60l 1 1 1 60n 1 1 1 60p 1 1 1 60r 1 1 1 60t 1 1 1 60v 1 1 1 60x 1 1 1 60z 1 1 1 611 1 1 1
  613 1 1 1 615 1 1 1 617 1 1 1 619 1 1 1 61b 1 1 1 61d 1 1 1 61f 1 1 1 61h 5 1 2 2p ji 0 1 1 601 2 1 2 37 37 1 1
  1 61t 1 1 1 61v 1 1 1 61x 1 1 1 61z 1 1 1 621 1 1 1 623 1 1 1 625 1 1 1 627 1 1 1 629 1 1 1 62b 1 1 1 62d 1 1 1
  62f 1 1 1 62h 1 1 1 62j 1 1 1 62l 1 1 1 62n 1 1 1 62p 1 1 1 62r 1 1 1 62t 1 1 1 62v 1 1 1 62x 1 1 1 62z 1 1 1
  631 1 1 1 633 1 1 1 635 1 1 1 637 1 1 1 639 1 1 1 63b 1 1 1 63d 1 1 1 63f 1 1 1 63h 1 1 1 63j 1 1 1 63l 1 1 1
  63n 1 1 1 63p 1 1 1 63r 1 1 1 63t 1 1 1 63v 1 1 1 63x 1 1 1 63z 1 1 1 641 1 1 1 643 1 1 1 645 1 1 1 647 1 1 1
  649 1 1 1 64b 1 1 1 64d 1 1 1 64f 9 8 1 64g 8 6 1 64w a 8 1 65c 8 8 1 65s 8 6 1 668 b 1 1 66p 1 1 1 66r 1 1 1
  66t 1 1 1 66v 8 8 1 674 g 1 2 64g qh 0 1 2 64h qh 0 1 2 64i qh 0 1 2 64j qh 0 1 2 64k qh 0 1 2 64l qh 0 1 2 64m
  qh 0 1 2 64n qh 0 1 2 64g qh 0 1 2 64h qh 0 1 2 64i qh 0 1 2 64j qh 0 1 2 64k qh 0 1 2 64l qh 0 1 2 64m qh 0 1 2
  64n qh 0 1 2 65c qh 0 1 2 65d qh 0 1 2 65e qh 0 1 2 65f qh 0 1 2 65g qh 0 1 2 65h qh 0 1 2 65i qh 0 1 2 65j qh 0
  1 2 65c qh 0 1 2 65d qh 0 1 2 65e qh 0 1 2 65f qh 0 1 2 65g qh 0 1 2 65h qh 0 1 2 65i qh 0 1 2 65j qh 0 1 2 674
  qh 0 1 2 675 qh 0 1 2 676 qh 0 1 2 677 qh 0 1 2 678 qh 0 1 2 679 qh 0 1 2 67a qh 0 1 2 67b qh 0 1 2 674 qh 0 1 2
  675 qh 0 1 2 676 qh 0 1 2 677 qh 0 1 2 678 qh 0 1 2 679 qh 0 1 2 67a qh 0 1 2 67b qh 2 1 2 67k qh 0 1 2 q9 qh 0
  1 2 q4 qh 2 1 2 69i qh 0 2 1 69c 0 1 1 67k 0 1 1 q4 0 1 2 q9 qh 5 1 2 67o qh 0 1 2 qf qh 0 1 2 q6 qh 2 1 2 69y
  qh 0 1 1 67m 0 1 1 q5 0 1 1 67o 0 1 1 q6 0 1 2 qf qh b 2 1 6a8 0 1 1 67q 0 1 1 q7 c 2 1 6ao 0 1 1 67u 0 1 1 r1 0
  1 1 6at 5 1 2 67w qh 0 1 2 qx qh 0 1 2 r2 qh 2 1 2 6ba qh 0 1 1 67s 0 1 1 r0 0 1 1 67w 0 1 1 r2 0 1 2 qx qh e 1
  0 5 1 1 6c0 x 1 2 6cy 6cy 0 1 3 6cy 6cy 6cy 1 1 2 6d1 6d1 0 1 3 6d1 6d1 6d1 4 1 2 x x q 1 4 6cy 6cy 6cy 6cy 8 1
  0 3 1 0 b 1 1 1c 0 1 1 2x 2 6 1 1g 0 1 1 17 0 1 1 6qa 0 1 1 1p 0 2 1 14 0 1 1 32 0 a 1 1c 0 1 1 17 0 1 1 6qa 0 1
  1 1p 0 2 1 14 1 1 1 2p 0 1 1 2t 0 1 1 33 0 1 1 3c 0 1 1 gp 0 1 1 2w 0 4 1 2z 0 1 1 34 0 2 1 37 b 1 2 36 37 2h 1
  1 2r 0 1 2 4w 2r 3 1 1 gr 1 1 2 4w 2u 0 2 1 2v 0 1 1 2w 0 1 1 2w 0 1 1 2w 0 1 1 87 0 1 1 2x 0 1 1 2x 0 1 1 30 0
  1 1 30 1 1 1 32 0 1 2 32 33 2 3 1 34 0 1 1 36 0 1 1 36 2 1 2 37 31 0 1 3 38 2t 30 0 1 2 38 31 1 1 1 3e 1 1 1 qx
  1 1 1 3e 1 1 1 2z 0 1 1 6d 0 2 1 2q 1 1 1 2t 0 2 1 2t 1 1 1 31 0 1 1 33 0 4 1 15c 0 1 1 2x 1 1 3 2u 2p 3c 0 1 1
  qo 0 1 1 qb 0 1 1 qb 0 1 1 qo 0 1 1 6q9 4 1 1 2s 0 2 1 2s 0 2 1 2x 6 1 3 1d 6dg 1j 0 1 3 1d 6dg 1l 0 1 4 1d 6dg
  1d 1c 0 1 3 1d 6dg 1f 0 1 3 1e 6dg 1f 0 1 3 1d 6dg 1h 0 1 3 1e 6dg 1h 0 1 3 1f 6dg 1h 0 1 3 1g 6dg 1h 0 1 3 1d
  6dg 1i 0 1 3 1h 6dg 1i 0 1 3 1d 6dg 1k 0 1 3 1f 6dg 1k 0 1 3 1h 6dg 1k 0 1 3 1j 6dg 1k 0 1 2 1d 6dg 0 1 1 2x 0 1
  2 2x 2x 0 1 3 2x 2x 2x 0 1 2 2x 3a 0 1 1 3a 0 1 2 3a 2x 0 1 3 3a 2x 2x 0 1 4 3a 2x 2x 2x 0 1 2 2x 3c 0 1 1 3c 0
  1 2 3c 2x 0 1 3 3c 2x 2x 0 1 1 30 0 2 1 2r 0 1 1 31 0 1 1 2x 0 1 2 2x 2x 0 1 3 2x 2x 2x 0 1 2 2x 3a 0 1 1 3a 0 1
  2 3a 2x 0 1 3 3a 2x 2x 0 1 4 3a 2x 2x 2x 0 1 2 2x 3c 0 1 1 3c 0 1 2 3c 2x 0 1 3 3c 2x 2x 0 1 1 30 0 2 1 2r 0 1 1
  31 9 1 3 1c 6dg 1f 4i 1 2 6qz 6qz 0 1 3 6qz 6qz 6qz 1 1 2 6r2 6r2 0 1 3 6r2 6r2 6r2 fj 9 1 1d 0 1 2 1d 1c 0 1 2
  1d 1d 0 1 2 1d 1e 0 1 2 1d 1f 0 1 2 1d 1g 0 1 2 1d 1h 0 1 2 1d 1i 0 1 2 1d 1j 0 1 2 1d 1k 0 1 2 1d 1l 0 1 2 1e
  1c 0 1 3 14 1d 15 0 1 3 14 1e 15 0 1 3 14 1f 15 0 1 3 14 1g 15 0 1 3 14 1h 15 0 1 3 14 1i 15 0 1 3 14 1j 15 0 1
  3 14 1k 15 0 1 3 14 1l 15 0 1 4 14 1d 1c 15 0 1 4 14 1d 1d 15 0 1 4 14 1d 1e 15 0 1 4 14 1d 1f 15 0 1 4 14 1d 1g
  15 0 1 4 14 1d 1h 15 0 1 4 14 1d 1i 15 0 1 4 14 1d 1j 15 0 1 4 14 1d 1k 15 0 1 4 14 1d 1l 15 0 1 4 14 1e 1c 15 k
  1 3 14 2p 15 0 1 3 14 2q 15 0 1 3 14 2r 15 0 1 3 14 2s 15 0 1 3 14 2t 15 0 1 3 14 2u 15 0 1 3 14 2v 15 0 1 3 14
  2w 15 0 1 3 14 2x 15 0 1 3 14 2y 15 0 1 3 14 2z 15 0 1 3 14 30 15 0 1 3 14 31 15 0 1 3 14 32 15 0 1 3 14 33 15 0
  1 3 14 34 15 0 1 3 14 35 15 0 1 3 14 36 15 0 1 3 14 37 15 0 1 3 14 38 15 0 1 3 14 39 15 0 1 3 14 3a 15 0 1 3 14
  3b 15 0 1 3 14 3c 15 0 1 3 14 3d 15 0 1 3 14 3e 15 0 q 1 2p 0 q 1 2p 0 1 1 1c 10h 1 4 6qz 6qz 6qz 6qz 2w 1 2 1p
  1p 0 1 3 1p 1p 1p ax 1c 1 8q8 1c 1 1 8rl 1 1 1 h7 0 1 1 5tp 0 1 1 hp 2 1 1 8rs 1 1 1 8ru 1 1 1 8rw 1 1 1 gh 0 1
  1 hd 0 1 1 gg 0 1 1 gi 1 1 1 8s3 2 1 1 8s6 6 1 1 2y 0 1 1 3a 0 2 1 fz 0 1 1 8sh 1 1 1 8sj 1 1 1 8sl 1 1 1 8sn 1
  1 1 8sp 1 1 1 8sr 1 1 1 8st 1 1 1 8sv 1 1 1 8sx 1 1 1 8sz 1 1 1 8t1 1 1 1 8t3 1 1 1 8t5 1 1 1 8t7 1 1 1 8t9 1 1
  1 8tb 1 1 1 8td 1 1 1 8tf 1 1 1 8th 1 1 1 8tj 1 1 1 8tl 1 1 1 8tn 1 1 1 8tp 1 1 1 8tr 1 1 1 8tt 1 1 1 8tv 1 1 1
  8tx 1 1 1 8tz 1 1 1 8u1 1 1 1 8u3 1 1 1 8u5 1 1 1 8u7 1 1 1 8u9 1 1 1 8ub 1 1 1 8ud 1 1 1 8uf 1 1 1 8uh 1 1 1
  8uj 1 1 1 8ul 1 1 1 8un 1 1 1 8up 1 1 1 8ur 1 1 1 8ut 1 1 1 8uv 1 1 1 8ux 1 1 1 8uz 1 1 1 8v1 1 1 1 8v3 1 1 1
  8v5 1 1 1 8v7 8 1 1 8vg 1 1 1 8vi 4 1 1 8vn 3g 1 1 8yp 8f 1 1 lal 2b 1 1 vj3 c 1 1 feo 0 1 1 ffs 0 1 1 fg6 0 1 1
  fgf 0 1 1 fh5 0 1 1 fid 0 1 1 fik 0 1 1 fj4 0 1 1 fju 0 1 1 g1r 0 1 1 g2t 0 1 1 g2z 0 1 1 g3m 0 1 1 g46 0 1 1
  g4r 0 1 1 g68 0 1 1 g6t 0 1 1 g74 0 1 1 gbf 0 1 1 ge1 0 1 1 get 0 1 1 gey 0 1 1 gfs 0 1 1 gg1 0 1 1 ggs 0 1 1
  gh5 0 1 1 ghu 0 1 1 gja 0 1 1 gjs 0 1 1 gkj 0 1 1 h5j 0 1 1 h7j 0 1 1 hkb 0 1 1 hky 0 1 1 hl6 0 1 1 hlh 0 1 1
  hlz 0 1 1 ho3 0 1 1 i1c 0 1 1 i2o 0 1 1 i60 0 1 1 i6n 0 1 1 i76 0 1 1 i7s 0 1 1 i9a 0 1 1 i9d 0 1 1 ijf 0 1 1
  ijp 0 1 1 ik1 0 1 1 ike 0 1 1 inm 0 1 1 inu 0 1 1 inz 0 1 1 ir8 0 1 1 iri 0 1 1 irv 0 1 1 is3 0 1 1 its 0 1 1
  iu9 0 1 1 iur 0 1 1 iwz 0 1 1 jd4 0 1 1 jee 0 1 1 jez 0 1 1 jzj 0 1 1 jzo 0 1 1 k1z 0 1 1 k2f 0 1 1 k2s 0 1 1
  k3d 0 1 1 k4g 0 1 1 k4l 0 1 1 kc0 0 1 1 kco 0 1 1 kdk 0 1 1 l5s 0 1 1 l7m 0 1 1 l89 0 1 1 l9v 0 1 1 laj 0 1 1
  las 0 1 1 laz 0 1 1 lcf 0 1 1 lck 0 1 1 ldg 0 1 1 m7f 0 1 1 mju 0 1 1 mk6 0 1 1 mkb 0 1 1 mkf 0 1 1 mkn 0 1 1
  ml5 0 1 1 ml7 0 1 1 mng 0 1 1 mtg 0 1 1 mtl 0 1 1 n30 0 1 1 n3a 0 1 1 n4o 0 1 1 n4v 0 1 1 n54 0 1 1 n5c 0 1 1
  n7v 0 1 1 n82 0 1 1 nee 0 1 1 nel 0 1 1 nfy 0 1 1 ngf 0 1 1 nhq 0 1 1 nob 0 1 1 noi 0 1 1 noz 0 1 1 ny2 0 1 1
  o1k 0 1 1 o1q 0 1 1 o6s 0 1 1 o97 0 1 1 oah 0 1 1 okz 0 1 1 ooo 0 1 1 p4m 0 1 1 p5d 0 1 1 p6y 0 1 1 p8d 0 1 1
  pa9 0 1 1 pak 0 1 1 paq 0 1 1 pbn 0 1 1 pdr 0 1 1 pe1 0 1 1 pnn 0 1 1 pnu 0 1 1 po3 0 1 1 poc 0 1 1 pos 0 1 1
  pp7 0 1 1 ppb 0 1 1 pri 0 1 1 prm 0 1 1 prs 0 1 1 qj1 0 1 1 qjv 0 1 1 qww 0 1 1 qx8 0 1 1 qxv 0 1 1 r5q 0 1 1
  r63 0 1 1 r82 0 1 1 r9c 0 1 1 rp3 0 1 1 rpi 0 1 1 rpx 0 1 1 rqw 0 1 1 rrx 0 1 1 rxg 0 1 1 rxs 0 1 1 rzn 0 1 1
  s6j 0 1 1 s7e 0 1 1 sd7 0 1 1 sds 0 1 1 sdx 0 1 1 sk1 0 1 1 sp5 0 1 1 ssm 0 1 1 sss 0 1 1 ssx 0 1 1 tiv 0 1 1
  tj4 0 1 1 tng 0 1 1 trq 0 1 1 trt 0 1 1 tt4 0 1 1 tw1 0 1 1 twe 0 1 1 twi 0 1 1 twp 0 1 1 tzf 0 1 1 u0d 0 1 1
  u0j 0 1 1 u0x 0 1 1 u5k 0 1 1 u6z 0 1 1 u73 0 1 1 uc6 0 1 1 uc9 0 1 1 ucs 0 1 1 ujs 0 1 1 ul4 0 1 1 ulb 0 1 1
  un9 0 1 1 unj 0 1 1 unm 0 1 1 unw 0 1 1 uoq 0 1 1 uzp 0 1 1 vat 0 1 1 vb3 0 1 1 vc5 0 1 1 vcr 0 1 1 vcz 0 1 1
  vd9 0 1 1 vdd 0 1 1 veh 0 1 1 vel 0 1 1 vf2 0 1 1 vf7 0 1 1 vfk 0 1 1 vgb 0 1 1 vgq 0 1 1 vgy 0 1 1 vil 0 1 1
  vj0 0 1 1 vj4 18 1 1 1a 1f 1 1 9hu 1 1 1 gg1 0 2 1 gg4 2s 1 2 9l4 9l6 2n 1 2 9mb 9mw 1d 2 1 3cw 0 1 1 3hm 0 1 1
  3cy 0 2 1 3ho 0 3 1 3cz 0 6 1 3hs 0 1 1 3dm 0 3 1 3d2 0 1 1 3dt 0 a 1 3d5 0 l 1 3fl 1 2 1 3dg 0 2 1 3if 0 1 1
  3ik 0 1 1 3im 0 1 1 3ir 0 1 1 3iv 0 1 1 3ix 0 1 1 3do 0 1 1 3j1 0 1 1 3j3 0 2 1 3dp 0 1 1 3ds 0 2 1 3du 0 1 1
  3dz 0 1 1 3e1 0 5 1 3e3 0 1 1 3ea 0 1 1 3ee 0 1 1 3eo 0 1 1 3ev 0 1 1 3f0 0 2 1 3jl 0 3 1 3fb 0 2 1 3gk 0 1 1
  3go 0 2 1 3gx 0 1 1 3h0 0 1 1 3ha 0 1 1 3hd 3 1 1 feo 0 1 1 fik 0 1 1 fex 0 1 1 h5n 0 1 1 fey 0 1 1 ffx 0 1 1
  fez 0 1 1 n5e 0 1 1 fh5 0 1 1 ffd 0 1 1 fep 0 1 1 hm1 0 1 1 h80 0 1 1 fju 2o 1 3 14 3cw 15 0 1 3 14 3cy 15 0 1 3
  14 3cz 15 0 1 3 14 3d1 15 0 1 3 14 3d2 15 0 1 3 14 3d3 15 0 1 3 14 3d5 15 0 1 3 14 3d7 15 0 1 3 14 3d8 15 0 1 3
  14 3da 15 0 1 3 14 3db 15 0 1 3 14 3dc 15 0 1 3 14 3dd 15 0 1 3 14 3de 15 0 1 3 14 xz4 15 0 1 3 14 yvs 15 0 1 3
  14 zc4 15 0 1 3 14 108s 15 0 1 3 14 10p4 15 0 1 3 14 115g 15 0 1 3 14 1224 15 0 1 3 14 12ys 15 0 1 3 14 13f4 15
  0 1 3 14 14bs 15 0 1 3 14 14s4 15 0 1 3 14 158g 15 0 1 3 14 15os 15 0 1 3 14 1654 15 0 1 3 14 13p8 15 0 1 4 14
  1350 13ic 15 0 1 4 14 1350 16f8 15 1 1 3 14 feo 15 0 1 3 14 fik 15 0 1 3 14 fex 15 0 1 3 14 h5n 15 0 1 3 14 fis
  15 0 1 3 14 g31 15 0 1 3 14 fer 15 0 1 3 14 g2z 15 0 1 3 14 fh9 15 0 1 3 14 gg1 15 0 1 3 14 kco 15 0 1 3 14 m7f
  15 0 1 3 14 ldg 15 0 1 3 14 kdk 15 0 1 3 14 ssx 15 0 1 3 14 h7j 15 0 1 3 14 k4l 15 0 1 3 14 kkq 15 0 1 3 14 kcp
  15 0 1 3 14 ny6 15 0 1 3 14 glp 15 0 1 3 14 mm1 15 0 1 3 14 rs1 15 0 1 3 14 nz1 15 0 1 3 14 gc4 15 0 1 3 14 fkz
  15 0 1 3 14 gos 15 0 1 3 14 i1y 15 0 1 3 14 nhf 15 0 1 3 14 flt 15 0 1 3 14 rt3 15 0 1 3 14 ggk 15 0 1 3 14 nzh
  15 0 1 3 14 fm9 15 0 1 3 14 pnu 15 0 1 3 14 po3 15 0 1 1 gun 0 1 1 inw 0 1 1 k1z 0 1 1 oen 8 1 3 34 38 2t 0 1 2
  1e 1d 0 1 2 1e 1e 0 1 2 1e 1f 0 1 2 1e 1g 0 1 2 1e 1h 0 1 2 1e 1i 0 1 2 1e 1j 0 1 2 1e 1k 0 1 2 1e 1l 0 1 2 1f
  1c 0 1 2 1f 1d 0 1 2 1f 1e 0 1 2 1f 1f 0 1 2 1f 1g 0 1 2 1f 1h 0 1 1 3cw 0 2 1 3cy 0 3 1 3d1 0 1 1 3d5 0 2 1 3d7
  0 5 1 3da 0 1 1 xz4 0 1 1 yvs 0 1 1 zc4 0 1 1 108s 0 1 1 10p4 0 1 1 115g 0 1 1 1224 0 1 1 12ys 0 1 1 13f4 0 1 1
  14bs 0 1 1 14s4 0 1 1 158g 0 1 1 15os 0 1 1 1654 0 1 2 14c8 y5c 0 1 2 13p8 13dk 0 1 1 138w 1 1 1 feo 0 1 1 fik 0
  1 1 fex 0 1 1 h5n 0 1 1 fis 0 1 1 g31 0 1 1 fer 0 1 1 g2z 0 1 1 fh9 0 1 1 gg1 0 1 1 kco 0 1 1 m7f 0 1 1 ldg 0 1
  1 kdk 0 1 1 ssx 0 1 1 h7j 0 1 1 k4l 0 1 1 kkq 0 1 1 kcp 0 1 1 ny6 0 1 1 glp 0 1 1 mm1 0 1 1 rs1 0 1 1 nz1 0 1 1
  gc4 0 1 1 o2g 0 1 1 n5j 0 1 1 ho3 0 1 1 six 0 1 1 g16 0 1 1 ghc 0 1 1 lig 0 1 1 u11 0 1 1 fm9 0 1 1 g49 0 1 1
  l7n 0 1 1 fey 0 1 1 ffx 0 1 1 fez 0 1 1 ijq 0 1 1 gkz 0 1 1 gfv 0 1 1 i3b 0 1 1 i1y 0 1 1 nhf 0 1 1 flt 0 1 1
  rt3 0 1 1 ggk 0 1 1 hlo 0 1 2 1f 1i 0 1 2 1f 1j 0 1 2 1f 1k 0 1 2 1f 1l 0 1 2 1g 1c 0 1 2 1g 1d 0 1 2 1g 1e 0 1
  2 1g 1f 0 1 2 1g 1g 0 1 2 1g 1h 0 1 2 1g 1i 0 1 2 1g 1j 0 1 2 1g 1k 0 1 2 1g 1l 0 1 2 1h 1c 0 1 2 1d kco 0 1 2
  1e kco 0 1 2 1f kco 0 1 2 1g kco 0 1 2 1h kco 0 1 2 1i kco 0 1 2 1j kco 0 1 2 1k kco 0 1 2 1l kco 0 1 3 1d 1c
  kco 0 1 3 1d 1d kco 0 1 3 1d 1e kco 0 1 2 2w 2v 0 1 3 2t 36 2v 0 1 2 2t 3a 0 1 3 30 38 2s 0 1 1 9lu 0 1 1 9lw 0
  1 1 9ly 0 1 1 9m0 0 2 1 9m2 0 1 1 9m5 0 1 1 9m7 0 1 1 9m9 0 1 1 9mb 0 1 1 9md 0 1 1 9mf 0 1 1 9mh 0 1 1 9mj 0 1
  1 9ml 0 1 1 9mn 0 1 1 9mp 0 1 1 9ms 0 1 1 9mu 0 1 1 9mw 0 6 1 9my 0 1 1 9n6 0 1 1 9n9 0 1 1 9nc 0 1 1 9nf 0 5 1
  9ni 0 1 1 9no 0 1 1 9nq 0 6 1 9ns 0 4 1 9nz 0 1 2 fl0 gp8 0 1 4 9lu 9n5 9oc 9mw 0 1 4 9lu 9nv 9n9 9lt 0 1 4 9lu
  9o3 9ne 9lu 0 1 3 9lu 9oc 9nv 0 1 4 9lw 9mz 9o3 9m8 0 1 3 9lw 9o3 9mp 0 1 3 9ly 9m1 9o3 0 1 5 9m0 9mh 9m7 9oc
  9mx 0 1 4 9m0 9oc 9m3 9oc 0 1 3 9m2 9o3 9mh 0 1 3 9m2 9oc 9nk 0 1 3 9m3 9lw 9nu 0 1 4 9m3 9nt 9mr 9mw 0 1 4 9m3
  9nx 9nu 9oc 0 1 3 9m4 9nx 9o3 0 1 3 9m4 9o3 9ni 0 1 2 9m6 9m4 0 1 3 9m6 9mz 9oc 0 1 4 9m5 9np 9nu 9oc 0 1 4 9m6
  9nv 9mo 9oc 0 1 2 9m5 9nx 0 1 5 9m5 9nx 9m8 9nt 9nk 0 1 6 9m5 9nx 9nl 9oc 9mw 9nv 0 1 5 9m5 9nx 9nz 9mr 9mw 0 1
  3 9m8 9nt 9nk 0 1 5 9m8 9nt 9nk 9mw 9o3 0 1 5 9m7 9nv 9mk 9lw 9nx 0 1 4 9m7 9nx 9oc 9n1 0 1 3 9m9 9oc 9mh 0 1 3
  9mb 9nv 9my 0 1 3 9mb 9oc 9nh 0 1 4 9md 9lw 9m7 9nv 0 1 5 9md 9o3 9mp 9oc 9nk 0 1 4 9mf 9nu 9o3 9m8 0 1 3 9mj
  9o3 9mp 0 1 3 9mj 9o3 9mw 0 1 3 9mo 9oc 9mh 0 1 2 9mv 9mf 0 1 2 9mx 9nv 0 1 2 9mw 9o3 0 1 2 9my 9n2 0 1 3 9n2
  9mr 9mw 0 1 3 9n3 9lw 9ms 0 1 5 9n5 9oc 9mj 9o3 9mw 0 1 3 9n5 9oc 9ms 0 1 4 9n4 9oc 9nw 9nv 0 1 5 9n8 9lu 9mh
  9mw 9nv 0 1 3 9n8 9m7 9nv 0 1 2 9n8 9mb 0 1 2 9n7 9nv 0 1 5 9n9 9lt 9nt 9mr 9mx 0 1 4 9n9 9lv 9oc 9mw 0 1 5 9na
  9mr 9mf 9lz 9nv 0 1 3 9n9 9nt 9o3 0 1 5 9nc 9m7 9mn 9oc 9nv 0 1 2 9ne 9ml 0 1 3 9ne 9mz 9n6 0 1 3 9nc 9nv 9ms 0
  1 3 9ne 9o3 9mh 0 1 3 9ne 9oc 9mg 0 1 3 9nd 9oc 9mn 0 1 4 9nh 9lw 9o3 9mw 0 1 3 9ng 9nv 9mw 0 1 2 9nf 9o3 0 1 3
  9nh 9o3 9mx 0 1 3 9nf 9oc 9nv 0 1 3 9nf 9oc 9o3 0 1 4 9ni 9lw 9m7 9nx 0 1 3 9ni 9lw 9nv 0 1 3 9ni 9mr 9n3 0 1 3
  9ni 9nv 9m7 0 1 5 9ni 9o3 9mf 9nr 9o3 0 1 4 9nj 9m7 9nx 9o3 0 1 2 9nj 9nu 0 1 5 9nj 9nu 9n4 9oc 9nv 0 1 2 9nl
  9m4 0 1 4 9nl 9m4 9mw 9o3 0 1 4 9nl 9oc 9mw 9nv 0 1 3 9no 9oc 9mx 0 1 3 9no 9oc 9nv 0 1 3 9nq 9lu 9o3 0 1 4 9nu
  9mr 9mw 9nv 0 1 2 9nu 9nt 0 1 3 9nv 9n8 9oc 0 1 4 9nv 9oc 9na 9nv 0 1 2 9nw 9nk 0 1 5 9nw 9o3 9mw 9ma 9o3 0 1 3
  9nz 9mr 9mw 0 1 2 1c m9l 0 1 2 1d m9l 0 1 2 1e m9l 0 1 2 1f m9l 0 1 2 1g m9l 0 1 2 1h m9l 0 1 2 1i m9l 0 1 2 1j
  m9l 0 1 2 1k m9l 0 1 2 1l m9l 0 1 3 1d 1c m9l 0 1 3 1d 1d m9l 0 1 3 1d 1e m9l 0 1 3 1d 1f m9l 0 1 3 1d 1g m9l 0
  1 3 1d 1h m9l 0 1 3 1d 1i m9l 0 1 3 1d 1j m9l 0 1 3 1d 1k m9l 0 1 3 1d 1l m9l 0 1 3 1e 1c m9l 0 1 3 1e 1d m9l 0
  1 3 1e 1e m9l 0 1 3 1e 1f m9l 0 1 3 1e 1g m9l 0 1 3 2w 34 2p 0 1 2 2s 2p 0 1 2 2p 39 0 1 3 2q 2p 36 0 1 2 33 3a
  0 1 2 34 2r 0 1 2 2s 31 0 1 3 2s 31 1e 0 1 3 2s 31 1f 0 1 2 2x 39 0 1 2 inn jdc 0 1 2 k6l gp8 0 1 2 hlz l7n 0 1
  2 k5q lh7 0 1 4 kkq irz fmi ny6 0 1 2 34 2p 0 1 2 32 2p 0 1 2 qk 2p 0 1 2 31 2p 0 1 2 2z 2p 0 1 2 2z 2q 0 1 2 31
  2q 0 1 2 2v 2q 0 1 3 2r 2p 30 0 1 4 2z 2r 2p 30 0 1 2 34 2u 0 1 2 32 2u 0 1 2 qk 2u 0 1 2 qk 2v 0 1 2 31 2v 0 1
  2 2z 2v 0 1 2 2w 3e 0 1 3 2z 2w 3e 0 1 3 31 2w 3e 0 1 3 2v 2w 3e 0 1 3 38 2w 3e 0 1 2 qk 30 0 1 2 31 30 0 1 2 2s
  30 0 1 2 2z 30 0 1 2 2u 31 0 1 2 32 31 0 1 2 qk 31 0 1 2 31 31 0 1 2 2r 31 0 1 2 2z 31 0 1 3 31 31 1e 0 1 3 2r
  31 1e 0 1 2 31 1e 0 1 3 2z 31 1e 0 1 3 31 31 1f 0 1 3 2r 31 1f 0 1 2 31 1f 0 1 3 2z 31 1f 0 1 3 31 6qd 37 0 1 4
  31 6qd 37 1e 0 1 2 34 2p 0 1 3 2z 34 2p 0 1 3 31 34 2p 0 1 3 2v 34 2p 0 1 3 36 2p 2s 0 1 5 36 2p 2s 6qd 37 0 1 6
  36 2p 2s 6qd 37 1e 0 1 2 34 37 0 1 2 32 37 0 1 2 qk 37 0 1 2 31 37 0 1 2 34 3a 0 1 2 32 3a 0 1 2 qk 3a 0 1 2 31
  3a 0 1 2 2z 3a 0 1 2 31 3a 0 1 2 34 3b 0 1 2 32 3b 0 1 2 qk 3b 0 1 2 31 3b 0 1 2 2z 3b 0 1 2 31 3b 0 1 2 2z qx 0
  1 2 31 qx 1 1 2 2q 35 0 1 2 2r 2r 0 1 2 2r 2s 0 1 4 2r 6qd 2z 2v 1 1 2 2s 2q 0 1 2 2v 3d 0 1 2 2w 2p 0 1 2 2w 34
  0 1 2 2x 32 0 1 2 2z 2z 0 1 2 2z 31 0 1 2 2z 38 0 1 2 30 31 0 1 2 30 32 0 1 3 30 33 2v 0 1 2 30 3c 0 1 2 31 2q 0
  1 3 31 2x 30 0 1 3 31 33 30 0 1 2 34 2w 1 1 3 34 34 31 0 1 2 34 36 0 1 2 37 36 0 1 2 37 3a 0 1 2 3b 2q 0 1 3 3a
  6qd 31 0 1 3 2p 6qd 31 0 1 2 1d k4l 0 1 2 1e k4l 0 1 2 1f k4l 0 1 2 1g k4l 0 1 2 1h k4l 0 1 2 1i k4l 0 1 2 1j
  k4l 0 1 2 1k k4l 0 1 2 1l k4l 0 1 3 1d 1c k4l 0 1 3 1d 1d k4l 0 1 3 1d 1e k4l 0 1 3 1d 1f k4l 0 1 3 1d 1g k4l 0
  1 3 1d 1h k4l 0 1 3 1d 1i k4l 0 1 3 1d 1j k4l 0 1 3 1d 1k k4l 0 1 3 1d 1l k4l 0 1 3 1e 1c k4l 0 1 3 1e 1d k4l 0
  1 3 1e 1e k4l 0 1 3 1e 1f k4l 0 1 3 1e 1g k4l 0 1 3 1e 1h k4l 0 1 3 1e 1i k4l 0 1 3 1e 1j k4l 0 1 3 1e 1k k4l 0
  1 3 1e 1l k4l 0 1 3 1f 1c k4l 0 1 3 1f 1d k4l 0 1 3 2v 2p 30 mkg 1 1 wu9 1 1 1 wub 1 1 1 wud 1 1 1 wuf 1 1 1 wuh
  1 1 1 wuj 1 1 1 wul 1 1 1 wun 1 1 1 wup 1 1 1 wur 1 1 1 wut 1 1 1 wuv 1 1 1 wux 1 1 1 wuz 1 1 1 wv1 1 1 1 wv3 1
  1 1 wv5 1 1 1 wv7 1 1 1 wv9 1 1 1 wvb 1 1 1 wvd 1 1 1 wvf 1 1 1 wvh j 1 1 ww1 1 1 1 ww3 1 1 1 ww5 1 1 1 ww7 1 1
  1 ww9 1 1 1 wwb 1 1 1 wwd 1 1 1 wwf 1 1 1 wwh 1 1 1 wwj 1 1 1 wwl 1 1 1 wwn 1 1 1 wwp 1 1 1 wwr 1 1 1 ui 0 1 1
  uk 3o 1 1 x0j 1 1 1 x0l 1 1 1 x0n 1 1 1 x0p 1 1 1 x0r 1 1 1 x0t 1 1 1 x0v 3 1 1 x0z 1 1 1 x11 1 1 1 x13 1 1 1
  x15 1 1 1 x17 1 1 1 x19 1 1 1 x1b 1 1 1 x1d 1 1 1 x1f 1 1 1 x1h 1 1 1 x1j 1 1 1 x1l 1 1 1 x1n 1 1 1 x1p 1 1 1
  x1r 1 1 1 x1t 1 1 1 x1v 1 1 1 x1x 1 1 1 x1z 1 1 1 x21 1 1 1 x23 1 1 1 x25 1 1 1 x27 1 1 1 x29 1 1 1 x2b 1 1 1
  x2d 1 1 1 x2f 1 1 1 x2h 1 1 1 x2j 1 1 1 x2l 1 1 1 x2n 1 1 1 x2n 8 1 1 x2y 1 1 1 x30 1 1 1 5tl 0 1 1 x33 1 1 1
  x35 1 1 1 x37 1 1 1 x39 1 1 1 x3b 4 1 1 x3g 1 1 1 h1 2 1 1 x3l 1 1 1 x3n 3 1 1 x3r 1 1 1 x3t 1 1 1 x3v 1 1 1 x3x
  1 1 1 x3z 1 1 1 x41 1 1 1 x43 1 1 1 x45 1 1 1 x47 1 1 1 x49 1 1 1 h2 0 1 1 gs 0 1 1 gx 0 1 1 h8 0 1 1 h6 1 1 1
  im 0 1 1 hz 0 1 1 il 0 1 1 xub 0 1 1 x4l 1 1 1 x4n 1 1 1 x4p 1 1 1 x4r 1 1 1 x4t 1 1 1 x4v 1 1 1 x4x 1 1 1 x4z 1
  1 1 x3o 0 1 1 hu 0 1 1 5u6 0 1 1 x54 1 1 1 x56 6 1 1 x5d 5 1 1 x5j 1 1 1 x5l p 1 1 2r 0 1 1 2u 0 1 1 35 0 1 1
  x6e 2 1 1 87 0 1 1 9f o2 1 1 x0n 0 1 1 xtj 0 1 1 h7 0 1 1 xua 9 1 1 i5 6 28 1 3vk fnk 1 2 2u 2u 0 1 2 2u 2x 0 1
  2 2u 30 0 1 3 2u 2u 2x 0 1 3 2u 2u 30 0 1 2 37 38 0 1 2 37 38 c 1 2 12s 12u 0 1 2 12s 12d 0 1 2 12s 12j 0 1 2
  132 12u 0 1 2 12s 12l 8 1 1 15u 0 1 1 15c 0 2 1 15f 0 3 1 15n 0 1 1 160 0 1 1 162 0 1 1 17 11 1 2 15c 15o 0 1 1
  19t 0 1 1 19t 0 1 1 1a3 0 1 1 1a3 0 1 1 1a3 0 1 1 1a3 0 1 1 1a6 0 1 1 1a6 0 1 1 1a6 0 1 1 1a6 0 1 1 1a8 0 1 1
  1a8 0 1 1 1a8 0 1 1 1a8 0 1 1 1a2 0 1 1 1a2 0 1 1 1a2 0 1 1 1a2 0 1 1 1a7 0 1 1 1a7 0 1 1 1a7 0 1 1 1a7 0 1 1
  1a1 0 1 1 1a1 0 1 1 1a1 0 1 1 1a1 0 1 1 1b8 0 1 1 1b8 0 1 1 1b8 0 1 1 1b8 0 1 1 1ba 0 1 1 1ba 0 1 1 1ba 0 1 1
  1ba 0 1 1 1ac 0 1 1 1ac 0 1 1 1ac 0 1 1 1ac 0 1 1 1ab 0 1 1 1ab 0 1 1 1ab 0 1 1 1ab 0 1 1 1ae 0 1 1 1ae 0 1 1
  1ae 0 2 1 1ae 0 1 1 1af 0 1 1 1af 0 1 1 1af 0 1 1 1al 0 1 1 1al 0 1 1 1ak 0 1 1 1ak 0 1 1 1am 0 1 1 1am 0 1 1
  1ag 0 1 1 1ag 0 1 1 1aw 0 1 1 1aw 0 1 1 1ap 0 1 1 1ap 0 1 1 1bd 0 1 1 1bd 0 1 1 1bd 0 1 1 1bd 0 1 1 1bj 0 1 1
  1bj 0 1 1 1bj 0 1 1 1bj 0 1 1 1bn 0 1 1 1bn 0 1 1 1bn 0 1 1 1bn 0 1 1 1bl 0 1 1 1bl 0 1 1 1bl 0 1 1 1bl 0 1 1
  1bu 0 2 1 1bu 0 1 1 1bv 0 1 1 1bv 0 1 1 1bv 0 1 1 1c0 0 2 1 1c0 0 1 1 1c1 0 1 1 1c1 0 1 1 1c1 0 1 1 1by 0 1 1
  1by 0 1 1 1by 0 1 1 1by 0 1 1 1ci 0 2 1 1ci 0 1 1 1cj x 1 1 1bh 0 1 1 1bh 0 1 1 1bh 0 1 1 1bh 0 1 1 1c7 0 1 1
  1c7 0 1 1 1c6 0 1 1 1c6 0 1 1 1c8 0 1 1 1c8 0 1 2 1c7 19w 0 1 1 1cb 0 1 1 1cb 0 1 1 1c5 0 1 1 1c5 0 1 1 1c9 0 1
  1 1c9 0 1 1 1cg 0 1 1 1cg 0 1 1 1cg 0 1 1 1cg 0 1 1 18p 0 1 1 18p 0 1 2 17q 17r 0 1 2 17q 17r 0 1 2 17q 1cl 0 1
  2 17q 1cl 0 1 2 17q 18o 0 1 2 17q 18o 0 1 2 17q 1c7 0 1 2 17q 1c7 0 1 2 17q 1c6 0 1 2 17q 1c6 0 1 2 17q 1c8 0 1
  2 17q 1c8 0 1 2 17q 1cg 0 1 2 17q 1cg 0 1 2 17q 1cg 0 1 2 17q 18p 0 1 2 17q 18p 0 1 2 17q 18p 0 1 1 1cc 0 1 1
  1cc 0 1 1 1cc 0 1 1 1cc 0 1 2 17q 17w 0 1 2 17q 17x 0 1 2 17q 18l 0 1 2 17q 18p 0 1 2 17q 18q 0 1 2 17s 17w 0 1
  2 17s 17x 0 1 2 17s 17y 0 1 2 17s 18l 0 1 2 17s 18p 0 1 2 17s 18q 0 1 2 17u 17w 0 1 2 17u 17x 0 1 2 17u 17y 0 1
  2 17u 18l 0 1 2 17u 18p 0 1 2 17u 18q 0 1 2 17v 17w 0 1 2 17v 18l 0 1 2 17v 18p 0 1 2 17v 18q 0 1 2 17w 17x 0 1
  2 17w 18l 0 1 2 17x 17w 0 1 2 17x 18l 0 1 2 17y 17w 0 1 2 17y 17x 0 1 2 17y 18l 0 1 2 183 17w 0 1 2 183 17x 0 1
  2 183 17y 0 1 2 183 18l 0 1 2 185 17x 0 1 2 185 18l 0 1 2 186 17w 0 1 2 186 17x 0 1 2 186 17y 0 1 2 186 18l 0 1
  2 187 17x 0 1 2 187 18l 0 1 2 188 18l 0 1 2 189 17w 0 1 2 189 18l 0 1 2 18a 17w 0 1 2 18a 18l 0 1 2 18h 17w 0 1
  2 18h 17x 0 1 2 18h 17y 0 1 2 18h 18l 0 1 2 18h 18p 0 1 2 18h 18q 0 1 2 18i 17x 0 1 2 18i 18l 0 1 2 18i 18p 0 1
  2 18i 18q 0 1 2 18j 17r 0 1 2 18j 17w 0 1 2 18j 17x 0 1 2 18j 17y 0 1 2 18j 18k 0 1 2 18j 18l 0 1 2 18j 18p 0 1
  2 18j 18q 0 1 2 18k 17w 0 1 2 18k 17x 0 1 2 18k 17y 0 1 2 18k 18l 0 1 2 18k 18p 0 1 2 18k 18q 0 1 2 18l 17w 0 1
  2 18l 17x 0 1 2 18l 17y 0 1 2 18l 18l 0 1 2 18l 18p 0 1 2 18l 18q 0 1 2 18m 17w 0 1 2 18m 17x 0 1 2 18m 17y 0 1
  2 18m 18l 0 1 2 18m 18p 0 1 2 18m 18q 0 1 2 18n 17w 0 1 2 18n 18l 0 1 2 18n 18p 0 1 2 18n 18q 0 1 2 18q 17w 0 1
  2 18q 17x 0 1 2 18q 17y 0 1 2 18q 18l 0 1 2 18q 18p 0 1 2 18q 18q 0 1 2 180 19s 0 1 2 181 19s 0 1 2 18p 19s 6 1
  2 17q 181 0 1 2 17q 182 0 1 2 17q 18l 0 1 2 17q 18m 0 1 2 17q 18p 0 1 2 17q 18q 0 1 2 17s 181 0 1 2 17s 182 0 1
  2 17s 18l 0 1 2 17s 18m 0 1 2 17s 18p 0 1 2 17s 18q 0 1 2 17u 181 0 1 2 17u 182 0 1 2 17u 18l 0 1 2 17u 18m 0 1
  2 17u 18p 0 1 2 17u 18q 0 1 2 17v 181 0 1 2 17v 182 0 1 2 17v 18l 0 1 2 17v 18m 0 1 2 17v 18p 0 1 2 17v 18q 0 1
  2 18h 18p 0 1 2 18h 18q 0 1 2 18i 18p 0 1 2 18i 18q 0 1 2 18j 17r 0 1 2 18j 18k 0 1 2 18j 18l 0 1 2 18j 18p 0 1
  2 18j 18q 0 1 2 18k 18l 0 1 2 18k 18p 0 1 2 18k 18q 0 1 2 18l 17r 0 1 2 18l 18l 0 1 2 18m 181 0 1 2 18m 182 0 1
  2 18m 18l 0 1 2 18m 18m 0 1 2 18m 18p 0 1 2 18m 18q 0 1 2 18p 19s 0 1 2 18q 181 0 1 2 18q 182 0 1 2 18q 18l 0 1
  2 18q 18m 0 1 2 18q 18p 0 1 2 18q 18q 0 1 2 17q 17w 0 1 2 17q 17x 0 1 2 17q 17y 0 1 2 17q 18l 0 1 2 17q 18n 0 1
  2 17s 17w 0 1 2 17s 17x 0 1 2 17s 17y 0 1 2 17s 18l 0 1 2 17s 18n 0 1 2 17u 17w 0 1 2 17u 17x 0 1 2 17u 17y 0 1
  2 17u 18l 0 1 2 17u 18n 0 1 2 17v 18l 0 1 2 17w 17x 0 1 2 17w 18l 0 1 2 17x 17w 0 1 2 17x 18l 0 1 2 17y 17w 0 1
  2 17y 18l 0 1 2 183 17w 0 1 2 183 17x 0 1 2 183 17y 0 1 2 183 18l 0 1 2 185 17x 0 1 2 185 17y 0 1 2 185 18l 0 1
  2 186 17w 0 1 2 186 17x 0 1 2 186 17y 0 1 2 186 18l 0 1 2 187 17x 0 1 2 188 18l 0 1 2 189 17w 0 1 2 189 18l 0 1
  2 18a 17w 0 1 2 18a 18l 0 1 2 18h 17w 0 1 2 18h 17x 0 1 2 18h 17y 0 1 2 18h 18l 0 1 2 18i 17x 0 1 2 18i 18l 0 1
  2 18j 17w 0 1 2 18j 17x 0 1 2 18j 17y 0 1 2 18j 18k 0 1 2 18j 18l 0 1 2 18k 17w 0 1 2 18k 17x 0 1 2 18k 17y 0 1
  2 18k 18l 0 1 2 18k 18n 0 1 2 18l 17w 0 1 2 18l 17x 0 1 2 18l 17y 0 1 2 18l 18l 0 1 2 18m 17w 0 1 2 18m 17x 0 1
  2 18m 17y 0 1 2 18m 18l 0 1 2 18m 18n 0 1 2 18n 17w 0 1 2 18n 18l 0 1 2 18n 19s 0 1 2 18q 17w 0 1 2 18q 17x 0 1
  2 18q 17y 0 1 2 18q 18l 0 1 2 18q 18n 0 1 2 17q 18l 0 1 2 17q 18n 0 1 2 17s 18l 0 1 2 17s 18n 0 1 2 17u 18l 0 1
  2 17u 18n 0 1 2 17v 18l 0 1 2 17v 18n 0 1 2 183 18l 0 1 2 183 18n 0 1 2 184 18l 0 1 2 184 18n 0 1 2 18j 18k 0 1
  2 18j 18l 0 1 2 18k 18l 0 1 2 18m 18l 0 1 2 18m 18n 0 1 2 18q 18l 0 1 2 18q 18n 0 1 3 18g 18u 18x 0 1 3 18g 18v
  18x 0 1 3 18g 18w 18x 0 1 2 187 18p 0 1 2 187 18q 0 1 2 189 18p 0 1 2 189 18q 0 1 2 18a 18p 0 1 2 18a 18q 0 1 2
  183 18p 0 1 2 183 18q 0 1 2 184 18p 0 1 2 184 18q 0 1 2 17x 18p 0 1 2 17x 18q 0 1 2 17w 18p 0 1 2 17w 18q 0 1 2
  17y 18p 0 1 2 17y 18q 0 1 2 185 18p 0 1 2 185 18q 0 1 2 186 18p 0 1 2 186 18q 0 1 2 184 17w 0 1 2 184 17x 0 1 2
  184 17y 0 1 2 184 18l 0 1 2 184 181 0 1 2 183 181 0 1 2 185 181 0 1 2 186 181 0 1 2 187 18p 0 1 2 187 18q 0 1 2
  189 18p 0 1 2 189 18q 0 1 2 18a 18p 0 1 2 18a 18q 0 1 2 183 18p 0 1 2 183 18q 0 1 2 184 18p 0 1 2 184 18q 0 1 2
  17x 18p 0 1 2 17x 18q 0 1 2 17w 18p 0 1 2 17w 18q 0 1 2 17y 18p 0 1 2 17y 18q 0 1 2 185 18p 0 1 2 185 18q 0 1 2
  186 18p 0 1 2 186 18q 0 1 2 184 17w 0 1 2 184 17x 0 1 2 184 17y 0 1 2 184 18l 0 1 2 184 181 0 1 2 183 181 0 1 2
  185 181 0 1 2 186 181 0 1 2 184 17w 0 1 2 184 17x 0 1 2 184 17y 0 1 2 184 18l 0 1 2 183 18n 0 1 2 184 18n 0 1 2
  187 18l 0 1 2 183 17w 0 1 2 183 17x 0 1 2 183 17y 0 1 2 184 17w 0 1 2 184 17x 0 1 2 184 17y 0 1 2 187 18l 0 1 2
  188 18l 0 1 2 17r 18r 0 1 2 17r 18r i 1 3 17u 17w 18l 0 1 3 17u 17x 17w 0 1 3 17u 17x 17w 0 1 3 17u 17x 18l 0 1
  3 17u 17y 18l 0 1 3 17u 18l 17w 0 1 3 17u 18l 17x 0 1 3 17u 18l 17y 0 1 3 17w 18l 17x 0 1 3 17w 18l 17x 0 1 3
  17x 18l 18q 0 1 3 17x 18l 18p 0 1 3 183 17x 17w 0 1 3 183 17w 17x 0 1 3 183 17w 18p 0 1 3 183 18l 17x 0 1 3 183
  18l 17x 0 1 3 183 18l 17w 0 1 3 183 18l 18l 0 1 3 183 18l 18l 0 1 3 185 17x 17x 0 1 3 185 17x 17x 0 1 3 185 18l
  18l 0 1 3 184 17x 18l 0 1 3 184 17x 18l 0 1 3 184 17w 18q 0 1 3 184 18l 17y 0 1 3 184 18l 17y 0 1 3 184 18l 18l
  0 1 3 184 18l 18l 0 1 3 186 17x 18p 0 1 3 186 17y 18l 0 1 3 186 17y 18l 0 1 3 187 18l 17x 0 1 3 187 18l 17x 0 1
  3 187 18l 18l 0 1 3 187 18l 18q 0 1 3 189 17w 18l 0 1 3 189 18l 18l 0 1 3 189 18l 18l 0 1 3 189 18l 18p 0 1 3
  18a 18l 18l 0 1 3 18a 18l 18q 0 1 3 18a 18l 18p 0 1 3 18h 17y 18l 0 1 3 18h 17y 18l 0 1 3 18i 18l 17x 0 1 3 18i
  18l 18l 0 1 3 18k 17x 18l 0 1 3 18k 17x 18q 0 1 3 18k 17x 18p 0 1 3 18k 17w 17w 0 1 3 18k 17w 17w 0 1 3 18k 17y
  18l 0 1 3 18k 17y 18l 0 1 3 18k 18l 17x 0 1 3 18k 18l 17x 0 1 3 18l 17x 17w 0 1 3 18l 17x 18l 0 1 3 18l 17x 18q
  0 1 3 18l 17w 17x 0 1 3 18l 17w 18l 0 1 3 18l 17y 17w 0 1 3 18l 17y 18l 2 1 3 18l 17w 17y 0 1 3 18n 18l 17w 0 1
  3 18n 18l 18l 0 1 3 18m 17x 18l 0 1 3 18m 17x 18p 0 1 3 18m 17w 18l 0 1 3 18m 17w 18l 0 1 3 18m 17w 18p 0 1 3
  18m 18l 18q 0 1 3 18m 18l 18p 0 1 3 18q 18l 18l 0 1 3 18q 18l 18l 0 1 3 17s 17y 18q 0 1 3 17u 17w 18q 0 1 3 17u
  17w 18p 0 1 3 17u 17y 18q 0 1 3 17u 17y 18p 0 1 3 17u 18l 18q 0 1 3 17u 18l 18p 0 1 3 17w 18l 18q 0 1 3 17w 17x
  18p 0 1 3 17w 18l 18p 0 1 3 183 17y 18p 0 1 3 185 17x 18q 0 1 3 184 17x 18q 0 1 3 186 17x 18q 0 1 3 18k 17w 18q
  0 1 3 18k 18l 18q 0 1 3 18q 17x 18q 0 1 3 18q 17w 18q 0 1 3 18q 18l 18q 0 1 3 18l 18l 18q 0 1 3 18i 18l 18q 0 1
  3 18m 17x 18q 0 1 3 18i 18l 17x 0 1 3 18k 17x 18l 0 1 3 189 18l 18q 0 1 3 18j 18l 18q 0 1 3 18m 17w 17x 0 1 3
  18l 17y 18q 0 1 3 18k 17w 18l 0 1 3 18j 18l 18l 0 1 3 18k 17w 18l 0 1 3 18m 17w 17x 0 1 3 17w 17x 18q 0 1 3 17x
  17w 18q 0 1 3 18l 17w 18q 0 1 3 18h 18l 18q 0 1 3 17s 17x 18q 0 1 3 18j 18l 18l 0 1 3 189 17w 18l 0 1 3 185 18l
  18l 0 1 3 183 17y 18q 0 1 3 18m 17w 18q 14 1 3 185 18k 1ci 0 1 3 18i 18k 1ci 0 1 4 17r 18k 18k 18n 0 1 4 17r 18j
  17s 181 0 1 4 18l 17x 18l 17z 0 1 4 185 18k 189 18l 0 1 4 181 183 18o 18k 0 1 4 189 18k 18q 18n 0 1 4 18o 183
  18k 18l 0 1 3 185 18k 18p 2 1 4 181 1cc 17r 18k 3 g 0 0 1 1 18 0 1 1 9hd 2 1 1 1n 0 1 1 x 1 2 1 9hy o 1 1 6c4 0
  1 1 6c3 0 1 1 2n 0 1 1 2n 0 2 1 14 0 1 1 3f 0 1 1 3h 0 2 1 9hw 0 2 1 9hs 0 2 1 9hm 0 2 1 9hk 0 4 1 9ho 8 1 1 2n
  0 1 1 2n 0 1 1 2n 0 1 1 18 0 1 1 9hd 2 1 1 1n 2 1 1 x 0 1 1 6c4 0 2 1 14 0 1 1 3f 0 1 1 3h 0 2 1 9hw 1 1 1 12 0
  2 1 16 0 1 1 19 2 1 1 1p 2 1 1 10 7 1 2 18g 18r 5 1 2 18g 18u 1 1 2 18g 18v 1 1 2 18g 18w 1 1 2 18g 18x 1 1 2
  18g 18y 0 2 1 17l 0 2 1 17m 0 2 1 17n 0 2 1 17o 0 2 1 17p 0 1 1 17q 0 1 1 17q 0 2 1 17q 0 2 1 17r 0 1 1 17s 0 1
  1 17s 0 2 1 17s 0 2 1 17t 0 1 1 17u 0 1 1 17u 0 2 1 17u 0 1 1 17v 0 1 1 17v 0 2 1 17v 0 1 1 17w 0 1 1 17w 0 2 1
  17w 0 1 1 17x 0 1 1 17x 0 2 1 17x 0 1 1 17y 0 1 1 17y 0 2 1 17y 0 2 1 17z 0 2 1 180 0 2 1 181 0 2 1 182 0 1 1
  183 0 1 1 183 0 2 1 183 0 1 1 184 0 1 1 184 0 2 1 184 0 1 1 185 0 1 1 185 0 2 1 185 0 1 1 186 0 1 1 186 0 2 1
  186 0 1 1 187 0 1 1 187 0 2 1 187 0 1 1 188 0 1 1 188 0 2 1 188 0 1 1 189 0 1 1 189 0 2 1 189 0 1 1 18a 0 1 1
  18a 0 1 1 18a 0 1 1 18h 0 1 1 18h 0 1 1 18h 0 2 1 18h 0 1 1 18i 0 1 1 18i 0 2 1 18i 0 1 1 18j 0 1 1 18j 0 2 1
  18j 0 1 1 18k 0 1 1 18k 0 2 1 18k 0 1 1 18l 0 1 1 18l 0 2 1 18l 0 1 1 18m 0 1 1 18m 0 2 1 18m 0 1 1 18n 0 1 1
  18n 0 2 1 18n 0 2 1 18o 0 2 1 18p 0 1 1 18q 0 1 1 18q 0 1 1 18q 0 1 2 18k 17m 0 1 2 18k 17m 0 1 2 18k 17n 0 1 2
  18k 17n 0 1 2 18k 17p 0 1 2 18k 17p 0 1 2 18k 17r 0 1 2 18k 17r 2 1 0 1 2 1 x 1 1 1 10 1 9 1 12 1 a 1 1c 1 1 1
  1n 1 1 1 1p 3 q 1 2p 4 t 1 2n 1 2 1 3h 0 2 1 879 0 1 1 1a 0 2 1 9ho 0 1 1 9hd 0 1 1 9ob 0 1 1 9o2 0 1 1 9lt 0 1
  1 9lv 0 1 1 9lx 0 1 1 9lz 0 1 1 9m1 0 1 1 9nn 0 1 1 9np 0 1 1 9nr 0 1 1 9mr 0 1 1 9oc 0 1 1 9lu 0 1 1 9lw 0 1 1
  9ly 0 1 1 9m0 0 2 1 9m2 0 1 1 9m5 0 1 1 9m7 0 1 1 9m9 0 1 1 9mb 0 1 1 9md 0 1 1 9mf 0 1 1 9mh 0 1 1 9mj 0 1 1
  9ml 0 1 1 9mn 0 1 1 9mp 0 1 1 9ms 0 1 1 9mu 0 1 1 9mw 0 6 1 9my 0 1 1 9n6 0 1 1 9n9 0 1 1 9nc 0 1 1 9nf 0 5 1
  9ni 0 1 1 9no 0 1 1 9nq 0 6 1 9ns 0 1 1 9nz 0 1 1 9o3 0 2 1 9ll 1 2 1 3cw 0 1 1 3hm 0 1 1 3cy 0 2 1 3ho 0 3 1
  3cz 0 6 1 3hs 0 1 1 3dm 0 3 1 3d2 0 1 1 3dt 0 a 1 3d5 3 6 1 3fl 2 6 1 3fr 2 6 1 3fx 2 3 1 3g3 3 2 1 4i 0 1 1 4s
  1 1 1 4m 0 1 1 4l 0 1 1 6g9 1 1 1 7b6 0 4 1 6mo 0 1 1 7fk 0 1 1 7gr sx 14 1 1fe0 3s 10 1 1fiw 4c b 1 1fo7 1 f 1
  1foj 1 7 1 1foz 1 2 1 1fp7 dn 2 1 k0 0 1 1 6e 0 1 1 ih 0 1 1 gj 1 1 1 ir 0 1 1 xuu 0 1 1 it 0 1 1 is 0 2 1 gm 0
  1 1 5u9 0 1 1 go 0 1 1 gu 0 1 1 ix 0 1 1 h0 0 1 1 gy 0 1 1 gw 0 1 1 ij 0 1 1 87 0 1 1 ik 0 1 1 h3 0 1 1 hw 0 2 1
  iy 0 1 1 h8 0 1 1 2mmc 0 1 1 x3i 0 1 1 ha 0 1 1 2mmd 0 1 1 i6 0 1 1 2mme 0 1 1 6w 0 2 1 hi 0 1 1 35 0 1 1 hm 0 1
  1 2mmg 0 2 1 hp 0 1 1 hs 0 1 1 iw 0 1 1 iu 0 1 1 xuv 0 1 1 iv 0 1 1 i0 0 1 1 8s1 1 1 1 i7 0 2 1 ip 0 1 1 ig 0 3
  1 cg 0 1 1 2mmi 0 1 1 2mn2 xx 1f 1 1h34 2ct w 1 1jgg gw0 w 1 20dc fgg 4 0 4m4 q 1 2p 0 q 1 2p 0 q 1 2p 0 7 1 2p
  1 i 1 2x 0 q 1 2p 0 q 1 2p 0 1 1 2p 1 2 1 2r 2 1 1 2v 2 2 1 2y 2 4 1 32 1 8 1 37 0 4 1 2p 1 1 1 2u 1 7 1 2w 1 b
  1 34 0 q 1 2p 0 q 1 2p 0 2 1 2p 1 4 1 2s 2 8 1 2y 1 7 1 37 1 q 1 2p 0 2 1 2p 1 4 1 2s 1 5 1 2x 1 1 1 33 3 7 1 37
  1 q 1 2p 0 q 1 2p 0 q 1 2p 0 q 1 2p 0 q 1 2p 0 q 1 2p 0 q 1 2p 0 q 1 2p 0 q 1 2p 0 q 1 2p 0 q 1 2p 0 q 1 2p 0 q
  1 2p 0 1 1 8h 0 1 1 fr 2 h 1 q9 0 1 1 qg 0 7 1 qr 0 1 1 6pz 0 h 1 q9 0 1 1 qr 0 7 1 qr 0 1 1 6pu 0 1 1 qd 0 1 1
  qg 0 1 1 qi 0 1 1 qu 0 1 1 qp 0 1 1 qo 0 h 1 q9 0 1 1 qg 0 7 1 qr 0 1 1 6pz 0 h 1 q9 0 1 1 qr 0 7 1 qr 0 1 1 6pu
  0 1 1 qd 0 1 1 qg 0 1 1 qi 0 1 1 qu 0 1 1 qp 0 1 1 qo 0 h 1 q9 0 1 1 qg 0 7 1 qr 0 1 1 6pz 0 h 1 q9 0 1 1 qr 0 7
  1 qr 0 1 1 6pu 0 1 1 qd 0 1 1 qg 0 1 1 qi 0 1 1 qu 0 1 1 qp 0 1 1 qo 0 h 1 q9 0 1 1 qg 0 7 1 qr 0 1 1 6pz 0 h 1
  q9 0 1 1 qr 0 7 1 qr 0 1 1 6pu 0 1 1 qd 0 1 1 qg 0 1 1 qi 0 1 1 qu 0 1 1 qp 0 1 1 qo 0 h 1 q9 0 1 1 qg 0 7 1 qr
  0 1 1 6pz 0 h 1 q9 0 1 1 qr 0 7 1 qr 0 1 1 6pu 0 1 1 qd 0 1 1 qg 0 1 1 qi 0 1 1 qu 0 1 1 qp 0 1 1 qo 0 1 1 rh 0
  1 1 rh 2 a 1 1c 0 a 1 1c 0 a 1 1c 0 a 1 1c 0 a 1 1c 1m8 9 1 ts 0 3 1 u2 0 b 1 u6 0 1 1 uj 0 2 1 ul 0 1 1 ww9 0 1
  1 yh 0 1 1 uu 0 1 1 uw 0 1 1 yx 0 1 1 xb 0 1 1 y7 0 9 1 ts 0 2 1 u2 0 2 1 u6 0 1 1 u9 0 6 1 ub 0 2 1 ui 0 1 1 wh
  0 1 1 uu 0 1 1 ut 0 1 1 v3 0 1 1 x7 0 1 1 wup 0 1 1 xd 1oy y 1 2oma ym 2 1 17r 0 1 1 17w 0 1 1 17z 1 1 1 18o 0 1
  1 182 0 1 1 17x 0 1 1 187 0 1 1 18q 0 4 1 18j 0 1 1 183 0 1 1 189 0 1 1 18h 0 1 1 185 0 1 1 18i 0 1 1 181 0 1 1
  184 0 2 1 17u 0 1 1 17y 0 1 1 180 0 1 1 186 0 1 1 188 0 1 1 18a 0 1 1 19q 0 1 1 1bu 0 1 1 1b5 0 1 1 19r 1 1 1
  17s 0 1 1 17w 1 1 1 18n 2 1 1 17x 1 1 1 18q 0 4 1 18j 0 1 1 183 0 1 1 189 0 1 1 18h 0 1 1 185 0 1 1 18i 1 1 1
  184 0 2 1 17u 0 1 1 17y 1 1 1 186 1 1 1 18a 6 1 1 17w 4 1 1 17x 1 1 1 18q 1 1 1 18k 1 1 1 18m 0 1 1 183 0 1 1
  189 1 1 1 185 0 1 1 18i 1 1 1 184 2 1 1 17y 1 1 1 186 1 1 1 18a 1 1 1 1bu 1 1 1 19r 1 1 1 17s 0 1 1 17w 1 1 1
  18n 2 1 1 17x 0 1 1 187 0 1 1 18q 0 1 1 18j 1 2 1 18l 0 1 1 183 0 1 1 189 0 1 1 18h 0 1 1 185 0 1 1 18i 1 1 1
  184 0 2 1 17u 0 1 1 17y 1 1 1 186 0 1 1 188 0 1 1 18a 0 1 1 19q 1 1 1 1b5 1 2 1 17r 0 1 1 17w 0 1 1 17z 0 2 1
  18n 0 1 1 182 0 1 1 17x 0 1 1 187 0 1 1 18q 1 3 1 18k 0 1 1 183 0 1 1 189 0 1 1 18h 0 1 1 185 0 1 1 18i 0 1 1
  181 0 1 1 184 0 2 1 17u 0 1 1 17y 0 1 1 180 0 1 1 186 0 1 1 188 0 1 1 18a 5 1 1 17s 0 1 1 17w 0 1 1 17z 1 1 1
  18o 0 1 1 182 0 1 1 17x 0 1 1 187 0 1 1 18q 1 3 1 18k 0 1 1 183 0 1 1 189 0 1 1 18h 0 1 1 185 0 1 1 18i 0 1 1
  181 0 1 1 184 0 2 1 17u 0 1 1 17y 0 1 1 180 0 1 1 186 0 1 1 188 0 1 1 18a g5 1 2 1c 18 0 1 2 1d 18 0 1 2 1e 18 0
  1 2 1f 18 0 1 2 1g 18 0 1 2 1h 18 0 1 2 1i 18 0 1 2 1j 18 0 1 2 1k 18 0 1 2 1l 18 5 1 3 14 2p 15 0 1 3 14 2q 15
  0 1 3 14 2r 15 0 1 3 14 2s 15 0 1 3 14 2t 15 0 1 3 14 2u 15 0 1 3 14 2v 15 0 1 3 14 2w 15 0 1 3 14 2x 15 0 1 3
  14 2y 15 0 1 3 14 2z 15 0 1 3 14 30 15 0 1 3 14 31 15 0 1 3 14 32 15 0 1 3 14 33 15 0 1 3 14 34 15 0 1 3 14 35
  15 0 1 3 14 36 15 0 1 3 14 37 15 0 1 3 14 38 15 0 1 3 14 39 15 0 1 3 14 3a 15 0 1 3 14 3b 15 0 1 3 14 3c 15 0 1
  3 14 3d 15 0 1 3 14 3e 15 0 1 3 9hw 37 9hx 0 1 1 2r 0 1 1 36 0 1 2 2r 2s 0 1 2 3b 3e 1 q 1 2p 0 1 2 2w 3a 0 1 2
  31 3a 0 1 2 37 2s 0 1 2 37 37 0 1 3 34 34 3a 0 1 2 3b 2r q 1 2 31 2r 0 1 2 31 2s 0 1 2 31 36 z 1 2 2s 2y 33 1 2
  9kr 9jf 0 1 2 9mb 9mb 0 1 1 9md d 1 1 jez 0 1 1 i1j 0 1 1 gjw 0 1 1 9mv 0 1 1 fik 0 1 1 hlm 0 1 1 r8j 0 1 1 hm1
  0 1 1 fj8 0 1 1 k68 0 1 1 mch 0 1 1 k2h 0 1 1 g99 0 1 1 ivg 0 1 1 g3x 0 1 1 k34 0 1 1 g7x 0 1 1 oqq 0 1 1 n4v 0
  1 1 rs9 0 1 1 hkg 0 1 1 gmx 0 1 1 lxw 0 1 1 jh1 0 1 1 jmd 0 1 1 feo 0 1 1 fex 0 1 1 si2 0 1 1 ijq 0 1 1 ffx 0 1
  1 gkz 0 1 1 jk7 0 1 1 rxs 0 1 1 jf7 0 1 1 o01 0 1 1 o6y 0 1 1 glk 0 1 1 lts 0 1 1 kcp 0 1 1 kco 0 1 1 n5f 0 1 1
  gaa 0 1 1 gxi 0 1 1 sp9 4 1 3 9hw kdo 9hx 0 1 3 9hw fex 9hx 0 1 3 9hw fik 9hx 0 1 3 9hw i2x 9hx 0 1 3 9hw m9l
  9hx 0 1 3 9hw jf7 9hx 0 1 3 9hw nh3 9hx 0 1 3 9hw gd9 9hx 0 1 3 9hw k0n 9hx 7 1 1 ivr 0 1 1 gkv 1we a 1 1c gvt2
  6o 0"

/-- Ranges of characters outside ASCII that a label may hold. -/
def valid : String :=
  "4h 7 1 1 1 2 1 1 1 2 4 2 3 1 3 1 n 1 7 x 1 1 1 1 1 1 1 1 1 1 1 1 1 1 1 1 1 1 1 1 1 1 1 1 1 1 1 1 1 1 1 1 1 1 1 1
  1 1 1 1 1 1 1 1 1 1 1 1 1 1 3 1 1 2 1 1 1 1 1 1 3 1 1 1 1 1 1 1 2 1 1 1 1 1 1 1 1 1 1 1 1 1 1 1 1 1 1 1 1 1 1 1
  1 1 1 1 1 1 1 1 1 1 1 1 1 1 1 1 1 1 1 1 1 1 2 1 1 1 1 1 1 1 2 1 1 1 2 1 3 2 4 1 2 1 3 3 2 1 2 1 1 1 1 1 2 1 1 2
  1 1 2 1 3 1 1 1 2 3 1 7 a 1 1 1 1 1 1 1 1 1 1 1 1 1 1 2 1 1 1 1 1 1 1 1 1 1 1 1 1 1 1 1 1 2 4 1 3 1 1 1 1 1 1 1
  1 1 1 1 1 1 1 1 1 1 1 1 1 1 1 1 1 1 1 1 1 1 1 1 1 1 1 1 1 1 1 1 1 1 1 1 1 1 1 1 1 1 1 1 1 1 1 1 1 1 1 7 2 1 2 2
  1 1 4 1 1 1 1 1 1 1 1 2p 9 v 6 2 5 2j 2 1 3 9 1 w 1 1 1 1 1 1 1 1 3 3 i 1 r z 8 1 1 1 1 1 1 1 1 1 1 1 1 1 1 1 1
  1 1 1 1 1 1 1 1 1 3 1 2 1 1 1 2 2 1f 1c 1 1 1 1 1 1 1 1 1 1 1 1 1 1 1 1 1 1 1 1 1 1 1 1 1 1 1 1 1 1 1 1 1 9 1 1
  1 1 1 1 1 1 1 1 1 1 1 1 1 1 1 1 1 1 1 1 1 1 1 1 1 1 1 1 1 1 1 1 1 1 1 1 1 1 1 1 1 1 1 1 1 1 1 1 1 1 1 1 2 1 1 1
  1 1 1 1 1 1 1 1 1 2 1 1 1 1 1 1 1 1 1 1 1 1 1 1 1 1 1 1 1 1 1 1 1 1 1 1 1 1 1 1 1 1 1 1 1 1 1 1 1 1 1 1 1 1 1 1
  1 1 1 1 1 1 1 1 1 1 1 1 1 1 1 1 1 1 1 1 1 1 1 1 1 1 1 1 1 1 1 1 1 1 1 1 1 1 1 1 1 1 1 1 1 1 1 1 1 1 15 1a 1 3 2
  3 1 1j 8 r 4 6 h m 1 2g 4 2s 1 1c 2 1n 2 2t e 1n 2 1d 2 f 1 s 2 1 1 b 5 v 9 22 1 39 8 10 1 8 2 2 2 m 1 7 1 1 3 4
  2 9 2 2 2 4 8 1 8 4 2 p 2 3 1 6 4 2 2 m 1 7 1 1 2 1 2 2 2 1 1 5 4 2 2 3 3 1 a 1 9 h a 3 1 9 1 3 1 m 1 7 1 2 1 5
  2 a 1 3 1 3 2 1 f 4 2 c 7 7 1 3 1 8 2 2 2 m 1 7 1 2 1 5 2 9 2 2 2 3 7 3 7 5 2 i a 2 1 6 3 3 1 4 3 2 1 1 1 2 3 2
  3 3 3 c 4 5 3 3 1 4 2 1 6 1 e l 5 d 1 3 1 n 1 g 2 9 1 3 1 4 7 2 1 3 2 1 2 4 2 a 7 m 1 3 1 n 1 a 1 5 2 9 1 3 1 4
  7 2 6 2 1 4 2 a 1 3 c d 1 3 1 1f 1 3 1 6 4 g 2 q 1 3 1 i 3 o 1 9 1 1 2 7 3 1 4 6 1 1 1 8 6 a 2 3 c 1e 1 7 4 t 11
  2 1 1 1 5 1 o 1 1 1 c 1 a 2 5 1 1 1 7 1 a 4 2 w c 1 1i 1 4 1 4 1 4 1 4 1 4 1 c 1 3 4 2 1 1 5 7 1 h 1 4 1 4 1 4 1
  4 1 4 1 c 1 3 1 f 1 d 11 4g 1c 18 1 2q 2 6g 1 4 2 7 1 1 1 4 2 15 1 4 2 x 1 4 2 7 1 1 1 4 2 f 1 1l 1 4 2 1v 2 w 3
  q 6 2e a hs 1 s 3 2h 7 m 9 o 9 k c d 1 3 1 2 c 1g 2 14 2 a 6 a 6 6 1 4 5 a 6 2h 7 17 5 1y a v 1 c 4 c 4 1 3 16 2
  5 b 18 4 q 6 b 3 1q 2 1t 1 t 2 b 6 a 6 e 2 v 1d 25 3 1b 1 38 8 1o 3 f 3 1f 1s 8 8 17 5 18 3 1 b 1 i 1 s d 1 y 11
  1s 1 1 1 1 1 1 1 1 1 1 1 1 1 1 1 1 1 1 1 1 1 1 1 1 1 1 1 1 1 1 1 1 1 1 1 1 1 1 1 1 1 1 1 1 1 1 1 1 1 1 1 1 1 1 1
  1 1 1 1 1 1 1 1 1 1 1 1 1 1 1 1 1 1 1 1 1 1 1 1 1 1 1 1 1 1 1 1 1 1 1 1 1 1 1 1 1 1 1 1 1 1 1 1 1 1 1 1 1 1 1 1
  1 1 1 1 1 1 1 1 1 1 1 1 1 1 1 1 1 1 1 1 1 1 1 1 1 1 1 1 1 1 1 1 1 1 1 1 1 1 5 2 2 1 1 1 1 1 1 1 1 1 1 1 1 1 1 1
  1 1 1 1 1 1 1 1 1 1 1 1 1 1 1 1 1 1 1 1 1 1 1 1 1 1 1 1 1 1 1 1 1 1 1 1 1 1 1 1 1 1 1 1 1 1 1 1 1 1 1 1 1 1 1 1
  1 1 1 1 1 1 1 1 1 1 1 1 1 1 1 1 1 1 1 1 1 1 1 1 1 1 9 8 6 a 8 8 8 8 6 a 8 8 8 8 1 1 1 1 1 1 1 1 1 1 1 1 1 1f 2 4
  1 f 1 9 3 3 2 8 3 1 4 e 1 l 2 2 1 1 5 1 c 3 1 8 3 2 1 2 4 1 1 1 8 3 d 1 7 1t 8 1 o f x j 1 3 1 b 1 2 2 5 2 3 1 1
  1 1 1 1 1 4 1 b 1 6 4 5 6 1c 3 1 5 1 2 4 4c 2 1 2 6w 2 70 p b 4g 10h 1 2v 3 2t 1 47 2 w 1 2x 1c 1c 1 1 3 2 1 1 1
  1 1 1 4 1 1 2 1 6 5 1 1 1 1 1 1 1 1 1 1 1 1 1 1 1 1 1 1 1 1 1 1 1 1 1 1 1 1 1 1 1 1 1 1 1 1 1 1 1 1 1 1 1 1 1 1
  1 1 1 1 1 1 1 1 1 1 1 1 1 1 1 1 1 1 1 1 1 1 1 1 1 1 1 1 1 1 1 1 1 1 1 1 1 1 1 1 1 1 1 1 1 1 1 1 1 1 1 1 8 1 1 1
  4 1 1 5 19 1 1 5 1 2 1k 8 1 e o 9 7 1 7 1 7 1 7 1 7 1 7 1 7 1 7 1 3i y q 1 4 1 2b 7i 1 1 1f 1 1 3 5 1 2e 2 2 2 2
  1 2n 6 17 2o 2 e 1w c g 20 8 1b 1 ao m8d 3 1j 9 9o l 1 1 1 1 1 1 1 1 1 1 1 1 1 1 1 1 1 1 1 1 1 1 1 1 1 1 1 1 1 1
  1 1 1 1 1 1 1 1 1 1 1 1 1 1 j 1 1 1 1 1 1 1 1 1 1 1 1 1 1 1 1 1 1 1 1 1 1 1 1 1 1 1 1 2 2i 8 y 1 1 1 1 1 1 1 1 1
  1 1 1 1 3 1 1 1 1 1 1 1 1 1 1 1 1 1 1 1 1 1 1 1 1 1 1 1 1 1 1 1 1 1 1 1 1 1 1 1 1 1 1 1 1 1 1 1 1 1 1 1 1 1 1 1
  1 1 1 1 1 1 1 1 1 1 1 1 8 1 1 1 1 2 1 1 1 1 1 1 1 1 4 1 1 1 2 1 1 1 3 1 1 1 1 1 1 1 1 1 1 1 1 1 1 1 1 1 1 1 1 5
  1 5 1 1 1 1 1 1 1 1 1 1 1 1 1 1 1 4 1 1 1 6 1 1 1 1 1 1 1 1 1 s 2 2 1f 3 a 6 1k 8 1y 8 c 6 38 b u 3 26 1 b 4 x 1
  1j 9 e 2 a 2 2v o s a 6 2 6 2 6 9 7 1 7 1 18 4 9 1 2 2c 1a 2 a 6 8mc c n 4 1d 6qa 2 1 1 1 2 a 1 1 1 1 2 2 3 6s 1
  43 h aj i 3j 1 19 3 w g l 2 18 1 b0 c 1 q 1 j 1 2 1 f 2 e y 3f 5 3 4 19 3 2g 1 d 3 1 1b 1a 3m t 3 1d f s 4 10 9
  u 5 17 5 u 1 11 4 e 2a 3a 2 a 1a 10 4 14 8 1g b 1 13 b 1 f 1 7 1 2 1v 8n 9 m a 8 o 1 3j 6 2 1 1 18 1 2 3 1 2 n 1
  20 8 9 1c j 1 2 5 x 3 r 5 1 1s 1k 4 k 2 1e 1 2 5 8 1 3 1 t 2 3 4 a 7 9 7 1s w 13 4 c 9 1i 3 t 2 r 5 q 7 4 c 7 28
  21 3b 1f 7 1a 8 a 86 v 1 16 1 3 2 2 23 17 8 16 m q 12 s k n 9 26 4 10 9 1q 1 5 d p 7 a 6 1h 1 i 8 13 9 2o 1 k b
  i 1 1b 1q 7 1 1 1 4 1 f 1 b 6 1n 5 a 6 4 1 8 2 2 2 m 1 7 1 2 1 5 1 a 2 2 2 3 2 1 6 1 5 7 2 7 3 5 3v 2k 1 5 u 20
  8 a 4m 1i 2 12 y 1x b a 6 d j 1m 6 a 1i r 2 f 4 n 55 1o 3o 1f c 8 2 1 2 8 1 2 1 u 1 2 2 c 9 a 1y 8 2 1a 2 b r 20
  8 2b d 21 7 a 6u 9 1 19 1 e a t 3 w 2 m 1 e 21 7 1 2 1 18 3 1 1 2 1 9 8 a 6 6 1 2 1 11 1 2 1 6 7 a 8m p 7 h 1 15
  3 s 2e 1 f 1e d pn 2u 33 1 5 b 5g 218 2r d ts g m 33e g7 6nt ft 7 v 1 a 4 29 1 a 6 u 2 6 a 1y a a 1 7 1 l 5 j k0
  1n 2t 23 4 1l 7 h 1s 5 b 2 e 4qg 8 ye 16 9 6w7 4 1 7 1 2 1 83 f 1 t 3 2 1 e 4 8 b0 1s4 2z 5 d 3 9 7 a 2 4 3mo 1a
  2 n 9 38 1o 6u a 13 2 1h 7 e 8 1s 6 16 l 1y 3e k c k c 2f 9 p w7 i4 f 5 1 f uo v 6 6 5x 7 1 h 2 7 1 2 1 5 2s 1
  34 19 3 e 2 a 4 2 8w v h 1m 5 1 cw 16 km 7 1 4 1 2 1 f 1 5h 2 g 23 16 4 a 4 2 lt 1w 24 1p c2 2 7i 18 4 2s c f 2
  f 1 f 1 11 l 5 v 1 w q 3 z 1 t 1k q 2o 6 4a rc 4 h 3 d 3 3b 4 2n 6 c 4 1 f c 4 1k 8 a 6 14 8 u 2 2 26 9g c e 2 d
  3 9 7 1a 1 7 8 e 4 9 7 9 7 43 1 1j tx wyo w 37e 6 66 2 4g2 e 5rl 3z3 3t7 5 38g"

/-- Directional classes other than left-to-right: 1 right-to-left, 2 Arabic number, 3 European number, 4 neutral,
5 mark without spacing, 6 any other. -/
def directions : String :=
  "0 9 4 0 5 6 0 e 4 0 5 6 0 f 4 0 a 3 0 7 4 q 6 4 q 2l 4 v 1 4 ch 2 4 7 e 4 2 s 4 1 h 4 0 34 5 5 1 4 3k 1 4 3w 7 5
  74 6 4 1 19 5 0 1 1 0 1 5 0 1 1 0 2 5 0 1 1 0 2 5 0 1 1 0 1 5 8 11 1 h 2 4 0 1 1 0 2 4 0 1 1 0 1 4 0 1 1 0 2 4 0
  b 5 0 1c 1 0 l 5 0 a 2 0 1 4 0 2 2 0 3 1 0 1 5 0 2t 1 0 7 5 1 1 4 0 6 5 0 2 1 0 2 5 0 1 4 0 4 5 0 2 1 0 a 3 0 n
  1 0 1 5 0 u 1 0 r 5 2 2h 1 0 b 5 0 1m 1 0 9 5 0 2 1 0 4 4 0 1 1 2 1 5 0 o 1 0 4 5 0 1 1 0 9 5 0 1 1 0 3 5 0 1 1
  0 5 5 2 15 1 0 3 5 2 1d 1 9 8 5 0 16 1 0 1l 5 1j 1 5 1 1 5 4 8 5 4 1 5 3 7 5 a 2 5 t 1 5 1m 1 5 4 4 5 8 1 5 k 2
  5 e 2 4 7 1 4 2 5 5 1l 1 5 4 h 5 u 2 5 3 1 5 b 2 5 1l 1 5 4 8 5 4 1 5 k 2 5 d 1 4 8 8 5 1m 1 5 2 1 5 1 4 5 8 a 5
  b 2 5 u 1 5 1p 1 5 c 1 5 11 8 4 5 1 5 3 1 5 1j 1 5 1 3 5 5 h 5 b 2 5 k 7 4 2 1 5 1m 1 5 f 2 5 k 2 5 s 2 5 1l 2 5
  4 4 5 8 1 5 k 2 5 t 1 5 20 1 5 7 5 5 2i 1 5 2 7 5 4 1 4 7 8 5 2q 1 5 2 9 5 b 7 5 21 2 5 r 1 5 1 1 5 1 1 5 0 4 4
  1f e 5 1 5 5 1 2 5 5 1c 5 9 1 5 2u 4 5 1 6 5 1 2 5 2 2 5 p 2 5 4 3 5 g 4 5 d 1 5 2 2 5 6 1 5 f 1 5 jj 3 5 1c a 4
  2u 1 4 ii 2 4 39 3 5 t 2 5 u 2 5 u 2 5 1v 7 5 8 1 5 2 b 5 7 1 4 1 1 5 i r 4 3e 2 5 y 1 5 3a 3 5 4 2 5 9 1 5 6 3
  5 4 6 4 48 y 4 n 2 5 2 1 5 1m 1 5 1 9 5 1 1 5 2 8 5 6 d 5 1c 2c 5 1c 1 5 1 5 5 1 1 5 5 1 5 14 9 5 c 2 5 w 4 5 2
  2 5 1 3 5 1k 1 5 1 2 5 3 1 5 1 3 5 1m 8 5 2 2 5 48 3 5 1 d 5 1 7 5 4 1 5 6 1 5 3 2 5 5i 1s 5 ek 51 4 f x 5 j 22
  4 1o bw 4 1x q 4 1 ly 4 1 9f 4 74 lc 4 6d 6 4 4 3 5 7 7 4 3j 1 5 2o w 5 0 ed 4 3 p 4 9 4 5 2 1 4 6 1 4 5 3 4 2h
  2 5 5 1 4 2i 1 4 5g 10 4 5i4 1s 4 h3k 1j 4 92 3 4 2n 4 5 0 1 4 0 a 5 0 2 4 u 2 5 28 2 5 e y 4 2u 1 4 3d 1 5 3 1
  5 4 1 5 p 2 5 1 4 4 0 1 5 b 2 4 1m 4 4 24 2 5 q i 5 d 1 5 12 8 5 p b 5 1a 3 5 1c 1 5 2 4 5 2 2 5 13 1 5 1v 6 5 2
  2 5 2 2 5 c 1 5 8 1 5 1b 1 5 1f 1 5 1 3 5 2 2 5 5 2 5 1 1 5 16 2 5 8 1 5 37 2 4 3d 1 5 2 1 5 4 1 5 fn4 1 5 43 h
  1 aj 5e 4 w g 5 l 2 4 18 1 1 i5 1 4 1q 25 4 3 h 4 2k 1 5 6a 1 5 0 r 3 3e 5 5 w5 7w 1 3 1 4 0 69 1 0 f 5 0 12 1 2
  8 5 0 4l 1 0 2 5 4 23 1 3 7 4 0 dg 1 0 4 5 8 9b 2 1 16 1 1 2 5 0 5 1 23 3 5 0 1y 1 0 b 5 0 1d 1 0 4 5 0 35 1 a 1
  5 1i f 5 b k 4 a 1 5 2 2 5 a 3 5 1d 4 5 2 2 5 7 1 5 1p 3 5 10 5 5 1 8 5 1q 1 5 c 2 5 1g 9 5 a 4 5 2 1 5 2n 3 5 2
  1 5 1 2 5 6 1 5 2 1 5 4d 1 5 3 8 5 l 2 5 1l 2 5 3 1 5 11 f 5 5f 8 5 2 3 5 1 1 5 n 1 5 2c 6 5 1 1 5 4 2 5 1 2 5
  6m 4 5 6 2 5 1 2 5 r 2 5 2d 8 5 2 1 5 1 2 5 v d 4 1q 1 5 1 1 5 2 6 5 1 1 5 2t 3 5 2 4 5 1 5 5 77 9 5 1 2 5 74 2
  5 1 1 5 4 1 5 40 8 5 4 1 5 w 6 5 2 2 5 14 6 5 2 4 5 8 1 5 9 6 5 2 3 5 1a d 5 1 2 5 ba e 5 2c m 5 2 7 5 1 2 5 1 2
  5 3e l 5 1 1 5 20 2 5 3 1 5 1 1 5 9n 2 5 b 2 5 1g 5 5 5 1 5 1 1 5 42 t 4 40e 1 5 6 f 5 asa 5 5 1n 7 5 t4 1 5 1r
  4 5 27 1 4 1 1 5 f5k 2 5 3mp 1z 5 f4 3 5 h 8 5 2 7 5 u 4 5 1n 2h 4 0 3 5 0 1 4 56 2f 4 1bd 1j 5 4 1e 5 8 1 5 e 1
  5 m l 5 11s 40 5 4g 7 5 af 1 5 1p 4 5 f 1 4 do 4 5 ls 5s 1 0 7 5 23 y 1 0 7 5 0 s3 1 c2 g0 4 1p 3 4 1p 1 4 4y
  1uz 4"

/-- Joining classes: 1 on both sides, 2 to the left, 3 to the right, 4 transparent. -/
def joining : String :=
  "lc 34 4 7n 7 4 7b 19 4 1 1 4 1 2 4 1 2 4 1 1 4 20 b 4 5 1 1 1 4 3 0 1 1 0 1 3 0 1 1 0 1 3 0 5 1 0 4 3 0 d 1 1 7
  1 0 1 3 0 2 1 0 l 4 e 2 1 0 1 4 0 3 3 5 f 1 0 i 3 0 12 1 0 1 3 0 2 1 0 9 3 0 1 1 0 1 3 0 1 1 0 1 3 0 2 1 0 2 3 1
  1 3 0 7 4 2 6 4 2 2 4 1 4 4 0 2 3 a 3 1 2 1 1 g 1 3 0 1 4 0 3 1 0 5 3 0 4 1 0 1 3 0 9 1 0 1 3 0 1 1 0 1 3 0 1 1
  0 1 3 0 2 1 0 1 3 0 r 4 2 1 3 0 b 1 0 3 3 0 f 1 0 2 3 0 4 1 0 1 3 0 1 1 0 2 3 0 3 1 0 2 3 0 6 1 12 b 4 p x 1 0 9
  4 9 1 4 o 4 4 1 9 4 1 3 4 1 5 4 i 1 3 0 5 1 0 2 3 0 1 1 0 1 3 0 a 1 0 1 3 0 1 1 0 3 3 0 3 4 4 1 1 1 4 1 1 1 3 0
  1 1 0 q 3 3 1 1 2 5 1 0 1 3 9 8 4 0 a 1 0 3 3 1 1 3 0 2 1 0 2 3 0 6 1 0 1 3 0 f 1 1 1l 4 1j 1 4 1 1 4 4 8 4 4 1
  4 3 7 4 a 2 4 t 1 4 1m 1 4 4 4 4 8 1 4 k 2 4 q 5 4 1l 1 4 4 h 4 u 2 4 3 1 4 b 2 4 1l 1 4 4 8 4 4 1 4 k 2 4 m 8 4
  1m 1 4 2 1 4 1 4 4 8 a 4 b 2 4 u 1 4 1p 1 4 c 1 4 1e 1 4 3 1 4 1j 1 4 1 3 4 5 h 4 b 2 4 t 1 4 1m 1 4 2 1 4 6 1 4
  5 2 4 k 2 4 s 2 4 1l 2 4 4 4 4 8 1 4 k 2 4 t 1 4 20 1 4 7 5 4 2i 1 4 2 7 4 c 8 4 2q 1 4 2 9 4 b 7 4 21 2 4 r 1 4
  1 1 4 1 1 4 1j e 4 1 5 4 1 2 4 5 1c 4 9 1 4 2u 4 4 1 6 4 1 2 4 2 2 4 p 2 4 4 3 4 g 4 4 d 1 4 2 2 4 6 1 4 f 1 4
  jj 3 4 qa 3 4 t 2 4 u 2 4 u 2 4 1v 7 4 8 1 4 2 b 4 9 1 4 15 1 1 o 2h 1 c 2 4 0 y 1 0 1 4 0 1 1 39 3 4 4 2 4 9 1
  4 6 3 4 63 2 4 2 1 4 1m 1 4 1 9 4 1 1 4 2 8 4 6 d 4 1c 2c 4 1c 1 4 1 5 4 1 1 4 5 1 4 14 9 4 c 2 4 w 4 4 2 2 4 1
  3 4 1k 1 4 1 2 4 3 1 4 1 3 4 1m 8 4 2 2 4 48 3 4 1 d 4 1 7 4 4 1 4 6 1 4 3 2 4 5i 1s 4 k0 x 4 2da 3 4 3x 1 4 2o
  w 4 fe 4 4 2z 2 4 n9w 4 4 1 a 4 w 2 4 28 2 4 7k 1 4 3 1 4 4 1 4 p 2 4 5 1 4 j 1e 1 0 1 2 29 2 4 q i 4 d 1 4 12 8
  4 p b 4 1a 3 4 1c 1 4 2 4 4 2 2 4 13 1 4 1v 6 4 2 2 4 2 2 4 c 1 4 8 1 4 1b 1 4 1f 1 4 1 3 4 2 2 4 5 2 4 1 1 4 16
  2 4 8 1 4 6m 1 4 2 1 4 4 1 4 fn4 1 4 ld g 4 r1 1 4 6a 1 4 45 5 4 1ae f 4 14 8 4 3k 5 1 0 1 3 1 1 3 1 2 3 2 1 2 0
  5 3 0 4 1 0 1 2 0 5 1 0 1 3 0 3 1 0 1 3 2 1 3 0 2 4 4 4 1 0 1 3 40 1 1 0 1 3 0 1 1 0 3 3 0 3 1 0 1 3 0 2 1 0 1 3
  0 1 1 0 2 3 0 1 1 0 1 3 n 4 3 0 2 1 9d 1 2 0 x 1 0 1 3 0 1 1 0 4 4 ar 2 4 28 3 4 1c 3 1 0 1 3 0 h 1 1 b 4 0 3 1
  0 1 3 r 4 1 0 2 3 0 c 1 0 4 4 16 1 1 1 2 1 0 3 3 1 1 1 0 2 3 0 2 1 0 1 3 0 2 1 1 1 1 0 2 3 0 1 1 4 1 3 0 1 1 0 1
  2 1h 1 4 1i f 4 15 1 4 2 2 4 a 3 4 1d 4 4 2 2 4 7 1 4 1p 3 4 10 5 4 1 8 4 1q 1 4 c 2 4 1g 9 4 a 4 4 2 1 4 2n 3 4
  2 1 4 1 2 4 6 1 4 2 1 4 4d 1 4 3 8 4 l 2 4 1l 2 4 3 1 4 11 f 4 5f 8 4 2 3 4 1 1 4 n 1 4 2c 6 4 1 1 4 4 2 4 1 2 4
  6m 4 4 6 2 4 1 2 4 r 2 4 2d 8 4 2 1 4 1 2 4 2y 1 4 1 1 4 2 6 4 1 1 4 2t 3 4 2 4 4 1 5 4 77 9 4 1 2 4 74 2 4 1 1
  4 4 1 4 40 8 4 4 1 4 w a 4 14 6 4 2 4 4 8 1 4 9 6 4 2 3 4 1a d 4 1 2 4 ba e 4 1 1 4 2a m 4 2 7 4 1 2 4 1 2 4 3e
  l 4 1 1 4 20 2 4 3 1 4 1 1 4 9n 2 4 b 2 4 1g 5 4 5 1 4 1 1 4 459 1 4 6 f 4 asa 5 4 1n 7 4 t4 1 4 1r 4 4 29 1 4
  f5k 2 4 3mp 1z 4 f4 3 4 h 8 4 2 7 4 u 4 4 44 3 4 1iz 1j 4 4 1e 4 8 1 4 e 1 4 m l 4 11s 40 4 4g 7 4 af 1 4 1p 4 4
  e4 4 4 rk 7 4 23 y 1 0 8 4"

end WikiGateway.Host.IdnaData
