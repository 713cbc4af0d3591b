/-!
# Scripts: data

The names of the scripts, the ranges of code points by script, and for each script the ranges where the property of
extensions differs from it. Ranges are packed in base 36: the distance from the range before, the length and, where
several scripts share a table, the number of the script.
-/

namespace WikiGateway.Unicode.ScriptData

/-- The scripts in the order of their numbers, each with its names in small letters without separators. -/
def names : String :=
  "adlm/adlam aghb/caucasianalbanian ahom arab/arabic armi/imperialaramaic armn/armenian avst/avestan bali/balinese
  bamu/bamum bass/bassavah batk/batak beng/bengali bhks/bhaiksuki bopo/bopomofo brah/brahmi brai/braille
  bugi/buginese buhd/buhid cakm/chakma cans/canadianaboriginal cari/carian cham cher/cherokee chrs/chorasmian
  copt/coptic/qaac cpmn/cyprominoan cprt/cypriot cyrl/cyrillic deva/devanagari diak/divesakuru dogr/dogra
  dsrt/deseret dupl/duployan egyp/egyptianhieroglyphs elba/elbasan elym/elymaic ethi/ethiopic geor/georgian
  glag/glagolitic gong/gunjalagondi gonm/masaramgondi goth/gothic gran/grantha grek/greek gujr/gujarati
  guru/gurmukhi hang/hangul hani/han hano/hanunoo hatr/hatran hebr/hebrew hira/hiragana hluw/anatolianhieroglyphs
  hmng/pahawhhmong hmnp/nyiakengpuachuehmong hung/oldhungarian ital/olditalic java/javanese kali/kayahli
  kana/katakana kawi khar/kharoshthi khmr/khmer khoj/khojki kits/khitansmallscript knda/kannada kthi/kaithi
  lana/taitham laoo/lao latn/latin lepc/lepcha limb/limbu lina/lineara linb/linearb lisu lyci/lycian lydi/lydian
  mahj/mahajani maka/makasar mand/mandaic mani/manichaean marc/marchen medf/medefaidrin mend/mendekikakui
  merc/meroiticcursive mero/meroitichieroglyphs mlym/malayalam modi mong/mongolian mroo/mro mtei/meeteimayek
  mult/multani mymr/myanmar nagm/nagmundari nand/nandinagari narb/oldnortharabian nbat/nabataean newa nkoo/nko
  nshu/nushu ogam/ogham olck/olchiki orkh/oldturkic orya/oriya osge/osage osma/osmanya ougr/olduyghur
  palm/palmyrene pauc/paucinhau perm/oldpermic phag/phagspa phli/inscriptionalpahlavi phlp/psalterpahlavi
  phnx/phoenician plrd/miao prti/inscriptionalparthian rjng/rejang rohg/hanifirohingya runr/runic samr/samaritan
  sarb/oldsoutharabian saur/saurashtra sgnw/signwriting shaw/shavian shrd/sharada sidd/siddham sind/khudawadi
  sinh/sinhala sogd/sogdian sogo/oldsogdian sora/sorasompeng soyo/soyombo sund/sundanese sylo/sylotinagri
  syrc/syriac tagb/tagbanwa takr/takri tale/taile talu/newtailue taml/tamil tang/tangut tavt/taiviet telu/telugu
  tfng/tifinagh tglg/tagalog thaa/thaana thai tibt/tibetan tirh/tirhuta tnsa/tangsa toto ugar/ugaritic vaii/vai
  vith/vithkuqi wara/warangciti wcho/wancho xpeo/oldpersian xsux/cuneiform yezi/yezidi yiii/yi
  zanb/zanabazarsquare zinh/inherited/qaai zyyy/common zzzz/unknown gara/garay gukh/gurungkhema krai/kiratrai
  onao/olonal sunu/sunuwar todr/todhri tutg/tulutigalari sidt/sidetic tols/tolongsiki berf/beriaerfe tayo/taiyo"

/-- The ranges of code points with their scripts. -/
def ranges : String :=
  "0 1t 4i 0 q 1x 0 6 4i 0 q 1x 0 1b 4i 0 1 1x 0 f 4i 0 1 1x 0 5 4i 0 n 1x 0 1 4i 0 v 1x 0 1 4i 0 ch 1x 0 13 4i 0 5
  1x 0 5 4i 0 2 d 0 k 4i 0 34 4h 0 4 17 0 1 4i 0 3 17 0 2 4j 0 4 17 0 1 4i 0 1 17 0 4 4j 0 1 17 0 1 4i 0 1 17 0 1
  4i 0 3 17 0 1 4j 0 1 17 0 1 4j 0 k 17 0 1 4j 0 1r 17 0 e o 0 g 17 0 3p r 0 2 4h 0 4p r 0 1 4j 0 12 5 0 2 4j 0 1e
  5 0 2 4j 0 3 5 0 1 4j 0 1j 1e 0 8 4j 0 r 1e 0 4 4j 0 6 1e 0 b 4j 0 5 3 0 1 4i 0 6 3 0 1 4i 0 e 3 0 1 4i 0 3 3 0
  1 4i 0 w 3 0 1 4i 0 a 3 0 b 4h 0 q 3 0 1 4h 0 30 3 0 1 4i 0 y 3 0 e 3q 0 1 4j 0 1o 3q 0 2 4j 0 3 3q 0 1c 3 0 1e
  41 0 e 4j 0 1n 2q 0 2 4j 0 3 2q 0 1a 3b 0 2 4j 0 f 3b 0 1 4j 0 s 27 0 2 4j 0 1 27 0 1 4j 0 b 3q 0 5 4j 0 y 3 0 5
  4j 0 23 3 0 1 4i 0 t 3 0 29 s 0 4 4h 0 f s 0 2 4i 0 q s 0 4 b 0 1 4j 0 8 b 0 2 4j 0 2 b 0 2 4j 0 m b 0 1 4j 0 7
  b 0 1 4j 0 1 b 0 3 4j 0 4 b 0 2 4j 0 9 b 0 2 4j 0 2 b 0 2 4j 0 4 b 0 8 4j 0 1 b 0 4 4j 0 2 b 0 1 4j 0 5 b 0 2 4j
  0 p b 0 2 4j 0 3 19 0 1 4j 0 6 19 0 4 4j 0 2 19 0 2 4j 0 m 19 0 1 4j 0 7 19 0 1 4j 0 2 19 0 1 4j 0 2 19 0 1 4j 0
  2 19 0 2 4j 0 1 19 0 1 4j 0 5 19 0 4 4j 0 2 19 0 2 4j 0 3 19 0 3 4j 0 1 19 0 7 4j 0 4 19 0 1 4j 0 1 19 0 7 4j 0
  h 19 0 a 4j 0 3 18 0 1 4j 0 9 18 0 1 4j 0 3 18 0 1 4j 0 m 18 0 1 4j 0 7 18 0 1 4j 0 2 18 0 1 4j 0 5 18 0 2 4j 0
  a 18 0 1 4j 0 3 18 0 1 4j 0 3 18 0 2 4j 0 1 18 0 f 4j 0 4 18 0 2 4j 0 c 18 0 7 4j 0 7 18 0 1 4j 0 3 2v 0 1 4j 0
  8 2v 0 2 4j 0 2 2v 0 2 4j 0 m 2v 0 1 4j 0 7 2v 0 1 4j 0 2 2v 0 1 4j 0 5 2v 0 2 4j 0 9 2v 0 2 4j 0 2 2v 0 2 4j 0
  3 2v 0 7 4j 0 3 2v 0 4 4j 0 2 2v 0 1 4j 0 5 2v 0 2 4j 0 i 2v 0 a 4j 0 2 3v 0 1 4j 0 6 3v 0 3 4j 0 3 3v 0 1 4j 0
  4 3v 0 3 4j 0 2 3v 0 1 4j 0 1 3v 0 1 4j 0 2 3v 0 3 4j 0 2 3v 0 3 4j 0 3 3v 0 3 4j 0 c 3v 0 4 4j 0 5 3v 0 3 4j 0
  3 3v 0 1 4j 0 4 3v 0 2 4j 0 1 3v 0 6 4j 0 1 3v 0 e 4j 0 l 3v 0 5 4j 0 d 3y 0 1 4j 0 3 3y 0 1 4j 0 n 3y 0 1 4j 0
  g 3y 0 2 4j 0 9 3y 0 1 4j 0 3 3y 0 1 4j 0 4 3y 0 7 4j 0 2 3y 0 1 4j 0 3 3y 0 1 4j 0 2 3y 0 2 4j 0 4 3y 0 2 4j 0
  a 3y 0 7 4j 0 9 3y 0 d 1t 0 1 4j 0 3 1t 0 1 4j 0 n 1t 0 1 4j 0 a 1t 0 1 4j 0 5 1t 0 2 4j 0 9 1t 0 1 4j 0 3 1t 0
  1 4j 0 4 1t 0 7 4j 0 2 1t 0 5 4j 0 3 1t 0 1 4j 0 4 1t 0 2 4j 0 a 1t 0 1 4j 0 3 1t 0 c 4j 0 d 2e 0 1 4j 0 3 2e 0
  1 4j 0 1f 2e 0 1 4j 0 3 2e 0 1 4j 0 6 2e 0 4 4j 0 g 2e 0 2 4j 0 q 2e 0 1 4j 0 3 3j 0 1 4j 0 i 3j 0 3 4j 0 o 3j 0
  1 4j 0 9 3j 0 1 4j 0 1 3j 0 2 4j 0 7 3j 0 3 4j 0 1 3j 0 4 4j 0 6 3j 0 1 4j 0 1 3j 0 1 4j 0 8 3j 0 6 4j 0 a 3j 0
  2 4j 0 3 3j 0 c 4j 0 1m 42 0 4 4j 0 1 4i 0 s 42 0 11 4j 0 2 1w 0 1 4j 0 1 1w 0 1 4j 0 5 1w 0 1 4j 0 o 1w 0 1 4j
  0 1 1w 0 1 4j 0 n 1w 0 2 4j 0 5 1w 0 1 4j 0 1 1w 0 1 4j 0 7 1w 0 1 4j 0 a 1w 0 2 4j 0 4 1w 0 w 4j 0 20 43 0 1 4j
  0 10 43 0 4 4j 0 13 43 0 1 4j 0 10 43 0 1 4j 0 f 43 0 1 4j 0 7 43 0 4 4i 0 2 43 0 11 4j 0 4g 2k 0 12 11 0 1 4j 0
  1 11 0 5 4j 0 1 11 0 2 4j 0 17 11 0 1 4i 0 4 11 0 74 1a 0 21 10 0 1 4j 0 4 10 0 2 4j 0 7 10 0 1 4j 0 1 10 0 1 4j
  0 4 10 0 2 4j 0 15 10 0 1 4j 0 4 10 0 2 4j 0 x 10 0 1 4j 0 4 10 0 2 4j 0 7 10 0 1 4j 0 1 10 0 1 4j 0 4 10 0 2 4j
  0 f 10 0 1 4j 0 1l 10 0 1 4j 0 4 10 0 2 4j 0 1v 10 0 2 4j 0 w 10 0 3 4j 0 q 10 0 6 4j 0 2e m 0 2 4j 0 6 m 0 2 4j
  0 hs j 0 t 2s 0 3 4j 0 23 3a 0 3 4i 0 b 3a 0 7 4j 0 m 40 0 9 4j 0 1 40 0 l 1c 0 2 4i 0 9 4j 0 k h 0 c 4j 0 d 3r
  0 1 4j 0 3 3r 0 1 4j 0 2 3r 0 c 4j 0 2m 1q 0 2 4j 0 a 1q 0 6 4j 0 a 1q 0 6 4j 0 2 2g 0 2 4i 0 1 2g 0 1 4i 0 k 2g
  0 6 4j 0 2h 2g 0 7 4j 0 17 2g 0 5 4j 0 1y j 0 a 4j 0 v 1z 0 1 4j 0 c 1z 0 4 4j 0 c 1z 0 4 4j 0 1 1z 0 3 4j 0 c
  1z 0 u 3t 0 2 4j 0 5 3t 0 b 4j 0 18 3u 0 4 4j 0 q 3u 0 6 4j 0 b 3u 0 3 4j 0 2 3u 0 w 1q 0 s g 0 2 4j 0 2 g 0 1r
  1v 0 1 4j 0 t 1v 0 2 4j 0 b 1v 0 6 4j 0 a 1v 0 6 4j 0 e 1v 0 2 4j 0 1a 4h 0 2 4j 0 c 4h 0 k 4j 0 25 7 0 1 4j 0
  1e 7 0 1s 3o 0 1g a 0 8 4j 0 4 a 0 1k 1y 0 3 4j 0 f 1y 0 3 4j 0 3 1y 0 1c 2t 0 b r 0 5 4j 0 17 11 0 2 4j 0 3 11
  0 8 3o 0 8 4j 0 3 4h 0 1 4i 0 d 4h 0 1 4i 0 7 4h 0 4 4i 0 1 4h 0 6 4i 0 1 4h 0 3 4i 0 2 4h 0 1 4i 0 5 4j 0 12 1x
  0 5 17 0 1 r 0 1d 1x 0 5 17 0 4 1x 0 5 17 0 d 1x 0 1 r 0 1y 1x 0 1 17 0 1s 4h 0 74 1x 0 m 17 0 2 4j 0 6 17 0 2
  4j 0 12 17 0 2 4j 0 6 17 0 2 4j 0 8 17 0 1 4j 0 1 17 0 1 4j 0 1 17 0 1 4j 0 1 17 0 1 4j 0 v 17 0 2 4j 0 1h 17 0
  1 4j 0 f 17 0 1 4j 0 e 17 0 2 4j 0 6 17 0 1 4j 0 j 17 0 2 4j 0 3 17 0 1 4j 0 9 17 0 1 4j 0 c 4i 0 2 4h 0 2f 4i 0
  1 4j 0 b 4i 0 1 1x 0 2 4j 0 b 4i 0 1 1x 0 f 4i 0 1 4j 0 d 1x 0 3 4j 0 y 4i 0 e 4j 0 x 4h 0 f 4j 0 12 4i 0 1 17 0
  3 4i 0 2 1x 0 6 4i 0 1 1x 0 r 4i 0 1 1x 0 h 4i 0 15 1x 0 3 4i 0 4 4j 0 ii 4i 0 m 4j 0 b 4i 0 l 4j 0 ps 4i 0 74 f
  0 hg 4i 0 2 4j 0 3u 4i 0 2o 12 0 w 1x 0 38 o 0 5 4j 0 7 o 0 12 11 0 1 4j 0 1 11 0 5 4j 0 1 11 0 2 4j 0 1k 3z 0 7
  4j 0 2 3z 0 e 4j 0 1 3z 0 n 10 0 9 4j 0 7 10 0 1 4j 0 7 10 0 1 4j 0 7 10 0 1 4j 0 7 10 0 1 4j 0 7 10 0 1 4j 0 7
  10 0 1 4j 0 7 10 0 1 4j 0 7 10 0 1 4j 0 w r 0 2m 4i 0 y 4j 0 q 1b 0 1 4j 0 2h 1b 0 c 4j 0 5y 1b 0 q 4j 0 l 4i 0
  1 1b 0 1 4i 0 1 1b 0 p 4i 0 9 1b 0 4 4h 0 2 1a 0 8 4i 0 4 1b 0 4 4i 0 1 4j 0 2e 1f 0 2 4j 0 2 4h 0 2 4i 0 3 1f 0
  1 4i 0 2i 1n 0 2 4i 0 3 1n 0 5 4j 0 17 d 0 1 4j 0 2m 1a 0 1 4j 0 g 4i 0 w d 0 12 4i 0 9 4j 0 1 4i 0 g 1n 0 v 1a
  0 1 4j 0 1s 4i 0 v 1a 0 29 4i 0 1b 1n 0 1 4i 0 2g 1n 0 4o 4i 0 534 1b 0 1s 4i 0 g74 1b 0 wd 4f 0 3 4j 0 1j 4f 0
  9 4j 0 1c 22 0 8c 48 0 k 4j 0 2o r 0 2g 8 0 8 4j 0 y 4i 0 2u 1x 0 3 4i 0 2a 1x 0 k 4j 0 f 1x 0 19 3p 0 3 4j 0 a
  4i 0 6 4j 0 1k 32 0 8 4j 0 1y 3d 0 8 4j 0 c 3d 0 6 4j 0 w s 0 1a 1m 0 1 4i 0 1 1m 0 10 38 0 b 4j 0 1 38 0 t 1a 0
  3 4j 0 26 1l 0 1 4j 0 1 4i 0 a 1l 0 4 4j 0 2 1l 0 v 2k 0 1 4j 0 1j l 0 9 4j 0 e l 0 2 4j 0 a l 0 2 4j 0 4 l 0 w
  2k 0 1v 3x 0 o 4j 0 5 3x 0 n 2i 0 a 4j 0 6 10 0 2 4j 0 6 10 0 2 4j 0 6 10 0 9 4j 0 7 10 0 1 4j 0 7 10 0 1 4j 0
  17 1x 0 1 4i 0 9 1x 0 1 17 0 4 1x 0 2 4i 0 4 4j 0 28 m 0 1a 2i 0 2 4j 0 a 2i 0 6 4j 0 8mc 1a 0 c 4j 0 n 1a 0 4
  4j 0 1d 1a 0 4 4j 1kw 4xs 4j 0 a6 1b 0 2 4j 0 2y 1b 0 12 4j 0 7 1x 0 c 4j 0 5 5 0 5 4j 0 q 1e 0 1 4j 0 5 1e 0 1
  4j 0 1 1e 0 1 4j 0 2 1e 0 1 4j 0 2 1e 0 1 4j 0 a 1e 0 dq 3 0 2 4i 0 40 3 0 w 4j 0 g 3 0 g 4h 0 a 4i 0 6 4j 0 e
  4h 0 2 r 0 z 4i 0 1 4j 0 j 4i 0 1 4j 0 4 4i 0 4 4j 0 5 3 0 1 4j 0 3r 3 0 2 4j 0 1 4i 0 1 4j 0 w 4i 0 q 1x 0 6 4i
  0 q 1x 0 b 4i 0 a 1n 0 1 4i 0 19 1n 0 2 4i 0 v 1a 0 3 4j 0 6 1a 0 2 4j 0 6 1a 0 2 4j 0 6 1a 0 2 4j 0 3 1a 0 3 4j
  0 7 4i 0 1 4j 0 7 4i 0 a 4j 0 5 4i 0 2 4j 0 c 21 0 1 4j 0 q 21 0 1 4j 0 j 21 0 1 4j 0 2 21 0 1 4j 0 f 21 0 2 4j
  0 e 21 0 y 4j 0 3f 21 0 5 4j 0 3 4i 0 4 4j 0 19 4i 0 3 4j 0 9 4i 0 27 17 0 1 4j 0 d 4i 0 3 4j 0 1 17 0 1b 4j 0
  19 4i 0 1 4h 0 3m 4j 0 t 23 0 3 4j 0 1d k 0 f 4j 0 1 4h 0 r 4i 0 4 4j 0 10 1k 0 9 4j 0 3 1k 0 r 15 0 5 4j 0 17
  31 0 5 4j 0 u 47 0 1 4j 0 1 47 0 10 4c 0 4 4j 0 e 4c 0 16 4j 0 28 v 0 1c 3f 0 u 2x 0 2 4j 0 a 2x 0 6 4j 0 10 2w
  0 4 4j 0 10 2w 0 4 4j 0 14 y 0 8 4j 0 1g 1 0 b 4j 0 1 1 0 b 49 0 1 4j 0 f 49 0 1 4j 0 7 49 0 1 4j 0 2 49 0 1 4j
  0 b 49 0 1 4j 0 f 49 0 1 4j 0 7 49 0 1 4j 0 2 49 0 3 4j 0 1g 4p 0 c 4j 0 8n 20 0 9 4j 0 m 20 0 a 4j 0 8 20 0 o
  4j 0 6 1x 0 1 4j 0 16 1x 0 1 4j 0 9 1x 0 1x 4j 0 6 q 0 2 4j 0 1 q 0 1 4j 0 18 q 0 1 4j 0 2 q 0 3 4j 0 1 q 0 2 4j
  0 1 q 0 m 4 0 1 4j 0 9 4 0 w 2z 0 v 2o 0 8 4j 0 9 2o 0 1c 4j 0 j 1d 0 1 4j 0 2 1d 0 5 4j 0 5 1d 0 s 35 0 3 4j 0
  1 35 0 q 24 0 5 4j 0 1 24 0 q 4r 0 12 4j 0 w 2d 0 o 2c 0 4 4j 0 k 2c 0 2 4j 0 1a 2c 0 4 1p 0 1 4j 0 2 1p 0 5 4j
  0 8 1p 0 1 4j 0 3 1p 0 1 4j 0 t 1p 0 2 4j 0 3 1p 0 4 4j 0 a 1p 0 7 4j 0 9 1p 0 7 4j 0 w 3c 0 w 2n 0 w 4j 0 13 28
  0 4 4j 0 c 28 0 9 4j 0 1i 6 0 3 4j 0 7 6 0 m 37 0 2 4j 0 8 37 0 j 33 0 5 4j 0 8 33 0 i 34 0 7 4j 0 4 34 0 c 4j 0
  7 34 0 28 4j 0 21 2u 0 1j 4j 0 1f 1j 0 d 4j 0 1f 1j 0 7 4j 0 6 1j 0 14 39 0 8 4j 0 a 39 0 6 4j 0 12 4k 0 3 4j 0
  t 4k 0 8 4j 0 2 4k 0 5s 4j 0 v 3 0 1 4j 0 16 4e 0 1 4j 0 3 4e 0 2 4j 0 2 4e 0 g 4j 0 6 3 0 8 4j 0 9 3 0 x 4j 0 6
  3 0 14 3l 0 8 4j 0 16 3k 0 m 4j 0 q 2y 0 12 4j 0 s n 0 k 4j 0 n z 0 9 4j 0 26 e 0 4 4j 0 10 e 0 9 4j 0 1 e 0 1v
  1u 0 a 4j 0 1 1u 0 2 4j 0 p 3m 0 7 4j 0 a 3m 0 6 4j 0 1h i 0 1 4j 0 i i 0 8 4j 0 13 25 0 9 4j 0 2o 3g 0 1 4j 0 k
  3j 0 b 4j 0 i 1r 0 1 4j 0 1b 1r 0 1q 4j 0 7 2j 0 1 4j 0 1 2j 0 1 4j 0 4 2j 0 1 4j 0 f 2j 0 1 4j 0 b 2j 0 6 4j 0
  1n 3i 0 5 4j 0 a 3i 0 6 4j 0 4 16 0 1 4j 0 8 16 0 2 4j 0 2 16 0 2 4j 0 m 16 0 1 4j 0 7 16 0 1 4j 0 2 16 0 1 4j 0
  5 16 0 1 4j 0 1 4h 0 9 16 0 2 4j 0 2 16 0 2 4j 0 3 16 0 2 4j 0 1 16 0 6 4j 0 1 16 0 5 4j 0 7 16 0 2 4j 0 7 16 0
  3 4j 0 5 16 0 b 4j 0 a 4q 0 1 4j 0 1 4q 0 2 4j 0 1 4q 0 1 4j 0 12 4q 0 1 4j 0 a 4q 0 1 4j 0 1 4q 0 2 4j 0 1 4q 0
  1 4j 0 4 4q 0 1 4j 0 a 4q 0 1 4j 0 2 4q 0 8 4j 0 2 4q 0 t 4j 0 2k 2p 0 1 4j 0 5 2p 0 u 4j 0 20 44 0 8 4j 0 a 44
  0 4m 4j 0 1i 3h 0 2 4j 0 12 3h 0 y 4j 0 1x 2f 0 b 4j 0 a 2f 0 6 4j 0 d 2g 0 j 4j 0 1m 3s 0 6 4j 0 a 3s 0 6 4j 0
  k 2k 0 s 4j 0 r 2 0 2 4j 0 f 2 0 4 4j 0 n 2 0 55 4j 0 1o u 0 2s 4j 0 2b 4a 0 c 4j 0 1 4a 0 7 t 0 2 4j 0 1 t 0 2
  4j 0 8 t 0 1 4j 0 2 t 0 1 4j 0 u t 0 1 4j 0 2 t 0 2 4j 0 c t 0 9 4j 0 a t 0 1y 4j 0 8 2m 0 2 4j 0 1a 2m 0 2 4j 0
  b 2m 0 r 4j 0 20 4g 0 8 4j 0 2b 3n 0 d 4j 0 g j 0 1l 30 0 7 4j 0 a s 0 2e 4j 0 8 3g 0 2g 4j 0 y 4o 0 e 4j 0 a 4o
  0 6 4j 0 9 c 0 1 4j 0 19 c 0 1 4j 0 e c 0 a 4j 0 t c 0 3 4j 0 w 29 0 2 4j 0 m 29 0 1 4j 0 e 29 0 21 4j 0 7 14 0
  1 4j 0 2 14 0 1 4j 0 18 14 0 3 4j 0 1 14 0 1 4j 0 2 14 0 1 4j 0 9 14 0 8 4j 0 a 14 0 6 4j 0 6 13 0 1 4j 0 2 13 0
  1 4j 0 11 13 0 1 4j 0 2 13 0 1 4j 0 6 13 0 7 4j 0 a 13 0 6 4j 0 18 4s 0 4 4j 0 a 4s 0 6u 4j 0 p 26 0 7 4j 0 h 1o
  0 1 4j 0 15 1o 0 3 4j 0 t 1o 0 2d 4j 0 1 22 0 f 4j 0 1e 3v 0 d 4j 0 1 3v 0 pm 4d 0 2u 4j 0 33 4d 0 1 4j 0 5 4d 0
  b 4j 0 5g 4d 0 218 4j 0 2r p 0 d 4j 0 uu x 0 a 4j 0 32z x 0 5 4j 0 g7 1g 0 5a1 4j 0 1m 4l 0 1c6 4j 0 ft 8 0 7 4j
  0 v 2h 0 1 4j 0 a 2h 0 4 4j 0 2 2h 0 27 45 0 1 4j 0 a 45 0 6 4j 0 u 9 0 2 4j 0 6 9 0 a 4j 0 1y 1h 0 a 4j 0 a 1h
  0 1 4j 0 7 1h 0 1 4j 0 l 1h 0 5 4j 0 j 1h 0 c0 4j 0 1m 4m 0 5i 4j 0 2j 2a 0 5 4j 0 p 4t 0 2 4j 0 p 4t 0 18 4j 0
  23 36 0 4 4j 0 1l 36 0 7 4j 0 h 36 0 1s 4j 0 1 3w 0 1 2r 0 2 1b 0 1 1s 0 b 4j 0 7 1b 0 9 4j 0 5c0 3w 0 d2 1s 0
  15 4j 0 1 1s 0 v 3w 0 2p 4j 0 37 3w 0 6pp 4j 0 4 1n 0 1 4j 0 7 1n 0 1 4j 0 2 1n 0 1 4j 0 1 1n 0 7z 1f 0 3 1n 0 f
  4j 0 1 1f 0 t 4j 0 3 1f 0 2 4j 0 1 1n 0 e 4j 0 4 1n 0 8 4j 0 b0 2r 0 1s4 4j 0 2z w 0 5 4j 0 d w 0 3 4j 0 9 w 0 7
  4j 0 a w 0 2 4j 0 4 w 0 4 4i 0 318 4j 0 71 4i 0 3 4j 0 c4 4i 0 6 4j 0 n 4i 0 f 4j 0 h 4i 0 f 4j 0 1a 4h 0 2 4j 0
  n 4h 0 9 4j 0 38 4i 0 1o 4j 0 6u 4i 0 a 4j 0 13 4i 0 2 4j 0 1q 4i 0 3 4h 0 h 4i 0 8 4h 0 2 4i 0 7 4h 0 u 4i 0 4
  4h 0 1p 4i 0 l 4j 0 1y 17 0 3e 4j 0 k 4i 0 c 4j 0 k 4i 0 c 4j 0 2f 4i 0 9 4j 0 p 4i 0 3r 4j 0 2d 4i 0 1 4j 0 1z
  4i 0 1 4j 0 2 4i 0 2 4j 0 1 4i 0 2 4j 0 2 4i 0 2 4j 0 4 4i 0 1 4j 0 c 4i 0 1 4j 0 1 4i 0 1 4j 0 7 4i 0 1 4j 0 1t
  4i 0 1 4j 0 4 4i 0 2 4j 0 8 4i 0 1 4j 0 7 4i 0 1 4j 0 s 4i 0 1 4j 0 4 4i 0 1 4j 0 5 4i 0 1 4j 0 1 4i 0 3 4j 0 7
  4i 0 1 4j 0 9g 4i 0 2 4j 0 84 4i 0 2 4j 0 1e 4i 0 i4 3e 0 f 4j 0 5 3e 0 1 4j 0 f 3e 0 uo 4j 0 v 1x 0 6 4j 0 6 1x
  0 5x 4j 0 7 12 0 1 4j 0 h 12 0 2 4j 0 7 12 0 1 4j 0 2 12 0 1 4j 0 5 12 0 5 4j 0 1q r 0 x 4j 0 1 r 0 34 4j 0 19
  1i 0 3 4j 0 e 1i 0 2 4j 0 a 1i 0 4 4j 0 2 1i 0 8w 4j 0 v 46 0 h 4j 0 1m 4b 0 5 4j 0 1 4b 0 cw 4j 0 16 2l 0 5y 4j
  0 17 4n 0 4 4j 0 1 4n 0 5c 4j 0 v 4u 0 1 4j 0 m 4u 0 8 4j 0 2 4u 0 68 4j 0 7 10 0 1 4j 0 4 10 0 1 4j 0 2 10 0 1
  4j 0 f 10 0 1 4j 0 5h 2b 0 2 4j 0 g 2b 0 15 4j 0 24 0 0 4 4j 0 a 0 0 4 4j 0 2 0 0 lt 4j 0 1w 4i 0 24 4j 0 1p 4i
  0 5e 4j 0 4 3 0 1 4j 0 r 3 0 1 4j 0 2 3 0 1 4j 0 1 3 0 2 4j 0 1 3 0 1 4j 0 a 3 0 1 4j 0 4 3 0 1 4j 0 1 3 0 1 4j
  0 1 3 0 6 4j 0 1 3 0 4 4j 0 1 3 0 1 4j 0 1 3 0 1 4j 0 1 3 0 1 4j 0 3 3 0 1 4j 0 2 3 0 1 4j 0 1 3 0 2 4j 0 1 3 0
  1 4j 0 1 3 0 1 4j 0 1 3 0 1 4j 0 1 3 0 1 4j 0 1 3 0 1 4j 0 2 3 0 1 4j 0 1 3 0 2 4j 0 4 3 0 1 4j 0 7 3 0 1 4j 0 4
  3 0 1 4j 0 4 3 0 1 4j 0 1 3 0 1 4j 0 a 3 0 1 4j 0 h 3 0 5 4j 0 3 3 0 1 4j 0 5 3 0 1 4j 0 h 3 0 1g 4j 0 2 3 0 7i
  4j 0 18 4i 0 4 4j 0 2s 4i 0 c 4j 0 f 4i 0 2 4j 0 f 4i 0 1 4j 0 f 4i 0 1 4j 0 11 4i 0 a 4j 0 4u 4i 0 1k 4j 0 q 4i
  0 1 1f 0 2 4i 0 d 4j 0 18 4i 0 4 4j 0 9 4i 0 7 4j 0 2 4i 0 e 4j 0 6 4i 0 4a 4j 0 rd 4i 0 3 4j 0 h 4i 0 3 4j 0 d
  4i 0 3 4j 0 62 4i 0 6 4j 0 c 4i 0 4 4j 0 1 4i 0 f 4j 0 c 4i 0 4 4j 0 1k 4i 0 8 4j 0 a 4i 0 6 4j 0 14 4i 0 8 4j 0
  u 4i 0 2 4j 0 c 4i 0 4 4j 0 2 4i 0 e 4j 0 9 4i 0 13 4j 0 9k 4i 0 8 4j 0 e 4i 0 2 4j 0 d 4i 0 3 4j 0 b 4i 0 3 4j
  0 1l 4i 0 1 4j 0 1 4i 0 4 4j 0 g 4i 0 2 4j 0 c 4i 0 4 4j 0 a 4i 0 7 4j 0 43 4i 0 1 4j 0 2v 4i 0 sl 4j 0 wyo 1b 0
  w 4j 0 3dq 1b 0 2 4j 0 4ge 1b 0 2 4j 0 5rl 1b 0 f 4j 0 ha 1b 0 1wi 4j 0 f2 1b 0 15u 4j 0 3t7 1b 0 5 4j 0 6ju 1b
  0 f5vr 4j 0 1 4i 0 u 4j 0 2o 4i 0 3k 4j 0 6o 4h 0 47bk 4j"

/-- Scripts by their first name, with the ranges where the property of extensions differs. -/
def extensions : List (String × String) := [
  ("adlm", "17j 1 w 1 55a 1 2r5 1"),
  ("aghb", "lg 1 18 1 18 1"),
  ("arab", "170 1 e 1 3 1 w 1 a b q 1 53y 1 2r5 1 14vw 2 140 s"),
  ("armn", "lk 1"),
  ("avst", "53 1 8zc 2"),
  ("beng", "jg 1 1as 2 h 2 3u2 1 1 1 2 2 1 1 8 1 8 1 2 1 4 1 2 3 rnd 1"),
  ("bopo", "jr 1 1 3 d 1 8x3 3 4 a 1 d a 4 2 1 6 1 5f 1 14jt 2 7u 5"),
  ("bugi", "xjj 1"),
  ("buhd", "4l1 2"),
  ("cakm", "1ye a 18w a"),
  ("cari", "53 1 68y 1 2 1 2qb 1"),
  ("cher", "lc 3 1 1 6 2 m 2 b 2"),
  ("copt", "53 1 g8 1 3 2 1 1 30 2 8f5 1 1614 s"),
  ("cpmn", "1erk 2"),
  ("cprt", "1erk 3 4 19 3 9"),
  ("cyrl", "jg 1 1v 3 1 1 1 1 1 1 2 1 5 1 ab 2 50x 1 37u 1"),
  ("deva", "jg 1 1as 2 h 2 3u2 13 1 2 s6 1 qpr a"),
  ("dogr", "1us c vcw a"),
  ("dupl", "53 1 gf 2 1 1 o 2 8if 1 26oz 4"),
  ("elba", "53 1 gd 1"),
  ("ethi", "lq 1"),
  ("geor", "53 1 y9 1 29d 1 31a 1 2qe 1"),
  ("glag", "53 1 gb 1 1 1 am 1 2 1 75 1 29d 1 31a 1 2qw 1 nqj 1"),
  ("gong", "53 1 1po 2"),
  ("gonm", "1us 2"),
  ("goth", "53 1 gc 2 2 1 14 1"),
  ("gran", "1u9 2 h 2 hs e 3bw 1 1 2 u 3 3 2 s6 1 1buy 1 2hg 2 1 1"),
  ("grek", "53 1 g8 2 2 1 1 1 1 1 a 1 1a 1 2 1 1a 1 56z 2 ij 1"),
  ("gujr", "1u9 2 h 2 vd6 a"),
  ("guru", "1u9 2 h 2 vd6 a"),
  ("hang", "9hd 3 4 a 1 d g 1 6 1 5f 1 14jt 2 7u 5"),
  ("hani",
    "53 1 9bs g 1 3 2 1 1 a 1 d a 4 2 1 6 1 4 4 57 1 44 g w 12 9 1 1c 14 1k 1d f c 1f 1 2g p a 5 2o v mpt 8 h8d 2
    7u 5 15ve i 63i 2"),
  ("hano", "4l1 2"),
  ("hebr", "lj 2"),
  ("hira", "9hd 3 4 a 1 d g 6 1 1 4 2 2j 4 3 1 2i 2 14js 2 7u 5 a 1 19 2"),
  ("hung", "6e2 1 2 1 2qb 1 f 1"),
  ("java", "xjj 1"),
  ("kali", "xf2 1"),
  ("kana", "lh 1 t 1 8v1 3 4 a 1 d g 6 1 1 4 2 2j 4 3 1 2i 2 14js 2 7u 5 a 1 19 2"),
  ("khoj", "25i a v28 a"),
  ("knda", "1u9 2 h 2 3u2 1 1 2 6 1 n 1 1 1 ri3 6"),
  ("kthi", "1uu a 79d 1 o3i a"),
  ("latn",
    "53 1 ec 1 a 1 1 3 1 1 9 1 1 1 12 f 1 2 1 1 f 3 7 2 1 2 12 1 5 1 4 d 7p 2 y2 2 1ig 1 2kc 1 fq 1 5c 1 2li 1
    nvs 8 fa 1"),
  ("limb", "1ut 1"),
  ("lina", "1err 19"),
  ("linb", "1erk 3 4 19 3 9"),
  ("lisu", "jg 1 g 1 8xo 2"),
  ("lyci", "6e2 1"),
  ("lydi", "53 1 8zd 1"),
  ("mahj", "53 1 1po c vcw a"),
  ("mand", "18g 1"),
  ("mani", "18g 1"),
  ("mero", "6e5 1"),
  ("mlym", "1u9 2 h 2 3uc 1 n 1 ri5 3"),
  ("modi", "x80 a"),
  ("mong", "4qq 2 1 1 1m1 1 34h 2 5 4"),
  ("mult", "21y a"),
  ("mymr", "xf2 1"),
  ("nand", "1u9 1 i 2 ow a 35l 1 8 1 7 1 rhx 6"),
  ("newa", "1u9 2 3uq 1 1 2 9 1 6 1 1 1 1 1"),
  ("nkoo", "170 1 e 1 3 1 1cta 2"),
  ("orkh", "6e2 1 2qd 1"),
  ("orya", "1u9 2 h 2 3uc 1 n 1"),
  ("osge", "ld 1 2 1 6 1 24 1"),
  ("ougr", "18g 1 1fht 1"),
  ("perm", "53 1 g8 1 5 3 a 1 a7 1"),
  ("phag", "4qq 2 1 1 1m1 1 34i 1"),
  ("phlp", "18g 1"),
  ("rohg", "170 1 e 1 3 1 w 1 43 1"),
  ("runr", "4iz 3"),
  ("samr", "94h 1"),
  ("shaw", "53 1"),
  ("shrd", "1u9 1 3ut 1 1 1 2 2 2 1 9 1 2 1 ria 6 2 1"),
  ("sind", "1us 2 vd6 a"),
  ("sinh", "1us 2 3v0 1"),
  ("sogd", "18g 1"),
  ("sylo", "1us 2 3k a"),
  ("syrc", "lf 2 2 2 1 1 o 3 7 2 1 2 ka 1 e 2 2 1 w 1 a b q 1 4nb 1 1 1"),
  ("tagb", "4l1 2"),
  ("takr", "1us 2 vd6 a"),
  ("tale", "lc 2 5 2 3 1 2lv a"),
  ("taml", "1u9 2 h 2 3uc 1 ro8 1 ky5 1 1 1 1j 2"),
  ("tang", "9gw g dr 1"),
  ("telu", "1u9 2 h 2 3u7 2 1 1 1 1 n 1"),
  ("tfng", "le 1 1 1 1 4 p 1"),
  ("tglg", "4l1 2"),
  ("thaa", "170 1 e 2 2 1 1s a 1cw8 1 a 1"),
  ("thai", "jg 1 q 1 17 1 19 1"),
  ("tibt", "9hk 4"),
  ("tirh", "1u9 2 h 2 3u7 1 c 1 f 1 ri5 a"),
  ("toto", "jg 1"),
  ("yezi", "170 1 e 1 3 1 1s a"),
  ("yiii", "9hd 2 5 a 2 8 67 1 14rp 5"),
  ("zinh",
    "lc f 1 2 1 1 f 3 7 2 1 2 g 1 2 1 i 1 5 1 4 d 7p 2 ck b q 1 kg 2 3ul 3 1 d 1 7 4 1 6 1 3 2 5i 2 1i 1 1 1 l1 1
    309 4 2z 2 15j9 1 38a 1"),
  ("zyyy",
    "53 1 ec 1 a 1 1 3 1 1 9 1 1 1 4a 1 if 1 e 1 3 1 w 1 mb 2 1hx 1 167 3 1z 2 5n 2 1 1 y5 1 d 1 7 4 1 6 1 3 2 1
    ms 1 v 1 a 1 2 1 2pl 1 o 2 a 1 4 1 1 1 bw g 1 3 2 1 1 a 1 d g 6 1 1 4 4 2j 2 3 1 2i 2 43 g w 12 9 1 1c 14 1k
    1d f c 1f 1 2g p a 5 2o v mpt 8 88 a 6s 1 4g 1 gha 2 79 2 7u 5 a 1 19 2 9s 3 4 19 3 9 bl r 10o4 4 4ho i 63i
    2"),
  ("gara", "170 1 e 1 3 1"),
  ("gukh", "1ut 1"),
  ("onao", "1us 2"),
  ("sunu", "lc 2 1 1 9 1 2 1 s 1 3 1"),
  ("todr", "ld 1 2 1 2 1 9 1 1 1 22 1"),
  ("tutg", "2jq a 35u 1 1 1 ri3 6 57 1")]

end WikiGateway.Unicode.ScriptData
