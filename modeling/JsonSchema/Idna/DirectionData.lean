/-!
# Directional classes

The classes of code points that the rule for names written from right to left speaks of, as runs
of a gap and a length in turn, in base 36. A code point listed nowhere runs from left to right.
-/

namespace JsonSchema.Idna.DirectionData

/-- The code points of each class but the left-to-right one. -/
def classes : List (String × String) := [
  ("R",
    "13k 1 19 1 1 1 2 1 2 1 1 1k cg 17 9 2 4 3 1 o 4 1 9 1 3 1 5 17 3 4 4of 1 179p 1 1 a 1 12
    2i8 7z 1 69 3 1 2 5 4 14 3 4 1 4l 2 2a 7 cg 1s 80 v 18 2 j 1s 1c 1s i 4 3e 16o0 5s 7 31 7 md
    28 1s 28 4w 74 74"),
  ("AL",
    "16w 1 2 1 1 1 d 1c y 3 1 2t f 2 7 2 a n 1 u r 2j b f 4g 1c 2 6 8 16 1bwm dq i 3j x d 37 3z
    2rl 10 4 8 a 6 ao 1p 1f m b v 17nk 28 1s 28 4w 6o 2 e"),
  ("AN",
    "16o 6 2i a 1 2 34 1 c2 2 28 1 1ff1 a 86 v"),
  ("EN",
    "1c a 3c 2 5 1 186 a 512 1 3 6 6 a se k 175g a qv r 161e 1e 4xs b 25h a"),
  ("ES",
    "17 1 1 1 6do 2 e 2 au 1 16vq 1 mw 2 4n 1 1 1"),
  ("CS",
    "18 1 1 2 a 1 2t 1 12j 1 55u 1 k 1 17uz 1 1 1 2 1 52 1 1 2 a 1"),
  ("ET",
    "z 3 3g 4 a 2 yl 1 3d 2 2n 1 p3 2 7 1 6t 1 7b 1 g5 1 1wb 1 1n8 5 2z 1c 2m 1 6c 1 qhw 2 h0l 1
    9 2 48 3 62 2 3 2 6ba 4 12ji 1"),
  ("ON",
    "x 2 3 5 g 6 q 6 q 4 y 1 4 4 1 2 1 2 4 1 1 3 2 5 n 1 v 1 ch 2 7 e 2 e 5 9 1 h 38 2 8 1 5 2 1
    1 32 1 b7 1 2 2 3b 2 6 2 5q 1 a 1 7g 4 s9 6 1 1 3h 7 jf 4 uq a 2u 1 ii 2 9f a 6 b 8l 1 3 2
    48 y 14t 1 1 3 b 3 d 3 d 3 d 2 h o d f 1 q t 3 d 3 35 2 1 4 1 2 a 1 1 3 5 6 1 1 1 1 1 1 g 2
    4 5 5 4 2 g 15 3 4 3m 2 82 1x q 1 41 p b l 14 2q ci 1 9f 74 hg 2 w 1 2x 6d 6 e 7 74 2m y q 1
    2h c 5y q c 5 4 3 p f 1 5 2 5 3 2j 2 3 1 2i 1 5g 10 1l 2 1d g s 3 1e f c 4 4n 4 2r 2 v 1 534
    1s h3k 1j 92 3 2r 1 a 2 3k y 2u 1 4f 4 20 4 ky 2 g5u i 3j 1 19 3 g a m w 1 1 2 1 1 9 1 2 2 3
    1 1 2 1 45 2 3 5 g 6 q 6 q b 3g 3 3 7 a 5 77 1 1q 25 3 d 3 1 1ha 1 ex 7 102 k 16i d 1uw 8 4
    h fsg 1 jd2 2 l 1u 3 1 56 2f p0 1 1l 1 1l 1 1l 1 1l 1 4ks 2 7i 18 4 2s c f 2 f 1 f 1 11 l 5
    v 1 1m 6 1p 1 4y 6 4a rc 4 h 3 d 3 3b 4 2n 6 c 4 1 f c 4 1k 8 a 6 14 8 u 2 2 26 9g c e 2 d 3
    9 7 1a 1 7 8 e 4 9 7 9 7 43 1 1j"),
  ("BN",
    "0 9 5 e 2r 6 1 q d 1 4m8 1 1ks 3 2a 6 4 6 17q8 w 7j 1 6o 9 5 2 119c 4 43z 8 96r 2 1eke 2
    1eke 2 1eke 2 1eke 2 1eke 2 1eke 2 1eke 2 1eke 2 1eke 2 1eke 2 1eke 2 1eke 76 6o 2s0 1bem 2
    1eke 2 1eke 2"),
  ("NSM",
    "lc 34 7n 7 7b 19 1 1 1 2 1 2 1 1 20 b 1c l g 1 2t 7 2 6 2 2 1 4 z 1 u r 2j b 1m 9 9 1 o 4 1
    9 1 3 1 5 17 3 1o 8 16 o 1 w 1j 1 1 1 4 8 4 1 3 7 a 2 t 1 1m 1 4 4 8 1 k 2 q 1 2 2 1l 1 4 2
    4 2 2 3 3 1 u 2 3 1 b 2 1l 1 4 5 1 2 4 1 k 2 m 6 1 1 1m 1 2 1 1 4 8 1 7 2 b 2 u 1 1p 1 c 1
    1e 1 3 1 1j 1 1 3 5 3 1 4 7 2 b 2 t 1 1m 1 f 2 k 2 s 2 1l 2 4 4 8 1 k 2 t 1 20 1 7 3 1 1 2i
    1 2 7 c 8 2q 1 2 9 b 7 21 2 r 1 1 1 1 1 1j e 1 5 1 2 5 b 1 10 9 1 2u 4 1 6 1 2 2 2 p 2 4 3 g
    4 d 1 2 2 6 1 f 1 jj 3 qa 3 t 2 u 2 u 2 1s 2 1 7 8 1 2 b 9 1 19 3 1 1 39 2 y 1 3a 3 4 2 9 1
    6 3 63 2 2 1 1m 1 1 7 1 1 1 1 2 8 6 a 2 1 1c v 1d 4 1c 1 1 5 1 1 5 1 14 9 c 2 w 4 2 2 1 3 1k
    1 1 2 3 1 1 3 1m 8 2 2 48 3 1 d 1 7 4 1 6 1 3 2 5i 1s k0 x 2da 3 3x 1 2o w fe 4 2z 2 n9w 4 1
    a w 2 28 2 7k 1 3 1 4 1 p 2 5 1 47 2 q i d 1 12 8 p b 1a 3 1c 1 2 4 2 2 13 1 1v 6 2 2 2 2 c
    1 8 1 1b 1 1f 1 1 3 2 2 5 2 1 1 16 2 8 1 6m 1 2 1 4 1 fn4 1 kh g g g r1 1 6a 1 45 5 1ae 3 1
    2 5 4 14 3 4 1 4l 2 fx 4 ar 2 28 3 1y b 1d 4 3f 1 1i f 15 1 2 2 a 3 1d 4 2 2 7 1 1p 3 10 5 1
    8 1q 1 c 2 1g 9 a 4 2 1 2n 3 2 1 1 2 6 1 2 1 4d 1 3 8 l 2 1l 2 3 1 11 7 3 5 5f 8 2 3 1 1 n 1
    2c 6 1 1 4 2 1 2 6m 4 6 2 1 2 r 2 2d 8 2 1 1 2 2y 1 1 1 2 6 1 1 2t 3 2 4 1 5 77 9 1 2 74 2 1
    1 4 1 40 4 2 2 4 1 w 6 2 2 14 6 2 4 8 1 9 6 2 3 1a d 1 2 ba 7 1 6 2c m 2 7 1 2 1 2 3e 6 3 1
    1 2 1 7 1 1 20 2 3 1 1 1 9n 2 b 2 1g 5 5 1 1 1 459 1 6 f asa 5 1n 7 t4 1 1r 4 29 1 f5k 2 3mp
    1a 2 n f4 3 h 8 2 7 u 4 44 3 1iz 1j 4 1e 8 1 e 1 m 5 1 f 11s 7 1 h 2 7 1 2 1 5 2s 1 4g 7 af
    1 1p 4 e4 4 rk 7 31 7 gzhx 6o"),
  ("other",
    "9 5 e 5 2s 1 4ca 1 1vj b t 7 1c 1 6 4 32u 1")]

end JsonSchema.Idna.DirectionData
