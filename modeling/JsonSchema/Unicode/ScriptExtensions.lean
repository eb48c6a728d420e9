/-!
# Script extensions

Some code points are used with several scripts. For each script the entry gives the code points
that its extension adds to the script itself, and those that it leaves out.
-/

namespace JsonSchema.Unicode

/-- What the extension of a script adds to it and takes from it. -/
def scriptExtensions : List (String × String × String) := [
  ("adlm",
    "17j 1 w 1 55a 1 2r5 1",
    ""),
  ("aghb",
    "lg 1 18 1 18 1",
    ""),
  ("arab",
    "170 1 e 1 3 1 w 1 a b q 1 53y 1 2r5 1 14vw 2 140 s",
    ""),
  ("armn",
    "lk 1",
    ""),
  ("avst",
    "53 1 8zc 2",
    ""),
  ("beng",
    "jg 1 1as 2 h 2 3u2 1 1 1 2 2 1 1 8 1 8 1 2 1 4 1 2 3 rnd 1",
    ""),
  ("bopo",
    "jr 1 1 3 d 1 8x3 3 4 a 1 d a 4 2 1 6 1 5f 1 14jt 2 7u 5",
    ""),
  ("bugi",
    "xjj 1",
    ""),
  ("buhd",
    "4l1 2",
    ""),
  ("cakm",
    "1ye a 18w a",
    ""),
  ("cari",
    "53 1 68y 1 2 1 2qb 1",
    ""),
  ("cher",
    "lc 3 1 1 6 2 m 2 b 2",
    ""),
  ("copt",
    "53 1 g8 1 3 2 1 1 30 2 8f5 1 1614 s",
    ""),
  ("cpmn",
    "1erk 2",
    ""),
  ("cprt",
    "1erk 3 4 19 3 9",
    ""),
  ("cyrl",
    "jg 1 1v 3 1 1 1 1 1 1 2 1 5 1 ab 2 50x 1 37u 1",
    ""),
  ("deva",
    "jg 1 1as 2 h 2 3u2 13 1 2 s6 1 qpr a",
    ""),
  ("dogr",
    "1us c vcw a",
    ""),
  ("dupl",
    "53 1 gf 2 1 1 o 2 8if 1 26oz 4",
    ""),
  ("elba",
    "53 1 gd 1",
    ""),
  ("ethi",
    "lq 1",
    ""),
  ("gara",
    "170 1 e 1 3 1",
    ""),
  ("geor",
    "53 1 y9 1 29d 1 31a 1 2qe 1",
    ""),
  ("glag",
    "53 1 gb 1 1 1 am 1 2 1 75 1 29d 1 31a 1 2qw 1 nqj 1",
    ""),
  ("gong",
    "53 1 1po 2",
    ""),
  ("gonm",
    "1us 2",
    ""),
  ("goth",
    "53 1 gc 2 2 1 14 1",
    ""),
  ("gran",
    "1u9 2 h 2 hs e 3bw 1 1 2 u 3 3 2 s6 1 1buy 1 2hg 2 1 1",
    ""),
  ("grek",
    "53 1 g8 2 2 1 1 1 1 1 a 1 1a 1 2 1 1a 1 56z 2 ij 1",
    ""),
  ("gujr",
    "1u9 2 h 2 vd6 a",
    ""),
  ("gukh",
    "1ut 1",
    ""),
  ("guru",
    "1u9 2 h 2 vd6 a",
    ""),
  ("hang",
    "9hd 3 4 a 1 d g 1 6 1 5f 1 14jt 2 7u 5",
    ""),
  ("hani",
    "53 1 9bs g 1 3 2 1 1 a 1 d a 4 2 1 6 1 4 4 57 1 44 g w 12 9 1 1c 14 1k 1d f c 1f 1 2g p a 5
    2o v mpt 8 h8d 2 7u 5 15ve i 63i 2",
    ""),
  ("hano",
    "4l1 2",
    ""),
  ("hebr",
    "lj 2",
    ""),
  ("hira",
    "9hd 3 4 a 1 d g 6 1 1 4 2 2j 4 3 1 2i 2 14js 2 7u 5 a 1 19 2",
    ""),
  ("hung",
    "6e2 1 2 1 2qb 1 f 1",
    ""),
  ("java",
    "xjj 1",
    ""),
  ("kali",
    "xf2 1",
    ""),
  ("kana",
    "lh 1 t 1 8v1 3 4 a 1 d g 6 1 1 4 2 2j 4 3 1 2i 2 14js 2 7u 5 a 1 19 2",
    ""),
  ("khoj",
    "25i a v28 a",
    ""),
  ("knda",
    "1u9 2 h 2 3u2 1 1 2 6 1 n 1 1 1 ri3 6",
    ""),
  ("kthi",
    "1uu a 79d 1 o3i a",
    ""),
  ("latn",
    "53 1 ec 1 a 1 1 3 1 1 9 1 1 1 12 f 1 2 1 1 f 3 7 2 1 2 12 1 5 1 4 d 7p 2 y2 2 1ig 1 2kc 1
    fq 1 5c 1 2li 1 nvs 8 fa 1",
    ""),
  ("limb",
    "1ut 1",
    ""),
  ("lina",
    "1err 19",
    ""),
  ("linb",
    "1erk 3 4 19 3 9",
    ""),
  ("lisu",
    "jg 1 g 1 8xo 2",
    ""),
  ("lyci",
    "6e2 1",
    ""),
  ("lydi",
    "53 1 8zd 1",
    ""),
  ("mahj",
    "53 1 1po c vcw a",
    ""),
  ("mand",
    "18g 1",
    ""),
  ("mani",
    "18g 1",
    ""),
  ("mero",
    "6e5 1",
    ""),
  ("mlym",
    "1u9 2 h 2 3uc 1 n 1 ri5 3",
    ""),
  ("modi",
    "x80 a",
    ""),
  ("mong",
    "4qq 2 1 1 1m1 1 34h 2 5 4",
    ""),
  ("mult",
    "21y a",
    ""),
  ("mymr",
    "xf2 1",
    ""),
  ("nand",
    "1u9 1 i 2 ow a 35l 1 8 1 7 1 rhx 6",
    ""),
  ("newa",
    "1u9 2 3uq 1 1 2 9 1 6 1 1 1 1 1",
    ""),
  ("nkoo",
    "170 1 e 1 3 1 1cta 2",
    ""),
  ("onao",
    "1us 2",
    ""),
  ("orkh",
    "6e2 1 2qd 1",
    ""),
  ("orya",
    "1u9 2 h 2 3uc 1 n 1",
    ""),
  ("osge",
    "ld 1 2 1 6 1 24 1",
    ""),
  ("ougr",
    "18g 1 1fht 1",
    ""),
  ("perm",
    "53 1 g8 1 5 3 a 1 a7 1",
    ""),
  ("phag",
    "4qq 2 1 1 1m1 1 34i 1",
    ""),
  ("phlp",
    "18g 1",
    ""),
  ("rohg",
    "170 1 e 1 3 1 w 1 43 1",
    ""),
  ("runr",
    "4iz 3",
    ""),
  ("samr",
    "94h 1",
    ""),
  ("shaw",
    "53 1",
    ""),
  ("shrd",
    "1u9 1 3ut 1 1 1 2 2 2 1 9 1 2 1 ria 6 2 1",
    ""),
  ("sind",
    "1us 2 vd6 a",
    ""),
  ("sinh",
    "1us 2 3v0 1",
    ""),
  ("sogd",
    "18g 1",
    ""),
  ("sunu",
    "lc 2 1 1 9 1 2 1 s 1 3 1",
    ""),
  ("sylo",
    "1us 2 3k a",
    ""),
  ("syrc",
    "lf 2 2 2 1 1 o 3 7 2 1 2 ka 1 e 2 2 1 w 1 a b q 1 4nb 1 1 1",
    ""),
  ("tagb",
    "4l1 2",
    ""),
  ("takr",
    "1us 2 vd6 a",
    ""),
  ("tale",
    "lc 2 5 2 3 1 2lv a",
    ""),
  ("taml",
    "1u9 2 h 2 3uc 1 ro8 1 ky5 1 1 1 1j 2",
    ""),
  ("tang",
    "9gw g dr 1",
    ""),
  ("telu",
    "1u9 2 h 2 3u7 2 1 1 1 1 n 1",
    ""),
  ("tfng",
    "le 1 1 1 1 4 p 1",
    ""),
  ("tglg",
    "4l1 2",
    ""),
  ("thaa",
    "170 1 e 2 2 1 1s a 1cw8 1 a 1",
    ""),
  ("thai",
    "jg 1 q 1 17 1 19 1",
    ""),
  ("tibt",
    "9hk 4",
    ""),
  ("tirh",
    "1u9 2 h 2 3u7 1 c 1 f 1 ri5 a",
    ""),
  ("todr",
    "ld 1 2 1 2 1 9 1 1 1 22 1",
    ""),
  ("toto",
    "jg 1",
    ""),
  ("tutg",
    "2jq a 35u 1 1 1 ri3 6 57 1",
    ""),
  ("yezi",
    "170 1 e 1 3 1 1s a",
    ""),
  ("yiii",
    "9hd 2 5 a 2 8 67 1 14rp 5",
    ""),
  ("zinh",
    "",
    "lc f 1 2 1 1 f 3 7 2 1 2 g 1 2 1 i 1 5 1 4 d 7p 2 ck b q 1 kg 2 3ul 3 1 d 1 7 4 1 6 1 3 2
    5i 2 1i 1 1 1 l1 1 309 4 2z 2 15j9 1 38a 1"),
  ("zyyy",
    "",
    "53 1 ec 1 a 1 1 3 1 1 9 1 1 1 4a 1 if 1 e 1 3 1 w 1 mb 2 1hx 1 167 3 1z 2 5n 2 1 1 y5 1 d 1
    7 4 1 6 1 3 2 1 ms 1 v 1 a 1 2 1 2pl 1 o 2 a 1 4 1 1 1 bw g 1 3 2 1 1 a 1 d g 6 1 1 4 4 2j 2
    3 1 2i 2 43 g w 12 9 1 1c 14 1k 1d f c 1f 1 2g p a 5 2o v mpt 8 88 a 6s 1 4g 1 gha 2 79 2 7u
    5 a 1 19 2 9s 3 4 19 3 9 bl r 10o4 4 4ho i 63i 2")]

end JsonSchema.Unicode
