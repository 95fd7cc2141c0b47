import Swatchbook.Text.Property

/-!
# Break classes

The part that characters play where text is broken into clusters, words and
sentences.
-/

namespace Swatchbook.Text.Break

/-- The names of a kind of break, and its classes. -/
def kinds : List (List String × List Property) := [
  (["graphemeclusterbreak", "gcb"], [
    ⟨["control", "cn"], "Cc Zl Zp",
"a 1 2 1 4f 1 12m 1 3jl 1 1ks 1 2 2 q 5 1d 5 1 a 17yn 1 6x 3 ab8 g qxs 4 43z 8 h406 1"⟩,
    ⟨["cr"], "",
"d 1"⟩,
    ⟨["extend", "ex"], "Cf Me Mn",
"4t 1 11u 6 m 1 5c 1 1d 1 ao 2 28 1 63 1 o 1 9y 1 o 1 2u 1 o 1 6i 1 i 2 2v 1 o 1 3b 1 f 1 20e 1
me 1 yd 1 1 3 q 5 1d 5 1 a 33y 2 14un 1 4e 2 2h 3 3b5 1 f 1 hc 1 o 1 9k 1 c 1 6p 1 a6 1 ep 1
5bz g qxs 4 43l 1 8 d 6tc 5 gx6p 1"⟩,
    ⟨["l"], "",
"3cw 2o u0w t"⟩,
    ⟨["lf"], "",
"a 1"⟩,
    ⟨["lv"], "",
"xz4 1 r 1 r 1 r 1 r 1 r 1 r 1 r 1 r 1 r 1 r 1 r 1 r 1 r 1 r 1 r 1 r 1 r 1 r 1 r 1 r 1 r 1 r 1
r 1 r 1 r 1 r 1 r 1 r 1 r 1 r 1 r 1 r 1 r 1 r 1 r 1 r 1 r 1 r 1 r 1 r 1 r 1 r 1 r 1 r 1 r 1 r
1 r 1 r 1 r 1 r 1 r 1 r 1 r 1 r 1 r 1 r 1 r 1 r 1 r 1 r 1 r 1 r 1 r 1 r 1 r 1 r 1 r 1 r 1 r 1
r 1 r 1 r 1 r 1 r 1 r 1 r 1 r 1 r 1 r 1 r 1 r 1 r 1 r 1 r 1 r 1 r 1 r 1 r 1 r 1 r 1 r 1 r 1 r
1 r 1 r 1 r 1 r 1 r 1 r 1 r 1 r 1 r 1 r 1 r 1 r 1 r 1 r 1 r 1 r 1 r 1 r 1 r 1 r 1 r 1 r 1 r 1
r 1 r 1 r 1 r 1 r 1 r 1 r 1 r 1 r 1 r 1 r 1 r 1 r 1 r 1 r 1 r 1 r 1 r 1 r 1 r 1 r 1 r 1 r 1 r
1 r 1 r 1 r 1 r 1 r 1 r 1 r 1 r 1 r 1 r 1 r 1 r 1 r 1 r 1 r 1 r 1 r 1 r 1 r 1 r 1 r 1 r 1 r 1
r 1 r 1 r 1 r 1 r 1 r 1 r 1 r 1 r 1 r 1 r 1 r 1 r 1 r 1 r 1 r 1 r 1 r 1 r 1 r 1 r 1 r 1 r 1 r
1 r 1 r 1 r 1 r 1 r 1 r 1 r 1 r 1 r 1 r 1 r 1 r 1 r 1 r 1 r 1 r 1 r 1 r 1 r 1 r 1 r 1 r 1 r 1
r 1 r 1 r 1 r 1 r 1 r 1 r 1 r 1 r 1 r 1 r 1 r 1 r 1 r 1 r 1 r 1 r 1 r 1 r 1 r 1 r 1 r 1 r 1 r
1 r 1 r 1 r 1 r 1 r 1 r 1 r 1 r 1 r 1 r 1 r 1 r 1 r 1 r 1 r 1 r 1 r 1 r 1 r 1 r 1 r 1 r 1 r 1
r 1 r 1 r 1 r 1 r 1 r 1 r 1 r 1 r 1 r 1 r 1 r 1 r 1 r 1 r 1 r 1 r 1 r 1 r 1 r 1 r 1 r 1 r 1 r
1 r 1 r 1 r 1 r 1 r 1 r 1 r 1 r 1 r 1 r 1 r 1 r 1 r 1 r 1 r 1 r 1 r 1 r 1 r 1 r 1 r 1 r 1 r 1
r 1 r 1 r 1 r 1 r 1 r 1 r 1 r 1 r 1 r 1 r 1 r 1 r 1 r 1 r 1 r 1 r 1 r 1 r 1 r 1 r 1 r 1 r 1 r
1 r 1 r 1 r 1 r 1 r 1 r 1 r 1 r 1 r 1 r 1 r 1 r 1 r 1 r 1 r 1 r 1 r 1 r 1 r 1 r 1 r 1 r 1 r 1
r 1 r 1 r 1 r 1 r 1 r 1 r 1 r 1 r 1 r 1 r 1 r 1 r 1 r 1 r 1 r 1 r 1 r 1 r 1 r 1 r 1 r 1 r 1 r
1 r 1 r 1 r 1 r 1 r 1 r 1 r 1 r 1 r 1 r 1 r 1 r 1 r 1 r 1 r 1 r 1 r 1 r 1 r 1 r 1 r 1 r 1 r 1"⟩,
    ⟨["lvt"], "",
"xz5 r 1 r 1 r 1 r 1 r 1 r 1 r 1 r 1 r 1 r 1 r 1 r 1 r 1 r 1 r 1 r 1 r 1 r 1 r 1 r 1 r 1 r 1 r
1 r 1 r 1 r 1 r 1 r 1 r 1 r 1 r 1 r 1 r 1 r 1 r 1 r 1 r 1 r 1 r 1 r 1 r 1 r 1 r 1 r 1 r 1 r 1
r 1 r 1 r 1 r 1 r 1 r 1 r 1 r 1 r 1 r 1 r 1 r 1 r 1 r 1 r 1 r 1 r 1 r 1 r 1 r 1 r 1 r 1 r 1 r
1 r 1 r 1 r 1 r 1 r 1 r 1 r 1 r 1 r 1 r 1 r 1 r 1 r 1 r 1 r 1 r 1 r 1 r 1 r 1 r 1 r 1 r 1 r 1
r 1 r 1 r 1 r 1 r 1 r 1 r 1 r 1 r 1 r 1 r 1 r 1 r 1 r 1 r 1 r 1 r 1 r 1 r 1 r 1 r 1 r 1 r 1 r
1 r 1 r 1 r 1 r 1 r 1 r 1 r 1 r 1 r 1 r 1 r 1 r 1 r 1 r 1 r 1 r 1 r 1 r 1 r 1 r 1 r 1 r 1 r 1
r 1 r 1 r 1 r 1 r 1 r 1 r 1 r 1 r 1 r 1 r 1 r 1 r 1 r 1 r 1 r 1 r 1 r 1 r 1 r 1 r 1 r 1 r 1 r
1 r 1 r 1 r 1 r 1 r 1 r 1 r 1 r 1 r 1 r 1 r 1 r 1 r 1 r 1 r 1 r 1 r 1 r 1 r 1 r 1 r 1 r 1 r 1
r 1 r 1 r 1 r 1 r 1 r 1 r 1 r 1 r 1 r 1 r 1 r 1 r 1 r 1 r 1 r 1 r 1 r 1 r 1 r 1 r 1 r 1 r 1 r
1 r 1 r 1 r 1 r 1 r 1 r 1 r 1 r 1 r 1 r 1 r 1 r 1 r 1 r 1 r 1 r 1 r 1 r 1 r 1 r 1 r 1 r 1 r 1
r 1 r 1 r 1 r 1 r 1 r 1 r 1 r 1 r 1 r 1 r 1 r 1 r 1 r 1 r 1 r 1 r 1 r 1 r 1 r 1 r 1 r 1 r 1 r
1 r 1 r 1 r 1 r 1 r 1 r 1 r 1 r 1 r 1 r 1 r 1 r 1 r 1 r 1 r 1 r 1 r 1 r 1 r 1 r 1 r 1 r 1 r 1
r 1 r 1 r 1 r 1 r 1 r 1 r 1 r 1 r 1 r 1 r 1 r 1 r 1 r 1 r 1 r 1 r 1 r 1 r 1 r 1 r 1 r 1 r 1 r
1 r 1 r 1 r 1 r 1 r 1 r 1 r 1 r 1 r 1 r 1 r 1 r 1 r 1 r 1 r 1 r 1 r 1 r 1 r 1 r 1 r 1 r 1 r 1
r 1 r 1 r 1 r 1 r 1 r 1 r 1 r 1 r 1 r 1 r 1 r 1 r 1 r 1 r 1 r 1 r 1 r 1 r 1 r 1 r 1 r 1 r 1 r
1 r 1 r 1 r 1 r 1 r 1 r 1 r 1 r 1 r 1 r 1 r 1 r 1 r 1 r 1 r 1 r 1 r 1 r 1 r 1 r 1 r 1 r 1 r 1
r 1 r 1 r 1 r 1 r 1 r 1 r 1 r 1 r 1 r 1 r 1 r 1 r 1 r 1 r 1 r 1 r 1 r 1 r 1 r 1 r 1 r 1 r 1 r"⟩,
    ⟨["prepend", "pp"], "",
"16o 6 5z 1 1d 1 ao 2 28 1 vf 1 1f8u 1 f 1 6s 2 1h7 1 1 1 6w 1 21 6 jg 1 cb 1"⟩,
    ⟨["spacingmark", "sm"], "Mc",
"1xa 1 o 1 9y 1 o 1 2u 1 o 1 6i 1 i 2 2v 1 o 1 3b 1 f 1 2b 1 3j 1 af 2 b 1 15 3 2 7 l 1 3 6 2 1
a 3 1xg 1 1 2 5s 1 454 2 o5n 1 1 1 kow 1 o 1 9k 1 c 1 6p 1 a6 1 1 2 em 1 10dw 1 8 5"⟩,
    ⟨["t"], "",
"3hk 2g 132j 1d"⟩,
    ⟨["v"], "",
"3fk 20 1348 n"⟩,
    ⟨["zwj"], "",
"6bx 1"⟩,
    ⟨["regionalindicator", "ri"], "",
"2qcm q"⟩]),
  (["wordbreak", "wb"], [
    ⟨["cr"], "",
"d 1"⟩,
    ⟨["doublequote", "dq"], "",
"y 1"⟩,
    ⟨["extendnumlet", "ex"], "Pc",
"6cv 1"⟩,
    ⟨["extend"], "Cf Mc Me Mn",
"4t 1 11u 6 m 1 5c 1 1d 1 ao 2 28 1 2zv 1 1ks 1 1 3 q 5 1d 5 1 a 17yn 1 4e 2 2h 3 3b5 1 f 1 6zm
g qxs 4 43z 8 6tc 5 gx6p 1"⟩,
    ⟨["format", "fo"], "",
"4t 1 11u 6 m 1 5c 1 1d 1 ao 2 28 1 2zv 1 1kv 2 q 5 1d 5 1 a 17yn 1 6x 3 3b5 1 f 1 6zm g qxs 4
43z 8 h406 1"⟩,
    ⟨["hebrewletter", "hl"], "",
"15c r 4 4 1cfe 1 1 a 1 d 1 5 1 1 1 2 1 2 1 a"⟩,
    ⟨["katakana", "ka"], "",
"9ip 5 2t 2 3 2j 1 4 6o g 5s 1b 1 2g 14b2 1k ytu 4 1 7 1 2 1 1 7z 3 1e 1 e 4"⟩,
    ⟨["aletter", "le"], "Ll Lm Lt Lu Nl",
"4q 1 f 1 74 1 4 4 5s 2 18 4 c 6 6 2 5 7 1 1 1 h gq 3 1 1 17 1 2w 1 18 w 1 a z 2 1 2r 1 1 o 2 a
3 2 1 g 1 1 u t 2h b 1 o x l m 16 p 7 b 5 o 1 6 h 15 1n 1i 3 1 i 1 7 a g f 4 8 2 2 2 m 1 7 1 1
3 4 3 1 g 1 d 2 1 3 e 2 a 1 8 6 4 2 2 m 1 7 1 2 1 2 1 2 v 4 1 1 j 3 g 9 1 3 1 m 1 7 1 2 1 5 3
1 i 1 f 2 n 1 b 8 2 2 2 m 1 7 1 2 1 5 3 1 u 2 1 3 f 1 h 1 1 6 3 3 1 4 3 2 1 1 1 2 3 2 3 3 3 c
m 1 1g 8 1 3 1 n 1 g 3 1 q 3 2 1 2 2 u 1 4 8 1 3 1 n 1 a 1 5 3 1 v 2 1 2 f 2 h 9 1 3 1 15 2 1
g 1 5 3 8 3 o 6 5 i 3 o 1 9 1 1 2 7 3j 1 3j 1 1l 1 1r 8 1 10 r 5 ab 95 1 4 2 7 1 1 1 4 2 15 1
4 2 x 1 4 2 7 1 1 1 4 2 f 1 1l 1 4 2 1v 11 g 35 h8 2 h 1 q 5 23 6 8 7 i d j e i e d 1 3 2u 1
20 z 1 1h 7 5 2 y 1 1 5 1y a v 69 n 40 1 2l 1b h 8 1i u d 2 a 18 q 10 15 3 a u 35 4 1 6 1 2 3
1 u2 4 ot 1g 1mu 1k o n 9 7 1 7 1 7 1 7 1 7 1 7 1 7 1 7 fc 1 p 9 7 5 2 3 1 1 2o 2 2l 3 6 17 1
2m h w ls0 l 1 vr 1v 14 8 7g 4 g a 2 1u 1 1d 1y y f 9 2 2v 2 4 1 2v 1 3 7 1 3 1 4 1 n t 1g e
1e 1q 6 3 1 1 2 b s a n p t 7 1b 1f 1 p 15 n 3 1 8 10 1 30 1 2 b 7 1 e 6 2 6 2 6 9 7 1 7 18 1
2s z t 8mc c n 4 1d 6z8 2q x a3 i 1s 2 1i 14 c 38 5 1 3r 37 1 19 x 3 6 2 6 2 6 2 3 z c 1 q 1 j
1 2 1 f 2 e y 3f at t 3 1d 1b w d k 1 8 6 12 a u 2 10 4 8 3k 26 2q 14 8 1g 4c 8n 9 m a 8 48 6
2 1 1 18 1 2 3 1 2 n a n 9 v 1t j 1 2 a m a q 1y 1k 6 2 1s 1 f 4 1 3 1 t 16 t 3 t z 8 1 s r 1i
a m a j d i 32 21 53 10 9o 16 6 2 26 t a 1 8 m 16 i 1a l r n c 1h 1l 2 2 1 d 19 w p q 10 t 1 2
1 8 z 3 1 c 1c e 4 l 1 1 1 z i 1 p j 2 1r 7 1 1 1 4 1 f 1 a 7 1b 12 8 2 2 2 m 1 7 1 2 1 5 3 1
i 1 c 5 4e 1h i 4 k 3 u 1c k 2 1 1 54 1b 15 4 10 1c k 1 1n 17 d 1 93 18 5v 8 2 1 2 8 1 2 1 o f
1 1 1 2m 8 2 13 g 1 1 1 s 1 a 14 7 1 l 1 b 1a j 1 i 21 7b 9 1 11 h 1 1d u 34 7 1 2 1 12 l 1 p
6 1 2 1 w e 1 93 j f 1 1 d 1 y 3g 1 27 pm 6e 5g 218 2p f ts h 6 33t g7 6nt ft 7 v h 27 h u i
1c 1f l 5 j og 23 5 1 crj 4 1 7 1 2 2dd 2z 5 d 3 9 7 a 6sw 1 dx 19 x 1 8x u i 18 dg r l1 7 1 4
1 2 1 f 1 5h 117 4 1 r 1 2 1 1 2 1 1 a 1 4 1 1 1 1 6 1 4 1 1 1 1 1 1 3 1 2 1 1 2 1 1 1 1 1 1 1
1 1 1 2 1 1 2 4 1 7 1 4 1 4 1 1 1 a 1 h 5 3 1 5 1 h hg q 6 q 6 q"⟩,
    ⟨["lf"], "",
"a 1"⟩,
    ⟨["midnumlet", "mb"], "",
"1a 1 6ax 2 a 1 17vx 1 50 1 6 1"⟩,
    ⟨["midletter", "ml"], "",
"1m 1 3g 1 jz 1 d3 1 44 1 56a 1 17u3 1 1t 1 5g 1"⟩,
    ⟨["midnum", "mn"], "",
"18 1 e 1 n6 1 ei 1 3m 2 2m 1 az 1 4sr 1 17t7 1 3 1 1n 1 3 1 53 1 e 1"⟩,
    ⟨["newline", "nl"], "Zl Zp",
"b 2 3c 1"⟩,
    ⟨["numeric", "nu"], "Nd",
"19n 1"⟩,
    ⟨["regionalindicator", "ri"], "",
"2qcm q"⟩,
    ⟨["singlequote", "sq"], "",
"13 1"⟩,
    ⟨["wsegspace"], "Zs",
"4g 1 67a 1 13 1"⟩,
    ⟨["zwj"], "",
"6bx 1"⟩]),
  (["sentencebreak", "sb"], [
    ⟨["aterm", "at"], "",
"1a 1 6b9 1 17vx 1 57 1"⟩,
    ⟨["close", "cl"], "Pe Pf Pi Ps",
"y 1 4 1 7qr 6 1b3 2 4 3 2 1 2i5m 3"⟩,
    ⟨["cr"], "",
"d 1"⟩,
    ⟨["extend", "ex"], "Cf Mc Me Mn",
"4t 1 11u 6 m 1 5c 1 1d 1 ao 2 28 1 2zv 1 1ks 1 2 2 q 5 1d 5 1 a 17yn 1 4e 2 2h 3 3b5 1 f 1 6zm
g qxs 4 43z 8 h406 1"⟩,
    ⟨["format", "fo"], "",
"4t 1 11u 6 m 1 5c 1 1d 1 ao 2 28 1 2zv 1 1ks 1 2 2 q 5 1d 5 1 a 17yn 1 6x 3 3b5 1 f 1 6zm g
qxs 4 43z 8 h406 1"⟩,
    ⟨["oletter", "le"], "Lo Nl",
"4q 1 f 1 d6 1 z 7 6 c q 1 1 1 3p 1 dg 1 49 1 24 1 4k 2 7h 2 4 1 v 1 9 1 3 1 4g 1 4n 1 yc 1 3j
1 eh 17 2 3 1cn 1 2z 1 gz 1 cw 6 i 17 2 3 ww w 2cv 1 5b 1 d1 1 17 5 5 1 2p 2 2l 3 lxy 1 yq 6
7i 1 36 1 47 9 2w 1 g6 1 m 1 3t 1 30 1 l 2 gor 1 1lc 2 jp9 4 un d 1s 2 1 1 cng 4 1 7 1 2 9q0 7
q5 1 v3 1"⟩,
    ⟨["lf"], "",
"a 1"⟩,
    ⟨["lower", "lo"], "Ll Lm",
"4q 1 f 1 d6 1 z 7 6 c q 1 1 1 3p 1 dg 1 6e 1 4k 2 7h 2 4 1 v 1 9 1 3 1 4g 1 4n 1 yc 1 3j 1 eh
17 2 3 1cn 1 2z 1 gz 1 cw 6 z6 g nk q 1ol 1 5b 1 d1 1 17 5 5 1 2p 2 2l 3 lxy 1 yq 6 7i 1 36 1
47 9 2w 1 g6 1 m 1 3t 1 30 1 l 2 gor 1 19 2 1k1 2 jp9 4 un d 1s 2 1 1 cng 4 1 7 1 2 9q0 7 q5 1
v3 1"⟩,
    ⟨["numeric", "nu"], "Nd",
"19n 2"⟩,
    ⟨["scontinue", "sc"], "",
"18 2 c 1 10i 1 4u 2 dm 1 361 1 5 1 1l6 2 358 1 14pa 2 1 1 t 2 t 2 3 1 2 1 a 1 4o 2 c 1 21 1"⟩,
    ⟨["sep", "se"], "Zl Zp",
"3p 1"⟩,
    ⟨["sp"], "Zs",
"9 1 1 2"⟩,
    ⟨["sterm", "st"], "",
"x 1 t 1 11l 1 43 3 50 1 17 3 6u 1 1p 1 1 1 3 2 85 2 1d0 2 ly 1 4 2 lh 1 5i 2 5o 1 5 1 8q 2 9u
4 4u 2 2 2 t 2 58 2 1t 2 qk 2 9 3 2qs 1 d 1 m 2 bx 1 n3w 1 7i 2 6b 1 3 1 am 2 2e 2 2n 1 48 2
43 3 40 2 6x 1 ga2 2 4p 1 t 1 1t 1 25w 2 zh 5 18 4 59 2 39 4 3j 3 3l 2 6 1 g 2 2g 2 1 2 30 1
bl 2 ad 2 5 f 2x 2 6x 3 ed 1 1 1 6z 2 2f 2 bo 2 j8 2 22 2 euh 2 3p 1 1t 2 b 1 nn 1 feu 1 5wo 1"⟩,
    ⟨["upper", "up"], "Lt Lu",
"5n4 17 2 3 ww g na q 2ixs q 6 q 6 q"⟩])]

def find? (kind name : Text) : Option Property :=
  (kinds.find? fun (names, _) => names.any (·.toList == kind)).bind fun (_, classes) =>
    classes.find? fun p => p.names.any (·.toList == name)

end Swatchbook.Text.Break
