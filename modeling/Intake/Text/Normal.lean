import Intake.Text.Chart

/-!
# Composed text

One text can be written in several ways: a letter with an accent is one character, or a
letter and a combining mark.  The **composed form** takes every character apart, puts the
marks after each letter in a fixed order, and then joins what can be joined.

* `parts` takes a character apart, `orderMarks` orders marks, `join?` joins two characters;
* `composed` is the composed form of a text, `isComposed` recognises it;
* `isMark` holds of the characters that combine with the one before.
-/

namespace Intake.Text

/-- The ranges of combining characters, each with its class. -/
def combiningRow : String :=
  String.join [
    "lc k 6e 1 0 6g 1 3 64 1 0 6g 1 0 60 1 4 64 1 1 5m 1 3 64 1 1 5m 1 a 64 1 4 1 1 3 64 1 7 6e 1 ",
    "0 6o 1 0 6e 1 2 64 1 2 6e 1 1 64 2 2 6e 1 3 64 1 0 6e 1 0 6g 1 1 64 1 0 6e 1 0 6h 1 1 6i 1 0 ",
    "6h 1 1 6i 1 0 6h 1 c 6e 7o 4 6e 7e 0 64 1 3 6e 1 0 64 1 2 6e 1 0 66 1 0 64 1 5 6e 1 5 64 1 1 ",
    "6e 1 0 64 1 1 6e 1 0 66 1 0 6c 1 0 6e 1 0 a 1 0 b 1 0 c 1 0 d 1 0 e 1 0 f 1 0 g 1 0 h 1 0 i ",
    "1 1 j 1 0 k 1 0 l 1 0 m 2 0 n 2 0 o 1 0 p 2 0 6e 1 0 64 2 0 i 21 7 6e 1 0 u 1 0 v 1 0 w 1d 0 ",
    "r 1 0 s 1 0 t 1 0 u 1 0 v 1 0 w 1 0 x 1 0 y 1 1 6e 1 1 64 1 4 6e 1 0 64 1 1 6e 1 0 64 h 0 z ",
    "2u 6 6e 3 3 6e 1 0 64 1 0 6e 3 1 6e 2 0 64 1 1 6e 1 0 64 10 0 10 v 0 6e 1 0 64 1 1 6e 1 0 64 ",
    "1 1 6e 1 2 64 1 0 6e 1 1 64 1 0 6e 1 0 64 1 2 6e 1 0 64 1 0 6e 1 0 64 1 0 6e 1 0 64 1 0 6e 1 ",
    "0 64 1 1 6e 4h 6 6e 1 0 64 1 0 6e a 0 64 p 3 6e 2 8 6e 2 2 6e 2 4 6e 18 2 64 1p 0 6e 1 2 64 ",
    "1 3 6e 17 4 6e 1 4 64 1 d 6e 2 0 64 1 1 6e 1 0 64 1 1 6e 1 0 64 1 2 6e 1 2 64 1 0 r 1 0 s 1 ",
    "0 t 1 2 6e 1 0 64 1 1 6e 1 1 64 1 4 6e 1p 0 7 h 0 9 4 0 6e 1 0 64 1 1 6e 2w 0 7 h 0 9 1d 0 ",
    "6e 1q 0 7 h 0 9 33 0 7 h 0 9 33 0 7 h 0 9 3k 0 9 33 0 7 h 0 9 8 0 2c 1 0 2j 2u 0 7 h 0 9 32 ",
    "1 9 h 0 9 3h 0 9 32 1 2v 1 0 9 e 3 2z 31 1 3a 1 0 9 e 3 3e 25 1 64 s 0 64 2 0 64 2 0 60 1k 0 ",
    "3l 1 0 3m 2 0 3o 6 3 3m 3 0 3m 2 1 6e 1 0 9 2 1 6e 1r 0 64 35 0 7 2 1 9 2b 0 64 k0 2 6e qd 1 ",
    "9 v 0 9 4e 0 9 b 0 6e 5o 0 6c 40 0 66 1 0 6e 1 0 64 64 0 6e 1 0 64 20 0 9 l 7 6e 3 0 64 1d 4 ",
    "6e 1 5 64 1 1 6e 1 0 64 2 1 64 1 1 6e 1 1 64 1 4 6e 1 0 64 1 3 6e 2u 0 7 g 0 9 13 0 6e 1 0 ",
    "64 1 6 6e 1j 1 9 1n 0 7 c 1 9 1w 0 7 49 2 6e 2 0 1 1 4 64 1 1 6e 1 3 64 1 0 6e 2 6 1 5 0 64 ",
    "7 0 6e 4 1 6e 5j 1 6e 1 0 64 1 6 6e 1 0 64 1 1 6e 1 0 6i 1 0 5y 1 0 64 1 0 5m 1 10 6e 1 0 6g ",
    "1 1 6c 1 0 64 1 0 62 1 0 6e 1 0 6h 1 0 64 1 0 6e 1 0 64 k1 1 6e 1 1 1 1 3 6e 1 2 1 1 1 6e 5 ",
    "0 6e 4 1 1 1 0 6e 1 0 64 1 0 6e 1 1 1 1 3 64 1 0 6e 2db 2 6e 3y 0 9 2p v 6e ff 0 62 1 0 6c 1 ",
    "0 6g 1 0 66 1 1 68 2y 1 8 n9x 0 6e 5 9 6e x 1 6e 29 1 6e 7p 0 9 12 0 9 48 0 9 s h 6e 1m 2 64 ",
    "12 0 9 2o 0 7 d 0 9 6o 0 6e 2 1 6e 1 0 64 3 1 6e 6 1 6e 2 0 6e 1h 0 9 6v 0 9 fn5 0 q le 6 6e ",
    "1 6 64 1 1 6e r2 0 64 6b 0 64 46 4 6e 1ar 0 64 2 0 6e 15 0 6e 1 0 1 1 0 64 5 0 9 4m 0 6e 1 0 ",
    "64 fy 3 6e as 1 6e 4a 1 64 1 2 6e 1 0 64 1 0 6e 1 3 64 1e 0 6e 1 0 64 1 0 6e 1 0 64 5d 0 9 ",
    "16 0 9 f 0 9 1m 0 9 1 0 7 1y 2 6e 1d 1 9 1r 0 7 25 0 9 a 0 7 2z 0 9 1 0 7 4z 0 7 1 0 9 29 1 ",
    "7 h 0 9 p 6 6e 4 4 6e 5q 0 9 4 0 7 o 0 6e 2s 0 9 1 0 7 70 0 9 1 0 7 3j 0 9 3b 0 9 1 0 7 38 0 ",
    "9 7i 0 9 1 0 7 77 1 9 5 0 7 4d 0 9 2c 0 9 j 0 9 2a 0 9 bq 0 9 77 0 7 2 1 9 2a 0 9 fa1 4 1 1o ",
    "6 6e xm 1 6 f59 0 1 43r 1 60 1 2 1 4 0 6a 1 4 60 9 7 64 3 4 6e 1 1 64 v 3 6e 45 2 6e 2po 6 ",
    "6e 2 g 6e 3 6 6e 2 1 6e 2 4 6e 7a 6 6e ag 0 6e 1q 3 6e 15t 6 64 32 5 6e 1 0 7"]

/-- The classes of combining characters. -/
def combiningChart : ValueChart := ValueChart.ofRow combiningRow

/-- The class by which a combining character is ordered; zero for every other character. -/
def combiningClass (n : Nat) : Nat :=
  if n < 0x300 then 0 else (combiningChart.find? n).getD 0

/-- The ranges of marks. -/
def markRow : String :=
  String.join [
    "lc 33 7o 6 7c 18 2 0 2 1 2 1 2 0 21 a 1d k h 0 2u 6 3 5 3 1 2 3 10 0 v q 2k a 1n 8 a 0 p 3 2 ",
    "8 2 2 2 4 18 2 1p 7 17 n 2 w 1j 2 2 h 2 6 b 1 u 2 1l 0 2 6 3 1 3 2 a 0 b 1 r 0 3 2 1l 0 2 4 ",
    "5 1 3 2 4 0 v 1 4 0 c 2 1l 0 2 7 2 2 2 2 l 1 n 5 2 2 1l 0 2 6 3 1 3 2 8 2 b 1 v 0 1o 4 4 2 2 ",
    "3 a 0 15 4 1k 0 2 6 2 2 2 3 8 1 c 1 u 2 1l 0 2 6 2 2 2 3 8 1 c 1 t 3 1k 1 2 6 2 2 2 3 a 0 b ",
    "1 u 2 1z 0 5 5 2 0 2 7 j 1 1q 0 3 6 d 7 2r 0 3 8 c 5 23 1 s 0 2 0 2 0 5 1 1e j 2 1 6 a 2 z a ",
    "0 2t j o 3 5 2 2 2 3 6 4 3 e b 2 0 b 3 jk 2 qb 3 t 2 u 1 v 1 1t v a 0 1a 2 2 0 3a 1 z 0 3b b ",
    "5 b 64 4 1m 9 2 s 3 0 1d u 1e 4 1c g 13 8 d 2 v c 1l d 1d j 49 2 2 k 5 0 7 0 3 2 5j 1r k1 w ",
    "2db 2 3y 0 2p v ff 5 2y 1 n9x 3 2 9 x 1 29 1 7l 0 4 0 5 0 o 4 5 0 2c 1 1f h r h e 0 13 7 q c ",
    "19 3 1c d 11 0 1w d d 0 9 1 1a 2 1f 0 2 2 3 1 6 1 2 0 16 4 6 1 6l 7 2 1 fn5 0 ki f h f r2 0 ",
    "6b 0 46 4 1af 2 2 1 6 3 15 2 5 0 4m 1 fy 3 as 1 4a a 1e 3 3f 2 1i e 16 0 3 1 b 3 1a a 8 0 1q ",
    "2 11 d h 1 19 0 d 2 1d d 9 3 2 1 2l b 7 0 4h b m 3 1k 1 2 6 3 1 3 2 a 0 b 1 3 6 4 4 5d h o 0 ",
    "2a j 6k 6 3 8 s 1 2b g 2z c 2u e 75 e 6u 5 2 1 3 3 2 0 2 1 3y 6 3 6 4 0 t 9 15 6 2 3 9 0 a a ",
    "1b f ba 7 2 7 2b l 2 d 3f 5 4 0 2 1 2 6 2 0 1v 4 2 1 2 4 9o 3 f0a 4 1o 6 t5 0 2 1i 8 3 2a 0 ",
    "c 1 f58 1 3mq 19 3 m f3 4 4 5 9 7 3 6 v 3 45 2 1j0 1i 5 1d 9 0 f 0 n 4 2 e 11t 6 2 g 3 6 2 1 ",
    "2 4 7a 6 ag 0 1q 3 15t 6 32 6 gzhy 6n"]

/-- Marks. -/
def markChart : Chart := Chart.ofRow markRow

/-- Does the character combine with the one before it? -/
def isMark (c : Char) : Bool := markChart.contains c.toNat

/-- Characters that are another spelling of one character: distance from the one before, and
that character. -/
def respelledRow : String :=
  String.join [
    "n4 lc 1 ld 2 lv 1d jd a 1n 9 53 5ii q4 2 q5 2 q6 2 q7 2 r0 2 r1 2 r2 1q p2 3 qh b p4 2 p5 8 ",
    "pc 8 p6 8 q8 8 pa 3 p1 1 2o a p8 2 pb 2 50 3 6bm 1 6bn 85 q1 4 23 1 5h e6 9hk 1 9hl 168m rpk ",
    "1 kc4 1 s7e 1 rt4 1 lw1 1 fg2 1 gkl 1 vj0 1 vj0 1 hn5 1 ssx 1 gw7 1 hmw 1 jcm 1 ne1 1 p6t 1 ",
    "qin 1 qt6 1 r20 1 sjz 1 kxu 1 ljv 1 mah 1 mvy 1 q4d 1 sq2 1 uep 1 fia 1 ghh 1 l50 1 mjf 1 ",
    "qi5 1 v8e 1 ifk 1 m3v 1 qfh 1 r50 1 jih 1 pnc 1 qvz 1 iq2 1 kd3 1 lm2 1 mpo 1 slq 1 fpi 1 ",
    "g53 1 gda 1 jwk 1 l3n 1 mj4 1 nhj 1 pa9 1 qh2 1 qjg 1 s1b 1 tv6 1 upb 1 v7e 1 nt8 1 nzz 1 ",
    "otc 1 q15 1 t1g 1 vb3 1 rfa 1 hjz 1 iro 1 okg 1 pdq 1 mle 1 nuy 1 rsy 1 ttj 1 hjs 1 i8y 1 ",
    "kyb 1 lp6 1 lxr 1 oq7 1 oxj 1 tor 1 gcy 1 pe3 1 g64 1 g5o 1 o4c 1 ou6 1 q29 1 tpx 1 rk0 1 ",
    "jin 1 kxu 1 rge 1 fg9 1 i5j 1 iz6 1 mtj 1 n74 1 gev 1 nwb 1 fr3 1 iw9 1 ff1 1 lho 1 k1k 1 ",
    "opu 1 gjn 1 hge 1 ni9 1 q4p 1 re2 1 la2 1 sds 1 lfs 1 jjy 1 put 1 jog 1 n6t 1 fji 1 g2x 1 ",
    "g5l 1 kn5 1 oo7 1 prj 1 rf6 1 ssv 1 gdx 1 gn6 1 ho3 1 ir0 1 k3p 1 m4e 1 nxm 1 tkd 1 ui2 1 ",
    "vbr 1 vda 1 gbf 1 kau 1 l87 1 sbm 1 ino 1 j9s 1 jcw 1 jve 1 lyb 1 mdl 1 n0p 1 o22 1 ovo 1 ",
    "pdb 1 s9y 1 q9a 1 sgz 1 t3e 1 g7r 1 gbn 1 gql 1 ma0 1 r0i 1 re2 1 iq1 1 iyd 1 jnf 1 l9q 1 ",
    "oji 1 mt1 1 fl0 1 h6h 1 i5j 1 iii 1 izg 1 muq 1 mzt 1 p7e 1 pc6 1 svo 1 tti 1 tvs 1 u1k 1 ",
    "fpn 1 o1a 1 ss4 1 trs 1 j4x 1 fie 1 fyy 1 i5q 1 i7z 1 k2h 1 kxu 1 mha 1 ncy 1 q9o 1 sjg 1 ",
    "vil 1 k94 1 tny 1 gax 1 kfv 1 kj7 1 lkx 1 luk 1 mx5 1 n6h 1 nsb 1 opc 1 u3i 1 g31 1 je6 1 ",
    "tq0 1 fu3 1 ie1 1 lpm 1 sa2 1 ivf 1 j7o 1 kk7 1 mtj 1 tqe 1 g89 1 glr 1 i91 1 k5v 1 kem 1 ",
    "ko8 1 lid 1 mx2 1 naa 1 p6h 1 r0v 1 r1d 1 sss 1 tsy 1 gfz 1 lve 1 gm5 1 mhc 1 n14 1 qgq 1 ",
    "tr7 1 uvr 1 vbz 1 kgn 1 lor 1 pns 1 o97 1 obk 1 olu 1 mo0 1 m8p 1 riw 1 fk0 1 px2 1 g8q 1 ",
    "g7b 1 ip2 1 jir 1 onq 1 i2t 1 ljy 1 kac 1 saj 1 qx8 1 tot 1 r63 1 iqb 1 g1s 1 gxs 3 hga 2 ",
    "k8k 3 g66 1 mqy 1 ngq 1 ny4 1 nz2 1 nz9 1 o0f 1 tw6 1 on2 1 p8d 2 qhe 2 rg8 3 shk 1 sn1 4 ",
    "u7j 1 u7w 1 u94 1 v5g 1 sm6 1 trr 1 fqm 1 fzb 1 g25 1 gcp 1 gdg 1 ggh 1 gwt 1 gzq 1 h2g 1 ",
    "hfk 1 hig 1 i90 1 i9a 1 j2s 1 j8o 1 j9q 1 jci 1 k0f 1 k4i 1 k9d 1 kn9 1 lmf 1 lqy 1 lya 1 ",
    "mem 1 mjv 1 mxu 1 ntd 1 ny6 1 nyh 1 nyg 1 nyo 1 nyu 1 nz1 1 o0d 1 o0e 1 o5c 1 o75 1 og0 1 ",
    "ovo 1 ow9 1 oxt 1 p6a 1 pad 1 pnx 1 prt 1 prt 1 q53 1 r2o 1 r6e 1 rgh 1 ri1 1 rtf 1 ruw 1 ",
    "sdy 1 shk 1 tsz 1 u0v 1 u2j 1 j1x 1 36cu 1 pp4 3 ffq 1 g51 1 g2w 1 fpc 1 g1x 1 g3k 1 gcn 1 ",
    "ge2 1 gwt 1 gut 1 gwp 1 gyq 1 hga 1 hir 1 hms 1 hn8 1 huq 1 i08 1 iqa 1 iqh 1 iuh 1 iwd 1 ",
    "j4o 1 j7y 1 j60 1 j9q 1 j8g 1 jci 1 jec 1 jpg 1 jrw 1 jte 1 k0m 1 k8k 1 kd3 1 kd7 1 keu 1 ",
    "l89 1 la2 1 lkx 1 lwb 1 lvv 1 lya 1 m5a 1 mem 1 nmv 1 mk5 1 mnj 1 mqy 1 n01 1 n46 1 n5n 1 ",
    "nbx 1 nbz 1 ngq 1 nh7 1 nhw 1 nka 1 nk0 1 nv0 1 o8h 1 og0 1 ol7 1 orf 1 ovo 1 p4u 1 pad 1 ",
    "pxu 1 q27 1 qrd 1 r41 1 r5y 1 r6e 1 ren 1 rg8 1 rez 1 rgh 1 rge 1 rfx 1 ri1 1 rka 1 ruw 1 ",
    "sag 1 sj6 1 srd 1 sxi 1 tq4 1 tsz 1 tw6 1 tzv 1 u0v 1 u17 1 u2j 1 umq 1 vj0 1 313e 1 3138 1 ",
    "33dh 1 brx 1 cns 1 cop 1 39e1 1 3bgw 1 3i6r 1 vgj 1 vim 2skn fgd 1 fg8 1 fgh 1 2tcy 1 fog 1 ",
    "fqm 1 fqz 1 fsy 1 fwa 1 fx5 1 fzb 1 fyn 1 ae6 1 2ud6 1 g25 1 g2c 1 g2s 1 g3b 1 2u58 1 aex 1 ",
    "g2v 1 g3x 1 2u6j 1 g47 1 g4k 1 fkc 1 g4s 1 g51 1 3ly7 1 g6t 1 g77 1 afz 1 g8r 1 g92 1 gaa 1 ",
    "gaf 1 ahh 1 gcn 1 gcp 1 gdg 1 ge2 1 ged 1 gee 1 gev 1 gg9 1 ggh 1 ggq 1 ghf 1 ghp 1 ghr 1 ",
    "ghr 1 ghr 1 2v58 1 m7k 1 gju 1 gkf 1 2vdv 1 gkr 1 gkx 1 gli 1 gpq 1 gmw 1 gnc 1 go8 1 gpu 1 ",
    "gs6 1 gsw 1 gur 1 gv7 1 gw4 1 gw4 1 gwp 1 gx7 1 gxf 1 gxu 1 h7a 1 gzq 1 h7b 1 h1t 1 h2s 1 ",
    "g7b 1 hke 1 hce 1 hdg 1 he5 1 haj 1 hf6 1 hf5 1 hik 1 2x9g 1 hki 1 hkn 1 hl2 1 hlm 1 hlu 1 ",
    "hnm 1 2xm0 1 2xnu 1 hrg 1 hsr 1 ht3 1 hqw 1 huu 1 aum 1 av0 1 hzc 1 i0u 1 i0u 1 2y88 1 i4j 1 ",
    "i54 1 i5j 1 i5v 1 2yhk 1 i67 1 i6e 1 itv 1 i76 1 ayp 1 i8w 1 i9a 1 ibk 1 ia5 1 2z1g 1 if7 1 ",
    "2z1i 1 ige 1 igb 1 igs 1 ijl 1 ijm 1 b3j 1 ikd 1 ilk 1 im5 1 ind 1 b4y 1 2zr7 1 b5o 1 ipc 1 ",
    "ipf 1 ipi 1 iq2 1 3pg2 1 iri 1 3035 1 3035 1 poh 1 isi 1 isi 1 b7r 1 335k 1 3cgq 1 iua 1 iuj ",
    "1 b8j 1 ivu 1 ix9 1 ixj 1 iyh 1 j29 1 bay 1 ba4 1 j2s 1 30t0 1 j47 1 j7s 1 j7w 1 j7y 1 j7w 1 ",
    "j96 1 j9q 1 jaq 1 jac 1 jan 1 jby 1 jci 1 jcm 1 jdc 1 jdn 1 jfh 1 jht 1 jis 1 jm8 1 31n0 1 ",
    "jlp 1 jjw 1 jmw 1 jnn 1 jqc 1 31td 1 js2 1 jph 1 jop 1 bhq 1 ju1 1 jum 1 jvh 1 juf 1 bjg 1 ",
    "k0f 1 k18 1 32mi 1 k4j 1 kc8 1 k7d 1 bo9 1 k9d 1 bns 1 bms 1 g42 1 g45 1 kcg 1 k9o 1 pf1 1 ",
    "deh 1 kd3 1 kd7 1 kdd 1 kf2 1 ker 1 33cz 1 bpl 1 kje 1 kg5 1 klu 1 kn9 1 33hp 1 kni 1 kkf 1 ",
    "kr8 1 brx 1 ksi 1 kv7 1 kx6 1 l2g 1 33xf 1 l3v 1 bvc 1 l5t 1 34br 1 l78 1 bwu 1 l82 1 l9b 1 ",
    "la2 1 la3 1 34p9 1 2yvf 1 34sa 1 le6 1 354s 1 lhb 1 lhp 1 lev 1 ljq 1 lku 1 lmf 1 lkx 1 lm1 ",
    "1 lmg 1 lmt 1 357i 1 lkk 1 lrj 1 lta 1 c37 1 lvv 1 lvr 1 35jl 1 lq1 1 m0e 1 35ni 1 35ou 1 ",
    "m2u 1 m61 1 m5a 1 m57 1 c5y 1 m6i 1 m7x 1 m7r 1 m99 1 2u5h 1 mdh 1 368z 1 mfw 1 36i3 1 mjs 1 ",
    "mk5 1 mkw 1 36yw 1 mm8 1 mmt 1 3779 1 37dg 1 mt6 1 mtn 1 cdo 1 mud 1 ce0 1 ce0 1 myv 1 mzg 1 ",
    "n01 1 n0l 1 n2i 1 cgr 1 n50 1 386u 1 n5q 1 389e 1 n74 1 2zrz 1 nbk 1 38v5 1 38vs 1 38zo 1 ",
    "cn0 1 cnc 1 nhw 1 394j 1 394i 1 395l 1 396b 1 nj2 1 nj3 1 nj3 1 nka 1 cop 1 nm3 1 cp2 1 cra ",
    "1 39r1 1 nri 1 nt8 1 nv0 1 ctf 1 3a5i 1 nyu 1 3a8q 1 3a9x 1 o0f 1 o2z 1 cvj 1 o5c 1 o5m 1 ",
    "o5r 1 3at8 1 3b1j 1 3b1j 1 oa6 1 d1e 1 3b8r 1 og6 1 og9 1 d2f 1 3beo 1 onm 1 d5s 1 oo8 1 oo3 ",
    "1 oow 1 3c06 1 orn 1 d8h 1 ouf 1 ow2 1 oxx 1 d9w 1 3ciw 1 3cjr 1 dax 1 3cnt 1 p6i 1 3cqm 1 ",
    "p79 1 pa2 1 pad 1 3d22 1 3d43 1 pcw 1 3d7s 1 pdc 1 33a7 1 ded 1 pf6 1 phf 1 dfv 1 pj2 1 hx1 ",
    "1 3dlz 1 3dmd 1 33bn 1 33bw 1 poh 1 pok 1 sda 1 dij 1 psh 1 psb 1 pst 1 gc3 1 ptd 1 ptf 1 ",
    "ptp 1 puu 1 3ebg 1 put 1 pwd 1 pyb 1 q0d 1 pwj 1 q0t 1 q1z 1 q53 1 pxv 1 q16 1 q18 1 q1o 1 ",
    "3eie 1 3eqz 1 3emt 1 dnv 1 q9d 1 q9f 1 qae 1 3g0a 1 qck 1 3f3g 1 dp9 1 dpd 1 3f75 1 3ff6 1 ",
    "dpn 1 qj4 1 qjg 1 qjr 1 qjt 1 qll 1 qko 1 qoe 1 qn6 1 qrd 1 qp4 1 qqz 1 qrq 1 dsn 1 qu9 1 ",
    "qv5 1 dtl 1 qxs 1 qxv 1 3giv 1 r13 1 r1a 1 dv9 1 r22 1 aez 1 3gz2 1 3h46 1 dz2 1 dzb 1 rds 1 ",
    "rfx 1 rka 1 rpx 1 3hrc 1 rsb 1 rsx 1 rvf 1 rxz 1 3i9b 1 2upw 1 s0b 1 rzw 1 s1c 1 2uvy 1 s7o ",
    "1 sag 1 3jki 1 3jl9 1 sk4 1 smp 1 snl 1 3ju6 1 snv 1 svs 1 t07 1 t08 1 sxo 1 t89 1 t91 1 ",
    "3ksa 1 tjf 1 ej9 1 tkn 1 3l2v 1 eli 1 ts3 1 iia 1 tur 1 3ltx 1 3lzu 1 epa 1 epi 1 u00 1 3mdm ",
    "1 er6 1 3mhi 1 u17 1 u17 1 u21 1 3mpi 1 u76 1 eur 1 u95 1 ucn 1 ude 1 uf2 1 ez2 1 3nsg 1 umq ",
    "1 uv4 1 v0d 1 f66 1 f71 1 v3b 1 3owe 1 f7c 1 3oxx 1 3p5a 1 3p8x 1 vcr 1 f9y 1 veh 1 vem 1 ",
    "vet 1 vf3 1 vfa 1 vgb 1 3pxc"]

/-- Characters made of two: distance from the one before, and the two. -/
def joinedRow : String :=
  String.join [
    "5c 1t lc 1 1t ld 1 1t le 1 1t lf 1 1t lk 1 1t lm 2 1v mf 1 1x lc 1 1x ld 1 1x le 1 1x lk 1 ",
    "21 lc 1 21 ld 1 21 le 1 21 lk 2 26 lf 1 27 lc 1 27 ld 1 27 le 1 27 lf 1 27 lk 3 2d lc 1 2d ",
    "ld 1 2d le 1 2d lk 1 2h ld 3 2p lc 1 2p ld 1 2p le 1 2p lf 1 2p lk 1 2p lm 2 2r mf 1 2t lc 1 ",
    "2t ld 1 2t le 1 2t lk 1 2x lc 1 2x ld 1 2x le 1 2x lk 2 32 lf 1 33 lc 1 33 ld 1 33 le 1 33 ",
    "lf 1 33 lk 3 39 lc 1 39 ld 1 39 le 1 39 lk 1 3d ld 2 3d lk 1 1t lg 1 2p lg 1 1t li 1 2p li 1 ",
    "1t mg 1 2p mg 1 1v ld 1 2r ld 1 1v le 1 2r le 1 1v lj 1 2r lj 1 1v lo 1 2r lo 1 1w lo 1 2s ",
    "lo 3 1x lg 1 2t lg 1 1x li 1 2t li 1 1x lj 1 2t lj 1 1x mg 1 2t mg 1 1x lo 1 2t lo 1 1z le 1 ",
    "2v le 1 1z li 1 2v li 1 1z lj 1 2v lj 1 1z mf 1 2v mf 1 20 le 1 2w le 3 21 lf 1 2x lf 1 21 ",
    "lg 1 2x lg 1 21 li 1 2x li 1 21 mg 1 2x mg 1 21 lj 4 22 le 1 2y le 1 23 mf 1 2z mf 2 24 ld 1 ",
    "30 ld 1 24 mf 1 30 mf 1 24 lo 1 30 lo 5 26 ld 1 32 ld 1 26 mf 1 32 mf 1 26 lo 1 32 lo 4 27 ",
    "lg 1 33 lg 1 27 li 1 33 li 1 27 ln 1 33 ln 3 2a ld 1 36 ld 1 2a mf 1 36 mf 1 2a lo 1 36 lo 1 ",
    "2b ld 1 37 ld 1 2b le 1 37 le 1 2b mf 1 37 mf 1 2b lo 1 37 lo 1 2c mf 1 38 mf 1 2c lo 1 38 ",
    "lo 3 2d lf 1 39 lf 1 2d lg 1 39 lg 1 2d li 1 39 li 1 2d lm 1 39 lm 1 2d ln 1 39 ln 1 2d mg 1 ",
    "39 mg 1 2f le 1 3b le 1 2h le 1 3d le 1 2h lk 1 2i ld 1 3e ld 1 2i lj 1 3e lj 1 2i lo 1 3e ",
    "lo y 27 m3 1 33 m3 e 2d m3 1 39 m3 t 1t lo 1 2p lo 1 21 lo 1 2x lo 1 27 lo 1 33 lo 1 2d lo 1 ",
    "39 lo 1 64 lg 1 70 lg 1 64 ld 1 70 ld 1 64 lo 1 70 lo 1 64 lc 1 70 lc 2 5g lg 1 6c lg 1 fa ",
    "lg 1 fb lg 1 5i lg 1 6e lg 3 1z lo 1 2v lo 1 23 lo 1 2z lo 1 27 mg 1 33 mg 1 dm lg 1 dn lg 1 ",
    "c7 lo 1 ia lo 1 2y lo 4 1z ld 1 2v ld 3 26 lc 1 32 lc 1 5h ld 1 6d ld 1 5i ld 1 6e ld 1 60 ",
    "ld 1 6w ld 1 1t lr 1 2p lr 1 1t lt 1 2p lt 1 1x lr 1 2t lr 1 1x lt 1 2t lt 1 21 lr 1 2x lr 1 ",
    "21 lt 1 2x lt 1 27 lr 1 33 lr 1 27 lt 1 33 lt 1 2a lr 1 36 lr 1 2a lt 1 36 lt 1 2d lr 1 39 ",
    "lr 1 2d lt 1 39 lt 1 2b me 1 37 me 1 2c me 1 38 me 3 20 lo 1 2w lo 7 1t lj 1 2p lj 1 1x mf 1 ",
    "2t mf 1 5y lg 1 6u lg 1 5x lg 1 6t lg 1 27 lj 1 33 lj 1 fi lg 1 fj lg 1 2h lg 1 3d lg 7l lk ",
    "ld 1t 4o ld 1 pd ld 2 ph ld 1 pj ld 1 pl ld 2 pr ld 2 px ld 1 q1 ld 1 qy ld q pl lk 1 px lk ",
    "1 q9 ld 1 qd ld 1 qf ld 1 qh ld 1 qz ld q qh lk 1 qt lk 1 qn ld 1 qt ld 1 qx ld 5 r6 ld 1 r6 ",
    "lk 18 t1 lc 1 t1 lk 2 sz ld 4 sm lk 5 t6 ld 1 t4 lc 1 tf li b t4 li w u0 li n tx lc 1 tx lk ",
    "2 tv ld 4 uu lk 5 u2 ld 1 u0 lc 1 ub li o vo lr 1 vp lr 22 t2 li 1 ty li e sw li 1 ts li 1 ",
    "sw lk 1 ts lk 3 t1 li 1 tx li 3 yg lk 1 yh lk 1 t2 lk 1 ty lk 1 t3 lk 1 tz lk 3 t4 lg 1 u0 ",
    "lg 1 t4 lk 1 u0 lk 1 ta lk 1 u6 lk 3 yw lk 1 yx lk 1 tp lk 1 ul lk 1 tf lg 1 ub lg 1 tf lk 1 ",
    "ub lk 1 tf ln 1 ub ln 1 tj lk 1 uf lk 3 tn lk 1 uj lk 89 17r 18z 1 17r 190 1 18o 190 1 17r ",
    "191 1 18q 190 4a 1cl 190 2 1c1 190 h 1ci 190 gm 1t4 1to 8 1tc 1to 3 1tf 1to 10 1sl 1to 1 1sm ",
    "1to 1 1sn 1to 1 1ss 1to 1 1sx 1to 1 1sy 1to 1 1t7 1to 1 1tb 1to 30 1xj 1xa 1 1xj 1xz g 1wh ",
    "1x8 1 1wi 1x8 2 1wv 1x8 2c 20i 20s 3 20o 20s z 1zq 20s 1 1zr 20s 1 1zw 20s 3 20b 20s 6i 287 ",
    "28m 3 287 27y 1 287 28n g 275 27w 1 276 27w 1j 2aa 2c7 1i 2bq 2bi 1 2br 2bi 1 2bq 2c7 3g 2fa ",
    "2fq 3c 2in 2j9 7 2iu 2j9 1 2iu 2ja 2 2iu 2iq 1 2iy 2j9 3j 2me 2m6 1 2mf 2m6 1 2me 2mv 3y 2qh ",
    "2q2 2 2qh 2q7 1 2qk 2q2 1 2qh 2qn 9x 30i 33r a 30s 33r 5 30x 33r 5 312 33r 5 317 33r d 30g ",
    "33p a 31t 31u 2 31t 31w 1 33m 328 2 33n 328 9 31t 328 i 32q 33r a 330 33r 5 335 33r 5 33a ",
    "33r 5 33f 33r d 32o 33p 31 36t 372 25c 5c5 5dh 2 5c7 5dh 2 5c9 5dh 2 5cb 5dh 2 5cd 5dh 4 5ch ",
    "5dh 15 5dm 5dh 2 5do 5dh 3 5dq 5dh 1 5dr 5dh 2 5du 5dh jh 1t md 1 2p md 1 1u lj 1 2q lj 1 1u ",
    "mb 1 2q mb 1 1u mp 1 2q mp 1 5j ld 1 6f ld 1 1w lj 1 2s lj 1 1w mb 1 2s mb 1 1w mp 1 2s mp 1 ",
    "1w mf 1 2s mf 1 1w ml 1 2s ml 1 7m lc 1 7n lc 1 7m ld 1 7n ld 1 1x ml 1 2t ml 1 1x mo 1 2t ",
    "mo 1 fc li 1 fd li 1 1y lj 1 2u lj 1 1z lg 1 2v lg 1 20 lj 1 2w lj 1 20 mb 1 2w mb 1 20 lk 1 ",
    "2w lk 1 20 mf 1 2w mf 1 20 mm 1 2w mm 1 21 mo 1 2x mo 1 5r ld 1 6n ld 1 23 ld 1 2z ld 1 23 ",
    "mb 1 2z mb 1 23 mp 1 2z mp 1 24 mb 1 30 mb 1 5yu lg 1 5yv lg 1 24 mp 1 30 mp 1 24 ml 1 30 ml ",
    "1 25 ld 1 31 ld 1 25 lj 1 31 lj 1 25 mb 1 31 mb 1 26 lj 1 32 lj 1 26 mb 1 32 mb 1 26 mp 1 32 ",
    "mp 1 26 ml 1 32 ml 1 5x ld 1 6t ld 1 5x lk 1 6t lk 1 98 lc 1 99 lc 1 98 ld 1 99 ld 1 28 ld 1 ",
    "34 ld 1 28 lj 1 34 lj 1 2a lj 1 36 lj 1 2a mb 1 36 mb 1 5zu lg 1 5zv lg 1 2a mp 1 36 mp 1 2b ",
    "lj 1 37 lj 1 2b mb 1 37 mb 1 9m lj 1 9n lj 1 9s lj 1 9t lj 1 602 lj 1 603 lj 1 2c lj 1 38 lj ",
    "1 2c mb 1 38 mb 1 2c mp 1 38 mp 1 2c ml 1 38 ml 1 2d mc 1 39 mc 1 2d mo 1 39 mo 1 2d ml 1 39 ",
    "ml 1 a0 ld 1 a1 ld 1 a2 lk 1 a3 lk 1 2e lf 1 3a lf 1 2e mb 1 3a mb 1 2f lc 1 3b lc 1 2f ld 1 ",
    "3b ld 1 2f lk 1 3b lk 1 2f lj 1 3b lj 1 2f mb 1 3b mb 1 2g lj 1 3c lj 1 2g lk 1 3c lk 1 2h ",
    "lj 1 3d lj 1 2i le 1 3e le 1 2i mb 1 3e mb 1 2i mp 1 3e mp 1 2w mp 1 38 lk 1 3b lm 1 3d lm 2 ",
    "an lj 5 1t mb 1 2p mb 1 1t ll 1 2p ll 1 5e ld 1 6a ld 1 5e lc 1 6a lc 1 5e ll 1 6a ll 1 5e ",
    "lf 1 6a lf 1 61s le 1 61t le 1 76 ld 1 77 ld 1 76 lc 1 77 lc 1 76 ll 1 77 ll 1 76 lf 1 77 lf ",
    "1 61s li 1 61t li 1 1x mb 1 2t mb 1 1x ll 1 2t ll 1 1x lf 1 2t lf 1 5m ld 1 6i ld 1 5m lc 1 ",
    "6i lc 1 5m ll 1 6i ll 1 5m lf 1 6i lf 1 62g le 1 62h le 1 21 ll 1 2x ll 1 21 mb 1 2x mb 1 27 ",
    "mb 1 33 mb 1 27 ll 1 33 ll 1 5w ld 1 6s ld 1 5w lc 1 6s lc 1 5w ll 1 6s ll 1 5w lf 1 6s lf 1 ",
    "630 le 1 631 le 1 bk ld 1 bl ld 1 bk lc 1 bl lc 1 bk ll 1 bl ll 1 bk lf 1 bl lf 1 bk mb 1 bl ",
    "mb 1 2d mb 1 39 mb 1 2d ll 1 39 ll 1 bz ld 1 c0 ld 1 bz lc 1 c0 lc 1 bz ll 1 c0 ll 1 bz lf 1 ",
    "c0 lf 1 bz mb 1 c0 mb 1 2h lc 1 3d lc 1 2h mb 1 3d mb 1 2h ll 1 3d ll 1 2h lf 1 3d lf 7 q9 ",
    "lv 1 q9 lw 1 64g lc 1 64h lc 1 64g ld 1 64h ld 1 64g n6 1 64h n6 1 pd lv 1 pd lw 1 64o lc 1 ",
    "64p lc 1 64o ld 1 64p ld 1 64o n6 1 64p n6 1 qd lv 1 qd lw 1 64w lc 1 64x lc 1 64w ld 1 64x ",
    "ld 3 ph lv 1 ph lw 1 654 lc 1 655 lc 1 654 ld 1 655 ld 3 qf lv 1 qf lw 1 65c lc 1 65d lc 1 ",
    "65c ld 1 65d ld 1 65c n6 1 65d n6 1 pj lv 1 pj lw 1 65k lc 1 65l lc 1 65k ld 1 65l ld 1 65k ",
    "n6 1 65l n6 1 qh lv 1 qh lw 1 65s lc 1 65t lc 1 65s ld 1 65t ld 1 65s n6 1 65t n6 1 pl lv 1 ",
    "pl lw 1 660 lc 1 661 lc 1 660 ld 1 661 ld 1 660 n6 1 661 n6 1 qn lv 1 qn lw 1 668 lc 1 669 ",
    "lc 1 668 ld 1 669 ld 3 pr lv 1 pr lw 1 66g lc 1 66h lc 1 66g ld 1 66h ld 3 qt lv 1 qt lw 1 ",
    "66o lc 1 66p lc 1 66o ld 1 66p ld 1 66o n6 1 66p n6 2 px lw 2 66x lc 2 66x ld 2 66x n6 1 qx ",
    "lv 1 qx lw 1 674 lc 1 675 lc 1 674 ld 1 675 ld 1 674 n6 1 675 n6 1 q1 lv 1 q1 lw 1 67c lc 1 ",
    "67d lc 1 67c ld 1 67d ld 1 67c n6 1 67d n6 1 q9 lc 2 qd lc 2 qf lc 2 qh lc 2 qn lc 2 qt lc 2 ",
    "qx lc 4 64g n9 1 64h n9 1 64i n9 1 64j n9 1 64k n9 1 64l n9 1 64m n9 1 64n n9 1 64o n9 1 64p ",
    "n9 1 64q n9 1 64r n9 1 64s n9 1 64t n9 1 64u n9 1 64v n9 1 65c n9 1 65d n9 1 65e n9 1 65f n9 ",
    "1 65g n9 1 65h n9 1 65i n9 1 65j n9 1 65k n9 1 65l n9 1 65m n9 1 65n n9 1 65o n9 1 65p n9 1 ",
    "65q n9 1 65r n9 1 674 n9 1 675 n9 1 676 n9 1 677 n9 1 678 n9 1 679 n9 1 67a n9 1 67b n9 1 ",
    "67c n9 1 67d n9 1 67e n9 1 67f n9 1 67g n9 1 67h n9 1 67i n9 1 67j n9 1 q9 li 1 q9 lg 1 67k ",
    "n9 1 q9 n9 1 q4 n9 2 q9 n6 1 69i n9 1 pd li 1 pd lg 1 pd lc 2 pd n9 5 4o n6 1 67o n9 1 qf n9 ",
    "1 q6 n9 2 qf n6 1 69y n9 1 ph lc 2 pj lc 2 pj n9 1 69r lc 1 69r ld 1 69r n6 1 qh li 1 qh lg ",
    "1 qy lc 4 qh n6 1 qy n6 1 pl li 1 pl lg 1 pl lc 3 6bi lc 1 6bi ld 1 6bi n6 1 qt li 1 qt lg 1 ",
    "qz lc 2 qp lv 1 qp lw 1 qt n6 1 qz n6 1 px li 1 px lg 1 px lc 2 pt lw 1 4o lc 5 67w n9 1 qx ",
    "n9 1 r2 n9 2 qx n6 1 6ba n9 1 pr lc 2 q1 lc 2 q1 n9 bi 6mo mw 1 6mq mw j 6ms mw v 6og mw 1 ",
    "6ok mw 1 6oi mw 1h 6pv mw 5 6q0 mw 3 6q3 mw o 6qr mw 2 6qt mw r 6rg mw 3 6rn mw 3 6rp mw 2 ",
    "6rs mw n 1p mw 2 6sh mw b 6rx mw 1 1o mw 1 1q mw 1 6sk mw 1 6sl mw 3 6sy mw 1 6sz mw 3 6t2 ",
    "mw 1 6t3 mw 7 6t6 mw 1 6t7 mw 3 6te mw 1 6tf mw 3 6ti mw 1 6tj mw z 6ua mw 1 6ug mw 1 6uh mw ",
    "1 6uj mw 1d 6t8 mw 1 6t9 mw 1 6tt mw 1 6tu mw 7 6uq mw 1 6ur mw 1 6us mw 1 6ut mw 1kf 8gt mw ",
    "12o 9jf 9ll 2 9jh 9ll 2 9jj 9ll 2 9jl 9ll 2 9jn 9ll 2 9jp 9ll 2 9jr 9ll 2 9jt 9ll 2 9jv 9ll ",
    "2 9jx 9ll 2 9jz 9ll 2 9k1 9ll 3 9k4 9ll 2 9k6 9ll 2 9k8 9ll 7 9kf 9ll 1 9kf 9lm 2 9ki 9ll 1 ",
    "9ki 9lm 2 9kl 9ll 1 9kl 9lm 2 9ko 9ll 1 9ko 9lm 2 9kr 9ll 1 9kr 9lm n 9ja 9ll a 9lp 9ll e ",
    "9m3 9ll 2 9m5 9ll 2 9m7 9ll 2 9m9 9ll 2 9mb 9ll 2 9md 9ll 2 9mf 9ll 2 9mh 9ll 2 9mj 9ll 2 ",
    "9ml 9ll 2 9mn 9ll 2 9mp 9ll 3 9ms 9ll 2 9mu 9ll 2 9mw 9ll 7 9n3 9ll 1 9n3 9lm 2 9n6 9ll 1 ",
    "9n6 9lm 2 9n9 9ll 1 9n9 9lm 2 9nc 9ll 1 9nc 9lm 2 9nf 9ll 1 9nf 9lm n 9ly 9ll 3 9nz 9ll 1 ",
    "9o0 9ll 1 9o1 9ll 1 9o2 9ll 4 9od 9ll 13xb 15l 14k 2 16a 14n b 161 14x 1 161 14y 1 1dmx 14x ",
    "1 1dmx 14y 1 15c 14n 1 15c 14o 1 15c 14s 1 15d 14s 1 15e 14s 1 15f 14s 1 15g 14s 1 15h 14s 1 ",
    "15i 14s 2 15k 14s 1 15l 14s 1 15m 14s 1 15n 14s 1 15o 14s 2 15q 14s 2 15s 14s 1 15t 14s 2 ",
    "15v 14s 1 15w 14s 2 15y 14s 1 15z 14s 1 160 14s 1 161 14s 1 162 14s 1 15h 14p 1 15d 14v 1 ",
    "15n 14v 1 15w 14v 47g 1huh 1hve 2 1huj 1hve f 1hut 1hve 3n 1hyp 1hyf 1 1hyq 1hyf f0 1idj ",
    "1ida 1 1idj 1idz a7 1int 1inu 1 1int 1ink 2 1int 1inx 70 1iuw 1iun 1 1iux 1iun ot 1jjp 1jjk ",
    "10di 2jx3 2jxh 1 2jx4 2jxh 1 2jxb 2jxq 1 2jxb 2jxr 1 2jxb 2jxs 1 2jxb 2jxt 1 2jxb 2jxu 2f ",
    "2jzt 2jxh 1 2jzu 2jxh 1 2jzv 2jxq 1 2jzw 2jxq 1 2jzv 2jxr 1 2jzw 2jxr"]

/-- Characters made of two that are not joined again, each as its distance from the one
before. -/
def unjoinedRow : String :=
  String.join [
    "n8 178 1 1 1 1 1 1 1 3h 1 2 2c 3 z 1 1 3 72 1 rq a 5 5 5 d a 2 1 2 9 i a 5 5 5 d 5cz 154x 2 ",
    "b 1 1 1 1 1 1 1 1 1 1 1 1 2 1 1 1 1 2 2 1 2 1 2 1 1 1 1 1 1 1 1 16a8 1 1 1 1 1 1 2f 1 1 1 1 ",
    "1"]

/-- The entries of a row of respelled characters. -/
def respelledAfter (last : Nat) : List Nat → List (Nat × Nat)
  | gap :: image :: rest => (last + gap, image) :: respelledAfter (last + gap) rest
  | _ => []

/-- The entries of a row of joined characters. -/
def joinedAfter (last : Nat) : List Nat → List (Nat × Nat × Nat)
  | gap :: a :: b :: rest => (last + gap, a, b) :: joinedAfter (last + gap) rest
  | _ => []

/-- The code points of a row of distances. -/
def pointsAfter (last : Nat) : List Nat → List Nat
  | gap :: rest => (last + gap) :: pointsAfter (last + gap) rest
  | [] => []

/-- Characters that are another spelling of one character. -/
def respelled : Array (Nat × Nat) := (respelledAfter 0 (numbers respelledRow)).toArray

/-- Characters made of two. -/
def joined : Array (Nat × Nat × Nat) := (joinedAfter 0 (numbers joinedRow)).toArray

/-- Characters made of two that are not joined again. -/
def unjoined : List Nat := pointsAfter 0 (numbers unjoinedRow)

/-- The value under `n` in an array of entries in rising order, looked for from index `lo` up
to, not including, `hi`. -/
def findEntry {α : Type} (entries : Array (Nat × α)) (n lo hi : Nat) : Option α :=
  if lo < hi then
    match entries[(lo + hi) / 2]? with
    | none => none
    | some (code, value) =>
      if n < code then findEntry entries n lo ((lo + hi) / 2)
      else if code < n then findEntry entries n ((lo + hi) / 2 + 1) hi
      else some value
  else none
termination_by hi - lo

/-- The first of the Korean syllables, which are joined by rule. -/
def syllableBase : Nat := 0xAC00

/-- The parts of a Korean syllable: lead, vowel, and perhaps tail. -/
def syllableParts (n : Nat) : List Nat :=
  let i := n - syllableBase
  let tail := i % 28
  [0x1100 + i / 588, 0x1161 + i % 588 / 28] ++ if tail = 0 then [] else [0x11A7 + tail]

/-- The parts of a character.  No character is taken apart more than four times over. -/
def parts (depth n : Nat) : List Nat :=
  if n < 0xC0 then [n]
  else if syllableBase ≤ n ∧ n < syllableBase + 11172 then syllableParts n
  else
    match depth with
    | 0 => [n]
    | depth + 1 =>
      match findEntry respelled n 0 respelled.size with
      | some m => parts depth m
      | none =>
        match findEntry joined n 0 joined.size with
        | some (a, b) => parts depth a ++ [b]
        | none => [n]

/-- Puts a character behind others, last one first, before those marks of a greater class. -/
def insertMark (n : Nat) : List Nat → List Nat
  | [] => [n]
  | m :: before =>
    if combiningClass n ≠ 0 ∧ combiningClass n < combiningClass m then m :: insertMark n before
    else n :: m :: before

/-- The characters with the marks after each letter in order. -/
def orderMarks (ns : List Nat) : List Nat :=
  (ns.foldl (fun before n => insertMark n before) []).reverse

/-- The Korean syllable of two parts. -/
def joinSyllable? (a b : Nat) : Option Nat :=
  if 0x1100 ≤ a ∧ a < 0x1113 ∧ 0x1161 ≤ b ∧ b < 0x1176 then
    some (syllableBase + ((a - 0x1100) * 21 + (b - 0x1161)) * 28)
  else if syllableBase ≤ a ∧ a < syllableBase + 11172 ∧ (a - syllableBase) % 28 = 0 ∧
      0x11A7 < b ∧ b < 0x11C3 then
    some (a + (b - 0x11A7))
  else none

/-- The character that two characters join to. -/
def join? (a b : Nat) : Option Nat :=
  match joinSyllable? a b with
  | some n => some n
  | none =>
    ((joined.toList.find? fun (code, x, y) => x = a && y = b && !unjoined.contains code)).map
      Prod.fst

/-- Joins characters.  `starter` is the last letter and `between` the marks after it that were
not joined to it, last one first. -/
def joinAfter (starter : Option Nat) (between : List Nat) : List Nat → List Nat
  | [] => starter.toList ++ between.reverse
  | n :: rest =>
    let free : Bool :=
      match between with
      | [] => true
      | m :: _ => combiningClass m < combiningClass n
    match if free then starter.bind (fun s => join? s n) else none with
    | some whole => joinAfter (some whole) between rest
    | none =>
      if combiningClass n = 0 then
        starter.toList ++ between.reverse ++ joinAfter (some n) [] rest
      else joinAfter starter (n :: between) rest

/-- The composed form of some characters.  Those below the first mark are composed already. -/
def composedChars (cs : List Char) : List Char :=
  if cs.all fun c => c.toNat < 0x300 then cs
  else
    (joinAfter none [] (orderMarks (cs.flatMap fun c => parts 4 c.toNat))).map Char.ofNat

/-- The composed form of a text. -/
def composed (s : String) : String := String.ofList (composedChars s.toList)

/-- Is the text in composed form? -/
def isComposed (cs : List Char) : Bool := composedChars cs == cs

end Intake.Text
