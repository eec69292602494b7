import Intake.Text.Case

/-!
# Characters of internet names

How a character of an internet name is taken: as it is, as other characters, not at all, or
as a mistake.  Letters are taken as small letters unless a chart says otherwise.
-/

namespace Intake.Net

open Text

/-- How a character of a name is taken. -/
inductive NameChar where
  | taken (cs : List Nat)
  | ignored
  | refused
deriving DecidableEq, Repr

/-- Characters that are taken as one other character. -/
def oneRow : String :=
  String.join [
    "4g 1 1 w 4q 1 1 2p 4y 2 1 1e 51 1 1 qk 55 1 1 1d 56 1 1 33 an 1 1 37 j4 1 1 2w j5 1 1 h2 j6 ",
    "1 1 2y j7 1 1 36 j8 1 1 hl j9 1 1 hn ja 1 1 ht jb 1 1 3b jc 1 1 3d kg 1 1 gz kh 1 1 30 ki 1 ",
    "1 37 kj 1 1 3c kk 1 1 id n9 1 1 qh r4 1 1 qa r5 1 1 qg r6 1 1 qt r7 1 1 r1 r8 1 1 qz r9 1 1 ",
    "qu ra 1 1 qo s0 1 1 qi s1 1 1 qp s2 1 1 qr s5 1 1 qd s9 1 1 qr 2z0 1 1 2yz 3cs 1 1 3bw 3vk ",
    "2e 1 3vk 3y0 6 1 3xs 5mo 1 1 tu 5mp 1 1 tw 5mq 1 1 u6 5mr 2 1 u9 5mt 1 1 ua 5mu 1 1 ui 5mv 1 ",
    "1 v7 5mw 1 1 wuj 5mx 1 1 5my 5rg 1 1 2p 5rh 1 1 6e 5ri 2 2 2q 5rl 1 1 2t 5rm 1 1 d9 5rn 8 1 ",
    "2v 5rw 1 1 33 5rx 1 1 f7 5ry 1 1 34 5rz 1 1 36 5s0 2 1 38 5s2 1 1 3b 5s3 1 1 2p 5s4 2 1 gg ",
    "5s6 1 1 5qa 5s7 1 1 2q 5s8 2 1 2s 5sa 1 1 gp 5sb 2 1 gr 5sd 1 1 2v 5sf 1 1 2z 5sg 1 1 31 5sh ",
    "1 1 97 5si 1 1 33 5sj 1 1 gk 5sk 2 1 5qu 5sm 1 1 34 5sn 2 1 38 5sp 1 1 5r1 5sq 1 1 hb 5sr 1 ",
    "1 3a 5ss 1 1 5r9 5st 3 1 qa 5sw 2 1 qu 5sy 1 1 2x 5sz 1 1 36 5t0 2 1 39 5t2 2 1 qa 5t4 1 1 ",
    "qp 5t5 2 1 qu 5tk 1 1 u5 5uj 1 1 gi 5uk 1 1 2r 5ul 1 1 gl 5um 1 1 6o 5un 1 1 gs 5uo 1 1 2u ",
    "5up 1 1 gv 5uq 1 1 gx 5ur 1 1 h1 5us 3 1 h4 5uv 1 1 5tn 5uw 1 1 il 5ux 1 1 h9 5uy 1 1 5tx ",
    "5uz 1 1 in 5v0 1 1 hd 5v1 1 1 hc 5v2 4 1 he 5v6 1 1 hk 5v7 2 1 hu 5v9 1 1 bv 5va 2 1 i1 5vc ",
    "1 1 5r0 5vd 2 1 i3 5vf 1 1 3e 5vg 3 1 i8 5vj 1 1 qg 61n 1 1 601 6bk 1 1 w 6bl 1 1 w 6bm 1 1 ",
    "w 6bn 1 1 w 6bo 1 1 w 6bp 1 1 w 6bq 1 1 w 6br 1 1 w 6bs 1 1 w 6bt 1 1 w 6bu 1 1 w 6c1 1 1 ",
    "6c0 6cv 1 1 w 6e7 1 1 w 6eo 1 1 1c 6ep 1 1 2x 6es 6 1 1g 6ey 1 1 17 6ez 1 1 6qa 6f0 1 1 1p ",
    "6f1 2 1 14 6f3 1 1 32 6f4 a 1 1c 6fe 1 1 17 6ff 1 1 6qa 6fg 1 1 1p 6fh 2 1 14 6fk 1 1 2p 6fl ",
    "1 1 2t 6fm 1 1 33 6fn 1 1 3c 6fo 1 1 gp 6fp 1 1 2w 6fq 4 1 2z 6fu 1 1 34 6fv 2 1 37 6iq 1 1 ",
    "2r 6iv 1 1 gr 6iy 2 1 2v 6j0 1 1 2w 6j1 1 1 2w 6j2 1 1 2w 6j3 1 1 87 6j4 1 1 2x 6j5 1 1 2x ",
    "6j6 1 1 30 6j7 2 2 30 6jd 3 1 34 6jg 1 1 36 6jh 1 1 36 6jo 1 1 3e 6js 1 1 3e 6jw 2 1 2q 6jz ",
    "1 1 2t 6k0 2 1 2t 6k3 1 1 31 6k4 1 1 33 6k5 4 1 15c 6k9 1 1 2x 6kc 1 1 qo 6kd 1 1 qb 6ke 1 1 ",
    "qb 6kf 1 1 qo 6kg 1 1 6q9 6kl 1 1 2s 6km 2 1 2s 6ko 2 1 2x 6lc 1 1 2x 6lg 1 1 3a 6ll 1 1 3c ",
    "6lo 1 1 30 6lp 2 1 2r 6lr 1 1 31 6ls 1 1 2x 6lw 1 1 3a 6m1 1 1 3c 6m4 1 1 30 6m5 2 1 2r 6m7 ",
    "1 1 31 76o 9 1 1d 792 q 1 2p 79s q 1 2p 7ai 1 1 1c 8sc 1 1 2y 8sd 1 1 3a 8z3 1 1 8yp 97j 1 1 ",
    "lal 99v 1 1 vj3 9a8 1 1 feo 9a9 1 1 ffs 9aa 1 1 fg6 9ab 1 1 fgf 9ac 1 1 fh5 9ad 1 1 fid 9ae ",
    "1 1 fik 9af 1 1 fj4 9ag 1 1 fju 9ah 1 1 g1r 9ai 1 1 g2t 9aj 1 1 g2z 9ak 1 1 g3m 9al 1 1 g46 ",
    "9am 1 1 g4r 9an 1 1 g68 9ao 1 1 g6t 9ap 1 1 g74 9aq 1 1 gbf 9ar 1 1 ge1 9as 1 1 get 9at 1 1 ",
    "gey 9au 1 1 gfs 9av 1 1 gg1 9aw 1 1 ggs 9ax 1 1 gh5 9ay 1 1 ghu 9az 1 1 gja 9b0 1 1 gjs 9b1 ",
    "1 1 gkj 9b2 1 1 h5j 9b3 1 1 h7j 9b4 1 1 hkb 9b5 1 1 hky 9b6 1 1 hl6 9b7 1 1 hlh 9b8 1 1 hlz ",
    "9b9 1 1 ho3 9ba 1 1 i1c 9bb 1 1 i2o 9bc 1 1 i60 9bd 1 1 i6n 9be 1 1 i76 9bf 1 1 i7s 9bg 1 1 ",
    "i9a 9bh 1 1 i9d 9bi 1 1 ijf 9bj 1 1 ijp 9bk 1 1 ik1 9bl 1 1 ike 9bm 1 1 inm 9bn 1 1 inu 9bo ",
    "1 1 inz 9bp 1 1 ir8 9bq 1 1 iri 9br 1 1 irv 9bs 1 1 is3 9bt 1 1 its 9bu 1 1 iu9 9bv 1 1 iur ",
    "9bw 1 1 iwz 9bx 1 1 jd4 9by 1 1 jee 9bz 1 1 jez 9c0 1 1 jzj 9c1 1 1 jzo 9c2 1 1 k1z 9c3 1 1 ",
    "k2f 9c4 1 1 k2s 9c5 1 1 k3d 9c6 1 1 k4g 9c7 1 1 k4l 9c8 1 1 kc0 9c9 1 1 kco 9ca 1 1 kdk 9cb ",
    "1 1 l5s 9cc 1 1 l7m 9cd 1 1 l89 9ce 1 1 l9v 9cf 1 1 laj 9cg 1 1 las 9ch 1 1 laz 9ci 1 1 lcf ",
    "9cj 1 1 lck 9ck 1 1 ldg 9cl 1 1 m7f 9cm 1 1 mju 9cn 1 1 mk6 9co 1 1 mkb 9cp 1 1 mkf 9cq 1 1 ",
    "mkn 9cr 1 1 ml5 9cs 1 1 ml7 9ct 1 1 mng 9cu 1 1 mtg 9cv 1 1 mtl 9cw 1 1 n30 9cx 1 1 n3a 9cy ",
    "1 1 n4o 9cz 1 1 n4v 9d0 1 1 n54 9d1 1 1 n5c 9d2 1 1 n7v 9d3 1 1 n82 9d4 1 1 nee 9d5 1 1 nel ",
    "9d6 1 1 nfy 9d7 1 1 ngf 9d8 1 1 nhq 9d9 1 1 nob 9da 1 1 noi 9db 1 1 noz 9dc 1 1 ny2 9dd 1 1 ",
    "o1k 9de 1 1 o1q 9df 1 1 o6s 9dg 1 1 o97 9dh 1 1 oah 9di 1 1 okz 9dj 1 1 ooo 9dk 1 1 p4m 9dl ",
    "1 1 p5d 9dm 1 1 p6y 9dn 1 1 p8d 9do 1 1 pa9 9dp 1 1 pak 9dq 1 1 paq 9dr 1 1 pbn 9ds 1 1 pdr ",
    "9dt 1 1 pe1 9du 1 1 pnn 9dv 1 1 pnu 9dw 1 1 po3 9dx 1 1 poc 9dy 1 1 pos 9dz 1 1 pp7 9e0 1 1 ",
    "ppb 9e1 1 1 pri 9e2 1 1 prm 9e3 1 1 prs 9e4 1 1 qj1 9e5 1 1 qjv 9e6 1 1 qww 9e7 1 1 qx8 9e8 ",
    "1 1 qxv 9e9 1 1 r5q 9ea 1 1 r63 9eb 1 1 r82 9ec 1 1 r9c 9ed 1 1 rp3 9ee 1 1 rpi 9ef 1 1 rpx ",
    "9eg 1 1 rqw 9eh 1 1 rrx 9ei 1 1 rxg 9ej 1 1 rxs 9ek 1 1 rzn 9el 1 1 s6j 9em 1 1 s7e 9en 1 1 ",
    "sd7 9eo 1 1 sds 9ep 1 1 sdx 9eq 1 1 sk1 9er 1 1 sp5 9es 1 1 ssm 9et 1 1 sss 9eu 1 1 ssx 9ev ",
    "1 1 tiv 9ew 1 1 tj4 9ex 1 1 tng 9ey 1 1 trq 9ez 1 1 trt 9f0 1 1 tt4 9f1 1 1 tw1 9f2 1 1 twe ",
    "9f3 1 1 twi 9f4 1 1 twp 9f5 1 1 tzf 9f6 1 1 u0d 9f7 1 1 u0j 9f8 1 1 u0x 9f9 1 1 u5k 9fa 1 1 ",
    "u6z 9fb 1 1 u73 9fc 1 1 uc6 9fd 1 1 uc9 9fe 1 1 ucs 9ff 1 1 ujs 9fg 1 1 ul4 9fh 1 1 ulb 9fi ",
    "1 1 un9 9fj 1 1 unj 9fk 1 1 unm 9fl 1 1 unw 9fm 1 1 uoq 9fn 1 1 uzp 9fo 1 1 vat 9fp 1 1 vb3 ",
    "9fq 1 1 vc5 9fr 1 1 vcr 9fs 1 1 vcz 9ft 1 1 vd9 9fu 1 1 vdd 9fv 1 1 veh 9fw 1 1 vel 9fx 1 1 ",
    "vf2 9fy 1 1 vf7 9fz 1 1 vfk 9g0 1 1 vgb 9g1 1 1 vgq 9g2 1 1 vgy 9g3 1 1 vil 9g4 1 1 vj0 9g5 ",
    "1 1 vj4 9hc 1 1 w 9he 1 1 1a 9iu 1 1 9hu 9iw 1 1 gg1 9ix 2 1 gg4 9pt 2 1 3cw 9pv 1 1 3hm 9pw ",
    "1 1 3cy 9px 2 1 3ho 9pz 3 1 3cz 9q2 6 1 3hs 9q8 1 1 3dm 9q9 3 1 3d2 9qc 1 1 3dt 9qd a 1 3d5 ",
    "9qn l 1 3fl 9r9 2 1 3dg 9rb 2 1 3if 9rd 1 1 3ik 9re 1 1 3im 9rf 1 1 3ir 9rg 1 1 3iv 9rh 1 1 ",
    "3ix 9ri 1 1 3do 9rj 1 1 3j1 9rk 1 1 3j3 9rl 2 1 3dp 9rn 1 1 3ds 9ro 2 1 3du 9rq 1 1 3dz 9rr ",
    "1 1 3e1 9rs 5 1 3e3 9rx 1 1 3ea 9ry 1 1 3ee 9rz 1 1 3eo 9s0 1 1 3ev 9s1 1 1 3f0 9s2 2 1 3jl ",
    "9s4 3 1 3fb 9s7 2 1 3gk 9s9 1 1 3go 9sa 2 1 3gx 9sc 1 1 3h0 9sd 1 1 3ha 9se 1 1 3hd 9si 1 1 ",
    "feo 9sj 1 1 fik 9sk 1 1 fex 9sl 1 1 h5n 9sm 1 1 fey 9sn 1 1 ffx 9so 1 1 fez 9sp 1 1 n5e 9sq ",
    "1 1 fh5 9sr 1 1 ffd 9ss 1 1 fep 9st 1 1 hm1 9su 1 1 h80 9sv 1 1 fju 9xg 1 1 gun 9xh 1 1 inw ",
    "9xi 1 1 k1z 9xj 1 1 oen 9y8 1 1 3cw 9y9 2 1 3cy 9yb 3 1 3d1 9ye 1 1 3d5 9yf 2 1 3d7 9yh 5 1 ",
    "3da 9ym 1 1 xz4 9yn 1 1 yvs 9yo 1 1 zc4 9yp 1 1 108s 9yq 1 1 10p4 9yr 1 1 115g 9ys 1 1 1224 ",
    "9yt 1 1 12ys 9yu 1 1 13f4 9yv 1 1 14bs 9yw 1 1 14s4 9yx 1 1 158g 9yy 1 1 15os 9yz 1 1 1654 ",
    "9z2 1 1 138w 9z4 1 1 feo 9z5 1 1 fik 9z6 1 1 fex 9z7 1 1 h5n 9z8 1 1 fis 9z9 1 1 g31 9za 1 1 ",
    "fer 9zb 1 1 g2z 9zc 1 1 fh9 9zd 1 1 gg1 9ze 1 1 kco 9zf 1 1 m7f 9zg 1 1 ldg 9zh 1 1 kdk 9zi ",
    "1 1 ssx 9zj 1 1 h7j 9zk 1 1 k4l 9zl 1 1 kkq 9zm 1 1 kcp 9zn 1 1 ny6 9zo 1 1 glp 9zp 1 1 mm1 ",
    "9zq 1 1 rs1 9zr 1 1 nz1 9zs 1 1 gc4 9zt 1 1 o2g 9zu 1 1 n5j 9zv 1 1 ho3 9zw 1 1 six 9zx 1 1 ",
    "g16 9zy 1 1 ghc 9zz 1 1 lig a00 1 1 u11 a01 1 1 fm9 a02 1 1 g49 a03 1 1 l7n a04 1 1 fey a05 ",
    "1 1 ffx a06 1 1 fez a07 1 1 ijq a08 1 1 gkz a09 1 1 gfv a0a 1 1 i3b a0b 1 1 i1y a0c 1 1 nhf ",
    "a0d 1 1 flt a0e 1 1 rt3 a0f 1 1 ggk a0g 1 1 hlo a1c 1 1 9lu a1d 1 1 9lw a1e 1 1 9ly a1f 1 1 ",
    "9m0 a1g 2 1 9m2 a1i 1 1 9m5 a1j 1 1 9m7 a1k 1 1 9m9 a1l 1 1 9mb a1m 1 1 9md a1n 1 1 9mf a1o ",
    "1 1 9mh a1p 1 1 9mj a1q 1 1 9ml a1r 1 1 9mn a1s 1 1 9mp a1t 1 1 9ms a1u 1 1 9mu a1v 1 1 9mw ",
    "a1w 6 1 9my a22 1 1 9n6 a23 1 1 9n9 a24 1 1 9nc a25 1 1 9nf a26 5 1 9ni a2b 1 1 9no a2c 1 1 ",
    "9nq a2d 6 1 9ns a2j 4 1 9nz wws 1 1 ui wwt 1 1 uk x2o 1 1 x2n x57 1 1 h0 x58 2 2 x59 x5e 2 2 ",
    "x5f x5m 1 1 x5n x5o 1 1 bf x69 1 1 37 x6a 1 1 2r x6b 1 1 2u x6c 1 1 35 x6g 1 1 87 x6h 1 1 9f ",
    "xuk 1 1 x0n xul 1 1 xtj xum 1 1 h7 xun 1 1 xua xux 1 1 i5 xv4 28 1 3vk 1dls 1 1 15u 1dlt 1 1 ",
    "15c 1dlu 2 1 15f 1dlw 3 1 15n 1dlz 1 1 160 1dm0 1 1 162 1dm1 1 1 17 1dn4 1 1 19t 1dn5 1 1 ",
    "19t 1dn6 1 1 1a3 1dn7 1 1 1a3 1dn8 1 1 1a3 1dn9 1 1 1a3 1dna 1 1 1a6 1dnb 1 1 1a6 1dnc 1 1 ",
    "1a6 1dnd 1 1 1a6 1dne 1 1 1a8 1dnf 1 1 1a8 1dng 1 1 1a8 1dnh 1 1 1a8 1dni 1 1 1a2 1dnj 1 1 ",
    "1a2 1dnk 1 1 1a2 1dnl 1 1 1a2 1dnm 1 1 1a7 1dnn 1 1 1a7 1dno 1 1 1a7 1dnp 1 1 1a7 1dnq 1 1 ",
    "1a1 1dnr 1 1 1a1 1dns 1 1 1a1 1dnt 1 1 1a1 1dnu 1 1 1b8 1dnv 1 1 1b8 1dnw 1 1 1b8 1dnx 1 1 ",
    "1b8 1dny 1 1 1ba 1dnz 1 1 1ba 1do0 1 1 1ba 1do1 1 1 1ba 1do2 1 1 1ac 1do3 1 1 1ac 1do4 1 1 ",
    "1ac 1do5 1 1 1ac 1do6 1 1 1ab 1do7 1 1 1ab 1do8 1 1 1ab 1do9 1 1 1ab 1doa 1 1 1ae 1dob 1 1 ",
    "1ae 1doc 1 1 1ae 1dod 2 1 1ae 1dof 1 1 1af 1dog 1 1 1af 1doh 1 1 1af 1doi 1 1 1al 1doj 1 1 ",
    "1al 1dok 1 1 1ak 1dol 1 1 1ak 1dom 1 1 1am 1don 1 1 1am 1doo 1 1 1ag 1dop 1 1 1ag 1doq 1 1 ",
    "1aw 1dor 1 1 1aw 1dos 1 1 1ap 1dot 1 1 1ap 1dou 1 1 1bd 1dov 1 1 1bd 1dow 1 1 1bd 1dox 1 1 ",
    "1bd 1doy 1 1 1bj 1doz 1 1 1bj 1dp0 1 1 1bj 1dp1 1 1 1bj 1dp2 1 1 1bn 1dp3 1 1 1bn 1dp4 1 1 ",
    "1bn 1dp5 1 1 1bn 1dp6 1 1 1bl 1dp7 1 1 1bl 1dp8 1 1 1bl 1dp9 1 1 1bl 1dpa 1 1 1bu 1dpb 2 1 ",
    "1bu 1dpd 1 1 1bv 1dpe 1 1 1bv 1dpf 1 1 1bv 1dpg 1 1 1c0 1dph 2 1 1c0 1dpj 1 1 1c1 1dpk 1 1 ",
    "1c1 1dpl 1 1 1c1 1dpm 1 1 1by 1dpn 1 1 1by 1dpo 1 1 1by 1dpp 1 1 1by 1dpq 1 1 1ci 1dpr 2 1 ",
    "1ci 1dpt 1 1 1cj 1dqr 1 1 1bh 1dqs 1 1 1bh 1dqt 1 1 1bh 1dqu 1 1 1bh 1dqv 1 1 1c7 1dqw 1 1 ",
    "1c7 1dqx 1 1 1c6 1dqy 1 1 1c6 1dqz 1 1 1c8 1dr0 1 1 1c8 1dr2 1 1 1cb 1dr3 1 1 1cb 1dr4 1 1 ",
    "1c5 1dr5 1 1 1c5 1dr6 1 1 1c9 1dr7 1 1 1c9 1dr8 1 1 1cg 1dr9 1 1 1cg 1dra 1 1 1cg 1drb 1 1 ",
    "1cg 1drc 1 1 18p 1drd 1 1 18p 1drw 1 1 1cc 1drx 1 1 1cc 1dry 1 1 1cc 1drz 1 1 1cc 1e6o 1 1 ",
    "18 1e6p 1 1 9hd 1e6r 2 1 1m 1e6t 1 1 x 1e6u 1 1 1r 1e6v 2 1 9hy 1e7l 1 1 6c4 1e7m 1 1 6c3 ",
    "1e7n 1 1 2n 1e7o 1 1 2n 1e7p 2 1 14 1e7r 1 1 3f 1e7s 1 1 3h 1e7t 2 1 9hw 1e7v 2 1 9hs 1e7x 2 ",
    "1 9hm 1e7z 2 1 9hk 1e81 4 1 9ho 1e87 1 1 2j 1e88 1 1 2l 1e8d 1 1 2n 1e8e 1 1 2n 1e8f 1 1 2n ",
    "1e8g 1 1 18 1e8h 1 1 9hd 1e8k 1 1 1n 1e8l 1 1 1m 1e8m 1 1 1r 1e8n 1 1 x 1e8o 1 1 6c4 1e8p 2 ",
    "1 14 1e8r 1 1 3f 1e8s 1 1 3h 1e8t 2 1 9hw 1e8v 1 1 z 1e8w 1 1 12 1e8x 2 1 16 1e8z 1 1 19 ",
    "1e90 1 1 1o 1e91 1 1 1q 1e92 1 1 1p 1e94 1 1 2k 1e95 2 1 10 1e97 1 1 1s 1e9s 2 1 17l 1e9u 2 ",
    "1 17m 1e9w 2 1 17n 1e9y 2 1 17o 1ea0 2 1 17p 1ea2 1 1 17q 1ea3 1 1 17q 1ea4 2 1 17q 1ea6 2 1 ",
    "17r 1ea8 1 1 17s 1ea9 1 1 17s 1eaa 2 1 17s 1eac 2 1 17t 1eae 1 1 17u 1eaf 1 1 17u 1eag 2 1 ",
    "17u 1eai 1 1 17v 1eaj 1 1 17v 1eak 2 1 17v 1eam 1 1 17w 1ean 1 1 17w 1eao 2 1 17w 1eaq 1 1 ",
    "17x 1ear 1 1 17x 1eas 2 1 17x 1eau 1 1 17y 1eav 1 1 17y 1eaw 2 1 17y 1eay 2 1 17z 1eb0 2 1 ",
    "180 1eb2 2 1 181 1eb4 2 1 182 1eb6 1 1 183 1eb7 1 1 183 1eb8 2 1 183 1eba 1 1 184 1ebb 1 1 ",
    "184 1ebc 2 1 184 1ebe 1 1 185 1ebf 1 1 185 1ebg 2 1 185 1ebi 1 1 186 1ebj 1 1 186 1ebk 2 1 ",
    "186 1ebm 1 1 187 1ebn 1 1 187 1ebo 2 1 187 1ebq 1 1 188 1ebr 1 1 188 1ebs 2 1 188 1ebu 1 1 ",
    "189 1ebv 1 1 189 1ebw 2 1 189 1eby 1 1 18a 1ebz 1 1 18a 1ec0 1 1 18a 1ec1 1 1 18h 1ec2 1 1 ",
    "18h 1ec3 1 1 18h 1ec4 2 1 18h 1ec6 1 1 18i 1ec7 1 1 18i 1ec8 2 1 18i 1eca 1 1 18j 1ecb 1 1 ",
    "18j 1ecc 2 1 18j 1ece 1 1 18k 1ecf 1 1 18k 1ecg 2 1 18k 1eci 1 1 18l 1ecj 1 1 18l 1eck 2 1 ",
    "18l 1ecm 1 1 18m 1ecn 1 1 18m 1eco 2 1 18m 1ecq 1 1 18n 1ecr 1 1 18n 1ecs 2 1 18n 1ecu 2 1 ",
    "18o 1ecw 2 1 18p 1ecy 1 1 18q 1ecz 1 1 18q 1ed0 1 1 18q 1edd w 1 x 1ee9 q 1 2p 1eez 10 1 2j ",
    "1efz 2 1 879 1eg1 1 1 1a 1eg2 2 1 9ho 1eg4 1 1 9hd 1eg5 1 1 9ob 1eg6 1 1 9o2 1eg7 1 1 9lt ",
    "1eg8 1 1 9lv 1eg9 1 1 9lx 1ega 1 1 9lz 1egb 1 1 9m1 1egc 1 1 9nn 1egd 1 1 9np 1ege 1 1 9nr ",
    "1egf 1 1 9mr 1egg 1 1 9oc 1egh 1 1 9lu 1egi 1 1 9lw 1egj 1 1 9ly 1egk 1 1 9m0 1egl 2 1 9m2 ",
    "1egn 1 1 9m5 1ego 1 1 9m7 1egp 1 1 9m9 1egq 1 1 9mb 1egr 1 1 9md 1egs 1 1 9mf 1egt 1 1 9mh ",
    "1egu 1 1 9mj 1egv 1 1 9ml 1egw 1 1 9mn 1egx 1 1 9mp 1egy 1 1 9ms 1egz 1 1 9mu 1eh0 1 1 9mw ",
    "1eh1 6 1 9my 1eh7 1 1 9n6 1eh8 1 1 9n9 1eh9 1 1 9nc 1eha 1 1 9nf 1ehb 5 1 9ni 1ehg 1 1 9no ",
    "1ehh 1 1 9nq 1ehi 6 1 9ns 1eho 1 1 9nz 1ehp 1 1 9o3 1ehq 2 1 9ll 1eht 2 1 3cw 1ehv 1 1 3hm ",
    "1ehw 1 1 3cy 1ehx 2 1 3ho 1ehz 3 1 3cz 1ei2 6 1 3hs 1ei8 1 1 3dm 1ei9 3 1 3d2 1eic 1 1 3dt ",
    "1eid a 1 3d5 1eiq 6 1 3fl 1eiy 6 1 3fr 1ej6 6 1 3fx 1eje 3 1 3g3 1ejk 2 1 4i 1ejm 1 1 4s ",
    "1ejo 1 1 4m 1ejp 1 1 4l 1ejq 1 1 6g9 1ejs 1 1 7b6 1ejt 4 1 6mo 1ejx 1 1 7fk 1ejy 1 1 7gr ",
    "1g1t 2 1 k0 1g1v 1 1 6e 1g1w 1 1 ih 1g1x 1 1 gj 1g1z 1 1 ir 1g20 1 1 xuu 1g21 1 1 it 1g22 1 ",
    "1 is 1g23 2 1 gm 1g25 1 1 5u9 1g26 1 1 go 1g27 1 1 gu 1g28 1 1 ix 1g29 1 1 h0 1g2a 1 1 gy ",
    "1g2b 1 1 gw 1g2c 1 1 ij 1g2d 1 1 87 1g2e 1 1 ik 1g2f 1 1 h3 1g2g 1 1 hw 1g2h 2 1 iy 1g2j 1 1 ",
    "h8 1g2k 1 1 2mmc 1g2l 1 1 x3i 1g2m 1 1 ha 1g2n 1 1 2mmd 1g2o 1 1 i6 1g2p 1 1 2mme 1g2q 1 1 ",
    "6w 1g2r 2 1 hi 1g2t 1 1 35 1g2u 1 1 hm 1g2v 1 1 2mmg 1g2w 2 1 hp 1g2y 1 1 hs 1g2z 1 1 iw ",
    "1g30 1 1 iu 1g31 1 1 xuv 1g32 1 1 iv 1g33 1 1 i0 1g34 1 1 8s1 1g36 1 1 i7 1g37 2 1 ip 1g39 1 ",
    "1 ig 1g3a 3 1 cg 1g3d 1 1 2mmi 1g3e 1 1 2mn2 1h74 m 1 1h80 20f4 p 1 20fv 2j12 q 1 2p 2j1s a ",
    "1 1c 2kg0 q 1 2p 2kgq q 1 2p 2khg q 1 2p 2ki6 7 1 2p 2kie i 1 2x 2kiw q 1 2p 2kjm q 1 2p ",
    "2kkc 2 2 2p 2kkf 1 1 2s 2kki 1 1 2v 2kkl 2 1 2y 2kkp 4 1 32 2kku 8 1 37 2kl2 4 1 2p 2kl7 2 2 ",
    "2u 2kla 6 1 2x 2klh b 1 34 2kls q 1 2p 2kmi q 1 2p 2kn8 2 1 2p 2knb 4 1 2s 2knh 8 1 2y 2knq ",
    "7 1 37 2kny q 1 2p 2koo 2 1 2p 2kor 4 1 2s 2kow 5 1 2x 2kp2 1 1 33 2kp6 7 1 37 2kpe q 1 2p ",
    "2kq4 q 1 2p 2kqu q 1 2p 2krk q 1 2p 2ksa q 1 2p 2kt0 q 1 2p 2ktq q 1 2p 2kug q 1 2p 2kv6 q 1 ",
    "2p 2kvw q 1 2p 2kwm q 1 2p 2kxc q 1 2p 2ky2 q 1 2p 2kys 1 1 8h 2kyt 1 1 fr 2kyw h 1 q9 2kzd ",
    "1 1 qg 2kze 7 1 qr 2kzl 1 1 6pz 2kzm h 1 q9 2l03 1 1 qr 2l04 7 1 qr 2l0b 1 1 6pu 2l0c 1 1 qd ",
    "2l0d 1 1 qg 2l0e 1 1 qi 2l0f 1 1 qu 2l0g 1 1 qp 2l0h 1 1 qo 2l0i h 1 q9 2l0z 1 1 qg 2l10 7 1 ",
    "qr 2l17 1 1 6pz 2l18 h 1 q9 2l1p 1 1 qr 2l1q 7 1 qr 2l1x 1 1 6pu 2l1y 1 1 qd 2l1z 1 1 qg ",
    "2l20 1 1 qi 2l21 1 1 qu 2l22 1 1 qp 2l23 1 1 qo 2l24 h 1 q9 2l2l 1 1 qg 2l2m 7 1 qr 2l2t 1 1 ",
    "6pz 2l2u h 1 q9 2l3b 1 1 qr 2l3c 7 1 qr 2l3j 1 1 6pu 2l3k 1 1 qd 2l3l 1 1 qg 2l3m 1 1 qi ",
    "2l3n 1 1 qu 2l3o 1 1 qp 2l3p 1 1 qo 2l3q h 1 q9 2l47 1 1 qg 2l48 7 1 qr 2l4f 1 1 6pz 2l4g h ",
    "1 q9 2l4x 1 1 qr 2l4y 7 1 qr 2l55 1 1 6pu 2l56 1 1 qd 2l57 1 1 qg 2l58 1 1 qi 2l59 1 1 qu ",
    "2l5a 1 1 qp 2l5b 1 1 qo 2l5c h 1 q9 2l5t 1 1 qg 2l5u 7 1 qr 2l61 1 1 6pz 2l62 h 1 q9 2l6j 1 ",
    "1 qr 2l6k 7 1 qr 2l6r 1 1 6pu 2l6s 1 1 qd 2l6t 1 1 qg 2l6u 1 1 qi 2l6v 1 1 qu 2l6w 1 1 qp ",
    "2l6x 1 1 qo 2l6y 1 1 rh 2l6z 1 1 rh 2l72 a 1 1c 2l7c a 1 1c 2l7m a 1 1c 2l7w a 1 1c 2l86 a 1 ",
    "1c 2muo 9 1 ts 2mux 3 1 u2 2mv0 b 1 u6 2mvb 1 1 uj 2mvc 2 1 ul 2mve 1 1 ww9 2mvf 1 1 yh 2mvg ",
    "1 1 uu 2mvh 1 1 uw 2mvi 1 1 yx 2mvj 1 1 xb 2mvk 1 1 y7 2mvl 9 1 ts 2mvu 2 1 u2 2mvw 2 1 u6 ",
    "2mvy 1 1 u9 2mvz 6 1 ub 2mw5 2 1 ui 2mw7 1 1 wh 2mw8 1 1 uu 2mw9 1 1 ut 2mwa 1 1 v3 2mwb 1 1 ",
    "x7 2mwc 1 1 wup 2mwd 1 1 xd 2pkw 2 1 17r 2pky 1 1 17w 2pkz 1 1 17z 2pl1 1 1 18o 2pl2 1 1 182 ",
    "2pl3 1 1 17x 2pl4 1 1 187 2pl5 1 1 18q 2pl6 4 1 18j 2pla 1 1 183 2plb 1 1 189 2plc 1 1 18h ",
    "2pld 1 1 185 2ple 1 1 18i 2plf 1 1 181 2plg 1 1 184 2plh 2 1 17u 2plj 1 1 17y 2plk 1 1 180 ",
    "2pll 1 1 186 2plm 1 1 188 2pln 1 1 18a 2plo 1 1 19q 2plp 1 1 1bu 2plq 1 1 1b5 2plr 1 1 19r ",
    "2plt 1 1 17s 2plu 1 1 17w 2plw 1 1 18n 2plz 1 1 17x 2pm1 1 1 18q 2pm2 4 1 18j 2pm6 1 1 183 ",
    "2pm7 1 1 189 2pm8 1 1 18h 2pm9 1 1 185 2pma 1 1 18i 2pmc 1 1 184 2pmd 2 1 17u 2pmf 1 1 17y ",
    "2pmh 1 1 186 2pmj 1 1 18a 2pmq 1 1 17w 2pmv 1 1 17x 2pmx 1 1 18q 2pmz 2 2 18k 2pn2 1 1 183 ",
    "2pn3 1 1 189 2pn5 1 1 185 2pn6 1 1 18i 2pn8 1 1 184 2pnb 1 1 17y 2pnd 1 1 186 2pnf 1 1 18a ",
    "2pnh 1 1 1bu 2pnj 1 1 19r 2pnl 1 1 17s 2pnm 1 1 17w 2pno 1 1 18n 2pnr 1 1 17x 2pns 1 1 187 ",
    "2pnt 1 1 18q 2pnu 2 2 18j 2pnx 1 1 18m 2pny 1 1 183 2pnz 1 1 189 2po0 1 1 18h 2po1 1 1 185 ",
    "2po2 1 1 18i 2po4 1 1 184 2po5 2 1 17u 2po7 1 1 17y 2po9 1 1 186 2poa 1 1 188 2pob 1 1 18a ",
    "2poc 1 1 19q 2poe 1 1 1b5 2pog 2 1 17r 2poi 1 1 17w 2poj 1 1 17z 2pok 2 1 18n 2pom 1 1 182 ",
    "2pon 1 1 17x 2poo 1 1 187 2pop 1 1 18q 2por 3 1 18k 2pou 1 1 183 2pov 1 1 189 2pow 1 1 18h ",
    "2pox 1 1 185 2poy 1 1 18i 2poz 1 1 181 2pp0 1 1 184 2pp1 2 1 17u 2pp3 1 1 17y 2pp4 1 1 180 ",
    "2pp5 1 1 186 2pp6 1 1 188 2pp7 1 1 18a 2ppd 1 1 17s 2ppe 1 1 17w 2ppf 1 1 17z 2pph 1 1 18o ",
    "2ppi 1 1 182 2ppj 1 1 17x 2ppk 1 1 187 2ppl 1 1 18q 2ppn 3 1 18k 2ppq 1 1 183 2ppr 1 1 189 ",
    "2pps 1 1 18h 2ppt 1 1 185 2ppu 1 1 18i 2ppv 1 1 181 2ppw 1 1 184 2ppx 2 1 17u 2ppz 1 1 17y ",
    "2pq0 1 1 180 2pq1 1 1 186 2pq2 1 1 188 2pq3 1 1 18a 2q7f 1 1 2r 2q7g 1 1 36 2q7k q 1 2p 2qde ",
    "1 1 9md 2qds 1 1 jez 2qdt 1 1 i1j 2qdu 1 1 gjw 2qdv 1 1 9mv 2qdw 1 1 fik 2qdx 1 1 hlm 2qdy 1 ",
    "1 r8j 2qdz 1 1 hm1 2qe0 1 1 fj8 2qe1 1 1 k68 2qe2 1 1 mch 2qe3 1 1 k2h 2qe4 1 1 g99 2qe5 1 1 ",
    "ivg 2qe6 1 1 g3x 2qe7 1 1 k34 2qe8 1 1 g7x 2qe9 1 1 oqq 2qea 1 1 n4v 2qeb 1 1 rs9 2qec 1 1 ",
    "hkg 2qed 1 1 gmx 2qee 1 1 lxw 2qef 1 1 jh1 2qeg 1 1 jmd 2qeh 1 1 feo 2qei 1 1 fex 2qej 1 1 ",
    "si2 2qek 1 1 ijq 2qel 1 1 ffx 2qem 1 1 gkz 2qen 1 1 jk7 2qeo 1 1 rxs 2qep 1 1 jf7 2qeq 1 1 ",
    "o01 2qer 1 1 o6y 2qes 1 1 glk 2qet 1 1 lts 2qeu 1 1 kcp 2qev 1 1 kco 2qew 1 1 n5f 2qex 1 1 ",
    "gaa 2qey 1 1 gxi 2qez 1 1 sp9 2qfk 1 1 ivr 2qfl 1 1 gkv 2sc0 a 1 1c"]

/-- Characters that are taken as one other character. -/
def oneRuns : Array CaseRun := (caseRuns (numbers oneRow)).toArray

/-- Characters that are taken as several. -/
def manyRow : String :=
  String.join [
    "4o 2 w lk 4v 2 w lg 50 2 w ld 54 2 w mf 58 3 1d 6dg 1g 59 3 1d 6dg 1e 5a 3 1f 6dg 1g 8i 2 2x ",
    "2y 8j 2 2x 2y 8v 2 30 53 8w 2 30 53 95 2 jg 32 ck 2 2s am cl 2 2s am cm 2 2s am cn 2 30 2y ",
    "co 2 30 2y cp 2 30 2y cq 2 32 2y cr 2 32 2y cs 2 32 2y dt 2 2s 3e du 2 2s 3e dv 2 2s 3e k8 2 ",
    "w li k9 2 w lj ka 2 w lm kb 2 w mg kc 2 w lf kd 2 w ln oq 2 w qh p0 2 w ld p1 3 w lk ld 13b ",
    "2 12d 136 19x 2 17r 19w 19y 2 18o 19w 19z 2 1c7 19w 1a0 2 18q 19w 2sz 2 2tp 2sy 2wj 2 2x9 ",
    "2wi 2xo 2 2wb 2vt 2xp 2 2wb 2w1 31z 3 33m 31t 328 321 3 33n 31t 328 61m 2 2p ji 680 2 64g qh ",
    "681 2 64h qh 682 2 64i qh 683 2 64j qh 684 2 64k qh 685 2 64l qh 686 2 64m qh 687 2 64n qh ",
    "688 2 64g qh 689 2 64h qh 68a 2 64i qh 68b 2 64j qh 68c 2 64k qh 68d 2 64l qh 68e 2 64m qh ",
    "68f 2 64n qh 68g 2 65c qh 68h 2 65d qh 68i 2 65e qh 68j 2 65f qh 68k 2 65g qh 68l 2 65h qh ",
    "68m 2 65i qh 68n 2 65j qh 68o 2 65c qh 68p 2 65d qh 68q 2 65e qh 68r 2 65f qh 68s 2 65g qh ",
    "68t 2 65h qh 68u 2 65i qh 68v 2 65j qh 68w 2 674 qh 68x 2 675 qh 68y 2 676 qh 68z 2 677 qh ",
    "690 2 678 qh 691 2 679 qh 692 2 67a qh 693 2 67b qh 694 2 674 qh 695 2 675 qh 696 2 676 qh ",
    "697 2 677 qh 698 2 678 qh 699 2 679 qh 69a 2 67a qh 69b 2 67b qh 69e 2 67k qh 69f 2 q9 qh ",
    "69g 2 q4 qh 69j 2 69i qh 69o 2 q9 qh 69p 2 w lv 69r 2 w lv 69s 2 w n6 69t 3 w lk n6 69u 2 ",
    "67o qh 69v 2 qf qh 69w 2 q6 qh 69z 2 69y qh 6a4 2 qf qh 6a5 3 w lv lc 6a6 3 w lv ld 6a7 3 w ",
    "lv n6 6al 3 w lw lc 6am 3 w lw ld 6an 3 w lw n6 6b1 3 w lk lc 6b2 3 w lk ld 6b6 2 67w qh 6b7 ",
    "2 qx qh 6b8 2 r2 qh 6bb 2 6ba qh 6bg 2 qx qh 6bh 2 w ld 6bi 2 w lw 6c7 2 w mr 6cz 2 6cy 6cy ",
    "6d0 3 6cy 6cy 6cy 6d2 2 6d1 6d1 6d3 3 6d1 6d1 6d1 6d8 2 x x 6da 2 w lh 6dj 2 1r 1r 6dk 2 1r ",
    "x 6dl 2 x 1r 6dz 4 6cy 6cy 6cy 6cy 6g8 2 36 37 6io 3 2p 1b 2r 6ip 3 2p 1b 37 6ir 2 4w 2r 6it ",
    "3 2r 1b 33 6iu 3 2r 1b 39 6ix 2 4w 2u 6ja 2 32 33 6jk 2 37 31 6jl 3 38 2t 30 6jm 2 38 31 6kb ",
    "3 2u 2p 3c 6kw 3 1d 6dg 1j 6kx 3 1d 6dg 1l 6ky 4 1d 6dg 1d 1c 6kz 3 1d 6dg 1f 6l0 3 1e 6dg ",
    "1f 6l1 3 1d 6dg 1h 6l2 3 1e 6dg 1h 6l3 3 1f 6dg 1h 6l4 3 1g 6dg 1h 6l5 3 1d 6dg 1i 6l6 3 1h ",
    "6dg 1i 6l7 3 1d 6dg 1k 6l8 3 1f 6dg 1k 6l9 3 1h 6dg 1k 6la 3 1j 6dg 1k 6lb 2 1d 6dg 6ld 2 2x ",
    "2x 6le 3 2x 2x 2x 6lf 2 2x 3a 6lh 2 3a 2x 6li 3 3a 2x 2x 6lj 4 3a 2x 2x 2x 6lk 2 2x 3c 6lm 2 ",
    "3c 2x 6ln 3 3c 2x 2x 6lt 2 2x 2x 6lu 3 2x 2x 2x 6lv 2 2x 3a 6lx 2 3a 2x 6ly 3 3a 2x 2x 6lz 4 ",
    "3a 2x 2x 2x 6m0 2 2x 3c 6m2 2 3c 2x 6m3 3 3c 2x 2x 6mh 3 1c 6dg 1f 6r0 2 6qz 6qz 6r1 3 6qz ",
    "6qz 6qz 6r3 2 6r2 6r2 6r4 3 6r2 6r2 6r2 76x 2 1d 1c 76y 2 1d 1d 76z 2 1d 1e 770 2 1d 1f 771 ",
    "2 1d 1g 772 2 1d 1h 773 2 1d 1i 774 2 1d 1j 775 2 1d 1k 776 2 1d 1l 777 2 1e 1c 778 3 14 1d ",
    "15 779 3 14 1e 15 77a 3 14 1f 15 77b 3 14 1g 15 77c 3 14 1h 15 77d 3 14 1i 15 77e 3 14 1j 15 ",
    "77f 3 14 1k 15 77g 3 14 1l 15 77h 4 14 1d 1c 15 77i 4 14 1d 1d 15 77j 4 14 1d 1e 15 77k 4 14 ",
    "1d 1f 15 77l 4 14 1d 1g 15 77m 4 14 1d 1h 15 77n 4 14 1d 1i 15 77o 4 14 1d 1j 15 77p 4 14 1d ",
    "1k 15 77q 4 14 1d 1l 15 77r 4 14 1e 1c 15 78c 3 14 2p 15 78d 3 14 2q 15 78e 3 14 2r 15 78f 3 ",
    "14 2s 15 78g 3 14 2t 15 78h 3 14 2u 15 78i 3 14 2v 15 78j 3 14 2w 15 78k 3 14 2x 15 78l 3 14 ",
    "2y 15 78m 3 14 2z 15 78n 3 14 30 15 78o 3 14 31 15 78p 3 14 32 15 78q 3 14 33 15 78r 3 14 34 ",
    "15 78s 3 14 35 15 78t 3 14 36 15 78u 3 14 37 15 78v 3 14 38 15 78w 3 14 39 15 78x 3 14 3a 15 ",
    "78y 3 14 3b 15 78z 3 14 3c 15 790 3 14 3d 15 791 3 14 3e 15 8b0 4 6qz 6qz 6qz 6qz 8dw 3 1m ",
    "1m 1p 8dx 2 1p 1p 8dy 3 1p 1p 1p 9ln 2 w 9ll 9lo 2 w 9lm 9lr 2 9l4 9l6 9of 2 9mb 9mw 9vk 3 ",
    "14 3cw 15 9vl 3 14 3cy 15 9vm 3 14 3cz 15 9vn 3 14 3d1 15 9vo 3 14 3d2 15 9vp 3 14 3d3 15 ",
    "9vq 3 14 3d5 15 9vr 3 14 3d7 15 9vs 3 14 3d8 15 9vt 3 14 3da 15 9vu 3 14 3db 15 9vv 3 14 3dc ",
    "15 9vw 3 14 3dd 15 9vx 3 14 3de 15 9vy 3 14 xz4 15 9vz 3 14 yvs 15 9w0 3 14 zc4 15 9w1 3 14 ",
    "108s 15 9w2 3 14 10p4 15 9w3 3 14 115g 15 9w4 3 14 1224 15 9w5 3 14 12ys 15 9w6 3 14 13f4 15 ",
    "9w7 3 14 14bs 15 9w8 3 14 14s4 15 9w9 3 14 158g 15 9wa 3 14 15os 15 9wb 3 14 1654 15 9wc 3 ",
    "14 13p8 15 9wd 4 14 1350 13ic 15 9we 4 14 1350 16f8 15 9wg 3 14 feo 15 9wh 3 14 fik 15 9wi 3 ",
    "14 fex 15 9wj 3 14 h5n 15 9wk 3 14 fis 15 9wl 3 14 g31 15 9wm 3 14 fer 15 9wn 3 14 g2z 15 ",
    "9wo 3 14 fh9 15 9wp 3 14 gg1 15 9wq 3 14 kco 15 9wr 3 14 m7f 15 9ws 3 14 ldg 15 9wt 3 14 kdk ",
    "15 9wu 3 14 ssx 15 9wv 3 14 h7j 15 9ww 3 14 k4l 15 9wx 3 14 kkq 15 9wy 3 14 kcp 15 9wz 3 14 ",
    "ny6 15 9x0 3 14 glp 15 9x1 3 14 mm1 15 9x2 3 14 rs1 15 9x3 3 14 nz1 15 9x4 3 14 gc4 15 9x5 3 ",
    "14 fkz 15 9x6 3 14 gos 15 9x7 3 14 i1y 15 9x8 3 14 nhf 15 9x9 3 14 flt 15 9xa 3 14 rt3 15 ",
    "9xb 3 14 ggk 15 9xc 3 14 nzh 15 9xd 3 14 fm9 15 9xe 3 14 pnu 15 9xf 3 14 po3 15 9xs 3 34 38 ",
    "2t 9xt 2 1e 1d 9xu 2 1e 1e 9xv 2 1e 1f 9xw 2 1e 1g 9xx 2 1e 1h 9xy 2 1e 1i 9xz 2 1e 1j 9y0 2 ",
    "1e 1k 9y1 2 1e 1l 9y2 2 1f 1c 9y3 2 1f 1d 9y4 2 1f 1e 9y5 2 1f 1f 9y6 2 1f 1g 9y7 2 1f 1h ",
    "9z0 2 14c8 y5c 9z1 2 13p8 13dk a0h 2 1f 1i a0i 2 1f 1j a0j 2 1f 1k a0k 2 1f 1l a0l 2 1g 1c ",
    "a0m 2 1g 1d a0n 2 1g 1e a0o 2 1g 1f a0p 2 1g 1g a0q 2 1g 1h a0r 2 1g 1i a0s 2 1g 1j a0t 2 1g ",
    "1k a0u 2 1g 1l a0v 2 1h 1c a0w 2 1d kco a0x 2 1e kco a0y 2 1f kco a0z 2 1g kco a10 2 1h kco ",
    "a11 2 1i kco a12 2 1j kco a13 2 1k kco a14 2 1l kco a15 3 1d 1c kco a16 3 1d 1d kco a17 3 1d ",
    "1e kco a18 2 2w 2v a19 3 2t 36 2v a1a 2 2t 3a a1b 3 30 38 2s a2n 2 fl0 gp8 a2o 4 9lu 9n5 9oc ",
    "9mw a2p 4 9lu 9nv 9n9 9lt a2q 4 9lu 9o3 9ne 9lu a2r 3 9lu 9oc 9nv a2s 4 9lw 9mz 9o3 9m8 a2t ",
    "3 9lw 9o3 9mp a2u 3 9ly 9m1 9o3 a2v 5 9m0 9mh 9m7 9oc 9mx a2w 4 9m0 9oc 9m3 9oc a2x 3 9m2 ",
    "9o3 9mh a2y 3 9m2 9oc 9nk a2z 3 9m3 9lw 9nu a30 4 9m3 9nt 9mr 9mw a31 4 9m3 9nx 9nu 9oc a32 ",
    "3 9m4 9nx 9o3 a33 3 9m4 9o3 9ni a34 2 9m6 9m4 a35 3 9m6 9mz 9oc a36 4 9m5 9np 9nu 9oc a37 4 ",
    "9m6 9nv 9mo 9oc a38 2 9m5 9nx a39 5 9m5 9nx 9m8 9nt 9nk a3a 6 9m5 9nx 9nl 9oc 9mw 9nv a3b 5 ",
    "9m5 9nx 9nz 9mr 9mw a3c 3 9m8 9nt 9nk a3d 5 9m8 9nt 9nk 9mw 9o3 a3e 5 9m7 9nv 9mk 9lw 9nx ",
    "a3f 4 9m7 9nx 9oc 9n1 a3g 3 9m9 9oc 9mh a3h 3 9mb 9nv 9my a3i 3 9mb 9oc 9nh a3j 4 9md 9lw ",
    "9m7 9nv a3k 5 9md 9o3 9mp 9oc 9nk a3l 4 9mf 9nu 9o3 9m8 a3m 3 9mj 9o3 9mp a3n 3 9mj 9o3 9mw ",
    "a3o 3 9mo 9oc 9mh a3p 2 9mv 9mf a3q 2 9mx 9nv a3r 2 9mw 9o3 a3s 2 9my 9n2 a3t 3 9n2 9mr 9mw ",
    "a3u 3 9n3 9lw 9ms a3v 5 9n5 9oc 9mj 9o3 9mw a3w 3 9n5 9oc 9ms a3x 4 9n4 9oc 9nw 9nv a3y 5 ",
    "9n8 9lu 9mh 9mw 9nv a3z 3 9n8 9m7 9nv a40 2 9n8 9mb a41 2 9n7 9nv a42 5 9n9 9lt 9nt 9mr 9mx ",
    "a43 4 9n9 9lv 9oc 9mw a44 5 9na 9mr 9mf 9lz 9nv a45 3 9n9 9nt 9o3 a46 5 9nc 9m7 9mn 9oc 9nv ",
    "a47 2 9ne 9ml a48 3 9ne 9mz 9n6 a49 3 9nc 9nv 9ms a4a 3 9ne 9o3 9mh a4b 3 9ne 9oc 9mg a4c 3 ",
    "9nd 9oc 9mn a4d 4 9nh 9lw 9o3 9mw a4e 3 9ng 9nv 9mw a4f 2 9nf 9o3 a4g 3 9nh 9o3 9mx a4h 3 ",
    "9nf 9oc 9nv a4i 3 9nf 9oc 9o3 a4j 4 9ni 9lw 9m7 9nx a4k 3 9ni 9lw 9nv a4l 3 9ni 9mr 9n3 a4m ",
    "3 9ni 9nv 9m7 a4n 5 9ni 9o3 9mf 9nr 9o3 a4o 4 9nj 9m7 9nx 9o3 a4p 2 9nj 9nu a4q 5 9nj 9nu ",
    "9n4 9oc 9nv a4r 2 9nl 9m4 a4s 4 9nl 9m4 9mw 9o3 a4t 4 9nl 9oc 9mw 9nv a4u 3 9no 9oc 9mx a4v ",
    "3 9no 9oc 9nv a4w 3 9nq 9lu 9o3 a4x 4 9nu 9mr 9mw 9nv a4y 2 9nu 9nt a4z 3 9nv 9n8 9oc a50 4 ",
    "9nv 9oc 9na 9nv a51 2 9nw 9nk a52 5 9nw 9o3 9mw 9ma 9o3 a53 3 9nz 9mr 9mw a54 2 1c m9l a55 2 ",
    "1d m9l a56 2 1e m9l a57 2 1f m9l a58 2 1g m9l a59 2 1h m9l a5a 2 1i m9l a5b 2 1j m9l a5c 2 ",
    "1k m9l a5d 2 1l m9l a5e 3 1d 1c m9l a5f 3 1d 1d m9l a5g 3 1d 1e m9l a5h 3 1d 1f m9l a5i 3 1d ",
    "1g m9l a5j 3 1d 1h m9l a5k 3 1d 1i m9l a5l 3 1d 1j m9l a5m 3 1d 1k m9l a5n 3 1d 1l m9l a5o 3 ",
    "1e 1c m9l a5p 3 1e 1d m9l a5q 3 1e 1e m9l a5r 3 1e 1f m9l a5s 3 1e 1g m9l a5t 3 2w 34 2p a5u ",
    "2 2s 2p a5v 2 2p 39 a5w 3 2q 2p 36 a5x 2 33 3a a5y 2 34 2r a5z 2 2s 31 a60 3 2s 31 1e a61 3 ",
    "2s 31 1f a62 2 2x 39 a63 2 inn jdc a64 2 k6l gp8 a65 2 hlz l7n a66 2 k5q lh7 a67 4 kkq irz ",
    "fmi ny6 a68 2 34 2p a69 2 32 2p a6a 2 qk 2p a6b 2 31 2p a6c 2 2z 2p a6d 2 2z 2q a6e 2 31 2q ",
    "a6f 2 2v 2q a6g 3 2r 2p 30 a6h 4 2z 2r 2p 30 a6i 2 34 2u a6j 2 32 2u a6k 2 qk 2u a6l 2 qk 2v ",
    "a6m 2 31 2v a6n 2 2z 2v a6o 2 2w 3e a6p 3 2z 2w 3e a6q 3 31 2w 3e a6r 3 2v 2w 3e a6s 3 38 2w ",
    "3e a6t 2 qk 30 a6u 2 31 30 a6v 2 2s 30 a6w 2 2z 30 a6x 2 2u 31 a6y 2 32 31 a6z 2 qk 31 a70 2 ",
    "31 31 a71 2 2r 31 a72 2 2z 31 a73 3 31 31 1e a74 3 2r 31 1e a75 2 31 1e a76 3 2z 31 1e a77 3 ",
    "31 31 1f a78 3 2r 31 1f a79 2 31 1f a7a 3 2z 31 1f a7b 3 31 6qd 37 a7c 4 31 6qd 37 1e a7d 2 ",
    "34 2p a7e 3 2z 34 2p a7f 3 31 34 2p a7g 3 2v 34 2p a7h 3 36 2p 2s a7i 5 36 2p 2s 6qd 37 a7j ",
    "6 36 2p 2s 6qd 37 1e a7k 2 34 37 a7l 2 32 37 a7m 2 qk 37 a7n 2 31 37 a7o 2 34 3a a7p 2 32 3a ",
    "a7q 2 qk 3a a7r 2 31 3a a7s 2 2z 3a a7t 2 31 3a a7u 2 34 3b a7v 2 32 3b a7w 2 qk 3b a7x 2 31 ",
    "3b a7y 2 2z 3b a7z 2 31 3b a80 2 2z qx a81 2 31 qx a83 2 2q 35 a84 2 2r 2r a85 2 2r 2s a86 4 ",
    "2r 6qd 2z 2v a88 2 2s 2q a89 2 2v 3d a8a 2 2w 2p a8b 2 2w 34 a8c 2 2x 32 a8d 2 2z 2z a8e 2 ",
    "2z 31 a8f 2 2z 38 a8g 2 30 31 a8h 2 30 32 a8i 3 30 33 2v a8j 2 30 3c a8k 2 31 2q a8l 3 31 2x ",
    "30 a8m 3 31 33 30 a8n 2 34 2w a8p 3 34 34 31 a8q 2 34 36 a8r 2 37 36 a8s 2 37 3a a8t 2 3b 2q ",
    "a8u 3 3a 6qd 31 a8v 3 2p 6qd 31 a8w 2 1d k4l a8x 2 1e k4l a8y 2 1f k4l a8z 2 1g k4l a90 2 1h ",
    "k4l a91 2 1i k4l a92 2 1j k4l a93 2 1k k4l a94 2 1l k4l a95 3 1d 1c k4l a96 3 1d 1d k4l a97 ",
    "3 1d 1e k4l a98 3 1d 1f k4l a99 3 1d 1g k4l a9a 3 1d 1h k4l a9b 3 1d 1i k4l a9c 3 1d 1j k4l ",
    "a9d 3 1d 1k k4l a9e 3 1d 1l k4l a9f 3 1e 1c k4l a9g 3 1e 1d k4l a9h 3 1e 1e k4l a9i 3 1e 1f ",
    "k4l a9j 3 1e 1g k4l a9k 3 1e 1h k4l a9l 3 1e 1i k4l a9m 3 1e 1j k4l a9n 3 1e 1k k4l a9o 3 1e ",
    "1l k4l a9p 3 1f 1c k4l a9q 3 1f 1d k4l a9r 3 2v 2p 30 1dkw 2 2u 2u 1dkx 2 2u 2x 1dky 2 2u 30 ",
    "1dkz 3 2u 2u 2x 1dl0 3 2u 2u 30 1dl1 2 37 38 1dl2 2 37 38 1dlf 2 12s 12u 1dlg 2 12s 12d 1dlh ",
    "2 12s 12j 1dli 2 132 12u 1dlj 2 12s 12l 1dn3 2 15c 15o 1dr1 2 1c7 19w 1dre 2 17q 17r 1drf 2 ",
    "17q 17r 1drg 2 17q 1cl 1drh 2 17q 1cl 1dri 2 17q 18o 1drj 2 17q 18o 1drk 2 17q 1c7 1drl 2 ",
    "17q 1c7 1drm 2 17q 1c6 1drn 2 17q 1c6 1dro 2 17q 1c8 1drp 2 17q 1c8 1drq 2 17q 1cg 1drr 2 ",
    "17q 1cg 1drs 2 17q 1cg 1drt 2 17q 18p 1dru 2 17q 18p 1drv 2 17q 18p 1ds0 2 17q 17w 1ds1 2 ",
    "17q 17x 1ds2 2 17q 18l 1ds3 2 17q 18p 1ds4 2 17q 18q 1ds5 2 17s 17w 1ds6 2 17s 17x 1ds7 2 ",
    "17s 17y 1ds8 2 17s 18l 1ds9 2 17s 18p 1dsa 2 17s 18q 1dsb 2 17u 17w 1dsc 2 17u 17x 1dsd 2 ",
    "17u 17y 1dse 2 17u 18l 1dsf 2 17u 18p 1dsg 2 17u 18q 1dsh 2 17v 17w 1dsi 2 17v 18l 1dsj 2 ",
    "17v 18p 1dsk 2 17v 18q 1dsl 2 17w 17x 1dsm 2 17w 18l 1dsn 2 17x 17w 1dso 2 17x 18l 1dsp 2 ",
    "17y 17w 1dsq 2 17y 17x 1dsr 2 17y 18l 1dss 2 183 17w 1dst 2 183 17x 1dsu 2 183 17y 1dsv 2 ",
    "183 18l 1dsw 2 185 17x 1dsx 2 185 18l 1dsy 2 186 17w 1dsz 2 186 17x 1dt0 2 186 17y 1dt1 2 ",
    "186 18l 1dt2 2 187 17x 1dt3 2 187 18l 1dt4 2 188 18l 1dt5 2 189 17w 1dt6 2 189 18l 1dt7 2 ",
    "18a 17w 1dt8 2 18a 18l 1dt9 2 18h 17w 1dta 2 18h 17x 1dtb 2 18h 17y 1dtc 2 18h 18l 1dtd 2 ",
    "18h 18p 1dte 2 18h 18q 1dtf 2 18i 17x 1dtg 2 18i 18l 1dth 2 18i 18p 1dti 2 18i 18q 1dtj 2 ",
    "18j 17r 1dtk 2 18j 17w 1dtl 2 18j 17x 1dtm 2 18j 17y 1dtn 2 18j 18k 1dto 2 18j 18l 1dtp 2 ",
    "18j 18p 1dtq 2 18j 18q 1dtr 2 18k 17w 1dts 2 18k 17x 1dtt 2 18k 17y 1dtu 2 18k 18l 1dtv 2 ",
    "18k 18p 1dtw 2 18k 18q 1dtx 2 18l 17w 1dty 2 18l 17x 1dtz 2 18l 17y 1du0 2 18l 18l 1du1 2 ",
    "18l 18p 1du2 2 18l 18q 1du3 2 18m 17w 1du4 2 18m 17x 1du5 2 18m 17y 1du6 2 18m 18l 1du7 2 ",
    "18m 18p 1du8 2 18m 18q 1du9 2 18n 17w 1dua 2 18n 18l 1dub 2 18n 18p 1duc 2 18n 18q 1dud 2 ",
    "18q 17w 1due 2 18q 17x 1duf 2 18q 17y 1dug 2 18q 18l 1duh 2 18q 18p 1dui 2 18q 18q 1duj 2 ",
    "180 19s 1duk 2 181 19s 1dul 2 18p 19s 1dum 3 w 18s 18x 1dun 3 w 18t 18x 1duo 3 w 18u 18x ",
    "1dup 3 w 18v 18x 1duq 3 w 18w 18x 1dur 3 w 18x 19s 1dus 2 17q 181 1dut 2 17q 182 1duu 2 17q ",
    "18l 1duv 2 17q 18m 1duw 2 17q 18p 1dux 2 17q 18q 1duy 2 17s 181 1duz 2 17s 182 1dv0 2 17s ",
    "18l 1dv1 2 17s 18m 1dv2 2 17s 18p 1dv3 2 17s 18q 1dv4 2 17u 181 1dv5 2 17u 182 1dv6 2 17u ",
    "18l 1dv7 2 17u 18m 1dv8 2 17u 18p 1dv9 2 17u 18q 1dva 2 17v 181 1dvb 2 17v 182 1dvc 2 17v ",
    "18l 1dvd 2 17v 18m 1dve 2 17v 18p 1dvf 2 17v 18q 1dvg 2 18h 18p 1dvh 2 18h 18q 1dvi 2 18i ",
    "18p 1dvj 2 18i 18q 1dvk 2 18j 17r 1dvl 2 18j 18k 1dvm 2 18j 18l 1dvn 2 18j 18p 1dvo 2 18j ",
    "18q 1dvp 2 18k 18l 1dvq 2 18k 18p 1dvr 2 18k 18q 1dvs 2 18l 17r 1dvt 2 18l 18l 1dvu 2 18m ",
    "181 1dvv 2 18m 182 1dvw 2 18m 18l 1dvx 2 18m 18m 1dvy 2 18m 18p 1dvz 2 18m 18q 1dw0 2 18p ",
    "19s 1dw1 2 18q 181 1dw2 2 18q 182 1dw3 2 18q 18l 1dw4 2 18q 18m 1dw5 2 18q 18p 1dw6 2 18q ",
    "18q 1dw7 2 17q 17w 1dw8 2 17q 17x 1dw9 2 17q 17y 1dwa 2 17q 18l 1dwb 2 17q 18n 1dwc 2 17s ",
    "17w 1dwd 2 17s 17x 1dwe 2 17s 17y 1dwf 2 17s 18l 1dwg 2 17s 18n 1dwh 2 17u 17w 1dwi 2 17u ",
    "17x 1dwj 2 17u 17y 1dwk 2 17u 18l 1dwl 2 17u 18n 1dwm 2 17v 18l 1dwn 2 17w 17x 1dwo 2 17w ",
    "18l 1dwp 2 17x 17w 1dwq 2 17x 18l 1dwr 2 17y 17w 1dws 2 17y 18l 1dwt 2 183 17w 1dwu 2 183 ",
    "17x 1dwv 2 183 17y 1dww 2 183 18l 1dwx 2 185 17x 1dwy 2 185 17y 1dwz 2 185 18l 1dx0 2 186 ",
    "17w 1dx1 2 186 17x 1dx2 2 186 17y 1dx3 2 186 18l 1dx4 2 187 17x 1dx5 2 188 18l 1dx6 2 189 ",
    "17w 1dx7 2 189 18l 1dx8 2 18a 17w 1dx9 2 18a 18l 1dxa 2 18h 17w 1dxb 2 18h 17x 1dxc 2 18h ",
    "17y 1dxd 2 18h 18l 1dxe 2 18i 17x 1dxf 2 18i 18l 1dxg 2 18j 17w 1dxh 2 18j 17x 1dxi 2 18j ",
    "17y 1dxj 2 18j 18k 1dxk 2 18j 18l 1dxl 2 18k 17w 1dxm 2 18k 17x 1dxn 2 18k 17y 1dxo 2 18k ",
    "18l 1dxp 2 18k 18n 1dxq 2 18l 17w 1dxr 2 18l 17x 1dxs 2 18l 17y 1dxt 2 18l 18l 1dxu 2 18m ",
    "17w 1dxv 2 18m 17x 1dxw 2 18m 17y 1dxx 2 18m 18l 1dxy 2 18m 18n 1dxz 2 18n 17w 1dy0 2 18n ",
    "18l 1dy1 2 18n 19s 1dy2 2 18q 17w 1dy3 2 18q 17x 1dy4 2 18q 17y 1dy5 2 18q 18l 1dy6 2 18q ",
    "18n 1dy7 2 17q 18l 1dy8 2 17q 18n 1dy9 2 17s 18l 1dya 2 17s 18n 1dyb 2 17u 18l 1dyc 2 17u ",
    "18n 1dyd 2 17v 18l 1dye 2 17v 18n 1dyf 2 183 18l 1dyg 2 183 18n 1dyh 2 184 18l 1dyi 2 184 ",
    "18n 1dyj 2 18j 18k 1dyk 2 18j 18l 1dyl 2 18k 18l 1dym 2 18m 18l 1dyn 2 18m 18n 1dyo 2 18q ",
    "18l 1dyp 2 18q 18n 1dyq 3 18g 18u 18x 1dyr 3 18g 18v 18x 1dys 3 18g 18w 18x 1dyt 2 187 18p ",
    "1dyu 2 187 18q 1dyv 2 189 18p 1dyw 2 189 18q 1dyx 2 18a 18p 1dyy 2 18a 18q 1dyz 2 183 18p ",
    "1dz0 2 183 18q 1dz1 2 184 18p 1dz2 2 184 18q 1dz3 2 17x 18p 1dz4 2 17x 18q 1dz5 2 17w 18p ",
    "1dz6 2 17w 18q 1dz7 2 17y 18p 1dz8 2 17y 18q 1dz9 2 185 18p 1dza 2 185 18q 1dzb 2 186 18p ",
    "1dzc 2 186 18q 1dzd 2 184 17w 1dze 2 184 17x 1dzf 2 184 17y 1dzg 2 184 18l 1dzh 2 184 181 ",
    "1dzi 2 183 181 1dzj 2 185 181 1dzk 2 186 181 1dzl 2 187 18p 1dzm 2 187 18q 1dzn 2 189 18p ",
    "1dzo 2 189 18q 1dzp 2 18a 18p 1dzq 2 18a 18q 1dzr 2 183 18p 1dzs 2 183 18q 1dzt 2 184 18p ",
    "1dzu 2 184 18q 1dzv 2 17x 18p 1dzw 2 17x 18q 1dzx 2 17w 18p 1dzy 2 17w 18q 1dzz 2 17y 18p ",
    "1e00 2 17y 18q 1e01 2 185 18p 1e02 2 185 18q 1e03 2 186 18p 1e04 2 186 18q 1e05 2 184 17w ",
    "1e06 2 184 17x 1e07 2 184 17y 1e08 2 184 18l 1e09 2 184 181 1e0a 2 183 181 1e0b 2 185 181 ",
    "1e0c 2 186 181 1e0d 2 184 17w 1e0e 2 184 17x 1e0f 2 184 17y 1e0g 2 184 18l 1e0h 2 183 18n ",
    "1e0i 2 184 18n 1e0j 2 187 18l 1e0k 2 183 17w 1e0l 2 183 17x 1e0m 2 183 17y 1e0n 2 184 17w ",
    "1e0o 2 184 17x 1e0p 2 184 17y 1e0q 2 187 18l 1e0r 2 188 18l 1e0s 2 17r 18r 1e0t 2 17r 18r ",
    "1e1c 3 17u 17w 18l 1e1d 3 17u 17x 17w 1e1e 3 17u 17x 17w 1e1f 3 17u 17x 18l 1e1g 3 17u 17y ",
    "18l 1e1h 3 17u 18l 17w 1e1i 3 17u 18l 17x 1e1j 3 17u 18l 17y 1e1k 3 17w 18l 17x 1e1l 3 17w ",
    "18l 17x 1e1m 3 17x 18l 18q 1e1n 3 17x 18l 18p 1e1o 3 183 17x 17w 1e1p 3 183 17w 17x 1e1q 3 ",
    "183 17w 18p 1e1r 3 183 18l 17x 1e1s 3 183 18l 17x 1e1t 3 183 18l 17w 1e1u 3 183 18l 18l 1e1v ",
    "3 183 18l 18l 1e1w 3 185 17x 17x 1e1x 3 185 17x 17x 1e1y 3 185 18l 18l 1e1z 3 184 17x 18l ",
    "1e20 3 184 17x 18l 1e21 3 184 17w 18q 1e22 3 184 18l 17y 1e23 3 184 18l 17y 1e24 3 184 18l ",
    "18l 1e25 3 184 18l 18l 1e26 3 186 17x 18p 1e27 3 186 17y 18l 1e28 3 186 17y 18l 1e29 3 187 ",
    "18l 17x 1e2a 3 187 18l 17x 1e2b 3 187 18l 18l 1e2c 3 187 18l 18q 1e2d 3 189 17w 18l 1e2e 3 ",
    "189 18l 18l 1e2f 3 189 18l 18l 1e2g 3 189 18l 18p 1e2h 3 18a 18l 18l 1e2i 3 18a 18l 18q 1e2j ",
    "3 18a 18l 18p 1e2k 3 18h 17y 18l 1e2l 3 18h 17y 18l 1e2m 3 18i 18l 17x 1e2n 3 18i 18l 18l ",
    "1e2o 3 18k 17x 18l 1e2p 3 18k 17x 18q 1e2q 3 18k 17x 18p 1e2r 3 18k 17w 17w 1e2s 3 18k 17w ",
    "17w 1e2t 3 18k 17y 18l 1e2u 3 18k 17y 18l 1e2v 3 18k 18l 17x 1e2w 3 18k 18l 17x 1e2x 3 18l ",
    "17x 17w 1e2y 3 18l 17x 18l 1e2z 3 18l 17x 18q 1e30 3 18l 17w 17x 1e31 3 18l 17w 18l 1e32 3 ",
    "18l 17y 17w 1e33 3 18l 17y 18l 1e36 3 18l 17w 17y 1e37 3 18n 18l 17w 1e38 3 18n 18l 18l 1e39 ",
    "3 18m 17x 18l 1e3a 3 18m 17x 18p 1e3b 3 18m 17w 18l 1e3c 3 18m 17w 18l 1e3d 3 18m 17w 18p ",
    "1e3e 3 18m 18l 18q 1e3f 3 18m 18l 18p 1e3g 3 18q 18l 18l 1e3h 3 18q 18l 18l 1e3i 3 17s 17y ",
    "18q 1e3j 3 17u 17w 18q 1e3k 3 17u 17w 18p 1e3l 3 17u 17y 18q 1e3m 3 17u 17y 18p 1e3n 3 17u ",
    "18l 18q 1e3o 3 17u 18l 18p 1e3p 3 17w 18l 18q 1e3q 3 17w 17x 18p 1e3r 3 17w 18l 18p 1e3s 3 ",
    "183 17y 18p 1e3t 3 185 17x 18q 1e3u 3 184 17x 18q 1e3v 3 186 17x 18q 1e3w 3 18k 17w 18q 1e3x ",
    "3 18k 18l 18q 1e3y 3 18q 17x 18q 1e3z 3 18q 17w 18q 1e40 3 18q 18l 18q 1e41 3 18l 18l 18q ",
    "1e42 3 18i 18l 18q 1e43 3 18m 17x 18q 1e44 3 18i 18l 17x 1e45 3 18k 17x 18l 1e46 3 189 18l ",
    "18q 1e47 3 18j 18l 18q 1e48 3 18m 17w 17x 1e49 3 18l 17y 18q 1e4a 3 18k 17w 18l 1e4b 3 18j ",
    "18l 18l 1e4c 3 18k 17w 18l 1e4d 3 18m 17w 17x 1e4e 3 17w 17x 18q 1e4f 3 17x 17w 18q 1e4g 3 ",
    "18l 17w 18q 1e4h 3 18h 18l 18q 1e4i 3 17s 17x 18q 1e4j 3 18j 18l 18l 1e4k 3 189 17w 18l 1e4l ",
    "3 185 18l 18l 1e4m 3 183 17y 18q 1e4n 3 18m 17w 18q 1e5s 3 185 18k 1ci 1e5t 3 18i 18k 1ci ",
    "1e5u 4 17r 18k 18k 18n 1e5v 4 17r 18j 17s 181 1e5w 4 18l 17x 18l 17z 1e5x 4 185 18k 189 18l ",
    "1e5y 4 181 183 18o 18k 1e5z 4 189 18k 18q 18n 1e60 4 18o 183 18k 18l 1e61 3 185 18k 18p 1e62 ",
    "i 185 18k 18p w 17r 18k 18k 18n w 189 18k 18q 18n w 18o 183 18k 18l 1e63 8 17w 18k w 17w 18k ",
    "17r 18k 18n 1e64 4 181 1cc 17r 18k 1e89 2 w lh 1e8a 2 w lh 1e8b 2 w lh 1e8c 2 w lh 1e9c 2 w ",
    "18r 1e9d 2 18g 18r 1e9e 2 w 18s 1e9g 2 w 18t 1e9i 2 w 18u 1e9j 2 18g 18u 1e9k 2 w 18v 1e9l 2 ",
    "18g 18v 1e9m 2 w 18w 1e9n 2 18g 18w 1e9o 2 w 18x 1e9p 2 18g 18x 1e9q 2 w 18y 1e9r 2 18g 18y ",
    "1ed1 2 18k 17m 1ed2 2 18k 17m 1ed3 2 18k 17n 1ed4 2 18k 17n 1ed5 2 18k 17p 1ed6 2 18k 17p ",
    "1ed7 2 18k 17r 1ed8 2 18k 17r 1ejn 2 w lg 2q69 2 1c 18 2q6a 2 1d 18 2q6b 2 1e 18 2q6c 2 1f ",
    "18 2q6d 2 1g 18 2q6e 2 1h 18 2q6f 2 1i 18 2q6g 2 1j 18 2q6h 2 1k 18 2q6i 2 1l 18 2q6o 3 14 ",
    "2p 15 2q6p 3 14 2q 15 2q6q 3 14 2r 15 2q6r 3 14 2s 15 2q6s 3 14 2t 15 2q6t 3 14 2u 15 2q6u 3 ",
    "14 2v 15 2q6v 3 14 2w 15 2q6w 3 14 2x 15 2q6x 3 14 2y 15 2q6y 3 14 2z 15 2q6z 3 14 30 15 ",
    "2q70 3 14 31 15 2q71 3 14 32 15 2q72 3 14 33 15 2q73 3 14 34 15 2q74 3 14 35 15 2q75 3 14 36 ",
    "15 2q76 3 14 37 15 2q77 3 14 38 15 2q78 3 14 39 15 2q79 3 14 3a 15 2q7a 3 14 3b 15 2q7b 3 14 ",
    "3c 15 2q7c 3 14 3d 15 2q7d 3 14 3e 15 2q7e 3 9hw 37 9hx 2q7h 2 2r 2s 2q7i 2 3b 3e 2q8a 2 2w ",
    "3a 2q8b 2 31 3a 2q8c 2 37 2s 2q8d 2 37 37 2q8e 3 34 34 3a 2q8f 2 3b 2r 2q96 2 31 2r 2q97 2 ",
    "31 2s 2q98 2 31 36 2qa8 2 2s 2y 2qdc 2 9kr 9jf 2qdd 2 9mb 9mb 2qf4 3 9hw kdo 9hx 2qf5 3 9hw ",
    "fex 9hx 2qf6 3 9hw fik 9hx 2qf7 3 9hw i2x 9hx 2qf8 3 9hw m9l 9hx 2qf9 3 9hw jf7 9hx 2qfa 3 ",
    "9hw nh3 9hx 2qfb 3 9hw gd9 9hx 2qfc 3 9hw k0n 9hx"]

/-- Characters that are taken as several. -/
def manyTaken : List (Nat × List Nat) :=
  let row := numbers manyRow
  manyEntries row.length row

/-- The ranges of characters that a name cannot hold. -/
def refusedRow : String :=
  String.join [
    "3k v k9 1 7 3 8 0 2 0 l 0 b2 0 13 1 1f 1 4 0 1k 7 s 3 7 g n 0 5d 0 1d 1 1o 1 2u d 1o 1 1e 1 ",
    "g 0 t 1 2 0 c 4 x 6 24 0 4i 0 9 1 3 1 n 0 8 0 2 2 5 1 a 1 3 1 5 7 2 3 3 0 6 1 q 1 4 0 7 3 3 ",
    "1 n 0 8 0 3 0 3 0 3 1 2 0 6 3 3 1 4 2 2 6 5 0 2 6 i 9 4 0 a 0 4 0 n 0 8 0 3 0 6 1 b 0 4 0 4 ",
    "1 2 e 5 1 d 6 8 0 4 0 9 1 3 1 n 0 8 0 3 0 6 1 a 1 3 1 4 6 4 3 3 0 6 1 j 9 3 0 7 2 4 0 5 2 3 ",
    "0 2 0 3 2 3 2 4 2 d 3 6 2 4 0 5 1 2 5 2 d m 4 e 0 4 0 o 0 h 1 a 0 4 0 5 6 3 0 4 0 3 1 5 1 b ",
    "6 n 0 4 0 o 0 b 0 6 1 a 0 4 0 5 6 3 4 4 0 5 1 b 0 4 b e 0 4 0 1g 0 4 0 7 3 h 1 r 0 4 0 j 2 p ",
    "0 a 0 2 1 8 2 2 3 7 0 2 0 9 5 b 1 4 b 1n 3 u 10 3 0 2 0 6 0 p 0 2 0 o 1 6 0 2 0 8 0 b 1 5 v ",
    "21 0 11 3 14 0 11 0 g 0 e 10 5j 0 2 4 2 1 ai 0 5 1 8 0 2 0 5 1 16 0 5 1 y 0 5 1 8 0 2 0 5 1 ",
    "g 0 1m 0 5 1 1w 1 x 2 r 5 2f 1 7 1 ht 0 t 2 2i 6 n 8 p 8 l b e 0 4 0 3 b 2n 1 b 5 b 5 r 5 2i ",
    "6 18 4 1z 9 w 0 d 3 d 3 2 2 17 1 6 a 19 3 r 5 c 2 1r 1 1u 0 u 1 c 5 b 5 f 1 1b 1 d j 26 0 4n ",
    "7 1p 2 g 2 1r 4 18 1 c 7 18 4 ev 1 7 1 13 1 7 1 9 0 2 0 2 0 2 0 w 1 1i 0 g 0 f 1 7 0 k 1 4 0 ",
    "a 0 f 1 l 2 2 6 1j 4 9 1 s 0 e 2 z d y e 3x 3 ij l c k 15 j 1cp 1 an 4 1a 0 2 4 2 1 1l 6 3 d ",
    "p 8 8 0 8 0 8 0 8 0 8 0 8 0 8 0 8 0 3j x r 0 2i b 5z 15 1t 0 2f 1 2w 4 18 0 2n 0 2f 9 1c 0 ",
    "bn 0 5 0 h 0 m9h 2 1k 8 9p j 55 7 66 j 1p 2 b 5 1l 7 1z 7 d 5 39 a v 2 27 0 c 3 y 0 1k 8 f 1 ",
    "b 1 2w n t 9 7 1 7 1 7 8 8 0 8 0 1p 3 3j 1 b 5 8md b o 3 1e 3 1kx 4xr a7 1 2z 11 8 b 6 4 r 0 ",
    "6 0 2 0 3 0 3 0 i3 v z 0 7 6 h 0 y 1 k 0 5 3 6 0 3s 1 2 0 5b 2 7 1 7 1 7 1 4 2 8 0 8 g d 0 r ",
    "0 k 0 3 0 g 1 f x 3g 4 4 3 1a 2 2h 0 e 2 2 1a 1b 3l u 2 1e e t 3 11 8 v 4 18 4 v 0 12 3 f 15 ",
    "4f 1 b 5 11 3 11 3 15 7 1h a d 0 g 0 8 0 3 0 c 0 g 0 8 0 3 2 1h b 8o 8 n 9 9 n 7 0 17 0 a 1w ",
    "7 1 2 0 19 0 3 2 2 1 o 0 21 7 a 1b k 0 3 4 y 2 s 4 s 11 1l 3 l 1 1f 0 3 4 9 0 4 0 u 1 4 3 b ",
    "6 a 6 1t v 14 3 d 8 1j 2 u 1 s 4 r 6 5 b 8 27 22 1i 1g c 1g 6 1b 7 b 5 13 2 u 7 3 5r w 0 17 ",
    "0 4 1 3 f 7 7 a w 1b 7 17 l r 11 t j o 8 27 3 11 8 1r 0 6 c q 6 b 5 1i 0 j 7 14 8 2p 0 l a j ",
    "0 1c 1p 8 0 2 0 5 0 g 0 c 5 1o 4 b 5 5 0 9 1 3 1 n 0 8 0 3 0 6 0 b 1 3 1 4 1 2 5 2 4 8 1 8 2 ",
    "6 a b 0 2 1 2 0 13 0 b 0 2 1 2 0 5 0 b 0 3 7 3 s 2l 0 6 t 21 7 b 4l 1j 1 13 x 1y a b 5 e i ",
    "1n 5 b 5 l r s 1 g 3 o 54 1p 2r 2c b 9 1 2 1 9 0 3 0 v 0 3 1 d 8 b 1x 9 1 1b 1 c q 21 7 2c c ",
    "22 6 b 2d 9 2f z d b 5 a 0 1a 0 f 9 u 2 x 1 n 0 f 20 8 0 3 0 19 2 2 0 3 0 a 7 b 5 7 0 3 0 12 ",
    "0 3 0 7 6 b 5 19 3 b 6t q 6 i 0 16 2 u 2c 2 e 1f c po 2t 34 0 6 a 5h 217 2s c tt f n 9 330 4 ",
    "g8 5a0 1n 1c5 fu 6 w 0 b 3 2a 0 b 5 v 1 7 9 1z 9 b 0 8 0 m 4 k bz 1n 5h 2k 4 q 1 q 17 24 3 ",
    "1m 6 i 1r 6 a 8 8 5p3 14 x 2o 38 6po 5 0 8 0 3 0 84 e 2 s 4 1 2 d 5 7 b1 1s3 30 4 e 2 a 6 b ",
    "1 9 317 72 2 c5 5 o e i e 1b 1 o 8 39 1n 6v 9 14 1 5f k 1z 3d l b l b 2g 8 q 3q 2e 0 20 0 3 ",
    "1 2 1 3 1 5 0 d 0 2 0 8 0 1u 0 5 1 9 0 8 0 t 0 5 0 6 0 2 2 8 0 9h 1 85 1 jj e 6 0 g un w 5 7 ",
    "5w 8 0 i 1 8 0 3 0 6 4 1r w 2 33 1a 2 f 1 b 3 3 8v w g 1n 4 2 cv 17 5x 18 3 2 5b w 0 n 7 3 ",
    "67 8 0 5 0 3 0 g 0 5i 1 h 14 25 3 b 3 3 ls 1x 23 1q 5d 5 0 s 0 3 0 2 1 2 0 b 0 5 0 2 0 2 5 2 ",
    "3 2 0 2 0 2 0 4 0 3 0 2 1 2 0 2 0 2 0 2 0 2 0 3 0 2 1 5 0 8 0 5 0 5 0 2 0 b 0 i 4 4 0 6 0 i ",
    "1f 3 7h 19 3 2t b g 1 g 0 g 0 12 a 4u 1j u c 19 3 a 6 3 d 7 49 re 2 i 2 e 2 63 5 d 3 2 e d 3 ",
    "1l 7 b 5 15 7 v 1 d 3 3 d a 12 9l 7 f 1 e 2 c 2 1m 0 2 3 h 1 d 3 b 6 44 0 2w sk wyp v 3dr 1 ",
    "4gf 1 5rm e hb 1wh f3 15t 3t8 4 6jv f62t 6p 47bj"]

/-- Characters that a name cannot hold. -/
def refusedChart : Chart := Chart.ofRow refusedRow

/-- The ranges of characters that do not count in a name. -/
def ignoredRow : String :=
  "4t 0 iq 0 2s0 1 190 1 2e 4 1ks 0 2d 4 6 5 3cl 0 14f0 f 6o 0 4h 0 11c0 3 440 7 h47a 6n"

/-- Characters that do not count in a name. -/
def ignoredChart : Chart := Chart.ofRow ignoredRow

/-- How a character of a name is taken. -/
def nameChar (c : Char) : NameChar :=
  let n := c.toNat
  if n < 128 then .taken ((lowerOf c).map Char.toNat)
  else if refusedChart.contains n then .refused
  else if ignoredChart.contains n then .ignored
  else
    match findRun oneRuns n 0 oneRuns.size with
    | some m => .taken [m]
    | none =>
      match manyTaken.lookup n with
      | some ms => .taken ms
      | none => .taken ((lowerOf c).map Char.toNat)

/-- Is a character taken as it is? -/
def isTakenAsIs (c : Char) : Bool := nameChar c == .taken [c.toNat]

end Intake.Net
