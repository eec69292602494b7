import Intake.Text.Chart

/-!
# Upper and lower case

Full case mapping: a letter may become several (`ß` becomes `SS`), and a capital sigma at the
end of a word becomes a final small sigma.

* `upper`, `lower` map a whole text;
* `upperOf`, `lowerOf` map one character without looking at its neighbours;
* `simpleLower`, `simpleUpper` keep only the first character of that, which is what
  comparing without case goes by.
-/

namespace Intake.Text

/-- A run of letters, `count` of them `stride` apart, whose images lie equally far apart. -/
structure CaseRun where
  first : Nat
  count : Nat
  stride : Nat
  image : Nat

/-- The runs of a row of numbers, four to a run. -/
def caseRuns : List Nat → List CaseRun
  | first :: count :: stride :: image :: rest => ⟨first, count, stride, image⟩ :: caseRuns rest
  | _ => []

/-- The last letter of a run. -/
def CaseRun.last (run : CaseRun) : Nat :=
  run.first + (run.count - 1) * run.stride

/-- The image of `n` under a run that covers it. -/
def CaseRun.apply? (run : CaseRun) (n : Nat) : Option Nat :=
  if (n - run.first) % run.stride = 0 then some (run.image + (n - run.first)) else none

/-- The image of `n`, looked for among the runs from index `lo` up to, not including, `hi`. -/
def findRun (runs : Array CaseRun) (n lo hi : Nat) : Option Nat :=
  if lo < hi then
    match runs[(lo + hi) / 2]? with
    | none => none
    | some run =>
      if n < run.first then findRun runs n lo ((lo + hi) / 2)
      else if run.last < n then findRun runs n ((lo + hi) / 2 + 1) hi
      else run.apply? n
  else none
termination_by hi - lo

/-- Letters with a single small form. -/
def lowerRow : String :=
  String.join [
    "1t q 1 2p 5c n 1 68 60 7 1 6w 74 o 2 75 8i 3 2 8j 8p 8 2 8q 96 n 2 97 ag 1 1 73 ah 3 2 ai ap ",
    "1 1 gj aq 2 2 ar au 1 1 gk av 1 1 aw ax 2 1 gm az 1 1 b0 b2 1 1 d9 b3 1 1 gp b4 1 1 gr b5 1 ",
    "1 b6 b7 1 1 gw b8 1 1 gz ba 1 1 h5 bb 1 1 h4 bc 1 1 bd bg 1 1 hb bh 1 1 he bj 1 1 hh bk 3 2 ",
    "bl bq 1 1 hs br 1 1 bs bt 1 1 hv bw 1 1 bx by 1 1 i0 bz 1 1 c0 c1 2 1 i2 c3 2 2 c4 c7 1 1 ia ",
    "c8 1 1 c9 cc 1 1 cd ck 1 1 cm cl 1 1 cm cn 1 1 cp co 1 1 cp cq 1 1 cs cr 9 2 cs da 9 2 db dt ",
    "1 1 dv du 2 2 dv dy 1 1 b9 dz 1 1 cf e0 k 2 e1 f4 1 1 bi f6 9 2 f7 fu 1 1 8rp fv 1 1 fw fx 1 ",
    "1 be fy 1 1 8rq g1 1 1 g2 g3 1 1 ao g4 1 1 i1 g5 1 1 i4 g6 5 2 g7 og 2 2 oh om 1 1 on ov 1 1 ",
    "s3 p2 1 1 q4 p4 3 1 q5 p8 1 1 r0 pa 2 1 r1 pd h 1 q9 pv 9 1 qr r3 1 1 rb rc c 2 rd s4 1 1 qg ",
    "s7 1 1 s8 s9 1 1 s2 sa 1 1 sb sd 3 1 or sg g 1 uo sw w 1 ts v4 h 2 v5 wa r 2 wb xs 1 1 y7 xt ",
    "7 2 xu y8 1c 2 y9 10x 12 1 129 3a8 12 1 8w0 3bb 1 1 8x3 3bh 1 1 8x9 3vk 28 1 xv4 3xs 6 1 3y0 ",
    "5n4 17 1 3bk 5od 3 1 3ct 5xc 23 2 5xd 61q 1 1 67 61s 1c 2 61t 64o 8 1 64g 654 6 1 64w 65k 8 ",
    "1 65c 660 8 1 65s 66g 6 1 668 66x 4 2 66p 67c 8 1 674 688 8 1 680 68o 8 1 68g 694 8 1 68w ",
    "69k 2 1 69c 69m 2 1 67k 69o 1 1 69f 6a0 4 1 67m 6a4 1 1 69v 6ag 2 1 6a8 6ai 2 1 67q 6aw 2 1 ",
    "6ao 6ay 2 1 67u 6b0 1 1 6at 6bc 2 1 67s 6be 2 1 67w 6bg 1 1 6b7 6jq 1 1 qx 6ju 1 1 2z 6jv 1 ",
    "1 6d 6k2 1 1 6ku 6lc g 1 6ls 6mb 1 1 6mc 792 q 1 79s 8ow 1c 1 8q8 8rk 1 1 8rl 8rm 1 1 h7 8rn ",
    "1 1 5tp 8ro 1 1 hp 8rr 3 2 8rs 8rx 1 1 gh 8ry 1 1 hd 8rz 1 1 gg 8s0 1 1 gi 8s2 1 1 8s3 8s5 1 ",
    "1 8s6 8se 2 1 fz 8sg 1e 2 8sh 8vf 2 2 8vg 8vm 1 1 8vn wu8 n 2 wu9 ww0 e 2 ww1 x0i 7 2 x0j ",
    "x0y v 2 x0z x2x 2 2 x2y x31 1 1 5tl x32 5 2 x33 x3f 1 1 x3g x3h 1 1 h1 x3k 2 2 x3l x3q a 2 ",
    "x3r x4a 1 1 h2 x4b 1 1 gs x4c 1 1 gx x4d 1 1 h8 x4e 1 1 h6 x4g 1 1 im x4h 1 1 hz x4i 1 1 il ",
    "x4j 1 1 xub x4k 8 2 x4l x50 1 1 x3o x51 1 1 hu x52 1 1 5u6 x53 2 2 x54 x5c 1 1 x5d x5i 2 2 ",
    "x5j x6d 1 1 x6e 1ee9 q 1 1ef5 1fcw 14 1 1fe0 1fhs 10 1 1fiw 1fn4 b 1 1fo7 1fng f 1 1foj 1fnw ",
    "7 1 1foz 1fo4 2 1 1fp7 1h1c 1f 1 1h34 1jfk w 1 1jgg 20cg w 1 20dc 2olc y 1 2oma"]

/-- Letters with a single small form. -/
def lowerRuns : Array CaseRun := (caseRuns (numbers lowerRow)).toArray

/-- Letters with a single capital form. -/
def upperRow : String :=
  String.join [
    "2p q 1 1t 51 1 1 po 68 n 1 5c 6w 7 1 60 73 1 1 ag 75 o 2 74 8h 1 1 21 8j 3 2 8i 8q 8 2 8p 97 ",
    "n 2 96 ai 3 2 ah an 1 1 2b ao 1 1 g3 ar 2 2 aq aw 1 1 av b0 1 1 az b6 1 1 b5 b9 1 1 dy bd 1 ",
    "1 bc be 1 1 fx bi 1 1 f4 bl 3 2 bk bs 1 1 br bx 1 1 bw c0 1 1 bz c4 2 2 c3 c9 1 1 c8 cd 1 1 ",
    "cc cf 1 1 dz cl 1 1 ck cm 1 1 ck co 1 1 cn cp 1 1 cn cr 1 1 cq cs 1 1 cq cu 8 2 ct d9 1 1 b2 ",
    "db 9 2 da du 1 1 dt dv 1 1 dt dx 1 1 dw e1 k 2 e0 f7 9 2 f6 fw 1 1 fv fz 2 1 8se g2 1 1 g1 ",
    "g7 5 2 g6 gg 1 1 8rz gh 1 1 8rx gi 1 1 8s0 gj 1 1 ap gk 1 1 au gm 2 1 ax gp 1 1 b3 gr 1 1 b4 ",
    "gs 1 1 x4b gw 1 1 b7 gx 1 1 x4c gz 1 1 b8 h1 1 1 x3h h2 1 1 x4a h4 1 1 bb h5 1 1 ba h6 1 1 ",
    "x4e h7 1 1 8rm h8 1 1 x4d hb 1 1 bg hd 1 1 8ry he 1 1 bh hh 1 1 bj hp 1 1 8ro hs 1 1 bq hu 1 ",
    "1 x51 hv 1 1 bt hz 1 1 x4h i0 1 1 by i1 1 1 g4 i2 2 1 c1 i4 1 1 g5 ia 1 1 c7 il 1 1 x4i im 1 ",
    "1 x4g n9 1 1 pl oh 2 2 og on 1 1 om or 3 1 sd q4 1 1 p2 q5 3 1 p4 q9 h 1 pd qq 1 1 pv qr 9 1 ",
    "pv r0 1 1 p8 r1 2 1 pa r4 1 1 pe r5 1 1 pk r9 1 1 py ra 1 1 ps rb 1 1 r3 rd c 2 rc s0 1 1 pm ",
    "s1 1 1 pt s2 1 1 s9 s3 1 1 ov s5 1 1 ph s8 1 1 s7 sb 1 1 sa ts w 1 sw uo g 1 sg v5 h 2 v4 wb ",
    "r 2 wa xu 7 2 xt y7 1 1 xs y9 1c 2 y8 129 12 1 10x 3bk 17 1 5n4 3ct 3 1 5od 3y0 6 1 3xs 5mo ",
    "1 1 sy 5mp 1 1 t0 5mq 1 1 ta 5mr 2 1 td 5mt 1 1 te 5mu 1 1 tm 5mv 1 1 v6 5mw 1 1 wui 5tl 1 1 ",
    "x31 5tp 1 1 8rn 5u6 1 1 x52 5xd 23 2 5xc 61n 1 1 600 61t 1c 2 61s 64g 8 1 64o 64w 6 1 654 ",
    "65c 8 1 65k 65s 8 1 660 668 6 1 66g 66p 4 2 66x 674 8 1 67c 67k 2 1 69m 67m 4 1 6a0 67q 2 1 ",
    "6ai 67s 2 1 6bc 67u 2 1 6ay 67w 2 1 6be 69c 2 1 69k 69q 1 1 pl 6a8 2 1 6ag 6ao 2 1 6aw 6at 1 ",
    "1 6b0 6ku 1 1 6k2 6ls g 1 6lc 6mc 1 1 6mb 79s q 1 792 8q8 1c 1 8ow 8rl 1 1 8rk 8rp 1 1 fu ",
    "8rq 1 1 fy 8rs 3 2 8rr 8s3 1 1 8s2 8s6 1 1 8s5 8sh 1e 2 8sg 8vg 2 2 8vf 8vn 1 1 8vm 8w0 12 1 ",
    "3a8 8x3 1 1 3bb 8x9 1 1 3bh wu9 n 2 wu8 ww1 e 2 ww0 x0j 7 2 x0i x0z v 2 x0y x2y 2 2 x2x x33 ",
    "5 2 x32 x3g 1 1 x3f x3l 2 2 x3k x3o 1 1 x50 x3r a 2 x3q x4l 8 2 x4k x54 2 2 x53 x5d 1 1 x5c ",
    "x5j 2 2 x5i x6e 1 1 x6d xub 1 1 x4j xv4 28 1 3vk 1ef5 q 1 1ee9 1fe0 14 1 1fcw 1fiw 10 1 1fhs ",
    "1fo7 b 1 1fn4 1foj f 1 1fng 1foz 7 1 1fnw 1fp7 2 1 1fo4 1h34 1f 1 1h1c 1jgg w 1 1jfk 20dc w ",
    "1 20cg 2oma y 1 2olc"]

/-- Letters with a single capital form. -/
def upperRuns : Array CaseRun := (caseRuns (numbers upperRow)).toArray

/-- Letters that become several: the letter, how many it becomes, and those. -/
def upperManyRow : String :=
  String.join [
    "67 2 2b 2b 95 2 jg 26 ds 2 22 lo pc 3 pl lk ld q8 3 px lk ld 13b 2 111 11u 61i 2 20 mp 61j 2 ",
    "2c lk 61k 2 2f lm 61l 2 2h lm 61m 2 1t ji 66o 2 px lv 66q 3 px lv lc 66s 3 px lv ld 66u 3 px ",
    "lv n6 680 2 64o pl 681 2 64p pl 682 2 64q pl 683 2 64r pl 684 2 64s pl 685 2 64t pl 686 2 ",
    "64u pl 687 2 64v pl 688 2 64o pl 689 2 64p pl 68a 2 64q pl 68b 2 64r pl 68c 2 64s pl 68d 2 ",
    "64t pl 68e 2 64u pl 68f 2 64v pl 68g 2 65k pl 68h 2 65l pl 68i 2 65m pl 68j 2 65n pl 68k 2 ",
    "65o pl 68l 2 65p pl 68m 2 65q pl 68n 2 65r pl 68o 2 65k pl 68p 2 65l pl 68q 2 65m pl 68r 2 ",
    "65n pl 68s 2 65o pl 68t 2 65p pl 68u 2 65q pl 68v 2 65r pl 68w 2 67c pl 68x 2 67d pl 68y 2 ",
    "67e pl 68z 2 67f pl 690 2 67g pl 691 2 67h pl 692 2 67i pl 693 2 67j pl 694 2 67c pl 695 2 ",
    "67d pl 696 2 67e pl 697 2 67f pl 698 2 67g pl 699 2 67h pl 69a 2 67i pl 69b 2 67j pl 69e 2 ",
    "69m pl 69f 2 pd pl 69g 2 p2 pl 69i 2 pd n6 69j 3 pd n6 pl 69o 2 pd pl 69u 2 6a2 pl 69v 2 pj ",
    "pl 69w 2 p5 pl 69y 2 pj n6 69z 3 pj n6 pl 6a4 2 pj pl 6aa 3 pl lk lc 6ab 3 pl lk ld 6ae 2 pl ",
    "n6 6af 3 pl lk n6 6aq 3 px lk lc 6ar 3 px lk ld 6as 2 pt lv 6au 2 px n6 6av 3 px lk n6 6b6 2 ",
    "6be pl 6b7 2 q1 pl 6b8 2 pb pl 6ba 2 q1 n6 6bb 3 q1 n6 pl 6bg 2 q1 pl 1dkw 2 1y 1y 1dkx 2 1y ",
    "21 1dky 2 1y 24 1dkz 3 1y 1y 21 1dl0 3 1y 1y 24 1dl1 2 2b 2c 1dl2 2 2b 2c 1dlf 2 11g 11i ",
    "1dlg 2 11g 111 1dlh 2 11g 117 1dli 2 11q 11i 1dlj 2 11g 119"]

/-- The entries of a row of letters that become several. -/
def manyEntries (fuel : Nat) (row : List Nat) : List (Nat × List Nat) :=
  match fuel, row with
  | fuel + 1, code :: count :: rest => (code, rest.take count) :: manyEntries fuel (rest.drop count)
  | _, _ => []

/-- Letters that become several capitals. -/
def upperMany : List (Nat × List Nat) :=
  let row := numbers upperManyRow
  manyEntries row.length row

/-- The small form of `c`, taken by itself. -/
def lowerOf (c : Char) : List Char :=
  if c.toNat < 128 then [if 'A' ≤ c ∧ c ≤ 'Z' then Char.ofNat (c.toNat + 32) else c]
  else if c.toNat = 0x130 then ['i', Char.ofNat 0x307]
  else
    match findRun lowerRuns c.toNat 0 lowerRuns.size with
    | some n => [Char.ofNat n]
    | none => [c]

/-- The capital form of `c`. -/
def upperOf (c : Char) : List Char :=
  if c.toNat < 128 then [if 'a' ≤ c ∧ c ≤ 'z' then Char.ofNat (c.toNat - 32) else c]
  else
    match upperMany.lookup c.toNat with
    | some ns => ns.map Char.ofNat
    | none =>
      match findRun upperRuns c.toNat 0 upperRuns.size with
      | some n => [Char.ofNat n]
      | none => [c]

/-- The first character of the small form. -/
def simpleLower (c : Char) : Char := (lowerOf c).headD c

/-- The first character of the capital form. -/
def simpleUpper (c : Char) : Char := (upperOf c).headD c

/-- The ranges of letters with case that count as part of a word. -/
def casedRow : String :=
  String.join [
    "1t p 7 p 1c 0 b 0 5 0 6 m 2 u 2 5e 2 3 5 5r 2 q 5d 3 3 1 4 2 2 0 7 0 2 2 2 0 2 j 2 2a 2 3u 9 ",
    "4l 2 11 a 14 26w 11 2 0 6 0 3 16 3 2 ip 2d 3 5 1oj 8 8 16 3 2 1t 17 1s c 2 x 2u 7p 3 5 3 11 ",
    "3 5 3 7 2 0 2 0 2 0 2 u 3 1g 2 6 2 0 4 2 2 6 4 3 3 5 5 c 6 2 2 6 7a 0 5 0 3 9 2 0 4 4 7 0 2 ",
    "0 2 0 2 3 2 5 5 0 3 3 6 4 5 0 i v 4 1 mq 1f 1ef 3f 3 2u 7 3 4 1 d 11 2 0 6 0 nwz 19 j r 3r ",
    "25 2 m 4 3 2 1m 6 1 2 0 2 4 s 1 4 0 mu 16 6 8 8 27 fnl 6 d 4 sq p 7 p x2 27 2p z 5 z 39 a 2 ",
    "e 2 6 2 1 2 a 2 e 2 6 2 1 1c4 1e e 1e 2b2 1r gv5 1r k1t 2c 2 1y 2 1 3 0 3 1 3 3 2 b 2 0 2 6 ",
    "2 1s 2 3 3 7 2 6 2 r 2 3 2 4 2 0 4 6 2 9f 3 o 2 o 2 u 2 o 2 u 2 o 2 u 2 o 2 u 2 o 2 7 1f9 9 ",
    "2 j 1ya 1v 1kd p 7 p 7 p"]

/-- Letters with case. -/
def casedChart : Chart := Chart.ofRow casedRow

/-- The ranges of marks that case looks through. -/
def caseIgnorableRow : String :=
  String.join [
    "13 0 7 0 c 0 10 0 2 0 20 0 5 0 2 0 5 0 3 1 e0 5b 5 1 5 0 a 1 2 0 70 6 5s 0 6 0 1e 18 2 0 2 1 ",
    "2 1 2 0 19 0 c 5 b a 2 0 10 0 b k h 0 2u 7 2 9 2 3 y 0 2 0 v q 2k a 1n a 5 0 3 0 p n 18 2 19 ",
    "0 8 1 7 7 16 1l 1k 0 2 0 5 7 5 0 4 6 b 1 e 0 g 0 1n 0 5 3 9 0 l 1 r 0 3 1 1m 0 5 1 5 1 3 2 4 ",
    "0 v 1 4 0 c 1 1m 0 5 4 2 1 5 0 l 1 n 5 2 0 1n 0 3 0 2 3 9 0 8 1 c 1 v 0 1q 0 d 0 1f 0 4 0 1k ",
    "0 2 2 6 2 2 3 8 1 c 1 u 0 1n 0 3 0 7 0 6 1 l 1 t 1 1m 1 5 3 9 0 l 1 u 0 21 0 8 2 2 0 2j 0 3 ",
    "6 c 8 2r 0 3 8 a 0 2 5 23 1 s 0 2 0 2 0 1k d 2 4 2 1 6 a 2 z a 0 2v 3 2 5 2 1 3 1 q 1 5 2 h ",
    "3 e 0 3 1 7 0 g 0 2n 0 gx 2 qb 2 u 1 v 1 v 1 1t 1 2 6 9 0 3 a 4 0 6 0 1a 4 1g 0 1u 1 z 0 3b ",
    "2 5 1 a 0 7 2 64 1 3 0 1n 0 2 6 2 0 2 0 3 7 7 9 3 0 14 0 9 u 1e 3 1d 0 2 4 2 0 6 0 15 8 d 1 ",
    "x 3 3 1 2 2 1l 0 2 1 4 0 2 2 1n 7 3 1 1t 5 2b 2 2 c 2 6 5 0 7 0 4 1 1f 1q e 0 z 2s ce 0 2 2 ",
    "c 2 e 2 e 2 e 1 d 4 9 1 b 0 3 0 3 4 1e 4 2 9 2 0 e 0 h c 1g w 2a4 1 36 2 3i 0 g 0 2p v 1c 0 ",
    "d2 0 11 3 4 4 6 0 2m 5 2m 2 lxz 0 yr 5 7j 0 2r 3 2 9 2 0 t 3 29 1 f x 27 0 o 2 2w 2 4 1 9 0 ",
    "4 0 5 0 q 1 6 0 48 1 r h e 0 13 7 q a 1b 2 1d 0 3 3 3 1 i 0 m 1 1v 5 3 1 3 1 d 0 9 0 10 0 c ",
    "0 1g 0 2 2 3 1 6 1 2 0 s 0 f 1 6 1 2 0 2t 4 a 2 3e 0 3 0 5 0 fn5 0 44 g fy f 4 0 d f z 0 3 0 ",
    "4q 0 8 0 7 0 c 0 10 0 2 0 1c 0 1a 1 1w 0 m 2 ea 0 6b 0 46 4 sm 5 2 15 2 8 g7 2 2 1 6 3 15 2 ",
    "5 0 4m 1 fy 3 as 1 4a a 1e 3 3g 0 1j e 16 0 3 1 b 2 1e 3 3 1 3 0 5 0 b 0 1f 2 11 4 2 7 1r 0 ",
    "d 1 1h 8 b 3 3 0 2o 2 3 0 2 1 7 0 4h 0 4 7 m 1 1m 1 4 0 12 6 4 4 5g 7 3 2 2 0 o 0 2d 5 2 0 5 ",
    "1 2 1 6n 3 7 1 2 1 s 1 2e 7 3 0 2 1 2z 0 2 0 3 5 2 0 2u 2 3 3 2 4 78 8 2 1 75 1 2 0 5 0 41 3 ",
    "3 1 5 0 x 9 15 5 3 3 9 0 a 5 3 2 1b c 2 1 bb 6 2 5 2 0 2b l 3 6 2 1 2 1 3f 5 4 0 2 1 2 6 2 0 ",
    "21 1 4 0 2 0 9o 1 470 8 at4 4 1o 6 a 3 ss 0 1s g 1t 1 2 1 cng 3 2 6 2 1 2hr 1 2 3 3ml 19 3 m ",
    "f5 2 a f 3 6 v 3 45 2 1j0 1i 5 1d 9 0 f 0 n 4 2 e 11t 6 2 g 3 6 2 1 2 4 7a d a9 0 1q 3 15t 6 ",
    "32 7 240 4 gx6q 0 v 2n 3l 6n"]

/-- Marks that case looks through. -/
def caseIgnorableChart : Chart := Chart.ofRow caseIgnorableRow

/-- Is the nearest character that case does not look through a letter with case? -/
def nextIsCased : List Char → Bool
  | [] => false
  | c :: rest =>
    if caseIgnorableChart.contains c.toNat then nextIsCased rest
    else casedChart.contains c.toNat

/-- Small forms of `rest`, where `before` holds what precedes it, nearest first. -/
def lowerAfter (before : List Char) : List Char → List Char
  | [] => []
  | c :: rest =>
    (if c.toNat = 0x3A3 then
      [if nextIsCased before && !nextIsCased rest then Char.ofNat 0x3C2 else Char.ofNat 0x3C3]
     else lowerOf c) ++ lowerAfter (c :: before) rest

/-- The text in small letters. -/
def lower (s : String) : String :=
  String.ofList (lowerAfter [] s.toList)

/-- The text in capital letters. -/
def upper (s : String) : String :=
  String.ofList (s.toList.flatMap upperOf)

/-- Small letters that share a capital with others: the letter, how many others, and those. -/
def kinRow : String :=
  String.join [
    "2x 1 8h 37 1 an 51 1 qk 8h 1 2x an 1 37 n9 2 qh 69q pc 1 6ab q8 1 6ar qa 1 r4 qd 1 s5 qg 1 ",
    "r5 qh 2 n9 69q qi 1 s0 qk 1 51 qo 1 ra qp 1 s1 qq 1 qr qr 1 qq qu 1 r9 r4 1 qa r5 1 qg r9 1 ",
    "qu ra 1 qo s0 1 qi s1 1 qp s5 1 qd tu 1 5mo tw 1 5mp u6 1 5mq u9 1 5mr ua 2 5ms 5mt ui 1 5mu ",
    "v7 1 5mv 5mo 1 tu 5mp 1 tw 5mq 1 u6 5mr 1 u9 5ms 2 ua 5mt 5mt 2 ua 5ms 5mu 1 ui 5mv 1 v7 5mw ",
    "1 wuj 601 1 61n 61n 1 601 69q 2 n9 qh 6ab 1 pc 6ar 1 q8 wuj 1 5mw 1dl1 1 1dl2 1dl2 1 1dl1"]

/-- Small letters that share a capital with others. -/
def kinEntries : List (Nat × List Nat) :=
  let row := numbers kinRow
  manyEntries row.length row

/-- The other small letters that share a capital with a small letter. -/
def kinOf (n : Nat) : List Nat :=
  if n < 128 then (if n = 0x69 then [0x131] else if n = 0x73 then [0x17F] else [])
  else (kinEntries.lookup n).getD []

/-- The letters of a run whose image is `n`. -/
def CaseRun.sources (run : CaseRun) (n : Nat) : List Nat :=
  if run.image ≤ n ∧ n - run.image ≤ (run.count - 1) * run.stride ∧
      (n - run.image) % run.stride = 0 then
    [run.first + (n - run.image)]
  else []

/-- All letters whose small form starts with `n`. -/
def lowerSources (n : Nat) : List Nat :=
  (if simpleLower (Char.ofNat n) = Char.ofNat n then [n] else []) ++
  (if 'a'.toNat ≤ n ∧ n ≤ 'z'.toNat then [n - 32] else []) ++
  (if n = 0x69 then [0x130] else []) ++
  lowerRuns.toList.flatMap fun run => if run.first < 128 then [] else run.sources n

end Intake.Text
