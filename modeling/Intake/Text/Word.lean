import Intake.Text.Chart

/-!
# Letters and numbers, and what can be shown

Two properties that are read off charts: `isWordLetter` holds of letters, digits and other
numbers (the characters a word is made of, the low line apart), `isPrintable` of characters
that a quoted text shows as they are.
-/

namespace Intake.Text

/-- The ranges of letters and numbers. -/
def wordRow : String :=
  String.join [
    "1c 9 8 p 7 p 1c 0 8 1 2 0 4 1 2 2 2 m 2 u 2 cp 5 b f 4 8 0 2 0 3m 4 2 1 3 3 2 0 7 0 2 2 2 0 ",
    "2 j 2 2a 2 3u 9 4l 2 11 3 0 7 14 20 q 5 3 1a 16 m 9 5 1 2 2q 2 0 g 1 8 e 3 0 h 0 2 t u 2g c ",
    "0 f 16 a 1 5 0 6 l 5 0 a 0 4 0 o o 8 a 6 n 2 5 i 15 1n 1h 4 0 j 0 8 9 5 9 2 f 5 7 3 1 3 l 2 ",
    "6 2 0 4 3 4 0 h 0 e 1 2 2 5 b 3 5 3 0 9 5 5 1 3 l 2 6 2 1 2 1 2 1 w 3 2 0 8 9 3 2 h 8 2 2 2 ",
    "l 2 6 2 1 2 4 4 0 j 0 g 1 5 9 a 0 c 7 3 1 3 l 2 6 2 1 2 4 4 0 v 1 2 2 5 9 2 6 c 0 2 5 4 2 2 ",
    "3 4 1 2 0 2 1 4 1 4 2 4 b n 0 m c j 7 2 2 2 m 2 f 4 0 r 2 3 0 3 1 5 9 9 6 2 0 5 7 2 2 2 m 2 ",
    "9 2 4 4 0 w 1 2 1 5 9 2 1 i 8 2 2 2 14 3 0 h 0 6 2 2 9 5 i 2 5 6 h 4 n 2 8 2 0 3 6 w 9 i 1b ",
    "2 1 d 6 a 9 14 1 2 0 2 4 2 n 2 0 2 9 2 1 a 0 3 4 2 0 a 9 3 3 x 0 w j d 7 2 z s 4 38 16 l a 7 ",
    "5 5 3 4 0 4 1 8 2 5 c d 0 2 9 7 11 2 0 6 0 3 16 2 98 2 3 3 6 2 0 2 3 3 14 2 3 3 w 2 3 3 6 2 ",
    "0 2 3 3 e 2 1k 2 3 3 1u f j 4 f h 2d 3 5 4 h7 3 g 2 p 6 22 4 a 8 h e i f h f c 2 2 g 1f 10 0 ",
    "5 0 4 9 7 9 n 9 7 2g 8 4 3 x 2 0 6 1x b u 14 13 3 4 c 17 5 p 7 a 12 m a 1g 18 9 7 9 e 0 2m ",
    "1a i 7 4 9 16 t e 1j r z t 9 4 1c 3 8 8 16 3 2 16 3 2 5 2 1 4 0 6 5b 1t 7p 3 5 3 11 3 5 3 7 ",
    "2 0 2 0 2 0 2 u 3 1g 2 6 2 0 4 2 2 6 4 3 3 5 5 c 6 2 2 6 38 1 3 5 6 a 7 c 2u 0 5 0 3 9 2 0 4 ",
    "4 7 0 2 0 2 0 2 3 2 a 3 3 6 4 5 0 2 1l k7 1n 27 l hj t vh 6c 7 3 4 1 a 0 3 11 2 0 6 0 3 1j 8 ",
    "0 h m a 6 2 6 2 6 2 6 2 6 2 6 2 6 2 6 29 0 d2 2 q 8 8 4 3 4 5 2d 7 2 2 2h 2 3 6 16 2 2l 4 3 ",
    "b v 1d f x 9 v 7 2 e x 9 14 e 8x 533 1t h3g 1w 19 3 7g 4 r l 1a h u 3 27 14 8 3 2u 3 1r 6 1 ",
    "2 0 2 4 p f 2 2 2 3 2 m e 5 b 1f f 1d t 9 p 5 4 0 2 1 2 11 b m q s 8 1a t a 7 4 2 o 2 14 o 2 ",
    "2 7 5 9 7 m 4 0 4 1d 2 0 4 1 3 4 3 0 2 0 p 2 3 a 8 2 d 5 3 5 3 5 a 6 2 6 2 16 2 d 7 36 e 9 7 ",
    "8mb d m 5 1c 6it a5 3 2x 13 6 d 4 6 0 2 9 2 c 2 4 2 0 2 1 2 1 2 2z y a2 j 1r 3 1h 15 b 39 4 ",
    "2 3q k 9 8 p 7 p c 2g 4 5 3 5 3 5 3 2 10 b 2 p 2 i 2 1 2 e 3 d z 3e d 18 d 1k i 1 6t s 4 1c ",
    "h q 5 z a t 6 11 b t 3 z 5 7 2 4 17 4d 3 9 7 z 5 z 5 13 9 1f d a 2 e 2 6 2 1 2 a 2 e 2 6 2 1 ",
    "1w 8m a l b 7 p 5 2 15 2 8 1y 5 3 0 2 17 2 1 4 0 3 m 3 u 3 11 9 8 1d i 2 1 6 w 5 p 1z 1j 5 j ",
    "3 1a g 3 2 2 2 s b 8 o u 2 v x 7 2 r 7 4 h 1h b l 3 q 6 p o 6 29 20 1k 1e e 1e 8 15 d 9 87 u ",
    "2 15 7 1 27 13 9 l c 3 s h 1b r l m d 1g r t 2 1 3 0 e 18 x o 8 9 a z g 9 5 0 3 0 9 y 4 0 d ",
    "1b f 3 c a 2 0 5 j c h 2 o 2d 6 2 0 2 3 2 e 2 9 8 1a i 9 c 7 3 1 3 l 2 6 2 1 2 4 4 0 j 0 d 4 ",
    "4f 1g j 3 6 9 6 2 v 1b l 1 2 0 9 9 4n 1a 16 3 11 1b l 0 c 9 13 16 e 0 8 9 1j q m b 5 6 56 17 ",
    "39 2a d 7 3 0 3 7 2 1 2 n g 0 2 0 f 9 1z 7 3 12 h 0 2 0 t 0 b 13 8 0 m 0 c 19 k 0 j 20 7c 8 ",
    "2 10 i 0 g s 6 t 35 6 2 1 2 11 m 0 a 9 7 5 2 1 2 v f 0 8 9 8n i 5a 0 g k 18 pl 2v 32 i 5f ",
    "219 2o g tq 34i g6 6nu fs 8 u 2 9 7 26 2 9 7 t j 1b h 3 d 9 2 6 2 k 6 i j5 2e 2y 22 6 0 1v c ",
    "1t 1 2 0 t 4qf 9 yd 17 8 6w8 3 2 6 2 1 2 82 1a 2 i 3 9 az 1s5 2y 6 c 4 8 8 9 4ef j 31 o 3s ",
    "2c 2 1y 2 1 3 0 3 1 3 3 2 b 2 0 2 6 2 1s 2 3 3 7 2 6 2 r 2 3 2 4 2 0 4 6 2 9f 3 o 2 o 2 u 2 ",
    "o 2 u 2 o 2 u 2 o 2 u 2 o 2 7 3 1d 1dt u de 18 b 6 3 9 5 0 8y t j 17 5 9 yv 6 2 3 2 1 2 e 2 ",
    "5g 3 8 1d 1v 8 0 5 9 m0 1m 2 2 2 3 25 18 2 e 5f 3 2 q 2 1 2 0 3 0 2 9 2 3 2 0 2 0 7 0 5 0 2 ",
    "0 2 0 2 2 2 1 2 0 3 0 2 0 2 0 2 0 2 0 2 1 2 0 3 3 2 6 2 3 2 3 2 0 2 9 2 g 6 2 2 4 2 g g5 c ",
    "25g 9 sn wyn x 37c 8 65 3 4g1 f 5rk 2e8 f1 15v 3t6"]

/-- Letters and numbers. -/
def wordChart : Chart := Chart.ofRow wordRow

/-- Is `c` a letter or a number? -/
def isWordLetter (c : Char) : Bool :=
  if c.toNat < 128 then c.isAlphanum else wordChart.contains c.toNat

/-- The ranges of characters that are shown as they are. -/
def printableRow : String :=
  String.join [
    "w 2m z b 2 jt 3 5 5 6 2 0 2 j 2 b0 2 11 3 1d 3 2 2 1i 9 q 5 5 i l 2 5b 2 1b 3 1m 3 2s f 1m 3 ",
    "1c 3 e 2 r 3 0 2 a 6 u a 21 2 4g 2 7 3 1 3 l 2 6 2 0 4 3 3 8 3 1 3 3 9 0 5 1 2 4 3 o 3 2 2 5 ",
    "5 1 3 l 2 6 2 1 2 1 2 1 3 0 2 4 5 1 3 2 4 0 8 3 2 0 8 g b 2 2 8 2 2 2 l 2 6 2 1 2 4 3 9 2 2 ",
    "2 2 3 0 g 3 3 b 8 6 2 2 2 7 3 1 3 l 2 6 2 1 2 4 3 8 3 1 3 2 8 2 5 1 2 4 3 h b 1 2 5 4 2 2 3 ",
    "4 1 2 0 2 1 4 1 4 2 4 b 5 4 4 2 2 3 3 0 7 0 f k 6 c 2 2 2 m 2 f 3 8 2 2 2 3 8 1 2 2 3 0 3 3 ",
    "3 9 8 l 2 2 2 m 2 9 2 4 3 8 2 2 2 3 8 1 7 1 2 3 3 9 2 1 e c 2 2 2 1e 2 2 2 5 5 f 3 p 2 2 2 h ",
    "4 n 2 8 2 0 3 6 4 0 5 5 2 0 2 7 7 9 3 2 d 1l 5 s 12 1 2 0 2 4 2 n 2 0 2 m 3 4 2 0 2 5 3 9 3 ",
    "3 x 1z 2 z 5 12 2 z 2 e 2 c 12 5h 2 0 6 0 3 ag 2 3 3 6 2 0 2 3 3 14 2 3 3 w 2 3 3 6 2 0 2 3 ",
    "3 e 2 1k 2 3 3 1u 3 v 4 p 7 2d 3 5 3 hr 2 r 4 2g 8 l a n a j d c 2 2 2 1 d 2l 3 9 7 9 7 d 2 ",
    "a 7 2g 8 16 6 1x b u 2 b 5 b 5 0 4 15 3 4 c 17 5 p 7 a 4 1p 3 1s 2 s 3 a 7 9 7 d 3 u 1e 24 4 ",
    "1a 2 37 9 1n 4 e 4 1n 8 16 3 a 9 16 6 et 3 5 3 11 3 5 3 7 2 0 2 0 2 0 2 u 3 1g 2 e 2 d 3 5 2 ",
    "i 3 2 2 8 i n 9 1a i 1 3 q 2 c 4 w g w g 3v 5 ie q a m 1eb 3 v 2 9o 6 18 2 0 6 0 3 1j 8 1 f ",
    "n a 6 2 6 2 6 2 6 2 6 2 6 2 6 2 6 2 3h z p 2 2g d 5x r b 6 1q 2 2d 3 2u 6 16 2 2l 2 2b d 1a ",
    "2 mlo 4 1i a 9n l 53 9 5m 6 1 2 0 2 4 p 1m 4 9 7 1j 9 1x 9 b 7 37 c t 4 25 2 a 5 w 2 1i a d ",
    "3 9 3 2u p r b 5 3 5 3 5 a 6 2 6 2 1n 5 3h 3 9 7 8mb d m 5 1c 6it a5 3 2x 13 6 d 4 6 p 2 4 2 ",
    "0 2 1 2 1 2 3g h cc 3 1h 8 0 x 15 7 1e 2 i 2 3 5 4 2 3q 5 59 4 5 3 5 3 5 3 2 4 6 2 6 e 1 3 b ",
    "2 p 2 i 2 1 2 e 3 d z 3e 6 2 5 18 4 2f 2 c 4 0 1c 19 3n s 4 1c g r 5 z a t 6 16 6 t 2 10 5 d ",
    "17 4d 3 9 7 z 5 z 5 13 9 1f c b 2 e 2 6 2 1 2 a 2 e 2 6 2 1 1w 8m a l b 7 p 5 2 15 2 8 1y 5 ",
    "3 0 2 17 2 1 4 0 3 m 2 1z 9 8 1d i 2 1 6 w 4 q 6 0 1t 1j 5 j 3 1d 2 1 6 7 2 2 2 s 3 2 5 9 8 ",
    "8 8 1r x 12 5 b a 1h 4 s 3 q 6 p 8 3 d 6 29 20 1k 1e e 1e 8 19 9 9 87 u 2 15 2 2 3 1 27 13 9 ",
    "15 n p 13 r l m a 25 5 z a 1p 2 4 e o 8 9 7 1g 2 h 9 12 a 2n 2 j c h 2 17 1u 6 2 0 2 3 2 e 2 ",
    "a 7 1m 6 9 7 3 2 7 3 1 3 l 2 6 2 1 2 4 2 9 3 1 3 2 3 0 7 0 6 6 3 6 4 4 3w 2j 2 4 v 1z 9 9 4n ",
    "1h 3 11 z 1w c 9 7 c k 1l 7 9 1j q 3 e 5 m 56 1n 2t 2a d 7 3 0 3 7 2 1 2 t 2 1 3 b a 9 1z 7 ",
    "3 19 3 a s 1z 9 2a e 20 7c 8 2 18 2 d b s 4 v 3 l 2 d 22 6 2 1 2 17 4 0 2 1 2 8 9 9 7 5 2 1 ",
    "2 10 2 1 2 5 8 9 8n o 54 0 g 1d e pm 2v 32 2 4 c 5f 219 2q e tq 34i g6 6nu fs 8 u 2 9 5 28 2 ",
    "9 7 t 3 5 b 1x b 9 2 6 2 k 6 i j5 2i 2u 22 5 1k 8 g 1t 4 c 1 f 4qf 9 yd 17 8 6w8 3 2 6 2 1 2 ",
    "82 1a 2 i 3 9 az 1s5 2y 6 c 4 8 8 9 3 3 3mp 19 3 m a 37 1p 6t b 12 3 21 9 33 m 1x 4b j d 2e ",
    "a o 3s 2c 2 1y 2 1 3 0 3 1 3 3 2 b 2 0 2 6 2 1s 2 3 3 7 2 6 2 r 2 3 2 4 2 0 4 6 2 9f 3 83 3 ",
    "jh g 4 2 e up u 6a 6 2 g 3 6 2 1 2 4 5y 18 4 d 3 9 5 1 8x u i 1l 6 0 yp 6 2 3 2 1 2 e 2 5g 3 ",
    "f 16 23 5 9 5 1 lu 1v 25 1o 5f 3 2 q 2 1 2 0 3 0 2 9 2 3 2 0 2 0 7 0 5 0 2 0 2 0 2 2 2 1 2 0 ",
    "3 0 2 0 2 0 2 0 2 0 2 1 2 0 3 3 2 6 2 3 2 3 2 0 2 9 2 g 6 2 2 4 2 g 1h 1 7j 17 5 2r d e 3 e ",
    "2 e 2 10 b 4t 1l s e 17 5 8 8 1 f 5 4b rb 6 f 4 c 4 37 d 2g 8 b 5 0 g b 5 1j 9 9 7 13 9 t 3 ",
    "1 27 9f d d 3 4 4 4 4 6 a s 4 a 6 5 b 9 7 7 9 6 a 42 2 1i 12 9 sn wyn x 37c 8 65 3 4g1 f 5rk ",
    "2e8 f1 15v 3t6 fcmu 6n"]

/-- Characters that are shown as they are. -/
def printableChart : Chart := Chart.ofRow printableRow

/-- Can `c` be shown as it is? -/
def isPrintable (c : Char) : Bool :=
  if c.toNat < 128 then 32 ≤ c.toNat ∧ c.toNat < 127 else printableChart.contains c.toNat

end Intake.Text
