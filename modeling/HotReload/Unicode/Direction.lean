import HotReload.Unicode.Table

set_option autoImplicit false

namespace HotReload.Unicode

inductive Direction where
  | leftToRight
  | rightToLeft
  | arabicLetter
  | arabicNumber
  | europeanNumber
  | europeanSeparator
  | commonSeparator
  | europeanTerminator
  | otherNeutral
  | boundaryNeutral
  | nonspacingMark
  | other
  deriving DecidableEq

def Direction.ofCode : Nat → Direction
  | 0 => .leftToRight
  | 1 => .rightToLeft
  | 2 => .arabicLetter
  | 3 => .arabicNumber
  | 4 => .europeanNumber
  | 5 => .europeanSeparator
  | 6 => .commonSeparator
  | 7 => .europeanTerminator
  | 8 => .otherNeutral
  | 9 => .boundaryNeutral
  | 10 => .nonspacingMark
  | _ => .other

def directions : CharMap := .ofLines [
  "0 9;9 b;5 9;e b;5 8;2 7;3 8;5 5;1 6;1 5;1 6;2 4;a 6;1 8;6 0;1a 8;6 0;1a 8;4 9;6 b;1 9;1a 6;",
  "1 8;1 7;4 8;4 0;1 8;2 9;1 8;2 7;2 4;2 8;1 0;1 8;3 4;1 0;1 8;5 0;17 8;1 0;1f 8;1 0;1c1 8;2 0;",
  "7 8;e 0;2 8;e 0;5 8;9 0;1 8;11 a;70 0;4 8;2 0;8 8;1 0;5 8;2 0;1 8;1 0;6e 8;1 0;8c a;7 0;",
  "100 8;1 0;2 8;2 7;1 0;1 a;2d 1;1 a;1 1;1 a;2 1;1 a;2 1;1 a;1 0;8 1;1b 0;4 1;6 0;b 3;6 8;2 2;",
  "1 7;2 2;1 6;1 2;1 8;2 a;b 2;30 a;15 3;a 7;1 3;2 2;3 a;1 2;65 a;7 3;1 8;1 a;6 2;2 a;2 8;1 a;",
  "4 2;2 4;a 2;14 0;1 2;2 a;1 2;1e a;1b 0;2 2;59 a;b 2;1 0;e 1;2b a;9 1;2 8;4 1;1 0;2 a;1 1;",
  "18 a;4 1;1 a;9 1;1 a;3 1;1 a;5 0;2 1;f 0;1 1;19 a;3 0;2 1;1 0;1 2;b 0;5 2;1f 0;1 3;2 0;6 a;",
  "8 2;2a a;18 3;1 a;20 0;37 a;1 0;1 a;1 0;4 a;8 0;4 a;1 0;3 a;7 0;a a;2 0;1d a;1 0;3a a;1 0;",
  "4 a;4 0;8 a;1 0;14 a;2 0;e 7;2 0;7 7;1 0;2 a;1 0;2 a;2 0;39 a;1 0;4 a;2 0;4 a;2 0;2 a;3 0;",
  "3 a;1 0;1e a;2 0;3 a;1 0;b a;2 0;39 a;1 0;4 a;5 0;1 a;2 0;4 a;1 0;14 a;2 0;d 7;1 0;8 a;6 0;",
  "1 a;1 0;3a a;1 0;2 a;1 0;1 a;4 0;8 a;1 0;7 a;2 0;b a;2 0;1e a;1 0;3d a;1 0;c a;1 0;25 8;6 7;",
  "1 8;1 0;5 a;1 0;3 a;1 0;37 a;1 0;1 a;3 0;5 a;3 0;1 a;4 0;7 a;2 0;b a;2 0;14 8;7 0;2 a;1 0;",
  "3a a;1 0;f a;2 0;14 a;2 0;1c a;2 0;39 a;2 0;4 a;4 0;8 a;1 0;14 a;2 0;1d a;1 0;48 a;1 0;7 a;",
  "3 0;1 a;1 0;5a a;1 0;2 a;7 0;4 7;1 0;7 a;8 0;62 a;1 0;2 a;9 0;b a;6 0;4a a;2 0;1b a;1 0;1 a;",
  "1 0;1 a;1 8;4 0;33 a;e 0;1 a;5 0;1 a;2 0;5 a;b 0;1 a;24 0;9 a;1 0;66 a;4 0;1 a;6 0;1 a;2 0;",
  "2 a;2 0;19 a;2 0;4 a;3 0;10 a;4 0;d a;1 0;2 a;2 0;6 a;1 0;f a;1 0;2bf a;3 0;30 8;a 0;66 8;",
  "1 0;27f b;1 0;1a 8;2 0;75 a;3 0;1d a;2 0;1e a;2 0;1e a;2 0;40 a;2 0;1 a;7 0;8 a;1 0;2 a;b 0;",
  "7 7;1 0;1 a;1 0;12 8;a 0;6 8;b a;3 9;1 a;1 0;75 a;2 0;22 a;1 0;76 a;3 0;4 a;2 0;9 a;1 0;6 a;",
  "3 0;4 8;1 0;3 8;2 0;98 8;22 0;17 a;2 0;2 a;1 0;3a a;1 0;1 a;7 0;1 a;1 0;1 a;1 0;2 a;8 0;6 a;",
  "a 0;2 a;1 0;30 a;1f 0;31 a;4 0;30 a;1 0;1 a;5 0;1 a;1 0;5 a;1 0;28 a;9 0;c a;2 0;20 a;4 0;",
  "2 a;2 0;1 a;3 0;38 a;1 0;1 a;2 0;3 a;1 0;1 a;3 0;3a a;8 0;2 a;2 0;98 a;3 0;1 a;d 0;1 a;7 0;",
  "4 a;1 0;6 a;1 0;3 a;2 0;c6 a;40 0;1bd 8;1 0;1 8;3 0;b 8;3 0;d 8;3 0;d 8;3 0;d 8;2 0;1 b;b 9;",
  "3 0;1 1;1 8;18 b;7 6;1 7;5 8;f 6;1 8;1a b;1 9;5 0;1 b;4 9;6 4;1 0;3 4;6 5;2 8;3 0;1 4;a 5;",
  "2 8;3 0;11 7;21 0;f a;21 0;f 8;2 0;1 8;4 0;1 8;2 0;a 8;1 0;1 8;3 0;5 8;6 0;1 8;1 0;1 8;1 0;",
  "1 8;1 0;4 7;1 0;b 8;2 0;4 8;5 0;5 8;4 0;2 8;10 0;29 8;3 0;4 8;82 5;1 7;1 8;122 0;45 8;1a 0;",
  "1 8;91 0;19 8;b 0;15 8;28 4;14 0;4e 8;1c2 0;1 8;153 0;100 8;274 0;2 8;20 0;1 8;69 0;e5 8;",
  "6 0;4 a;3 0;7 8;7 0;7f a;1 0;60 a;20 8;5e 0;22 8;1a 0;1 8;59 0;c 8;d6 0;1a 8;c 0;4 b;1 8;",
  "4 0;3 8;19 0;9 a;4 0;2 8;1 0;5 8;2 0;5 8;3 0;59 a;2 8;2 0;3 8;1 0;5a 8;1 0;c4 8;24 0;39 8;",
  "2 0;31 8;10 0;1c 8;3 0;32 8;f 0;c 8;4 0;a7 8;4 0;63 8;2 0;1f 8;1 0;19c0 8;40 0;5690 8;37 0;",
  "146 8;3 0;5f a;4 8;1 a;a 8;2 0;1e a;2 0;50 a;2 0;e 8;22 0;66 8;1 0;79 a;1 0;3 a;1 0;4 a;1 0;",
  "19 a;2 0;1 8;4 a;1 0;b 7;2 0;3a 8;4 0;4c a;2 0;1a a;12 0;d a;1 0;26 a;8 0;19 a;b 0;2e a;3 0;",
  "30 a;1 0;2 a;4 0;2 a;2 0;27 a;1 0;43 a;6 0;2 a;2 0;2 a;2 0;c a;1 0;8 a;1 0;2f a;1 0;33 a;",
  "1 0;1 a;3 0;2 a;2 0;5 a;2 0;1 a;1 0;2a a;2 0;8 a;1 0;73 8;2 0;79 a;1 0;2 a;1 0;4 a;1 0;",
  "2c12 b;800 0;1b1d 1;1 a;1 1;a 5;1 1;d 0;1 1;5 0;1 1;1 0;1 1;2 0;1 1;2 0;1 1;a 2;73 0;10 2;",
  "16b 8;12 2;40 0;2 2;36 0;7 8;1 0;20 2;d 8;3 a;10 8;a 0;6 a;10 8;20 6;1 8;1 6;1 0;1 8;1 6;",
  "1 8;9 7;1 8;2 5;2 8;3 0;1 8;1 7;2 8;1 0;4 2;5 0;1 2;87 0;2 9;1 0;1 8;2 7;3 8;5 5;1 6;1 5;",
  "1 6;2 4;a 6;1 8;6 0;1a 8;6 0;1a 8;b 0;7a 7;2 8;3 7;2 0;1 8;7 0;a 8;5 0;103 8;1 0;3e 8;4d 0;",
  "3 8;d 0;3 8;1 0;5c a;1 0;e2 a;1 4;1b 0;7a a;5 0;485 1;6 0;2 1;1 0;1 1;2c 0;1 1;2 0;3 1;1 0;",
  "2 1;17 0;1 1;48 0;8 1;9 0;30 1;13 0;1 1;2 0;5 1;21 0;3 8;1 1;1a 0;5 1;1 0;40 1;38 0;4 1;",
  "14 0;2 1;2f a;3 0;1 a;2 0;5 a;4 1;4 0;1 1;3 0;1 1;1d 0;2 a;3 0;4 a;1 1;9 0;7 1;9 0;7 1;40 0;",
  "20 1;25 a;2 0;4 1;c 0;9 1;36 0;3 8;7 1;16 0;2 1;1b 0;5 1;1a 0;7 1;4 0;c 1;7 0;50 1;49 0;",
  "37 1;33 0;d 1;33 0;7 1;6 2;24 a;4 0;8 3;a 0;126 3;1f 0;1 1;2a 0;1 a;2 1;1 0;2 1;2 0;4e 1;",
  "28 0;8 2;16 a;b 2;9 0;16 1;12 a;4 1;4 0;26 1;1c 0;14 1;17 0;a a;1 0;36 a;f 0;b 8;14 0;a a;",
  "1 0;2 a;2 0;a a;3 0;31 a;4 0;2 a;2 0;7 a;1 0;3d a;3 0;24 a;5 0;1 a;8 0;3e a;1 0;c a;2 0;",
  "34 a;9 0;a a;4 0;2 a;1 0;5f a;3 0;2 a;1 0;1 a;2 0;6 a;1 0;a0 a;1 0;3 a;8 0;15 a;2 0;39 a;",
  "2 0;3 a;1 0;25 a;7 0;3 a;5 0;c3 a;8 0;2 a;3 0;1 a;1 0;17 a;1 0;54 a;6 0;1 a;1 0;4 a;2 0;1 a;",
  "2 0;ee a;4 0;6 a;2 0;1 a;2 0;1b a;2 0;55 a;8 0;2 a;1 0;1 a;2 0;1f 8;d 0;3e a;1 0;1 a;1 0;",
  "2 a;6 0;1 a;1 0;65 a;3 0;2 a;4 0;1 a;5 0;103 a;9 0;1 a;2 0;100 a;2 0;1 a;1 0;4 a;1 0;90 a;",
  "4 0;2 a;2 0;4 a;1 0;20 a;6 0;2 a;2 0;28 a;6 0;2 a;4 0;8 a;1 0;9 a;6 0;2 a;3 0;2e a;d 0;1 a;",
  "2 0;196 a;7 0;1 a;6 0;54 a;16 0;2 a;7 0;1 a;2 0;1 a;2 0;7a a;6 0;3 a;1 0;1 a;2 0;1 a;7 0;",
  "1 a;1 0;48 a;2 0;3 a;1 0;1 a;1 0;15b a;2 0;e0 8;8 7;4 8;11 0;4afe a;5 0;3b a;7 0;418 a;1 0;",
  "3f a;4 0;4f 8;1 0;1 a;1 0;4cb8 a;2 0;1 9;4 0;125c a;2e 0;2 a;17 0;220 a;3 0;9 9;8 a;8 0;2 a;",
  "7 0;1e a;4 0;3b 8;2 0;15 8;42 a;3 8;1 0;ba 8;57 0;384 8;1 0;39 8;1 0;39 8;1 0;39 8;1 0;39 8;",
  "1 0;a 4;32 0;200 a;37 0;4 a;32 0;8 a;1 0;e a;1 0;16 a;5 0;1 a;f 0;550 a;7 0;1 a;11 0;2 a;",
  "7 0;1 a;2 0;1 a;5 0;105 a;7 0;177 a;1 0;3d a;4 0;f 7;1 0;500 1;c5 0;2 1;9 a;7 0;29 1;44 a;",
  "7 1;1 0;4 1;a 0;4 1;2 0;311 2;44 0;4c 2;3d 0;c2 2;4 0;1 2;1b 0;1 2;2 0;1 2;1 0;2 2;1 0;1 2;",
  "a 0;1 2;4 0;1 2;1 0;1 2;1 0;6 2;1 0;4 2;1 0;1 2;1 0;1 2;1 0;1 2;3 0;1 2;2 0;1 2;1 0;2 2;1 0;",
  "1 2;1 0;1 2;1 0;1 2;1 0;1 2;1 0;1 2;2 0;1 2;1 0;2 2;4 0;1 2;7 0;1 2;4 0;1 2;4 0;1 2;1 0;1 2;",
  "a 0;1 2;11 0;5 2;3 0;1 2;5 0;1 2;11 0;34 8;2 0;10e 8;2c 0;4 8;64 0;c 8;f 0;2 8;f 0;1 8;f 0;",
  "1 8;25 0;a 4;b 8;5 0;1f 8;1 0;3a 8;6 0;3d 8;1 0;b2 8;6 0;9a 8;3d8 0;5 8;10 0;3 8;d 0;3 8;",
  "74 0;c 8;59 0;7 8;c 0;4 8;1 0;f 8;c 0;4 8;38 0;8 8;a 0;6 8;28 0;8 8;1e 0;2 8;2 0;4e 8;154 0;",
  "c 8;e 0;2 8;5 0;3 8;5 0;3 8;7 0;9 8;1d 0;3 8;b 0;5 8;6 0;a 8;a 0;6 8;8 0;8 8;7 0;9 8;93 0;",
  "1 8;37 0;25 4;a 0;c0407 9;1 0;1e 9;60 0;80 a;f0 0;"]

def direction (c : Char) : Direction := .ofCode (directions.get c)

end HotReload.Unicode
