import HotReload.Unicode.Table

set_option autoImplicit false

namespace HotReload.Unicode

inductive Joining where
  | none
  | left
  | right
  | both
  | transparent
  deriving DecidableEq

def Joining.ofCode : Nat → Joining
  | 1 => .left
  | 2 => .right
  | 3 => .both
  | 4 => .transparent
  | _ => .none

def joinings : CharMap := .ofLines [
  "ad 4;1 0;252 4;70 0;113 4;7 0;107 4;2d 0;1 4;1 0;1 4;2 0;1 4;2 0;1 4;1 0;48 4;b 0;1 4;1 0;",
  "3 3;1 0;1 2;4 3;1 2;1 3;1 2;1 3;5 2;4 3;d 0;1 3;7 2;1 3;2 4;15 0;e 3;2 4;1 2;3 0;1 2;3 3;",
  "10 2;12 3;26 2;1 3;2 2;9 3;1 2;1 3;1 2;1 3;2 2;2 0;1 2;1 4;7 0;2 4;6 0;2 4;2 0;1 4;4 2;2 0;",
  "a 3;3 0;2 3;1 0;f 4;1 2;1 4;1 3;3 2;5 3;4 2;1 3;9 2;1 3;1 2;1 3;1 2;1 3;2 2;1 4;1b 0;2 2;",
  "1 3;b 2;3 3;f 2;2 3;4 2;1 3;1 2;2 3;3 2;2 3;6 0;26 4;b 0;19 3;21 4;9 0;9 4;1 0;18 4;4 0;1 4;",
  "9 0;1 4;3 0;1 4;5 0;12 2;1 3;5 2;2 3;1 2;1 3;a 2;1 3;1 2;3 4;3 0;4 3;1 0;1 3;4 0;1 2;1 3;",
  "1 2;2 0;5 2;13 0;3 3;1 0;2 3;5 2;1 3;1 0;7 4;9 3;a 2;3 0;1 2;1 3;2 2;2 3;6 2;1 3;f 0;1 4;",
  "18 0;1 4;20 0;37 4;1 0;1 4;1 0;4 4;8 0;4 4;1 0;3 4;7 0;a 4;2 0;1d 4;1 0;3a 4;1 0;4 4;4 0;",
  "8 4;1 0;14 4;2 0;1a 4;1 0;2 4;2 0;39 4;1 0;4 4;2 0;4 4;2 0;2 4;3 0;3 4;1 0;1e 4;2 0;3 4;1 0;",
  "b 4;2 0;39 4;1 0;4 4;5 0;1 4;2 0;4 4;1 0;14 4;2 0;16 4;6 0;1 4;1 0;3a 4;1 0;2 4;1 0;1 4;4 0;",
  "8 4;1 0;7 4;2 0;b 4;2 0;1e 4;1 0;3d 4;1 0;c 4;1 0;32 4;1 0;3 4;1 0;37 4;1 0;1 4;3 0;5 4;3 0;",
  "1 4;4 0;7 4;2 0;b 4;2 0;1d 4;1 0;3a 4;1 0;2 4;1 0;6 4;1 0;5 4;2 0;14 4;2 0;1c 4;2 0;39 4;",
  "2 0;4 4;4 0;8 4;1 0;14 4;2 0;1d 4;1 0;48 4;1 0;7 4;3 0;1 4;1 0;5a 4;1 0;2 4;7 0;c 4;8 0;",
  "62 4;1 0;2 4;9 0;b 4;7 0;49 4;2 0;1b 4;1 0;1 4;1 0;1 4;1 0;37 4;e 0;1 4;5 0;1 4;2 0;5 4;b 0;",
  "1 4;24 0;9 4;1 0;66 4;4 0;1 4;6 0;1 4;2 0;2 4;2 0;19 4;2 0;4 4;3 0;10 4;4 0;d 4;1 0;2 4;2 0;",
  "6 4;1 0;f 4;1 0;2bf 4;3 0;3b2 4;3 0;1d 4;2 0;1e 4;2 0;1e 4;2 0;40 4;2 0;1 4;7 0;8 4;1 0;2 4;",
  "b 0;9 4;1 0;29 3;1 0;3 4;3 0;1 4;1 0;10 3;59 0;c 4;2 3;22 4;1 3;1 0;75 4;3 0;4 4;2 0;9 4;",
  "1 0;6 4;3 0;db 4;2 0;2 4;1 0;3a 4;1 0;1 4;7 0;1 4;1 0;1 4;1 0;2 4;8 0;6 4;a 0;2 4;1 0;30 4;",
  "2e 0;2 4;c 0;14 4;4 0;30 4;1 0;1 4;5 0;1 4;1 0;5 4;1 0;28 4;9 0;c 4;2 0;20 4;4 0;2 4;2 0;",
  "1 4;3 0;38 4;1 0;1 4;2 0;3 4;1 0;1 4;3 0;3a 4;8 0;2 4;2 0;98 4;3 0;1 4;d 0;1 4;7 0;4 4;1 0;",
  "6 4;1 0;3 4;2 0;c6 4;40 0;20b 4;1 0;2 4;2 0;1a 4;5 0;31 4;5 0;5 4;6 0;60 4;21 0;bfe 4;3 0;",
  "8d 4;1 0;60 4;20 0;22a 4;4 0;6b 4;2 0;75d4 4;4 0;1 4;a 0;20 4;2 0;50 4;2 0;110 4;1 0;3 4;",
  "1 0;4 4;1 0;19 4;2 0;5 4;1 0;13 3;32 1;1 0;51 4;2 0;1a 4;12 0;d 4;1 0;26 4;8 0;19 4;b 0;",
  "2e 4;3 0;30 4;1 0;2 4;4 0;2 4;2 0;27 4;1 0;43 4;6 0;2 4;2 0;2 4;2 0;c 4;1 0;8 4;1 0;2f 4;",
  "1 0;33 4;1 0;1 4;3 0;2 4;2 0;5 4;2 0;1 4;1 0;2a 4;2 0;8 4;1 0;ee 4;1 0;2 4;1 0;4 4;1 0;",
  "4f30 4;1 0;2e1 4;10 0;10 4;10 0;cf 4;1 0;f9 4;3 0;201 4;1 0;e2 4;1 0;95 4;5 0;686 4;3 0;1 4;",
  "2 0;5 4;4 0;28 4;3 0;4 4;1 0;80 3;5 2;1 0;1 2;1 0;1 2;2 0;2 1;1 2;5 3;4 1;1 3;5 2;1 3;3 2;",
  "1 0;2 2;1 4;2 0;4 3;4 2;1 0;90 3;1 2;1 3;1 2;3 3;3 2;1 3;2 2;1 3;1 2;2 3;1 2;1 0;17 2;4 3;",
  "2 0;151 1;1 3;21 2;1 3;1 4;4 0;41 4;5 0;13d 4;2 0;15 2;1 3;2 0;1 3;2 0;32 4;6 0;30 3;3 2;",
  "1 3;11 0;1 4;b 3;3 2;1 0;1b 3;4 2;2 3;c 4;4 0;2a 3;1 0;1 3;2 2;3 0;1 3;1 2;2 3;2 2;1 3;2 0;",
  "1 3;1 2;2 3;1 0;4 2;1 3;1 1;1 0;35 4;1 0;36 4;f 0;29 4;1 0;2 4;2 0;a 4;3 0;31 4;4 0;2 4;2 0;",
  "7 4;1 0;3d 4;3 0;24 4;5 0;1 4;8 0;3e 4;1 0;c 4;2 0;34 4;9 0;a 4;4 0;2 4;1 0;5f 4;3 0;2 4;",
  "1 0;1 4;2 0;6 4;1 0;2 4;1 0;9d 4;1 0;3 4;8 0;15 4;2 0;39 4;2 0;3 4;1 0;25 4;7 0;3 4;5 0;",
  "46 4;6 0;d 4;1 0;1 4;1 0;1 4;1 0;e 4;2 0;55 4;8 0;2 4;3 0;1 4;1 0;17 4;1 0;54 4;6 0;1 4;1 0;",
  "4 4;2 0;1 4;2 0;ee 4;4 0;6 4;2 0;1 4;2 0;1b 4;2 0;55 4;8 0;2 4;1 0;1 4;2 0;6a 4;1 0;1 4;1 0;",
  "2 4;6 0;1 4;1 0;65 4;1 0;1 4;1 0;2 4;4 0;1 4;5 0;103 4;9 0;1 4;2 0;100 4;2 0;1 4;1 0;4 4;",
  "1 0;90 4;4 0;2 4;2 0;4 4;1 0;20 4;a 0;28 4;6 0;2 4;4 0;8 4;1 0;9 4;6 0;2 4;3 0;2e 4;d 0;1 4;",
  "2 0;c6 4;1 0;1 4;3 0;1 4;1 0;c9 4;7 0;1 4;6 0;1 4;1 0;52 4;16 0;2 4;7 0;1 4;2 0;1 4;2 0;",
  "7a 4;6 0;3 4;1 0;1 4;2 0;1 4;7 0;1 4;1 0;48 4;2 0;3 4;1 0;1 4;1 0;15b 4;2 0;b 4;2 0;34 4;",
  "5 0;5 4;1 0;1 4;1 0;17 4;1 0;14d5 4;11 0;6 4;f 0;2cc8 4;c 0;3 4;3 0;9c0 4;5 0;3b 4;7 0;",
  "418 4;1 0;3f 4;4 0;51 4;1 0;4cb8 4;2 0;1 4;4 0;125c 4;2e 0;2 4;17 0;220 4;3 0;9 4;10 0;2 4;",
  "7 0;1e 4;4 0;94 4;3 0;7bb 4;37 0;4 4;32 0;8 4;1 0;e 4;1 0;16 4;5 0;1 4;f 0;550 4;7 0;1 4;",
  "11 0;2 4;7 0;1 4;2 0;1 4;5 0;64 4;1 0;a0 4;7 0;177 4;1 0;3d 4;4 0;1fc 4;4 0;fe 4;2 0;f3 4;",
  "1 0;2 4;1 0;7 4;2 0;5 4;1 0;1da 4;7 0;29 3;44 4;8 0;c16b5 4;1 0;1e 4;60 0;80 4;f0 0;"]

def joining (c : Char) : Joining := .ofCode (joinings.get c)

end HotReload.Unicode
