/-
Rulebook.Character.Recent — characters that are newer than the tables of properties.

The properties by which patterns ask for characters are those of version 16 of
the standard.  Names of groups and texts that are shown for inspection go by
version 17, so what that version added is listed here.
-/
import Rulebook.Character.Table

namespace Rulebook.Recent

/-- Added characters with the alphabetic property. -/
def letters : List String :=
  ["1ov 0 r0 0 3j 0 ult 1 2 0 1 0 s 0 j7y p 12j 2 1e 1 2g4 7 g8 17 fyc o 2 o 7y 4 4qp 7 zt l 2p",
   "36 hjh u 1 l 8 1 154q 5 4ma b gsi 3bd"]

/-- Added characters that are numbers. -/
def numbers : List String :=
  ["1kgw 9 g7e 2"]

/-- Added characters that have a shape of their own. -/
def visible : List String :=
  ["1ov 0 r0 0 3j 0 3xg 0 250 0 ojb 1 2 0 1 0 s 0 gk1 f cd 1 1i 6 29d p 12j 2 8 8 2h4 0 3 0 1 0",
   "g8 17 4 9 fxy o 2 o 7y 4 4qp 7 zt l 2p 36 cg7 2 cd m f g 4pb u 1 2 1 1 1 6 2 4 9 1 34o 0 4e",
   "3 9h 8 aj 3 1e 0 3 0 1l 0 4 0 s 0 4 0 7e 0 10zj 5 4ma b gsi 3bd"]

end Rulebook.Recent
