/-
Rulebook.Character.Folding — which characters differ in case alone.

Characters that have the same simple case folding form a class of two to four.
The table gives the classes in rows: the least member of the first class of the
row, how many classes the row holds, how far apart their least members are, and
by how much the other members exceed the least one.
-/
import Rulebook.Character.Table

namespace Rulebook.Folding

/-- The rows of the table, separated by blanks, with commas inside. -/
def table : List String :=
  [
    "1t,a,1,w", "23,1,1,w,6hr", "24,8,2,w", "25,4,4,w", "27,1,1,w", "2b,1,1,w,8c", "2f,1,1,w",
    "51,1,1,kn,lj", "5c,g,2,w", "5d,2,2,w", "5h,1,1,w,6ee", "5j,8,2,w", "61,3,2,w", "67,1,1,5vj",
    "73,1,1,3d", "74,o,2,1", "8i,3,2,1", "8p,8,2,1", "96,n,2,1", "ah,3,2,1", "ao,1,1,5f",
    "ap,1,1,5u", "aq,2,2,1", "au,1,1,5q", "av,2,4,1", "ax,2,1,5p", "b2,1,1,27", "b3,1,1,5m",
    "b4,1,1,5n", "b5,1,1,1", "b7,1,1,5p", "b8,1,1,5r", "b9,1,1,2p", "ba,1,1,5v", "bb,1,1,5t",
    "bc,1,1,1", "be,1,1,4j", "bf,1,1,wu9", "bg,1,1,5v", "bh,1,1,5x", "bi,1,1,3m", "bj,1,1,5y",
    "bk,3,2,1", "bq,2,3,62", "br,1,1,1", "bw,2,3,1", "by,1,1,62", "c1,2,1,61", "c3,2,2,1",
    "c7,1,1,63", "c8,2,4,1", "cf,1,1,1k", "ck,3,3,1,2", "ct,8,2,1", "da,9,2,1", "dt,1,1,1,2",
    "dw,b,4,1", "e2,f,4,1", "f8,4,4,1", "fu,1,1,8bv", "fv,1,1,1", "fy,1,1,8bs", "fz,2,1,8cf",
    "g1,1,1,1", "g4,1,1,1x", "g5,1,1,1z", "g6,5,2,1", "gg,1,1,8bj", "gh,1,1,8bg", "gi,1,1,8bi",
    "gs,1,1,wnj", "gx,1,1,wnf", "h0,1,1,wo7", "h1,1,1,wmg", "h2,2,4,wn8", "h7,1,1,8af",
    "h8,1,1,wn5", "hd,1,1,8al", "hp,1,1,89z", "hu,1,1,wn7", "hz,1,1,wmi", "il,1,1,wlx",
    "im,1,1,wlu", "n9,1,1,2c,38,5mh", "og,2,2,1", "om,1,1,1", "or,3,1,3m", "ov,1,1,38",
    "p2,1,1,12", "p4,3,1,11", "p8,1,1,1s", "pa,2,1,1r", "pc,1,1,5kz", "pd,3,3,w", "pe,1,1,w,1q",
    "pf,2,3,w", "ph,1,1,w,2o", "pk,1,1,w,1l,2k", "pm,1,1,w,2e", "pn,3,2,w", "pq,1,1,w",
    "ps,1,1,w,1i", "pt,1,1,w,28", "pv,1,1,v,w", "pw,3,3,w", "px,3,3,w", "py,1,1,w,1b",
    "q1,1,1,w,5tp", "q8,1,1,5kj", "r3,1,1,8", "rc,c,2,1", "s2,1,1,7", "s7,2,3,1", "sg,g,1,28",
    "sw,6,3,w", "sx,2,4,w", "sy,1,1,w,4tq", "t0,1,1,w,4tp", "t3,9,3,w", "t4,2,3,w",
    "ta,1,1,w,4tg", "td,1,1,w,4te", "te,1,1,w,4te,4tf", "tg,2,1,w", "tj,2,1,w", "tm,1,1,w,4t8",
    "tn,2,2,w", "tq,1,1,w", "v4,9,4,1", "v6,1,1,1,4rp", "va,7,4,1", "wa,r,2,1", "xs,1,1,f",
    "xt,7,2,1", "y8,1c,2,1", "10x,12,1,1c", "3a8,12,1,5ls", "3bb,1,1,5ls", "3bh,1,1,5ls",
    "3bk,17,1,2bk", "3ct,3,1,2bk", "3vk,28,1,tzk", "3xs,6,1,8", "5mw,1,1,r7m,r7n", "5mx,1,1,1",
    "5tl,1,1,r9g", "5tp,1,1,2xy", "5u6,1,1,raw", "5xc,1c,2,1", "600,1,1,1,1n", "602,q,2,1",
    "61s,1c,2,1", "64g,8,1,8", "64w,6,1,8", "65c,8,1,8", "65s,8,1,8", "668,6,1,8", "66p,4,2,8",
    "674,8,1,8", "67k,2,1,22", "67m,4,1,2e", "67q,2,1,2s", "67s,2,1,3k", "67u,2,1,34",
    "67w,2,1,3i", "680,8,1,8", "68g,8,1,8", "68w,8,1,8", "69c,2,1,8", "69f,1,1,9", "69v,1,1,9",
    "6a8,2,1,8", "6ao,2,1,8", "6at,1,1,7", "6b7,1,1,9", "6k2,1,1,s", "6lc,g,1,g", "6mb,1,1,1",
    "792,q,1,q", "8ow,1c,1,1c", "8rk,1,1,1", "8rr,3,2,1", "8s2,2,3,1", "8sg,1e,2,1", "8vf,2,2,1",
    "8vm,1,1,1", "wu8,c,4,1", "wua,2,4,1", "wum,8,4,1", "ww0,e,2,1", "x0i,k,4,1", "x0k,3,4,1",
    "x10,f,4,1", "x2x,2,2,1", "x32,5,2,1", "x3f,1,1,1", "x3k,2,2,1", "x3o,1,1,1c", "x3q,a,2,1",
    "x4j,1,1,ps", "x4k,8,2,1", "x53,2,2,1", "x58,2,4,1", "x5i,3,2,1", "x6d,1,1,1", "1dl1,1,1,1",
    "1ee9,q,1,w", "1fcw,14,1,14", "1fhs,10,1,14", "1fn4,j,2,13", "1fn5,a,4,13", "1fn7,2,4,13",
    "1fnj,3,4,13", "1fnz,1,1,13", "1h1c,1f,1,1s", "1h74,m,1,w", "1jfk,w,1,w", "20cg,w,1,w",
    "2olc,y,1,y"]

/-- The classes of one row. -/
def rowClasses : List Nat → List (List Nat)
  | least :: count :: step :: offsets =>
    (List.range count).map fun i => (least + i * step) :: offsets.map (least + i * step + ·)
  | _ => []

/-- All classes of characters that differ in case alone. -/
def classes : List (List Nat) := table.flatMap fun row => rowClasses (Table.numbers ',' row)

/-- A set with everything that differs from one of its members in case alone. -/
def closure (s : CharSet) : CharSet :=
  s.union (.ofCodes (classes.filter (·.any s.contains)).flatten)

/-- A set with the other case of its ASCII letters. -/
def asciiClosure (s : CharSet) : CharSet :=
  let letters := (List.range 26).flatMap fun i =>
    let upper := 0x41 + i
    let lower := 0x61 + i
    if s.contains upper || s.contains lower then [upper, lower] else []
  s.union (.ofCodes letters)

end Rulebook.Folding
