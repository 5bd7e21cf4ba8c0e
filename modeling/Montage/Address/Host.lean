import Montage.Text.Blank
import Montage.Text.Digit

/-!
# Numeric addresses

* `isIpv4`, `isIpv6` — numeric addresses of hosts in their usual notation.
-/

namespace Montage.Host

/-- A number from 0 to 255 without leading zeros. -/
def isOctet (cs : List Char) : Bool :=
  match cs.mapM Text.asciiDigit? with
  | some (d :: ds) =>
    ds.length ≤ 2 && (d ≠ 0 || ds.isEmpty) && Text.ofDigits 10 (d :: ds) ≤ 255
  | _ => false

/-- Whether a host is written as four numbers. -/
def isIpv4 (cs : List Char) : Bool :=
  let parts := Text.splitAt '.' cs
  parts.length == 4 && parts.all isOctet

/-- Up to four hexadecimal digits. -/
def isHextet (cs : List Char) : Bool :=
  !cs.isEmpty && cs.length ≤ 4 && cs.all fun c => (Text.hexValue? c).isSome

/-- The parts between colons, a dotted end counting as two; none if that end is malformed. -/
def hextets? (cs : List Char) : Option (List (List Char)) :=
  let parts := Text.splitAt ':' cs
  match parts.getLast? with
  | some last =>
    if last.contains '.' then
      if isIpv4 last then some (parts.dropLast ++ [['0'], ['0']]) else none
    else some parts
  | none => none

/-- The indices of empty parts that are neither the first nor the last. -/
def innerGaps (parts : List (List Char)) : List Nat :=
  (List.range parts.length).filter fun i =>
    0 < i && i + 1 < parts.length && (parts[i]?).any List.isEmpty

/-- Whether parts with one gap between `before` and `after` make up an address: the gap stands for
at least one part, and an empty end belongs to the gap. -/
def isGapped (before after : List (List Char)) : Bool :=
  let high := if before.head?.any List.isEmpty then before.drop 1 else before
  let low := if after.getLast?.any List.isEmpty then after.dropLast else after
  let openStart := before.head?.any List.isEmpty
  let openEnd := after.getLast?.any List.isEmpty
  (!openStart || high.isEmpty) && (!openEnd || low.isEmpty)
    && high.length + low.length ≤ 7 && high.all isHextet && low.all isHextet

/-- An address of eight parts, one run of zeros left out if wanted. -/
def isIpv6Plain (cs : List Char) : Bool :=
  if (Text.splitAt ':' cs).length < 3 then false
  else match hextets? cs with
    | none => false
    | some parts =>
      if 9 < parts.length then false
      else match innerGaps parts with
        | [] => parts.length == 8 && parts.all isHextet
        | [i] => isGapped (parts.take i) (parts.drop (i + 1))
        | _ => false

/-- An address, with a zone after a percent sign or without. -/
def isIpv6 (cs : List Char) : Bool :=
  match Text.cutAt '%' cs with
  | (before, none) => isIpv6Plain before
  | (before, some zone) => !zone.isEmpty && !zone.contains '%' && isIpv6Plain before

end Montage.Host
