import Montage.Coding.Checksum

/-!
# Deflated data

Data are deflated as blocks of literal bytes and repetitions of what came before, written with
prefix codes.  A frame around the blocks says what they are and lets the result be checked.

* `inflate` — what can be read from the bytes that are there, and how reading ended: with the end of
  the data, with the end of the bytes, or with a problem.

**Whatever can be read is read**: the output of a beginning is a beginning of the output.
-/

namespace Montage.Coding

/-- What surrounds the blocks. -/
inductive Frame where
  | zlib
  | gzip
  | bare
  deriving DecidableEq, Repr

/-- Why deflated data cannot be read. -/
inductive InflateProblem where
  | headerCheck
  | method
  | windowSize
  | headerFlags
  | headerChecksum
  /-- A dictionary is needed that is not there. -/
  | dictionary
  | blockType
  | storedLengths
  | symbolCounts
  | lengthCodes
  | lengthRepeat
  | noEndOfBlock
  | literalCodes
  | distanceCodes
  | literalCode
  | distanceCode
  | farDistance
  | checksum
  | size
  deriving DecidableEq, Repr

namespace InflateProblem

/-- What is wrong with a compressed body, in the words of the decoder. -/
def reason : InflateProblem → String
  | headerCheck => "incorrect header check"
  | method => "unknown compression method"
  | windowSize => "invalid window size"
  | headerFlags => "unknown header flags set"
  | headerChecksum => "header crc mismatch"
  | dictionary => ""
  | blockType => "invalid block type"
  | storedLengths => "invalid stored block lengths"
  | symbolCounts => "too many length or distance symbols"
  | lengthCodes => "invalid code lengths set"
  | lengthRepeat => "invalid bit length repeat"
  | noEndOfBlock => "invalid code -- missing end-of-block"
  | literalCodes => "invalid literal/lengths set"
  | distanceCodes => "invalid distances set"
  | literalCode => "invalid literal/length code"
  | distanceCode => "invalid distance code"
  | farDistance => "invalid distance too far back"
  | checksum => "incorrect data check"
  | size => "incorrect length check"

/-- What is said about a compressed body that cannot be decoded; a missing dictionary has a number
of its own and no words. -/
def message : InflateProblem → String
  | dictionary => "Error 2 while decompressing data"
  | p => "Error -3 while decompressing data: " ++ p.reason

end InflateProblem

/-- How reading ended. -/
inductive Ending where
  | finished
  /-- More bytes are needed. -/
  | hungry
  | failed (problem : InflateProblem)
  deriving DecidableEq, Repr

/-! ## Reading bits -/

/-- How many bits were read, and the output so far. -/
structure Progress where
  place : Nat := 0
  output : ByteArray := ByteArray.empty

/-- Reads bytes bit by bit; **the output stays when reading ends**. -/
abbrev Inflater := ReaderT ByteArray (ExceptT Ending (StateM Progress))

/-- Ends the decoding with a problem. -/
def failWith {α : Type} (p : InflateProblem) : Inflater α := throw (.failed p)

/-- The bit at a place. -/
def bitAt? (bytes : ByteArray) (i : Nat) : Option Nat :=
  bytes[i / 8]?.map fun b => (b.toNat >>> (i % 8)) % 2

/-- Takes one bit; bits of a byte come from the lowest to the highest. -/
def nextBit : Inflater Nat := do
  let s ← get
  match bitAt? (← read) s.place with
  | none => throw .hungry
  | some b => do
    set { s with place := s.place + 1 }
    return b

/-- A number of so many bits, the lowest first. -/
def bits : (count : Nat) → Inflater Nat
  | 0 => return 0
  | count + 1 => do
    let low ← nextBit
    return low + 2 * (← bits count)

/-- Skips the rest of a byte. -/
def align : Inflater Unit := modify fun s => { s with place := (s.place + 7) / 8 * 8 }

/-- Takes eight bits as a number. -/
def nextByte : Inflater Nat := bits 8

/-- Adds a byte to what was decoded. -/
def emit (b : UInt8) : Inflater Unit := modify fun s => { s with output := s.output.push b }

/-! ## Prefix codes -/

/-- A prefix code: how many codes there are of each length, from one bit on, and the symbols in the
order of their codes. -/
structure PrefixCode where
  counts : List Nat
  symbols : Array Nat

namespace PrefixCode

/-- How many bits a code word may have. -/
def lengthLimit : Nat := 15

/-- What is left of the codes after each length, or nothing if there are too many codes. -/
def spare (left : Nat) : List Nat → Option Nat
  | [] => some left
  | count :: rest => if 2 * left < count then none else spare (2 * left - count) rest

/-- The symbols whose codes have a length. -/
def symbolsOf (lengths : List Nat) (length : Nat) : List Nat :=
  lengths.zipIdx.filterMap fun (l, symbol) => if l = length then some symbol else none

/-- The code of given lengths.  Unused codes are allowed where there is at most one code, of one
bit, and `lone` permits it.  Without any code a bit is read and stands for nothing. -/
def ofLengths? (lone : Bool) (lengths : List Nat) : Option PrefixCode :=
  let longest := (lengths.max?).getD 0
  let groups := (List.range longest).map fun i => symbolsOf lengths (i + 1)
  let counts := groups.map List.length
  if longest = 0 then some ⟨[0], #[]⟩
  else match spare 1 counts with
    | some 0 => some ⟨counts, groups.flatten.toArray⟩
    | some _ => if lone && longest = 1 then some ⟨counts, groups.flatten.toArray⟩ else none
    | none => none

/-- Reads a symbol.  `code` is what was read, `first` the first code of this length, `index` the
number of shorter codes. -/
def symbolFrom (symbols : Array Nat) (code first index : Nat) : List Nat → Inflater (Option Nat)
  | [] => return none
  | count :: rest => do
    let code := 2 * code + (← nextBit)
    let first := 2 * first
    if code < first + count then return symbols[index + (code - first)]?
    else symbolFrom symbols code (first + count) (index + count) rest

/-- The next symbol, unless its code is unused. -/
def next (c : PrefixCode) : Inflater (Option Nat) := symbolFrom c.symbols 0 0 0 c.counts

end PrefixCode

/-! ## Repetitions -/

/-- The shortest length or distance of each symbol, and how many bits are added to it. -/
def lengthTable : List (Nat × Nat) :=
  [(3, 0), (4, 0), (5, 0), (6, 0), (7, 0), (8, 0), (9, 0), (10, 0), (11, 1), (13, 1), (15, 1),
   (17, 1), (19, 2), (23, 2), (27, 2), (31, 2), (35, 3), (43, 3), (51, 3), (59, 3), (67, 4),
   (83, 4), (99, 4), (115, 4), (131, 5), (163, 5), (195, 5), (227, 5), (258, 0)]

/-- For each code of a distance: the least distance it stands for and how many bits follow. -/
def distanceTable : List (Nat × Nat) :=
  [(1, 0), (2, 0), (3, 0), (4, 0), (5, 1), (7, 1), (9, 2), (13, 2), (17, 3), (25, 3), (33, 4),
   (49, 4), (65, 5), (97, 5), (129, 6), (193, 6), (257, 7), (385, 7), (513, 8), (769, 8), (1025, 9),
   (1537, 9), (2049, 10), (3073, 10), (4097, 11), (6145, 11), (8193, 12), (12289, 12), (16385, 13),
   (24577, 13)]

/-- Repeats the output from a distance back. -/
def copyBack (distance : Nat) : (length : Nat) → Inflater Unit
  | 0 => return ()
  | length + 1 => do
    let output := (← get).output
    emit (output[output.size - distance]?.getD 0)
    copyBack distance length

/-- A repetition, its length being known. -/
def repetition (distances : PrefixCode) (length : Nat) : Inflater Unit := do
  let entry := (← distances.next).bind fun symbol => distanceTable[symbol]?
  match entry with
  | none => failWith .distanceCode
  | some (least, extra) => do
    let distance := least + (← bits extra)
    if (← get).output.size < distance then failWith .farDistance
    copyBack distance length

/-! ## Blocks -/

/-- The code that ends a block. -/
def endOfBlock : Nat := 256

/-- The symbols of a block up to its end; `fuel` bounds them. -/
def symbols (literals distances : PrefixCode) : (fuel : Nat) → Inflater Unit
  | 0 => throw .hungry
  | fuel + 1 => do
    match ← literals.next with
    | none => failWith .literalCode
    | some symbol => do
      if symbol = endOfBlock then return ()
      if symbol < endOfBlock then emit (UInt8.ofNat symbol)
      else match lengthTable[symbol - endOfBlock - 1]? with
        | none => failWith .literalCode
        | some (least, extra) => do repetition distances (least + (← bits extra))
      symbols literals distances fuel

/-- The code of bytes and lengths in blocks that bring no code of their own. -/
def fixedLiterals : PrefixCode :=
  (PrefixCode.ofLengths? false (List.replicate 144 8 ++ List.replicate 112 9
    ++ List.replicate 24 7 ++ List.replicate 8 8)).getD ⟨[], #[]⟩

/-- The code of distances in such blocks. -/
def fixedDistances : PrefixCode :=
  (PrefixCode.ofLengths? false (List.replicate 32 5)).getD ⟨[], #[]⟩

/-- Bytes as they are. -/
def storedBytes : (count : Nat) → Inflater Unit
  | 0 => return ()
  | count + 1 => do
    emit (UInt8.ofNat (← nextByte))
    storedBytes count

/-- A block of bytes as they are: their number comes twice, the second time inverted. -/
def storedBlock : Inflater Unit := do
  align
  let count ← bits 16
  let inverse ← bits 16
  if count + inverse ≠ 0xFFFF then failWith .storedLengths
  storedBytes count

/-- The order in which the lengths of the codes for lengths come. -/
def lengthOrder : List Nat :=
  [16, 17, 18, 0, 8, 7, 9, 6, 10, 5, 11, 4, 12, 3, 13, 2, 14, 1, 15]

/-- So many numbers of three bits. -/
def triples : (count : Nat) → Inflater (List Nat)
  | 0 => return []
  | count + 1 => do
    let n ← bits 3
    return n :: (← triples count)

/-- The code for lengths.  Without any code each bit stands for the length zero. -/
def lengthCode? (given : List Nat) : Option PrefixCode :=
  let lengths := (List.range lengthOrder.length).map fun symbol =>
    ((lengthOrder.zip given).lookup symbol).getD 0
  if lengths.all (· = 0) then some ⟨[2], #[0, 0]⟩ else PrefixCode.ofLengths? false lengths

/-- What a symbol of the code for lengths adds to the lengths so far, which are in reverse. -/
def addedLengths (done : List Nat) (symbol : Nat) : Inflater (List Nat) := do
  if symbol < 16 then return [symbol]
  else if symbol = 16 then do
    let count ← bits 2
    match done.head? with
    | none => failWith .lengthRepeat
    | some last => return List.replicate (3 + count) last
  else if symbol = 17 then return List.replicate (3 + (← bits 3)) 0
  else return List.replicate (11 + (← bits 7)) 0

/-- The lengths of so many codes; `done` are those so far, in reverse. -/
def codeLengths (code : PrefixCode) (total : Nat) (done : List Nat) :
    (fuel : Nat) → Inflater (List Nat)
  | 0 => throw .hungry
  | fuel + 1 => do
    if total ≤ done.length then return done.reverse
    let added ← addedLengths done ((← code.next).getD 0)
    if total < done.length + added.length then failWith .lengthRepeat
    codeLengths code total (added ++ done) fuel

/-- A block with codes of its own. -/
def codedBlock (fuel : Nat) : Inflater Unit := do
  let literalCount := (← bits 5) + 257
  let distanceCount := (← bits 5) + 1
  let lengthCount := (← bits 4) + 4
  if 286 < literalCount || 30 < distanceCount then failWith .symbolCounts
  match lengthCode? (← triples lengthCount) with
  | none => failWith .lengthCodes
  | some code => do
    let lengths ← codeLengths code (literalCount + distanceCount) [] fuel
    if (lengths[endOfBlock]?).getD 0 = 0 then failWith .noEndOfBlock
    match PrefixCode.ofLengths? true (lengths.take literalCount) with
    | none => failWith .literalCodes
    | some literals =>
      match PrefixCode.ofLengths? true (lengths.drop literalCount) with
      | none => failWith .distanceCodes
      | some distances => symbols literals distances fuel

/-- The blocks up to the last one; `fuel` bounds them, and the symbols of each. -/
def blocks (limit : Nat) : (fuel : Nat) → Inflater Unit
  | 0 => throw .hungry
  | fuel + 1 => do
    let header ← bits 3
    match header / 2 with
    | 0 => storedBlock
    | 1 => symbols fixedLiterals fixedDistances limit
    | 2 => codedBlock limit
    | _ => failWith .blockType
    if header % 2 = 0 then blocks limit fuel

/-! ## Frames -/

/-- The method of all blocks. -/
def deflateMethod : Nat := 8

/-- The header of a zlib frame. -/
def zlibHeader : Inflater Unit := do
  let first ← nextByte
  let second ← nextByte
  if (first * 256 + second) % 31 ≠ 0 then failWith .headerCheck
  if first % 16 ≠ deflateMethod then failWith .method
  if 7 < first / 16 then failWith .windowSize
  if second / 32 % 2 = 1 then do
    let _ ← bits 32
    failWith .dictionary

/-- Skips bytes. -/
def skipBytes : (count : Nat) → Inflater Unit
  | 0 => return ()
  | count + 1 => do
    let _ ← nextByte
    skipBytes count

/-- Skips a text up to the zero after it. -/
def skipText : (fuel : Nat) → Inflater Unit
  | 0 => throw .hungry
  | fuel + 1 => do
    if (← nextByte) ≠ 0 then skipText fuel

/-- Whether a bit of a byte of flags is set. -/
def hasFlag (flags i : Nat) : Bool := (flags >>> i) % 2 = 1

/-- The header of a gzip frame. -/
def gzipHeader (fuel : Nat) : Inflater Unit := do
  let first ← nextByte
  let second ← nextByte
  if first ≠ 0x1F || second ≠ 0x8B then failWith .headerCheck
  let method ← nextByte
  let flags ← nextByte
  if method ≠ deflateMethod then failWith .method
  if 32 ≤ flags then failWith .headerFlags
  skipBytes 6
  if hasFlag flags 2 then skipBytes (← bits 16)
  if hasFlag flags 3 then skipText fuel
  if hasFlag flags 4 then skipText fuel
  if hasFlag flags 1 then do
    let size := (← get).place / 8
    let expected := crc32 ((← read).extract 0 size) % 65536
    if (← bits 16) ≠ expected then failWith .headerChecksum

/-- Four bytes, the highest first. -/
def bigEndian32 : Inflater Nat := do
  let a ← nextByte
  let b ← nextByte
  let c ← nextByte
  let d ← nextByte
  return ((a * 256 + b) * 256 + c) * 256 + d

/-- Reads the header that the frame asks for. -/
def header (frame : Frame) (fuel : Nat) : Inflater Unit :=
  match frame with
  | .zlib => zlibHeader
  | .gzip => gzipHeader fuel
  | .bare => return ()

/-- What comes after the blocks has to agree with the output. -/
def trailer (frame : Frame) : Inflater Unit := do
  align
  let output := (← get).output
  match frame with
  | .zlib => if (← bigEndian32) ≠ adler32 output then failWith .checksum
  | .gzip => do
    if (← bits 32) ≠ crc32 output then failWith .checksum
    if (← bits 32) ≠ output.size % 4294967296 then failWith .size
  | .bare => return ()

/-! ## Whole data -/

/-- What was decoded, and how the decoding ended. -/
structure Inflated where
  output : ByteArray
  ending : Ending

/-- What can be read from bytes. -/
def inflate (frame : Frame) (bytes : ByteArray) : Inflated :=
  let fuel := 8 * bytes.size + 1
  let all : Inflater Unit := do
    header frame fuel
    blocks fuel fuel
    trailer frame
  match (all bytes).run {} with
  | (.ok (), s) => ⟨s.output, .finished⟩
  | (.error e, s) => ⟨s.output, e⟩

end Montage.Coding
