import Mooon.LightFs.FileIndexer
import Mooon.Decimal

/-! The image of a `FileIndexer` in a file: one line for each file of the tree, with its path,
its size and its checksum. Reading it back adds a node for each line. -/
namespace Mooon.LightFs
open FileTree (Node Children)

def comma : UInt8 := 44
def space : UInt8 := 32
def newline : UInt8 := 10

def isSpace (byte : UInt8) : Bool := byte = space || (9 ≤ byte && byte ≤ 13)

/-- What `snprintf` puts into a buffer of this size, without the byte that ends it. -/
def snprintf (size : Nat) (text : Bytes) : Bytes := text.take (size - 1)

def lineOf (path : Bytes) (attri : FileAttribute) : Bytes :=
  path ++ comma :: space :: decimal attri.size.toNat ++ comma :: space :: decimal attri.crc.toNat ++ [newline]

def recurveResolverTree (parentPath : Bytes) : INodeDirectory → Bytes
  | .nil => []
  | .cons name (.file attri) rest =>
    snprintf kLfsLineSizeMax (lineOf (cString parentPath ++ slash :: cString name) attri) ++
      recurveResolverTree parentPath rest
  | .cons name (.directory children) rest =>
    recurveResolverTree (snprintf kLfsLineSizeMax (cString parentPath ++ slash :: cString name)) children ++
      recurveResolverTree parentPath rest

def serializeToFile (root : INodeDirectory) : Bytes := recurveResolverTree [] root

/-- At most so many bytes, through the first newline. The rest of the file is the second part. -/
def fgets : Nat → Bytes → Bytes × Bytes
  | 0, content => ([],content)
  | _, [] => ([],[])
  | size+1, byte::rest =>
    if byte = newline then ([byte],rest)
    else (byte :: (fgets size rest).1,(fgets size rest).2)

def readLine (content : Bytes) : Bytes × Bytes := fgets (kLfsLineSizeMax - 1) content

def strtoul (negative : Bool) (value : Nat) : UInt64 :=
  if value ≥ 2^64 then UInt64.ofNat (2^64 - 1) else if negative then - UInt64.ofNat value
  else UInt64.ofNat value

def scanNumber (text : Bytes) : Option (UInt64 × Bytes) :=
  let signed := text.dropWhile isSpace
  let unsigned := if signed.head? = some 43 ∨ signed.head? = some 45 then signed.tail else signed
  let number := unsigned.takeWhile isDigit
  if number = [] then none
  else some (strtoul (signed.head? = some 45) (ofDecimal number),unsigned.dropWhile isDigit)

/-- `sscanf` with the pattern `%1124[^,],%lu,%u`: nothing unless all three are read. The
path is written to a buffer of `kLfsPathSizeMax` bytes. -/
def scanLine (line : Bytes) : Use (Option (Bytes × FileAttribute)) :=
  let text := cString line
  let filePath := (text.takeWhile (· ≠ comma)).take 1124
  if filePath = [] then return none
  else if filePath.length ≥ kLfsPathSizeMax then .error .overflow
  else match text.drop filePath.length with
    | [] => return none
    | byte::rest =>
      if byte ≠ comma then return none
      else match scanNumber rest with
        | some (size,next::rest) =>
          if next ≠ comma then return none
          else match scanNumber rest with
            | some (crc,_) => return some (filePath,⟨size,crc.toUInt32⟩)
            | none => return none
        | _ => return none

def rebuildLoop : Nat → Bytes → INodeDirectory → Use (INodeDirectory × Bool)
  | 0, _, root => return (root,true)
  | rounds+1, content, root =>
    match readLine content with
    | ([],_) => return (root,true)
    | (line,rest) => do
      match ← scanLine line with
      | none => return (root,false)
      | some (filePath,attri) =>
        let (changed,added) ← addNode filePath attri root
        if added then rebuildLoop rounds rest changed else return (changed,false)

/-- Each round reads a byte at least, so there are not more rounds than bytes. -/
def rebuildTreeFromFile (content : Bytes) (root : INodeDirectory) : Use (INodeDirectory × Bool) :=
  rebuildLoop content.length content root

def addNodes : List (Bytes × FileAttribute) → INodeDirectory → Use (INodeDirectory × Bool)
  | [], root => return (root,true)
  | (path,attri)::rest, root => do
    let (changed,added) ← addNode path attri root
    if added then addNodes rest changed else return (changed,false)

end Mooon.LightFs
