import Mooon.FileTree
import Mooon.Run

/-! The tree of a `FileIndexer` and its calls. A node is cast to a directory or to a file
without a test, so a call may use a node as what it is not; what it then does is undefined. -/
namespace Mooon.LightFs
open FileTree (Node Children)

abbrev Bytes := List UInt8

def kLfsDepthMax : Nat := 12
def kLfsPathSizeMax : Nat := 1024
def kLfsLineSizeMax : Nat := kLfsPathSizeMax + 100

def slash : UInt8 := 47

structure FileAttribute where
  size : UInt64
  crc : UInt32
deriving DecidableEq

abbrev INode := Node Bytes FileAttribute
abbrev INodeDirectory := Children Bytes FileAttribute

inductive Undefined where
  | fileAsDirectory
  | directoryAsFile
  | overflow
deriving DecidableEq

abbrev Use := Except Undefined

def cString (text : Bytes) : Bytes := text.takeWhile (· ≠ 0)

def splitFrom (delim : UInt8) : Bytes → Bytes → List Bytes
  | part, [] => if part = [] then [] else [part]
  | part, byte::rest =>
    if byte = delim then
      if part = [] then splitFrom delim [] rest else part :: splitFrom delim [] rest
    else splitFrom delim (part ++ [byte]) rest

def splitString (str : Bytes) (delim : UInt8) : List Bytes := splitFrom delim [] (cString str)

section
variable (path : Bytes) (root : INodeDirectory)

def getPathNames : List Bytes :=
  if path.head? = some slash then splitString path slash else []

def checkPathValid : Bool :=
  path.length ≠ 0 && path.length ≤ kLfsPathSizeMax && path.head? = some slash

def isDirectory : INode → Bool
  | .file _ => false
  | .directory _ => true

def asDirectory : INode → Use INodeDirectory
  | .file _ => .error .fileAsDirectory
  | .directory children => .ok children

def addChild (name : Bytes) (attri : FileAttribute) (children : INodeDirectory) : Use INodeDirectory :=
  match children.get name with
  | some (.directory _) => .error .directoryAsFile
  | _ => .ok (children.put name (.file attri))

def makeParentDirs (use : INodeDirectory → Use INodeDirectory) :
    List Bytes → INode → Use (Option INodeDirectory)
  | [], curNode => do
    let children ← asDirectory curNode
    let changed ← use children
    return some changed
  | name::names, curNode => do
    let children ← asDirectory curNode
    match children.get name with
    | none =>
      let changed ← makeParentDirs use names (.directory .nil)
      return changed.map (fun below => children.put name (.directory below))
    | some node =>
      -- the test is made on the node that was just used as a directory
      if isDirectory curNode then
        let changed ← makeParentDirs use names node
        return changed.map (fun below => children.put name (.directory below))
      else return none

/-- The walk of `get_parent_node` and `get_last_node`; what the caller does with the directory
that they return is `use`. -/
def getLastNode {Answer : Type} (use : INodeDirectory → INodeDirectory × Answer) :
    List Bytes → INode → Use (Option (INodeDirectory × Answer))
  | [], node => do
    let children ← asDirectory node
    return some (use children)
  | name::names, node => do
    let children ← asDirectory node
    match children.get name with
    | none => return none
    | some child =>
      if isDirectory child then
        let used ← getLastNode use names child
        return used.map (fun below => (children.put name (.directory below.1),below.2))
      else return none

/-- The child after the removed one is returned, behind the last child the word that the vector has
there: the removed pointer, `pastEnd` true, with an `erase` that only moves the end. -/
def removeChild (name : Bytes) (pastEnd : Bool) (children : INodeDirectory) : INodeDirectory × Bool :=
  match children.get name with
  | none => (children,false)
  | some _ => (children.remove name,if children.names.getLast? = some name then pastEnd else true)

/-- The names of a path that `add_node` and `del_node` go on with: those above the last, and the last. -/
def nodeNames : Option (List Bytes × Bytes) :=
  if checkPathValid path then
    let names := getPathNames path
    if names.length > kLfsDepthMax then none else names.getLast?.map (names.dropLast,·)
  else none

def addNode (attri : FileAttribute) (root : INodeDirectory) : Use (INodeDirectory × Bool) :=
  match nodeNames path with
  | none => return (root,false)
  | some (parents,name) => do
    match ← makeParentDirs (addChild name attri) parents (.directory root) with
    | none => return (root,false)
    | some changed => return (changed,true)

def delNode (pastEnd : Bool) (root : INodeDirectory) : Use (INodeDirectory × Bool) :=
  match nodeNames path with
  | none => return (root,false)
  | some (parents,name) => do
    match ← getLastNode (removeChild name pastEnd) parents (.directory root) with
    | none => return (root,false)
    | some (changed,removed) => return (changed,removed)

def findNode : Use (Option INode) :=
  if checkPathValid path then
    let names := getPathNames path
    if names.length > kLfsDepthMax then return none
    else match names.getLast? with
      | none => return some (.directory root)
      | some name => do
        match ← getLastNode (fun children => (children,children.get name)) names.dropLast
          (.directory root) with
        | none => return none
        | some (_,found) => return found
  else return none

def listFiles : Use (List (Bytes × INode)) :=
  if checkPathValid path then
    let names := getPathNames path
    if names.length > kLfsDepthMax then return []
    else do
      match ← getLastNode (fun children => (children,children.toList)) names (.directory root) with
      | none => return []
      | some (_,nodes) => return nodes
  else return []

inductive Action where
  | addNode (path : Bytes) (attri : FileAttribute)
  | delNode (path : Bytes) (pastEnd : Bool)
  | findNode (path : Bytes)
  | listFiles (path : Bytes)

inductive Answer where
  | returned (result : Bool)
  | found (node : Option INode)
  | listed (nodes : List (Bytes × INode))
  | undefined (cause : Undefined)

def changedBy : Use (INodeDirectory × Bool) → INodeDirectory × Answer
  | .ok (changed,result) => (changed,.returned result)
  | .error cause => (root,.undefined cause)

def readBy {Result : Type} (root : INodeDirectory) (answer : Result → Answer) :
    Use Result → INodeDirectory × Answer
  | .ok result => (root,answer result)
  | .error cause => (root,.undefined cause)

def step : Action → INodeDirectory × Answer
  | .addNode path attri => changedBy root (addNode path attri root)
  | .delNode path pastEnd => changedBy root (delNode path pastEnd root)
  | .findNode path => readBy root .found (findNode path root)
  | .listFiles path => readBy root .listed (listFiles path root)

end

end Mooon.LightFs
