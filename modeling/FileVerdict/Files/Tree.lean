import FileVerdict.Files.Basic
import FileVerdict.Text.Basic
import FileVerdict.Text.Encoding

/-!
A directory and everything below it as a value. A path is walked part by part from that directory;
each part but the last has to lead to a directory, and so has the last if a slash follows. What
lies outside the directory is not known, so nothing is found there.
-/

namespace FileVerdict
open FileVerdict.Text

inductive Node where
  | directory
  | file (data : List UInt8)
  deriving Repr, DecidableEq

/-- The nodes that have been written, the latest first, each under its parts. -/
structure Tree where
  nodes : List (List (List Char) × Node)
  deriving Repr, DecidableEq

namespace Tree

def empty : Tree := ⟨[]⟩

def partsOf (path : String) : List (List Char) :=
  (split '/' path.toList).filter fun part => !part.isEmpty && part != ['.']

/-- The directories above a node come with it. -/
def write (tree : Tree) (path : String) (node : Node) : Tree :=
  ⟨(partsOf path, node) :: tree.nodes⟩

def nodeAt (tree : Tree) (parts : List (List Char)) : Option Node :=
  if parts.isEmpty then some .directory
  else match tree.nodes.lookup parts with
    | some node => some node
    | none =>
      if tree.nodes.any fun entry => parts.isPrefixOf entry.1 then some .directory else none

inductive Place where
  | inside (parts : List (List Char))
  | outside
  deriving Repr, DecidableEq

def nodeOf (tree : Tree) : Place → Option Node
  | .inside parts => tree.nodeAt parts
  | .outside => some .directory

def walk (tree : Tree) (place : Place) : List (List Char) → Except ReadFault Node
  | [] => match tree.nodeOf place with
    | none => .error .notFound
    | some node => .ok node
  | part :: parts => match tree.nodeOf place with
    | none => .error .notFound
    | some (.file _) => .error .notDirectory
    | some .directory =>
      if part.isEmpty ∨ part = ['.'] then tree.walk place parts
      else if part = ['.', '.'] then
        match place with
        | .outside | .inside [] => tree.walk .outside parts
        | .inside above => tree.walk (.inside above.dropLast) parts
      else if 255 < (encode part).length then .error .nameTooLong
      else match place with
        | .outside => .error .notFound
        | .inside above => tree.walk (.inside (above ++ [part])) parts

def look (tree : Tree) (path : String) : Except ReadFault Node :=
  let chars := path.toList
  if chars.contains (Char.ofNat 0) then .error .nulInName
  else if 4096 ≤ (encode chars).length then .error .nameTooLong
  else match chars with
    | [] => .error .notFound
    | '/' :: rest => tree.walk .outside (split '/' rest)
    | chars => tree.walk (.inside []) (split '/' chars)

def read (tree : Tree) (path : String) : Except ReadFault (List UInt8) := do
  match ← tree.look path with
  | .directory => throw .isDirectory
  | .file data => return data

/-- A directory has no length of its own here; nothing asks for it. -/
def metadata (tree : Tree) (path : String) : Except ReadFault Metadata := do
  match ← tree.look path with
  | .directory => return ⟨true, 0⟩
  | .file data => return ⟨false, data.length⟩

def files (tree : Tree) : Files := ⟨tree.read, tree.metadata⟩

end Tree

end FileVerdict
