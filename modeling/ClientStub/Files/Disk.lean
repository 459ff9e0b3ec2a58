import ClientStub.Files.Tree

/-!
# Disks

What a run needs of the files around it. A run is written once for every disk: the disk of a file tree,
which is a value, and that of the operating system.
-/

namespace ClientStub

structure Disk (m : Type → Type) where
  readText (path : String) : m (Except FileFault String)
  createDirectories (path : String) : m (Except FileFault Unit)
  writeText (path text : String) : m (Except FileFault Unit)

/-- The disk whose files are those of a tree. A write that fails leaves the tree as it was. -/
def FileTree.disk : Disk (StateM FileTree) where
  readText path := fun tree => (tree.readText path, tree)
  createDirectories path := fun tree => tree.createDirectories path
  writeText path text := fun tree =>
    match tree.writeText path text with
    | .ok written => (.ok (), written)
    | .error fault => (.error fault, tree)

end ClientStub
